/-
# A data file that was lost

Somebody may take the data file away from under an open store, or put an older one in its place.
The store does not notice.  What it is asked to store it compares with its table in memory, and what
the table has already it does not write.

So a flush brings the data file back only if some of what is cached was missing in memory; then one
write writes the whole table.  With rows under their own ids in the file that was opened nothing is
ever missing.  Then a flush succeeds, writes nothing, and the directory opens again with what the
loss has left.

* `Mounted.LosesFile`: what others may do.
* `Mounted.Sits`, `Mounted.Saved`: a store in its directory, and with its table in the data file.
* `Writer.runEach_of_stored`, `Writer.saved_runEach`: the two ways of a batch of writes.
* `Registry.Run.flush_trusts_memory`: what a flush brings back.
* `Registry.flush_leaves_lost`: a flush that brings nothing back.
-/
import SubscriptionRegistry.Proofs.File.Keys
import SubscriptionRegistry.Proofs.File.Restart
import SubscriptionRegistry.Proofs.Refill

namespace SubscriptionRegistry

/-! ## 1. What others do to the data file -/

/-- A directory is as it was but for one file: the same route leads there, and the other files in it
are the same, each locked as often. -/
structure Disk.SameBut (name : String) (route : Route) (directory : Place) (d d' : Disk) :
    Prop where
  located : d'.locate route = .ok directory
  isDirectory : d'.node directory = .ok .directory
  files : ∀ other, other ≠ name →
    d'.nodes.get? (directory ++ [other]) = d.nodes.get? (directory ++ [other])
  locks : ∀ other i content, other ≠ name →
    d.nodes.get? (directory ++ [other]) = some (.file i content) →
    d'.locks.count i = d.locks.count i

namespace Mounted

/-- The data file may be gone or hold anything.  Nobody touched anything else in the directory, and
the store itself is as it was. -/
structure LosesFile (b b' : Mounted) : Prop where
  store : b'.store = b.store
  directory : ∀ directory, b.device.disk.locate (Route.ofString b.store.path) = .ok directory →
    b.device.disk.node directory = .ok .directory →
    b.device.disk.SameBut FileStore.dataFile (Route.ofString b.store.path) directory b'.device.disk

/-- The table that would be read if the directory were opened now. -/
def onDisk (b : Mounted) : Except StoreError (Table String Metadata) :=
  match b.device.disk.locate (Route.ofString b.store.path) with
  | .error e => .error (.io e)
  | .ok directory =>
    FileStore.readSnapshot (Route.ofString b.store.path) directory b.device.disk

/-- The data file is deleted. -/
def withoutFile (directory : Place) (b : Mounted) : Mounted :=
  { b with device := { b.device with disk := { b.device.disk with
      nodes := b.device.disk.nodes.erase (FileStore.dataPlace directory) } } }

/-! ## 2. A store in its directory -/

/-- A store sits in the directory that it was opened in. -/
structure Sits (path : String) (directory : Place) (b : Mounted) : Prop where
  path : b.store.path = path
  seated : FileStore.Seated directory b.store b.device.disk

/-- The data file holds the table of the store. -/
structure Saved (path : String) (directory : Place) (b : Mounted) : Prop
    extends Sits path directory b where
  short : ((Route.ofString b.store.path).child FileStore.dataFile).isTooLong = false
  data : ∃ i, b.device.disk.nodes.get? (FileStore.dataPlace directory)
    = some (.file i (Snapshot.encode b.store.entries))

variable {path : String} {directory : Place} {b b' : Mounted} {c : Change}
  {t : Table String Metadata} {config : FileConfig}

theorem sits_of_open {dev device : Device} {s : FileStore}
    (hopen : FileStore.open config dev = (.ok s, device)) :
    ∃ directory, Sits config.path directory ⟨s, device⟩ := by
  obtain ⟨hpath, directory, hseated, -⟩ := FileStore.open_eq_ok hopen
  exact ⟨directory, hpath, hseated⟩

namespace Sits

theorem losesFile (h : Sits path directory b) (hb : b.LosesFile b') : Sits path directory b' := by
  have hsame := hb.directory directory h.seated.located h.seated.isDirectory
  have hother : FileStore.lockFile ≠ FileStore.dataFile := by decide
  obtain ⟨content, hlock⟩ := h.seated.lockFile
  obtain ⟨store, device⟩ := b'
  obtain rfl : store = b.store := hb.store
  exact ⟨h.path, h.seated.of_lockFile hsame.located hsame.isDirectory (hsame.files _ hother)
    (hsame.locks _ _ _ hother hlock)⟩

theorem perform (h : Sits path directory b) (c : Change) : Sits path directory (c.perform b).2 :=
  ⟨(c.seated_perform h.seated).1.trans h.path, (c.seated_perform h.seated).2⟩

/-- A change that is not idle writes the table, if it succeeds. -/
theorem saved_of_ok (h : Sits path directory b) (hidle : ¬ c.IsIdle b.store.entries)
    (hok : (c.perform b).1 = .ok ()) : Saved path directory (c.perform b).2 := by
  have hsits := h.perform c
  rcases c.perform_cases h.seated with
    ⟨hnot, -⟩ | ⟨e, s, device, hp, -⟩ | ⟨device, -, hp, hlong, hpublished⟩
  · exact absurd hnot hidle
  · rw [hp] at hok
    cases hok
  · rw [hp] at hsits ⊢
    exact ⟨hsits, FileStore.isTooLong_dataFile hlong, hpublished.data⟩

/-- A store that is given up opens again with what is on the disk. -/
theorem reopens (h : Sits path directory b) (hpath : config.path = path)
    (hread : b.onDisk = .ok t) :
    ∃ s device, FileStore.open config (b.store.close b.device) = (.ok s, device)
      ∧ s.entries = t := by
  rw [onDisk, h.seated.located] at hread
  obtain ⟨device, hopen⟩ := h.seated.reopen config (hpath.trans h.path.symm) hread b.device.mishaps
  exact ⟨_, device, hopen, rfl⟩

end Sits

namespace Saved

/-- A later change writes its own table, or leaves the data file alone. -/
theorem perform (h : Saved path directory b) (c : Change) :
    Saved path directory (c.perform b).2 := by
  have hsits := h.toSits.perform c
  rcases c.perform_cases h.seated with
    ⟨-, hp⟩ | ⟨e, s, device, hp, hsame, hdrafted⟩ | ⟨device, -, hp, hlong, hpublished⟩
  · rw [hp]
    exact h
  · rw [hp] at hsits ⊢
    have hdata := hdrafted.apart.elsewhere (FileStore.dataPlace directory)
      (by simpa using FileStore.dataPlace_ne_tempPlace directory)
    obtain ⟨i, hfile⟩ := h.data
    refine ⟨hsits, hsame.path ▸ h.short, i, hdata.trans ?_⟩
    rw [hfile, Snapshot.encode_congr hsame.entries]
  · rw [hp] at hsits ⊢
    exact ⟨hsits, FileStore.isTooLong_dataFile hlong, hpublished.data⟩

theorem onDisk (h : Saved path directory b) (hfits : Snapshot.Fits b.store.entries) :
    b.onDisk = .ok b.store.entries.sort := by
  obtain ⟨i, hdata⟩ := h.data
  rw [Mounted.onDisk, h.seated.located]
  exact (FileStore.readSnapshot_of_present h.seated.isDirectory h.short hdata).trans
    (Snapshot.decode_encode hfits)

end Saved
end Mounted

variable {α φ σ : Type}

/-! ## 3. A batch of writes -/

section

variable {path : String} {directory : Place}

/-- No call takes a store out of its directory. -/
theorem Services.sits_stable [Activator α σ] [Factory φ σ] :
    Services.Stable fun s : Services Mounted α φ σ => s.store.Sits path directory where
  activate _ _ _ h := h
  deactivate _ _ h := h
  build _ _ _ h := h
  insert m _ h := h.perform (.insert m)
  delete id _ h := h.perform (.delete id)
  list _ h := h

namespace Writer

variable {ms : List Metadata} {s : Services Mounted α φ σ}

/-- **A batch that is stored already** succeeds without a step of writing. -/
theorem runEach_of_stored (h : ∀ m ∈ ms, s.stored m.id = some m) :
    (runEach Metadata.id write ms s).1 = []
      ∧ (runEach Metadata.id write ms s).2.store = s.store := by
  induction ms generalizing s with
  | nil => exact ⟨rfl, rfl⟩
  | cons m rest ih =>
    have hidle : (Change.insert m).perform s.store = (.ok (), s.store) :=
      Change.perform_of_isIdle (h m List.mem_cons_self)
    rcases hins : s.insert m with ⟨outcome, s'⟩
    obtain rfl : outcome = .ok () :=
      (congrArg Prod.fst hins).symm.trans (congrArg Prod.fst hidle)
    have hstore : s'.store = s.store :=
      (congrArg (fun out => out.2.store) hins).symm.trans (congrArg Prod.snd hidle)
    have hrest : ∀ m ∈ rest, s'.stored m.id = some m := fun m hm => by
      rw [Services.stored, hstore]
      exact h m (List.mem_cons_of_mem _ hm)
    obtain ⟨hnone, hsame⟩ := ih hrest
    simp [runEach, write, hins, hnone, hsame, hstore]

/-- **A batch that is not**, and succeeds, leaves the table in the data file. -/
theorem saved_runEach (hsits : s.store.Sits path directory)
    (hok : (runEach Metadata.id write ms s).1 = []) {m : Metadata} (hm : m ∈ ms)
    (hmissing : s.stored m.id ≠ some m) :
    (runEach Metadata.id write ms s).2.store.Saved path directory := by
  induction ms generalizing s with
  | nil => cases hm
  | cons m' rest ih =>
    rcases hins : s.insert m' with ⟨why | u, s'⟩
    · simp [runEach, write, hins] at hok
    · have hrun : runEach Metadata.id write (m' :: rest) s = runEach Metadata.id write rest s' := by
        simp [runEach, write, hins]
      rw [hrun] at hok ⊢
      have hstore : s'.store = ((Change.insert m').perform s.store).2 :=
        (congrArg (fun out => out.2.store) hins).symm
      by_cases hidle : s.stored m'.id = some m'
      · have hperform : (Change.insert m').perform s.store = (.ok (), s.store) :=
          Change.perform_of_isIdle hidle
        rw [hperform] at hstore
        have hne : m ≠ m' := fun heq => hmissing (heq ▸ hidle)
        refine ih (hstore ▸ hsits) hok ((List.mem_cons.mp hm).resolve_left hne) ?_
        rw [Services.stored, hstore]
        exact hmissing
      · have hsaved : s'.store.Saved path directory := by
          rw [hstore]
          exact hsits.saved_of_ok hidle (congrArg Prod.fst hins)
        exact write_stable (P := fun s : Services Mounted α φ σ => s.store.Saved path directory)
          (fun m _ _ h => h.perform (.insert m)) hsaved

/-- If all writes succeed and those of one id agree, it is stored as they say. -/
theorem settle_of_agree {written : List (Metadata × Option StoreError)} {m : Metadata}
    {rows : String → Option Metadata} (hok : ∀ w ∈ written, w.2 = none)
    (hagree : ∀ w ∈ written, w.1.id = m.id → w.1 = m)
    (hm : rows m.id = some m ∨ m ∈ written.map Prod.fst) :
    settle written rows m.id = some m := by
  induction written generalizing rows with
  | nil => exact hm.resolve_right List.not_mem_nil
  | cons w rest ih =>
    obtain ⟨m', failure⟩ := w
    obtain rfl : failure = none := hok _ List.mem_cons_self
    rw [settle]
    refine ih (fun w hw => hok w (List.mem_cons_of_mem _ hw))
      (fun w hw => hagree w (List.mem_cons_of_mem _ hw)) ?_
    by_cases hid : m.id = m'.id
    · rw [if_pos hid]
      exact .inl (congrArg some (hagree _ List.mem_cons_self hid.symm))
    · rw [if_neg hid]
      refine hm.imp_right fun hm => (List.mem_cons.mp hm).resolve_left fun heq => hid ?_
      rw [heq]

end Writer

end

/-! ## 4. Flushes -/

namespace Registry

variable {r : Registry Mounted α φ σ}

/-- Under their ids, some rows are what is cached. -/
def ShownIn (rows : String → Option Metadata) (r : Registry Mounted α φ σ) : Prop :=
  ∀ e ∈ r.cache.values, rows e.metadata.id = some e.metadata

/-- No two entries bring different metadata for one id. -/
def Agrees (r : Registry Mounted α φ σ) : Prop :=
  ∀ e ∈ r.cache.values, ∀ e' ∈ r.cache.values, e.metadata.id = e'.metadata.id →
    e.metadata = e'.metadata

theorem ShownIn.agrees {rows : String → Option Metadata} (h : r.ShownIn rows) : r.Agrees := by
  intro e he e' he' hid
  have hsame := h e he
  rw [hid, h e' he'] at hsame
  exact (Option.some.inj hsame).symm

/-- What is stored after a flush that succeeds is what is cached, unless entries disagree. -/
theorem shownIn_flush_iff (hok : r.flush.1 = .ok ()) :
    r.ShownIn r.flush.2.services.stored ↔ r.Agrees := by
  refine ⟨ShownIn.agrees, fun hagree e he => ?_⟩
  obtain ⟨written, hall, hfailures, hjournal⟩ :=
    Writer.runEach_write (r.cache.values.map (·.metadata)) r.services
  rw [flush_snd, Writer.stored_runEach hjournal]
  have hmem : ∀ w ∈ written, ∃ e ∈ r.cache.values, e.metadata = w.1 := fun w hw =>
    List.mem_map.mp (hall ▸ List.mem_map_of_mem hw)
  refine Writer.settle_of_agree ?_ ?_ ?_
  · rw [← Writer.failures_eq_nil_iff, ← hfailures, flush_eq_ok_iff.mp hok]
  · intro w hw hid
    obtain ⟨e', he', hw'⟩ := hmem w hw
    rw [← hw'] at hid ⊢
    exact hagree e' he' e he hid
  · rw [hall]
    exact .inr (List.mem_map_of_mem he)

/-! ## 5. Runs -/

variable [Activator α σ] [Factory φ σ] {config : FileConfig} {dev : Device}
  {s : Services Mounted α φ σ}

/-- Runs over a store in a file that may lose its data file at any time. -/
abbrev Lossy (s : Services Mounted α φ σ) : Registry Mounted α φ σ → Prop :=
  Run (fun s s' => s.store.LosesFile s'.store) (fun _ _ => True) (new s)

theorem Lossy.sits {path : String} {directory : Place} (hstart : s.store.Sits path directory)
    (hrun : Lossy s r) : r.services.store.Sits path directory := by
  induction hrun with
  | refl => exact hstart
  | change _ hs ih => exact ih.losesFile hs
  | step _ _ ih => exact perform_stable Services.sits_stable _ ih

/-- The store does not notice a loss. -/
theorem Lossy.alone (hrun : Lossy s r) : Alone (new s) r := by
  induction hrun with
  | refl => exact .refl
  | change _ hs ih => exact .change ih (congrArg (fun store => store.entries.get?) hs.store)
  | step _ hop ih => exact .step ih hop

/-- What is cached is in the memory of the store, if the rows that were opened stand under their own
ids. -/
theorem Lossy.shownIn_stored (hkeyed : Metadata.Keyed s.store.store.entries) (hrun : Lossy s r) :
    r.ShownIn r.services.stored := by
  have hnew : (new s : Registry Mounted α φ σ).Follows True := fun _ => .inr ⟨trivial, rfl⟩
  have hstored : (new s : Registry Mounted α φ σ).services.StoredKeyed := hkeyed
  obtain ⟨hrows, hfollows⟩ := Alone.keeps hstored hnew hrun.alone
  intro e he
  obtain ⟨row, hrow, rfl⟩ := List.mem_map.mp he
  have hcached : r.cached row.1 = some row.2.metadata := by
    rw [cached, Cache.get?_metadata, Table.get?_eq_some_iff.mpr hrow]
    rfl
  have hrow := hfollows.stored_of_cached hcached
  rw [hrows _ _ hrow]
  exact hrow

/-- **A flush trusts the memory of the store.**  In a run the data file may be lost at any time, and
more than once.  With rows under their own ids at the start, all that is cached is in the memory of
the store.  If it is, a flush succeeds and leaves store and disk alone, and the directory opens again
with the table that the loss has left.  If it is not, and the flush succeeds, the directory opens
again with the table in memory, which shows all that is cached unless entries disagree. -/
theorem Run.flush_trusts_memory
    (hopen : FileStore.open config dev = (.ok s.store.store, s.store.device)) (hrun : Lossy s r) :
    (Metadata.Keyed s.store.store.entries → r.ShownIn r.services.stored)
    ∧ (r.ShownIn r.services.stored → r.flush.1 = .ok ()
      ∧ r.flush.2.services.store = r.services.store
      ∧ ∀ (config' : FileConfig) t, config'.path = config.path → r.services.store.onDisk = .ok t →
        ∃ store device, FileStore.open config'
            (r.flush.2.close.store.store.close r.flush.2.close.store.device) = (.ok store, device)
          ∧ store.entries = t)
    ∧ (¬ r.ShownIn r.services.stored → r.flush.1 = .ok () →
      Snapshot.Fits r.flush.2.services.store.store.entries →
      ∀ config' : FileConfig, config'.path = config.path →
        ∃ store device, FileStore.open config'
            (r.flush.2.close.store.store.close r.flush.2.close.store.device) = (.ok store, device)
          ∧ store.entries.get? = r.flush.2.services.stored
          ∧ (r.ShownIn store.entries.get? ↔ r.Agrees)) := by
  obtain ⟨directory, hstart⟩ := Mounted.sits_of_open hopen
  have hsits : r.services.store.Sits config.path directory := Lossy.sits hstart hrun
  rw [store_close]
  refine ⟨fun hkeyed => Lossy.shownIn_stored hkeyed hrun, fun hshown => ?_,
    fun hmissing hok hfits config' hpath => ?_⟩
  · have hall : ∀ m ∈ r.cache.values.map (·.metadata), r.services.stored m.id = some m := by
      intro m hm
      obtain ⟨e, he, rfl⟩ := List.mem_map.mp hm
      exact hshown e he
    obtain ⟨hok, hstore⟩ := Writer.runEach_of_stored hall
    have hsame : r.flush.2.services.store = r.services.store := by
      rw [flush_snd]
      exact hstore
    rw [hsame]
    exact ⟨flush_eq_ok_iff.mpr hok, rfl, fun config' t hpath hread => hsits.reopens hpath hread⟩
  · obtain ⟨e, he⟩ := not_forall.mp hmissing
    obtain ⟨hcached, hne⟩ := Classical.not_imp.mp he
    have hsaved : r.flush.2.services.store.Saved config.path directory := by
      rw [flush_snd]
      exact Writer.saved_runEach hsits (flush_eq_ok_iff.mp hok) (List.mem_map_of_mem hcached) hne
    obtain ⟨store, device, hreopen, hentries⟩ := hsaved.toSits.reopens hpath (hsaved.onDisk hfits)
    have hget : store.entries.get? = r.flush.2.services.stored := by
      rw [hentries, Table.get?_sort]
      rfl
    exact ⟨store, device, hreopen, hget, hget ▸ shownIn_flush_iff hok⟩

end Registry

namespace Demo

/-- One subscription was stored in a file. -/
def kept : Registry Mounted (Gated (ActiveSet String)) EchoFactory String :=
  (listed.perform accepting).2

/-- The file is deleted. -/
def lost : Registry Mounted (Gated (ActiveSet String)) EchoFactory String :=
  { kept with services := { kept.services with store := kept.services.store.withoutFile ["subs"] } }

theorem losesFile_lost : kept.services.store.LosesFile lost.services.store where
  store := rfl
  directory := by
    intro directory hlocate _
    have hsubs : kept.services.store.device.disk.locate
        (Route.ofString kept.services.store.store.path) = .ok ["subs"] := rfl
    obtain rfl : ["subs"] = directory := Except.ok.inj (hsubs.symm.trans hlocate)
    have hother : ∀ other, other ≠ FileStore.dataFile →
        lost.services.store.device.disk.nodes.get? (["subs"] ++ [other])
          = kept.services.store.device.disk.nodes.get? (["subs"] ++ [other]) := by
      intro other hne
      refine Table.get?_erase.trans (if_neg fun heq => hne ?_)
      exact List.singleton_inj.mp (List.append_inj' heq rfl).2
    exact ⟨rfl, rfl, hother, fun _ _ _ _ _ => rfl⟩

theorem run_kept : Registry.Run (fun _ _ => False) (fun _ _ => True) (Registry.new filed) kept :=
  .step (.step .refl trivial) trivial

end Demo

/-- The flush succeeds, and the directory opens again without anything in it. -/
theorem Registry.Run.flush_trusts_memory_demo :
    Demo.lost.flush.1 = .ok ()
      ∧ ∃ store device, FileStore.open Mounted.Demo.config
          (Demo.lost.flush.2.close.store.store.close Demo.lost.flush.2.close.store.device)
          = (.ok store, device)
        ∧ store.entries = .empty := by
  have hrun : Lossy Demo.filed Demo.lost :=
    .change (.step (.step .refl trivial) trivial) Demo.losesFile_lost
  have hkeyed : Metadata.Keyed Demo.filed.store.store.entries := fun _ _ hm => by cases hm
  obtain ⟨hshown, htrusts, -⟩ := Run.flush_trusts_memory Mounted.Demo.open_eq hrun
  obtain ⟨hok, -, hreopen⟩ := htrusts (hshown hkeyed)
  exact ⟨hok, hreopen Mounted.Demo.config .empty rfl rfl⟩

/-- **A flush that brings nothing back.**  The data file was deleted after a run that nobody
disturbed; the flush succeeds, and what is cached is gone when the directory opens again. -/
theorem Registry.flush_leaves_lost :
    ¬ ∀ (config : FileConfig) (dev : Device)
        (s : Services Mounted (Gated (ActiveSet String)) EchoFactory String)
        (r lost : Registry Mounted (Gated (ActiveSet String)) EchoFactory String)
        (directory : Place),
      FileStore.open config dev = (.ok s.store.store, s.store.device) →
      Run (fun _ _ => False) (fun _ _ => True) (new s) r →
      lost = { r with services := { r.services with
        store := r.services.store.withoutFile directory } } →
      lost.flush.1 = .ok () →
      ∃ store device, FileStore.open config
          (lost.flush.2.close.store.store.close lost.flush.2.close.store.device)
          = (.ok store, device)
        ∧ ∀ id m, lost.cached id = some m → store.entries.get? id = some m := by
  intro hall
  obtain ⟨store, device, hopen, hshown⟩ := hall Mounted.Demo.config Mounted.Demo.device Demo.filed
    Demo.kept Demo.lost ["subs"] Mounted.Demo.open_eq Demo.run_kept rfl rfl
  have hempty : ((FileStore.open Mounted.Demo.config
      (Demo.lost.flush.2.close.store.store.close Demo.lost.flush.2.close.store.device)).1.map
        fun s => s.entries.rows) = .ok [] := rfl
  rw [hopen] at hempty
  have hrows : store.entries.rows = [] := Except.ok.inj hempty
  have hrow := Table.get?_eq_some_iff.mp (hshown Demo.accepted.id Demo.accepted rfl)
  rw [hrows] at hrow
  cases hrow

end SubscriptionRegistry
