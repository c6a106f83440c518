/-
# A store in a file does what a store in memory does

Any step of writing a snapshot may fail, and all steps may stop for good between any two of
them.  The store in a file is the store in memory all the same: after every run its table is the
one that the accepted changes leave in memory, and the data file holds that table.

A change is made in memory before it is written, and undone if it cannot be written.  What is undone
shows in no look-up, but a row that was taken away comes back behind the others.

* `Change.sameAs_restore`: undoing a change restores what stood there before.
* `Change.perform_cases`: the three ways a change ends.
* `FileStore.Mirrors`, `Mounted.Tracks`: the table in memory, the data file and the accepted
  changes go together; every change keeps this (`Tracks.accept`, `Tracks.refuse`).
* `Mounted.Run.refines_memory`: the result for whole runs.
-/
import SubscriptionRegistry.BackingStore.Memory
import SubscriptionRegistry.Proofs.Codec.Frame
import SubscriptionRegistry.Proofs.File.Opening

namespace SubscriptionRegistry

/-! ## 1. Changes -/

/-- A call that changes a store. -/
inductive Change
  | insert (m : Metadata)
  | delete (id : String)

namespace Change

/-- The call. -/
def perform {π : Type} [BackingStore π] : Change → π → Except StoreError Unit × π
  | insert m, p => BackingStore.insert m p
  | delete id, p => BackingStore.delete id p

/-- What it makes of a table. -/
def applyTo : Change → Table String Metadata → Table String Metadata
  | insert m, t => t.insert m.id m
  | delete id, t => t.erase id

/-- The id that it is about. -/
def subject : Change → String
  | insert m => m.id
  | delete id => id

/-- There is nothing to change: what is to be stored is stored, what is to be deleted is not. -/
def IsIdle : Change → Table String Metadata → Prop
  | insert m, t => t.get? m.id = some m
  | delete id, t => t.get? id = none

instance (c : Change) (t : Table String Metadata) : Decidable (c.IsIdle t) := by
  cases c <;> exact inferInstanceAs (Decidable (_ = _))

/-- What is inserted is metadata as `Metadata.create` makes it, of texts that can be written. -/
def Sound : Change → Prop
  | insert m => m.Valid ∧ m.Short
  | delete _ => True

/-- The changes made one after another, in memory. -/
def replay (log : List Change) : MemoryStore :=
  log.foldl (fun p c => (c.perform p).2) .empty

/-- One of the changes was not idle when its turn came. -/
def Written (log : List Change) : Prop :=
  ∃ before c after, log = before ++ c :: after ∧ ¬ c.IsIdle (replay before).rows

theorem rows_replay_concat (log : List Change) (c : Change) :
    (replay (log ++ [c])).rows = c.applyTo (replay log).rows := by
  rw [replay, List.foldl_append]
  cases c <;> rfl

theorem written_concat {log : List Change} {c : Change} :
    Written (log ++ [c]) ↔ Written log ∨ ¬ c.IsIdle (replay log).rows := by
  constructor
  · rintro ⟨before, c', after, hlog, hidle⟩
    rcases List.eq_nil_or_concat after with rfl | ⟨after, last, heq⟩
    · obtain ⟨rfl, hc⟩ := List.append_inj' hlog rfl
      cases hc
      exact .inr hidle
    · rw [List.concat_eq_append] at heq
      subst heq
      rw [← List.cons_append, ← List.append_assoc] at hlog
      exact .inl ⟨before, c', after, (List.append_inj' hlog rfl).1, hidle⟩
  · rintro (⟨before, c', after, rfl, hidle⟩ | hidle)
    · exact ⟨before, c', after ++ [c], by rw [List.append_assoc, List.cons_append], hidle⟩
    · exact ⟨log, c, [], rfl, hidle⟩

theorem applyTo_of_isIdle {c : Change} {t : Table String Metadata} (h : c.IsIdle t) :
    c.applyTo t = t := by
  cases c with
  | insert m => exact Table.insert_of_get?_eq_some h
  | delete id => exact Table.erase_of_get?_eq_none h

theorem isIdle_congr {c : Change} {t u : Table String Metadata} (h : t.get? = u.get?) :
    c.IsIdle t ↔ c.IsIdle u := by
  cases c <;> simp only [IsIdle, h]

/-- A change does the same to tables that show the same. -/
theorem get?_applyTo_congr (c : Change) {t u : Table String Metadata} (h : t.get? = u.get?) :
    (c.applyTo t).get? = (c.applyTo u).get? := by
  funext key
  cases c with
  | insert m => rw [applyTo, applyTo, Table.get?_insert, Table.get?_insert, h]
  | delete id => rw [applyTo, applyTo, Table.get?_erase, Table.get?_erase, h]

/-- It leaves all other ids alone. -/
theorem get?_applyTo_of_ne (c : Change) (t : Table String Metadata) {key : String}
    (hkey : key ≠ c.subject) : (c.applyTo t).get? key = t.get? key := by
  cases c with
  | insert m => exact Table.get?_insert.trans (if_neg hkey)
  | delete id => exact Table.get?_erase.trans (if_neg hkey)

theorem fits_applyTo {c : Change} {t : Table String Metadata} (hc : c.Sound)
    (ht : t.All Metadata.Fits) : (c.applyTo t).All Metadata.Fits := by
  cases c with
  | insert m => exact ht.insert ⟨hc.2.id, hc.1, hc.2⟩
  | delete id => exact ht.erase

end Change

/-! ## 2. Changes of a store in a file -/

namespace FileStore

/-- Another state of a store, which shows the same. -/
structure SameAs (s s' : FileStore) : Prop where
  path : s'.path = s.path
  lock : s'.lock = s.lock
  entries : s'.entries.get? = s.entries.get?

theorem Seated.sameAs {directory : Place} {s s' : FileStore} {d : Disk} (h : Seated directory s d)
    (hsame : s.SameAs s') : Seated directory s' d where
  located := hsame.path ▸ h.located
  isDirectory := h.isDirectory
  lockShort := hsame.path ▸ h.lockShort
  lockFile := hsame.lock ▸ h.lockFile
  held := hsame.lock ▸ h.held

end FileStore

namespace Change

/-- A store with the change in its table. -/
def makeIn (c : Change) (s : FileStore) : FileStore := { s with entries := c.applyTo s.entries }

/-- **A change that is undone was none**, be it that metadata was replaced, was new or was
deleted. -/
theorem sameAs_restore (c : Change) (s : FileStore) :
    s.SameAs ((c.makeIn s).restore c.subject (s.entries.get? c.subject)) :=
  ⟨FileStore.path_restore .., FileStore.lock_restore ..,
    FileStore.get?_restore fun _ => c.get?_applyTo_of_ne s.entries⟩

/-- The steps of writing that a change asks for. -/
def steps (c : Change) (b : Mounted) : List WriteStep :=
  if c.IsIdle b.store.entries then []
  else if ((Route.ofString b.store.path).child FileStore.tempFile).isTooLong then []
  else
    match b.device.disk.locate (Route.ofString b.store.path) with
    | .error _ => []
    | .ok directory => FileStore.plan directory (c.applyTo b.store.entries)

/-- A change is made in memory and then written, and undone if that fails. -/
theorem perform_eq (c : Change) (b : Mounted) :
    c.perform b = if c.IsIdle b.store.entries then (.ok (), b)
      else
        match (c.makeIn b.store).commit c.subject (b.store.entries.get? c.subject) b.device with
        | (outcome, store, device) => (outcome, ⟨store, device⟩) := by
  cases c with
  | insert m =>
    show (match b.store.insert m b.device with
      | (outcome, store, device) => (outcome, (⟨store, device⟩ : Mounted))) = _
    rw [FileStore.insert]
    by_cases hidle : b.store.entries.get? m.id = some m
    · rw [if_pos hidle, if_pos (show IsIdle (insert m) b.store.entries from hidle)]
    · rw [if_neg hidle, if_neg (show ¬ IsIdle (insert m) b.store.entries from hidle)]
      rfl
  | delete id =>
    show (match b.store.delete id b.device with
      | (outcome, store, device) => (outcome, (⟨store, device⟩ : Mounted))) = _
    rw [FileStore.delete]
    cases hprevious : b.store.entries.get? id with
    | none => rw [if_pos (show IsIdle (delete id) b.store.entries from hprevious)]
    | some previous =>
      have hidle : ¬ IsIdle (delete id) b.store.entries := by
        simp [IsIdle, hprevious]
      rw [if_neg hidle, subject, hprevious]
      rfl

/-- An idle change does nothing at all. -/
theorem perform_of_isIdle {c : Change} {b : Mounted} (h : c.IsIdle b.store.entries) :
    c.perform b = (.ok (), b) := by
  rw [perform_eq, if_pos h]

theorem perform_of_not_isIdle {c : Change} {b : Mounted} (h : ¬ c.IsIdle b.store.entries) :
    c.perform b
      = match FileStore.writeSnapshot b.store.path (c.applyTo b.store.entries) b.device with
        | (.error e, device) =>
          (.error e,
            ⟨(c.makeIn b.store).restore c.subject (b.store.entries.get? c.subject), device⟩)
        | (.ok (), device) => (.ok (), ⟨c.makeIn b.store, device⟩) := by
  have hwrite : FileStore.writeSnapshot (c.makeIn b.store).path (c.makeIn b.store).entries b.device
      = FileStore.writeSnapshot b.store.path (c.applyTo b.store.entries) b.device := rfl
  rw [perform_eq, if_neg h, FileStore.commit, hwrite]
  rcases FileStore.writeSnapshot b.store.path (c.applyTo b.store.entries) b.device with
    ⟨e | u, device⟩ <;> rfl

/-- A change does the steps that it asks for, up to the first that fails. -/
theorem performAll_steps (c : Change) (b : Mounted) :
    (b.device.performAll (c.steps b)).2 = (c.perform b).2.device := by
  rw [steps]
  by_cases hidle : c.IsIdle b.store.entries
  · rw [if_pos hidle, perform_of_isIdle hidle]
    rfl
  rw [if_neg hidle, perform_of_not_isIdle hidle, FileStore.writeSnapshot]
  by_cases hlong : ((Route.ofString b.store.path).child FileStore.tempFile).isTooLong
  · rw [if_pos hlong, if_pos hlong]
    rfl
  rw [if_neg hlong, if_neg hlong]
  cases b.device.disk.locate (Route.ofString b.store.path) with
  | error e => rfl
  | ok directory =>
    dsimp only
    cases b.device.performAll (FileStore.plan directory (c.applyTo b.store.entries)) with
    | mk outcome device => cases outcome <;> rfl

/-- **How a change ends** in a store that sits in a directory: nothing was to be done; or it
failed, was undone, and came no further than the temporary file; or the changed table is in the
data file and in memory. -/
theorem perform_cases {directory : Place} {b : Mounted} (c : Change)
    (hseated : FileStore.Seated directory b.store b.device.disk) :
    c.IsIdle b.store.entries ∧ c.perform b = (.ok (), b)
      ∨ (∃ e s device, c.perform b = (.error e, ⟨s, device⟩) ∧ b.store.SameAs s
          ∧ FileStore.Drafted directory b.device.disk device.disk)
      ∨ ∃ device, ¬ c.IsIdle b.store.entries
          ∧ c.perform b = (.ok (), ⟨c.makeIn b.store, device⟩)
          ∧ ((Route.ofString b.store.path).child FileStore.tempFile).isTooLong = false
          ∧ FileStore.Published directory (c.applyTo b.store.entries) b.device.disk
            device.disk := by
  by_cases hidle : c.IsIdle b.store.entries
  · exact .inl ⟨hidle, perform_of_isIdle hidle⟩
  have hundone := c.sameAs_restore b.store
  rw [perform_of_not_isIdle hidle, FileStore.writeSnapshot]
  refine .inr ?_
  by_cases hlong : ((Route.ofString b.store.path).child FileStore.tempFile).isTooLong
  · rw [if_pos hlong]
    exact .inl ⟨_, _, b.device, rfl, hundone, .refl _ _, rfl⟩
  rw [if_neg hlong, hseated.located]
  dsimp only
  rcases FileStore.performAll_plan_cases directory (c.applyTo b.store.entries) b.device with
    ⟨e, device, h, hdrafted⟩ | ⟨device, h, hpublished⟩
  · rw [h]
    exact .inl ⟨_, _, device, rfl, hundone, hdrafted⟩
  · rw [h]
    exact .inr ⟨device, hidle, rfl, by simpa using hlong, hpublished⟩

/-- No change takes a store out of its directory. -/
theorem seated_perform {directory : Place} {b : Mounted} (c : Change)
    (hseated : FileStore.Seated directory b.store b.device.disk) :
    (c.perform b).2.store.path = b.store.path
      ∧ FileStore.Seated directory (c.perform b).2.store (c.perform b).2.device.disk := by
  rcases c.perform_cases hseated with
    ⟨-, hp⟩ | ⟨e, s, device, hp, hsame, hdrafted⟩ | ⟨device, -, hp, -, hpublished⟩
  · rw [hp]
    exact ⟨rfl, hseated⟩
  · rw [hp]
    have hseated' := hseated.of_apart (hdrafted.apart.mono (by simp)) hdrafted.locks
    exact ⟨hsame.path, hseated'.sameAs hsame⟩
  · rw [hp]
    have hseated' := hseated.of_apart hpublished.apart hpublished.locks
    exact ⟨rfl, hseated'.located, hseated'.isDirectory, hseated'.lockShort, hseated'.lockFile,
      hseated'.held⟩

/-- A change may exchange the table, and nothing else of the store. -/
theorem path_lock_of_perform {directory : Place} {b b' : Mounted} {c : Change}
    (hseated : FileStore.Seated directory b.store b.device.disk)
    (hok : c.perform b = (.ok (), b')) :
    b'.store.path = b.store.path ∧ b'.store.lock = b.store.lock := by
  rcases c.perform_cases hseated with
    ⟨-, hp⟩ | ⟨e, s, device, hp, -⟩ | ⟨device, -, hp, -, -⟩ <;> rw [hp] at hok <;> cases hok
  · exact ⟨rfl, rfl⟩
  · exact ⟨rfl, rfl⟩

/-- A change asks for a whole plan or for nothing. -/
theorem steps_cases {directory : Place} {b : Mounted} (c : Change)
    (hseated : FileStore.Seated directory b.store b.device.disk) :
    c.steps b = [] ∨ c.steps b = FileStore.plan directory (c.applyTo b.store.entries) := by
  unfold steps
  split
  · exact .inl rfl
  · split
    · exact .inl rfl
    · rw [hseated.located]
      exact .inr rfl

end Change

/-! ## 3. Memory and data file -/

namespace FileStore

/-- Where a temporary file can be asked for, so can the data file. -/
theorem isTooLong_dataFile {route : Route} (h : (route.child tempFile).isTooLong = false) :
    (route.child dataFile).isTooLong = false := by
  refine Route.isTooLong_mono ?_ h
  rw [Route.length_child, Route.length_child _ tempFile]
  exact Nat.add_le_add_left (by decide) _

/-- The table in memory and the data file go together, whether or not a table was written yet. -/
structure Mirrors (directory : Place) (s : FileStore) (wrote : Prop) (d : Disk) : Prop where
  seated : Seated directory s d
  rows : s.entries.All Metadata.Fits
  before : ¬ wrote → d.nodes.get? (dataPlace directory) = none
    ∧ s.entries.get? = (.empty : Table String Metadata).get?
  after : wrote → ((Route.ofString s.path).child dataFile).isTooLong = false
    ∧ ∃ i, d.nodes.get? (dataPlace directory) = some (.file i (Snapshot.encode s.entries))

namespace Mirrors

variable {directory : Place} {s : FileStore} {wrote : Prop} {d d' : Disk}

theorem sameAs {s' : FileStore} (h : Mirrors directory s wrote d) (hsame : s.SameAs s') :
    Mirrors directory s' wrote d where
  seated := h.seated.sameAs hsame
  rows := h.rows.congr hsame.entries.symm
  before hw := ⟨(h.before hw).1, hsame.entries.trans (h.before hw).2⟩
  after hw := by
    rw [hsame.path, Snapshot.encode_congr hsame.entries]
    exact h.after hw

theorem drafted (h : Mirrors directory s wrote d) (hd : Drafted directory d d') :
    Mirrors directory s wrote d' := by
  have hdata : d'.nodes.get? (dataPlace directory) = d.nodes.get? (dataPlace directory) :=
    hd.apart.elsewhere _ (by simpa using dataPlace_ne_tempPlace directory)
  exact {
    seated := h.seated.of_apart (hd.apart.mono (by simp)) hd.locks
    rows := h.rows
    before := fun hw => by rw [hdata]; exact h.before hw
    after := fun hw => by rw [hdata]; exact h.after hw }

theorem published {t : Table String Metadata} (h : Mirrors directory s wrote d)
    (hp : Published directory t d d')
    (hlong : ((Route.ofString s.path).child tempFile).isTooLong = false)
    (ht : t.All Metadata.Fits) : Mirrors directory { s with entries := t } True d' := by
  have hseated := h.seated.of_apart hp.apart hp.locks
  exact {
    seated := ⟨hseated.located, hseated.isDirectory, hseated.lockShort, hseated.lockFile,
      hseated.held⟩
    rows := ht
    before := fun hw => absurd trivial hw
    after := fun _ => ⟨isTooLong_dataFile hlong, hp.data⟩ }

/-- The bytes of the data file, where it is asked for by its path. -/
theorem readAt_iff (h : Mirrors directory s wrote d) {bytes : Bytes} :
    d.readAt ((Route.ofString s.path).child dataFile) = .ok bytes
      ↔ wrote ∧ bytes = Snapshot.encode s.entries := by
  rw [Disk.readAt_child_eq_ok_iff isName_dataFile]
  constructor
  · rintro ⟨-, place, hlocate, hread⟩
    rw [h.seated.located] at hlocate
    cases hlocate
    obtain ⟨i, hnode⟩ := Disk.read_eq_ok_iff.mp hread
    have hget : d.nodes.get? (dataPlace directory) = some (.file i bytes) :=
      Disk.get?_of_node_file hnode
    by_cases hw : wrote
    · obtain ⟨-, i', hdata⟩ := h.after hw
      rw [hdata] at hget
      cases hget
      exact ⟨hw, rfl⟩
    · rw [(h.before hw).1] at hget
      cases hget
  · rintro ⟨hw, rfl⟩
    obtain ⟨hshort, i, hdata⟩ := h.after hw
    exact ⟨hshort, directory, h.seated.located,
      Disk.read_eq_ok_iff.mpr ⟨i, (Disk.node_child_eq_ok_iff h.seated.isDirectory).mpr hdata⟩⟩

/-- What the data file is read as is the table in memory. -/
theorem readSnapshot (h : Mirrors directory s wrote d) (hroom : Snapshot.Room s.entries) :
    ∃ t, readSnapshot (Route.ofString s.path) directory d = .ok t
      ∧ t.get? = s.entries.get? := by
  by_cases hw : wrote
  · obtain ⟨hshort, i, hdata⟩ := h.after hw
    refine ⟨s.entries.sort, ?_, s.entries.get?_sort⟩
    rw [readSnapshot_of_present h.seated.isDirectory hshort hdata,
      Snapshot.decode_encode ⟨hroom, h.rows⟩]
  · obtain ⟨hdata, hempty⟩ := h.before hw
    exact ⟨.empty, readSnapshot_of_absent h.seated.isDirectory hdata, hempty.symm⟩

/-- When nobody goes on, the directory can be opened again and shows the same table. -/
theorem recovers (h : Mirrors directory s wrote d) (hroom : Snapshot.Room s.entries)
    (createIfMissing : Bool) (mishaps : List (Option Mishap)) :
    ∃ s' dev', «open» ⟨s.path, createIfMissing⟩ (s.close ⟨d, mishaps⟩) = (.ok s', dev')
      ∧ s'.entries.get? = s.entries.get? := by
  obtain ⟨t, hread, hget⟩ := h.readSnapshot hroom
  obtain ⟨dev', hopen⟩ := h.seated.reopen ⟨s.path, createIfMissing⟩ rfl hread mishaps
  exact ⟨_, dev', hopen, hget⟩

end Mirrors
end FileStore

namespace Mounted

open Change (replay Written)

/-- Memory, data file and the changes that were accepted go together. -/
structure Tracks (directory : Place) (log : List Change) (b : Mounted) : Prop where
  entries : b.store.entries.get? = (replay log).rows.get?
  mirrors : FileStore.Mirrors directory b.store (Written log) b.device.disk

variable {directory : Place} {log : List Change} {b b' : Mounted} {c : Change}

/-- A change that is accepted joins the log. -/
theorem Tracks.accept (h : Tracks directory log b) (hc : c.Sound)
    (hok : c.perform b = (.ok (), b')) : Tracks directory (log ++ [c]) b' := by
  have hmade : (c.applyTo b.store.entries).get? = (replay (log ++ [c])).rows.get? := by
    rw [Change.rows_replay_concat]
    exact c.get?_applyTo_congr h.entries
  rcases c.perform_cases h.mirrors.seated with
    ⟨hidle, hp⟩ | ⟨e, s, device, hp, -⟩ | ⟨device, hidle, hp, hlong, hpublished⟩
  · rw [hp] at hok
    cases hok
    have hwritten : Written (log ++ [c]) ↔ Written log := by
      rw [Change.written_concat, ← Change.isIdle_congr h.entries]
      exact or_iff_left (fun hn => hn hidle)
    refine ⟨?_, (propext hwritten) ▸ h.mirrors⟩
    rw [← hmade, Change.applyTo_of_isIdle hidle]
  · rw [hp] at hok
    cases hok
  · rw [hp] at hok
    cases hok
    have hwritten : Written (log ++ [c]) ↔ True := by
      rw [Change.written_concat, ← Change.isIdle_congr h.entries]
      exact iff_true_intro (.inr hidle)
    exact ⟨hmade, (propext hwritten) ▸ h.mirrors.published hpublished hlong
      (Change.fits_applyTo hc h.mirrors.rows)⟩

/-- A change that fails leaves the store as it was, and all of the disk that counts. -/
theorem Tracks.refuse (h : Tracks directory log b) {e : StoreError}
    (herr : c.perform b = (.error e, b')) :
    b.store.SameAs b'.store ∧ Tracks directory log b' := by
  rcases c.perform_cases h.mirrors.seated with
    ⟨hidle, hp⟩ | ⟨e', s, device, hp, hsame, hdrafted⟩ | ⟨device, hidle, hp, -, -⟩
  · rw [hp] at herr
    cases herr
  · rw [hp] at herr
    cases herr
    exact ⟨hsame, hsame.entries.trans h.entries, (h.mirrors.drafted hdrafted).sameAs hsame⟩
  · rw [hp] at herr
    cases herr

/-- A store that was opened over a fresh directory holds nothing and has written nothing. -/
theorem tracks_of_open {config : FileConfig} {dev device : Device} {s : FileStore}
    (hopen : FileStore.open config dev = (.ok s, device))
    (hfresh : device.disk.namesAt (Route.ofString config.path) = .ok [FileStore.lockFile]) :
    ∃ directory, Tracks directory [] ⟨s, device⟩ := by
  obtain ⟨hpath, directory, hseated, hread⟩ := FileStore.open_eq_ok hopen
  have hlocated := hseated.located
  rw [hpath] at hlocated
  rw [Disk.namesAt, hlocated] at hfresh
  have hnames : device.disk.names directory = .ok [FileStore.lockFile] := hfresh
  have hdata : device.disk.nodes.get? (FileStore.dataPlace directory) = none := by
    refine Classical.byContradiction fun hsome => ?_
    exact absurd (Disk.mem_names hnames hsome) (by decide)
  rw [FileStore.readSnapshot_of_absent hseated.isDirectory hdata] at hread
  have hempty : s.entries = .empty := (Except.ok.inj hread).symm
  have hwritten : ¬ Written [] := by
    rintro ⟨before, c, after, hlog, -⟩
    simp at hlog
  refine ⟨directory, congrArg Table.get? hempty, ?_⟩
  exact {
    seated := hseated
    rows := by
      intro key m hm
      rw [hempty, Table.get?_empty] at hm
      cases hm
    before := fun _ => ⟨hdata, congrArg Table.get? hempty⟩
    after := fun hw => absurd hw hwritten }

/-! ## 4. Runs -/

/-- A run from an open store: the changes that were accepted, in order, and what they came to.
Which steps of writing fail, and how, is said by the device. -/
inductive Run (start : Mounted) : List Change → Mounted → Prop
  | start : Run start [] start
  | accept {log : List Change} {b b' : Mounted} {c : Change} (h : Run start log b)
      (hc : c.Sound) (hok : c.perform b = (.ok (), b')) : Run start (log ++ [c]) b'
  | refuse {log : List Change} {b b' : Mounted} {c : Change} {e : StoreError}
      (h : Run start log b) (hc : c.Sound) (herr : c.perform b = (.error e, b')) :
      Run start log b'

/-- The data file is there and holds some bytes. -/
def Holds (b : Mounted) (bytes : Bytes) : Prop :=
  b.device.disk.readAt ((Route.ofString b.store.path).child FileStore.dataFile) = .ok bytes

/-- The device if nobody goes on after the first `n` steps of a change; the lock of a store that
is gone is free. -/
def stopped (b : Mounted) (c : Change) (n : Nat) : Device :=
  b.store.close (b.device.performAll ((c.steps b).take n)).2

/-- A store in a file does what a store in memory does. -/
structure RefinesMemory (log : List Change) (b : Mounted) : Prop where
  /-- The table is the one that the accepted changes leave in memory. -/
  entries : b.store.entries.get? = (replay log).rows.get?
  /-- There is a data file exactly if something was written. -/
  present : (∃ bytes, b.Holds bytes) ↔ Written log
  /-- What is read from it is the table. -/
  readBack : ∀ {bytes : Bytes}, b.Holds bytes → Snapshot.Room b.store.entries →
    ∃ t, Snapshot.decode bytes = .ok t ∧ t.get? = b.store.entries.get?
  /-- A change that fails leaves the table and the data file as they were: what it had made in
  memory is undone. -/
  refused : ∀ {c : Change} {e : StoreError} {b' : Mounted}, c.perform b = (.error e, b') →
    b.store.SameAs b'.store ∧ ∀ bytes, b'.Holds bytes ↔ b.Holds bytes
  /-- A change that changes nothing succeeds without a step of writing. -/
  idle : ∀ {c : Change}, c.IsIdle b.store.entries → c.perform b = (.ok (), b)
  /-- Stopped between any two steps of a change, the store opens again with the table before the
  change or the table after it. -/
  recovers : ∀ {c : Change}, c.Sound → Snapshot.Room b.store.entries →
    Snapshot.Room (c.applyTo b.store.entries) → ∀ (n : Nat) (createIfMissing : Bool),
    ∃ s dev, FileStore.open ⟨b.store.path, createIfMissing⟩ (b.stopped c n) = (.ok s, dev)
      ∧ (s.entries.get? = b.store.entries.get?
        ∨ s.entries.get? = (c.perform b).2.store.entries.get?)

theorem Tracks.holds_iff (h : Tracks directory log b) {bytes : Bytes} :
    b.Holds bytes ↔ Written log ∧ bytes = Snapshot.encode b.store.entries :=
  h.mirrors.readAt_iff

/-- Steps of a change that stop half-way leave the directory as it was before the change, and
those that do not stop leave it as the change does. -/
theorem Tracks.of_stopped (h : Tracks directory log b) (c : Change) (n : Nat) :
    FileStore.Mirrors directory b.store (Written log)
        (b.device.performAll ((c.steps b).take n)).2.disk
      ∨ (b.device.performAll ((c.steps b).take n)).2 = (c.perform b).2.device := by
  rcases c.steps_cases h.mirrors.seated with hsteps | hsteps
  · left
    rw [hsteps, List.take_nil]
    exact h.mirrors
  · rcases FileStore.performAll_take_plan directory (c.applyTo b.store.entries) b.device n with
      hdrafted | hwhole
    · left
      rw [hsteps]
      exact h.mirrors.drafted hdrafted
    · right
      rw [hsteps, hwhole, ← hsteps]
      exact c.performAll_steps b

/-- **Stopping is no loss**: the store opens again with the table before the change or the table
after it. -/
theorem Tracks.recovers (h : Tracks directory log b) (hc : c.Sound)
    (hroom : Snapshot.Room b.store.entries) (hroom' : Snapshot.Room (c.applyTo b.store.entries))
    (n : Nat) (createIfMissing : Bool) :
    ∃ s dev, FileStore.open ⟨b.store.path, createIfMissing⟩ (b.stopped c n) = (.ok s, dev)
      ∧ (s.entries.get? = b.store.entries.get?
        ∨ s.entries.get? = (c.perform b).2.store.entries.get?) := by
  rcases h.of_stopped c n with hbefore | hafter
  · obtain ⟨s, dev, hopen, hget⟩ := hbefore.recovers hroom createIfMissing _
    exact ⟨s, dev, hopen, .inl hget⟩
  · rw [stopped, hafter]
    cases hp : c.perform b with
    | mk outcome b' =>
      cases outcome with
      | error e =>
        obtain ⟨hsame, htracks⟩ := h.refuse hp
        obtain ⟨s, dev, hopen, hget⟩ := htracks.mirrors.recovers (hroom.congr hsame.entries.symm)
          createIfMissing b'.device.mishaps
        rw [hsame.path, FileStore.close, hsame.lock] at hopen
        exact ⟨s, dev, hopen, .inr hget⟩
      | ok u =>
        have htracks := h.accept hc hp
        have hentries : (c.applyTo b.store.entries).get? = b'.store.entries.get? := by
          rw [htracks.entries, Change.rows_replay_concat]
          exact c.get?_applyTo_congr h.entries
        obtain ⟨hpath, hlock⟩ := Change.path_lock_of_perform h.mirrors.seated hp
        obtain ⟨s, dev, hopen, hget⟩ := htracks.mirrors.recovers (hroom'.congr hentries)
          createIfMissing b'.device.mishaps
        rw [hpath, FileStore.close, hlock] at hopen
        exact ⟨s, dev, hopen, .inr hget⟩

theorem Tracks.refinesMemory (h : Tracks directory log b) : b.RefinesMemory log where
  entries := h.entries
  present := by
    constructor
    · rintro ⟨bytes, hbytes⟩
      exact (h.holds_iff.mp hbytes).1
    · exact fun hw => ⟨_, h.holds_iff.mpr ⟨hw, rfl⟩⟩
  readBack := by
    intro bytes hbytes hroom
    rw [(h.holds_iff.mp hbytes).2]
    exact ⟨b.store.entries.sort, Snapshot.decode_encode ⟨hroom, h.mirrors.rows⟩,
      b.store.entries.get?_sort⟩
  refused := by
    intro c e b' herr
    obtain ⟨hsame, htracks⟩ := h.refuse herr
    refine ⟨hsame, fun bytes => ?_⟩
    rw [htracks.holds_iff, h.holds_iff, Snapshot.encode_congr hsame.entries]
  idle := Change.perform_of_isIdle
  recovers := h.recovers

/-- Every run keeps memory and data file together. -/
theorem Run.tracks {start : Mounted} (hstart : Tracks directory [] start)
    (hrun : Run start log b) : Tracks directory log b := by
  induction hrun with
  | start => exact hstart
  | accept _ hc hok ih => exact ih.accept hc hok
  | refuse _ _ herr ih => exact (ih.refuse herr).2

/-- **A store that was opened over a fresh directory does what a store in memory does**, after
any run of changes, whichever steps of writing fail in it. -/
theorem Run.refines_memory {config : FileConfig} {dev device : Device} {s : FileStore}
    (hopen : FileStore.open config dev = (.ok s, device))
    (hfresh : device.disk.namesAt (Route.ofString config.path) = .ok [FileStore.lockFile])
    (hrun : Run ⟨s, device⟩ log b) : b.RefinesMemory log := by
  obtain ⟨directory, hstart⟩ := tracks_of_open hopen hfresh
  exact (hrun.tracks hstart).refinesMemory

namespace Demo

/-- A directory that is made when it is missing. -/
def config : FileConfig := ⟨"subs", true⟩

/-- An empty disk.  The first eight steps of writing succeed, the ninth fails. -/
def device : Device := ⟨.empty, List.replicate 8 none ++ [some ⟨.other "no space", 0⟩]⟩

/-- What is opened there: a store without entries, in a directory with its lock file. -/
def start : Mounted where
  store := ⟨"subs", 0, .empty⟩
  device := ⟨⟨⟨[(["subs"], .directory), (["subs", "LOCK"], .file 0 [])], by decide⟩, [0], 1⟩,
    device.mishaps⟩

def first : Change := .insert ⟨"a", "A", "f", "bus:/in"⟩

def second : Change := .insert ⟨"b", "A", "f", "bus:/in"⟩

/-- After a change that is accepted and one that fails. -/
def final : Mounted := (second.perform (first.perform start).2).2

theorem open_eq : FileStore.open config device = (.ok start.store, start.device) := rfl

theorem names_eq :
    start.device.disk.namesAt (Route.ofString config.path) = .ok [FileStore.lockFile] := by
  have hlocate : start.device.disk.locate (Route.ofString config.path) = .ok ["subs"] := rfl
  rw [Disk.namesAt, hlocate]
  exact congrArg Except.ok (List.mergeSort_singleton "LOCK")

theorem sound_first : first.Sound :=
  ⟨⟨by decide, by decide, by decide, by decide, rfl⟩, by decide, by decide, by decide, by decide⟩

theorem sound_second : second.Sound :=
  ⟨⟨by decide, by decide, by decide, by decide, rfl⟩, by decide, by decide, by decide, by decide⟩

theorem run : Run start [first] final := by
  have haccept : Run start [first] (first.perform start).2 :=
    .accept .start sound_first (Prod.ext rfl rfl)
  have herror : (second.perform (first.perform start).2).1 = .error (.io (.other "no space")) := rfl
  exact .refuse haccept sound_second (Prod.ext herror rfl)

end Demo

theorem Run.refines_memory_demo :
    FileStore.open Demo.config Demo.device = (.ok Demo.start.store, Demo.start.device)
      ∧ Demo.start.device.disk.namesAt (Route.ofString Demo.config.path) = .ok [FileStore.lockFile]
      ∧ Run Demo.start [Demo.first] Demo.final ∧ Demo.final.RefinesMemory [Demo.first] :=
  ⟨Demo.open_eq, Demo.names_eq, Demo.run,
    Run.refines_memory Demo.open_eq Demo.names_eq Demo.run⟩

end Mounted
end SubscriptionRegistry
