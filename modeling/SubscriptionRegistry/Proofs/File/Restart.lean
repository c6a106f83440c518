/-
# Restarts over stores in memory and in files

A store in memory outlives the registry.  A store in a file is given up with it and opened again;
what it then shows is what the data file holds, which is the table as of the last write that
succeeded.  In both cases the next registry comes up with all subscriptions of the last one.

Nobody else touches the directory of the store while it is in use.  Which steps of writing fail
is open, and what else happens on the disk.

* `Mounted.Backed`: the table in memory can be read back from the data file.
* `Mounted.LeftAlone`: what others may do to the disk in the meantime.
* `Mounted.Backed.reopens`: the store opens again with the same table.
* `Registry.restart_preserves`: what that means for registries.
-/
import SubscriptionRegistry.Proofs.File.Refinement
import SubscriptionRegistry.Proofs.Restart

namespace SubscriptionRegistry

/-! ## 1. What others do to the disk -/

/-- A directory is as it was: the same route leads there, and the files in it are the same, each
locked as often. -/
structure Disk.SameIn (route : Route) (directory : Place) (d d' : Disk) : Prop where
  located : d'.locate route = .ok directory
  isDirectory : d'.node directory = .ok .directory
  files : ∀ name, d'.nodes.get? (directory ++ [name]) = d.nodes.get? (directory ++ [name])
  locks : ∀ name i content, d.nodes.get? (directory ++ [name]) = some (.file i content) →
    d'.locks.count i = d.locks.count i

namespace Mounted

/-- Nobody touched the store or its directory.  What will go wrong with the next steps of writing
is not part of that. -/
structure LeftAlone (b b' : Mounted) : Prop where
  store : b'.store = b.store
  directory : ∀ directory, b.device.disk.locate (Route.ofString b.store.path) = .ok directory →
    b.device.disk.node directory = .ok .directory →
    b.device.disk.SameIn (Route.ofString b.store.path) directory b'.device.disk

/-! ## 2. The table and the data file -/

/-- A store sits in its directory, and its table can be read back from there, if it is one that a
snapshot has room for. -/
structure Backed (path : String) (directory : Place) (b : Mounted) : Prop where
  path : b.store.path = path
  seated : FileStore.Seated directory b.store b.device.disk
  reads : Snapshot.Fits b.store.entries → ∃ t, FileStore.readSnapshot
    (Route.ofString b.store.path) directory b.device.disk = .ok t ∧ t.get? = b.store.entries.get?

variable {path : String} {directory : Place} {b b' : Mounted}

/-- A store that was opened shows what was read. -/
theorem backed_of_open {config : FileConfig} {dev device : Device} {s : FileStore}
    (hopen : FileStore.open config dev = (.ok s, device)) :
    ∃ directory, Backed config.path directory ⟨s, device⟩ := by
  obtain ⟨hpath, directory, hseated, hread⟩ := FileStore.open_eq_ok hopen
  refine ⟨directory, hpath, hseated, fun _ => ⟨s.entries, ?_, rfl⟩⟩
  dsimp only
  rw [hpath]
  exact hread

namespace Backed

theorem leftAlone (h : Backed path directory b) (hb : b.LeftAlone b') :
    Backed path directory b' := by
  have hsame := hb.directory directory h.seated.located h.seated.isDirectory
  have hread : FileStore.readSnapshot (Route.ofString b.store.path) directory b'.device.disk
      = FileStore.readSnapshot (Route.ofString b.store.path) directory b.device.disk :=
    FileStore.readSnapshot_of_directories h.seated.isDirectory hsame.isDirectory
      (hsame.files FileStore.dataFile)
  obtain ⟨content, hlock⟩ := h.seated.lockFile
  obtain ⟨store, device⟩ := b'
  obtain rfl : store = b.store := hb.store
  refine ⟨h.path, ?_, fun hfits => ?_⟩
  · exact h.seated.of_lockFile hsame.located hsame.isDirectory (hsame.files FileStore.lockFile)
      (hsame.locks _ _ _ hlock)
  · obtain ⟨t, ht, hget⟩ := h.reads hfits
    exact ⟨t, hread.trans ht, hget⟩

/-- **A change keeps the table backed**, whether or not all steps of writing succeed. -/
theorem perform (h : Backed path directory b) (c : Change) :
    Backed path directory (c.perform b).2 := by
  obtain ⟨hpath, hseated⟩ := c.seated_perform h.seated
  refine ⟨hpath.trans h.path, hseated, ?_⟩
  rcases c.perform_cases h.seated with
    ⟨-, hp⟩ | ⟨e, s, device, hp, hsame, hdrafted⟩ | ⟨device, -, hp, hlong, hpublished⟩
  · rw [hp]
    exact h.reads
  · rw [hp]
    intro hfits
    have hdata := hdrafted.apart.elsewhere (FileStore.dataPlace directory)
      (by simpa using FileStore.dataPlace_ne_tempPlace directory)
    obtain ⟨t, ht, hget⟩ := h.reads (hfits.congr hsame.entries)
    refine ⟨t, ?_, hget.trans hsame.entries.symm⟩
    dsimp only
    rw [hsame.path]
    exact (FileStore.readSnapshot_congr h.seated.isDirectory hdrafted.apart.keeps hdata).trans ht
  · rw [hp] at hseated ⊢
    intro hfits
    obtain ⟨i, hdata⟩ := hpublished.data
    refine ⟨(c.applyTo b.store.entries).sort, ?_, Table.get?_sort _⟩
    exact (FileStore.readSnapshot_of_present hseated.isDirectory
      (FileStore.isTooLong_dataFile hlong) hdata).trans (Snapshot.decode_encode hfits)

/-- **The store opens again** with the same table. -/
theorem reopens (h : Backed path directory b) (hfits : Snapshot.Fits b.store.entries)
    {config : FileConfig} (hpath : config.path = path) :
    ∃ s device, FileStore.open config (b.store.close b.device) = (.ok s, device)
      ∧ s.entries.get? = b.store.entries.get? := by
  obtain ⟨t, hread, hget⟩ := h.reads hfits
  obtain ⟨device, hopen⟩ := h.seated.reopen config (hpath.trans h.path.symm) hread
    b.device.mishaps
  exact ⟨_, device, hopen, hget⟩

end Backed
end Mounted

/-! ## 3. Registries -/

variable {α φ σ : Type} [Activator α σ] [Factory φ σ]

/-- No call leaves the table without its data file. -/
theorem Services.backed_stable (path : String) (directory : Place) :
    Services.Stable fun s : Services Mounted α φ σ => s.store.Backed path directory where
  activate _ _ _ h := h
  deactivate _ _ h := h
  build _ _ _ h := h
  insert m _ h := h.perform (.insert m)
  delete id _ h := h.perform (.delete id)
  list _ h := h

namespace Registry

/-- Closing a registry leaves the store alone. -/
theorem store_close {π : Type} [BackingStore π] (r : Registry π α φ σ) :
    r.close.store = r.services.store :=
  Table.visit_snd (P := fun s : Services π α φ σ => s.store = r.services.store)
    (fun e _ hs => releaseEntry_stable (Services.store_locallyStable _) _ e hs) r.cache rfl

/-- The table stays backed as long as nobody else touches the directory. -/
theorem Trace.backed {outside : Services Mounted α φ σ → Services Mounted α φ σ → Prop}
    {allowed : Operation φ σ → Registry Mounted α φ σ → Prop} {start r : Registry Mounted α φ σ}
    {moments : List (Moment Mounted α φ σ)} {path : String} {directory : Place}
    (houtside : ∀ s s', outside s s' → s.store.LeftAlone s'.store)
    (hstart : start.services.store.Backed path directory)
    (h : Trace outside allowed start moments r) : r.services.store.Backed path directory := by
  induction h with
  | refl => exact hstart
  | change _ hs ih => exact ih.leftAlone (houtside _ _ hs)
  | step _ _ ih => exact perform_stable (Services.backed_stable path directory) _ ih

variable [Tracked α σ]

/-- A registry after a run in which ids did not collide, the store was listed at least once, and
names of activations lasted. -/
structure Undisturbed {π : Type} [BackingStore π] [FaithfulStore π]
    (outside : Services π α φ σ → Services π α φ σ → Prop) (s : Services π α φ σ)
    (moments : List (Moment π α φ σ)) (r : Registry π α φ σ) : Prop where
  ready : s.Ready
  trace : Trace outside (fun op r => op.Fresh r) (new s) moments r
  loaded : ∃ moment ∈ moments, moment.Loads
  names : r.services.active.issued < UInt64.size

/-- **A restart preserves every subscription.**  A new registry over the same store in memory comes
up as the old one was; and a store in a file opens again after its lock was given back, and a new
registry over it comes up as the old one was. -/
theorem restart_preserves :
    (∀ (s s' : Services (StoreGate MemoryStore) α φ σ) moments r,
      Undisturbed Services.Quiet s moments r →
      s'.store.inner = r.close.store.inner → s'.active = r.close.active → s'.journal = [] →
      (new s' : Registry (StoreGate MemoryStore) α φ σ).init.1 = .ok () →
      Restored moments r s')
    ∧ ∀ (config config' : FileConfig) (dev : Device) (s : Services Mounted α φ σ) moments r,
      FileStore.open config dev = (.ok s.store.store, s.store.device) →
      Undisturbed (fun s s' => s.Quiet s' ∧ s.store.LeftAlone s'.store) s moments r →
      Snapshot.Room r.close.store.store.entries →
      (∀ id m, r.cached id = some m → m.Short) → config'.path = config.path →
      ∃ store device, FileStore.open config' (r.close.store.store.close r.close.store.device)
          = (.ok store, device)
        ∧ ∀ s' : Services Mounted α φ σ, s'.store = ⟨store, device⟩ →
          s'.active = r.close.active → s'.journal = [] →
          (new s' : Registry Mounted α φ σ).init.1 = .ok () ∧ Restored moments r s' := by
  constructor
  · intro s s' moments r h hinner hactive hjournal hinit
    have hin := h.trace.inOrder (fun _ _ h => h) (fun _ _ h => h) h.ready
    refine hin.restored h.loaded h.names ?_ hactive hjournal hinit
    exact congrArg (fun p : MemoryStore => FaithfulStore.stored p) hinner
  · intro config config' dev s moments r hopen h hroom hshort hpath
    have hin := h.trace.inOrder (fun _ _ h => h.1) (fun _ _ h => h) h.ready
    obtain ⟨directory, hstart⟩ := Mounted.backed_of_open hopen
    have hbacked : r.close.store.Backed config.path directory := by
      rw [store_close]
      exact h.trace.backed (fun _ _ h => h.2) hstart
    have hfits : Snapshot.Fits r.close.store.store.entries := by
      refine ⟨hroom, fun id m hm => ?_⟩
      have hstored : r.services.stored id = some m := by
        rw [← stored_close]
        exact hm
      obtain ⟨hid, hvalid⟩ := hin.stored id m hstored
      have hm' := hshort id m (by rw [hin.cached_eq h.loaded]; exact hstored)
      exact ⟨hid ▸ hm'.id, hvalid, hm'⟩
    obtain ⟨store, device, hreopen, hget⟩ := hbacked.reopens hfits hpath
    refine ⟨store, device, hreopen, fun s' hstore hactive hjournal => ?_⟩
    have hstored : s'.stored = r.close.stored := by
      rw [Services.stored, hstore]
      exact hget
    have hinit : (new s' : Registry Mounted α φ σ).init.1 = .ok () := by
      rw [init_new (s := s') rfl]
    exact ⟨hinit, hin.restored h.loaded h.names hstored hactive hjournal hinit⟩

end Registry

namespace Demo

/-- A store that was opened in an empty directory.  Its disk is full when a second subscription is
written. -/
def filed : Services Mounted (Gated (ActiveSet String)) EchoFactory String :=
  ⟨Mounted.Demo.start, ⟨.empty, fun _ => false⟩, []⟩

/-- The store was listed. -/
def listed : Registry Mounted (Gated (ActiveSet String)) EchoFactory String :=
  ((Registry.new filed).perform .init).2

def accepting : Operation EchoFactory String := .insert "g" ⟨"f", "bus:/in"⟩ "A" 1

def failing : Operation EchoFactory String := .insert "h" ⟨"f", "bus:/in"⟩ "A" 2

/-- One subscription was stored, and another one could not be. -/
def full : Registry Mounted (Gated (ActiveSet String)) EchoFactory String :=
  ((listed.perform accepting).2.perform failing).2

/-- What is stored after that. -/
def accepted : Metadata := ⟨Urn.ofRandom 1, "A", "f", "bus:/in"⟩

theorem entries_full : full.close.store.store.entries.rows = [(accepted.id, accepted)] := rfl

theorem cached_full {id : String} {m : Metadata} (hm : full.cached id = some m) : m = accepted := by
  have hrows : full.cache.metadata.rows = [(accepted.id, accepted)] := rfl
  rw [Registry.cached, Table.get?_eq_some_iff, hrows, List.mem_singleton] at hm
  cases hm
  rfl

theorem room_full : Snapshot.Room full.close.store.store.entries := by
  refine ⟨?_, ?_⟩
  · rw [Table.size, entries_full]
    decide
  · rw [Metadata.length_encodeTable, Table.size, entries_full]
    decide +kernel

theorem short_accepted : accepted.Short :=
  ⟨by decide +kernel, by decide, by decide, by decide⟩

theorem ready_services : services.Ready :=
  ⟨rfl, rfl, fun _ _ hm => stored_only rfl hm⟩

theorem ready_filed : filed.Ready :=
  ⟨rfl, rfl, fun _ _ hm => by cases hm⟩

theorem undisturbed_live : Registry.Undisturbed Services.Quiet services
    [⟨.new services, .bind (some ⟨"A"⟩)⟩,
      ⟨((Registry.new services).perform (.bind (some ⟨"A"⟩))).2, .init⟩] live where
  ready := ready_services
  trace := .step (.step .refl trivial) trivial
  loaded := ⟨_, List.mem_cons_of_mem _ List.mem_cons_self, .inl rfl, _, _, rfl⟩
  names := by decide

theorem undisturbed_full :
    Registry.Undisturbed (fun s s' => s.Quiet s' ∧ s.store.LeftAlone s'.store) filed
      [⟨.new filed, .init⟩, ⟨listed, accepting⟩, ⟨(listed.perform accepting).2, failing⟩] full where
  ready := ready_filed
  trace := by
    have haccepting : accepting.Fresh listed := rfl
    have hfailing : failing.Fresh (listed.perform accepting).2 := rfl
    exact .step (.step (.step .refl trivial) haccepting) hfailing
  loaded := ⟨_, List.mem_cons_self, .inl rfl, _, _, rfl⟩
  names := by decide

end Demo

/-- The services that `live` leaves behind, for the next registry. -/
def Demo.reopened :
    Services (StoreGate MemoryStore) (Gated (ActiveSet String)) EchoFactory String :=
  { live.close with journal := [] }

/-- What was there after a run is there after a restart, also if the disk was full in between. -/
theorem Registry.restart_preserves_demo :
    (Registry.new Demo.reopened).init.2.cached = Demo.live.cached
    ∧ ∃ store device, FileStore.open Mounted.Demo.config
        (Demo.full.close.store.store.close Demo.full.close.store.device) = (.ok store, device)
      ∧ ∀ s : Services Mounted (Gated (ActiveSet String)) EchoFactory String,
        s = ⟨⟨store, device⟩, Demo.full.close.activator, []⟩ →
        (Registry.new s).init.2.cached = Demo.full.cached := by
  have hmemory := restart_preserves.1 _ Demo.reopened _ _ Demo.undisturbed_live rfl rfl rfl rfl
  have hshort : ∀ id m, Demo.full.cached id = some m → m.Short := by
    intro id m hm
    rw [Demo.cached_full hm]
    exact Demo.short_accepted
  obtain ⟨store, device, hopen, hfile⟩ := restart_preserves.2 Mounted.Demo.config
    Mounted.Demo.config Mounted.Demo.device Demo.filed _ _ Mounted.Demo.open_eq
    Demo.undisturbed_full Demo.room_full hshort rfl
  refine ⟨hmemory.cached, store, device, hopen, ?_⟩
  rintro s rfl
  exact (hfile ⟨⟨store, device⟩, Demo.full.close.activator, []⟩ rfl rfl rfl).2.cached

end SubscriptionRegistry
