/-
# Opening a directory

An open store sits in a directory: its path leads there, the file that it locks is there, and
nobody else holds that lock.  Opening gives such a store, writing snapshots keeps it so, and
when the lock is given back the directory can be opened again.

* `FileStore.open_eq_ok`: what is true of a store that was opened.
* `FileStore.Seated.reopen`: opening again reads the data file as it stands.
* `FileStore.open_of_decode_error`: nothing is opened over a data file that cannot be read.
-/
import SubscriptionRegistry.Proofs.File.Writing

namespace SubscriptionRegistry
namespace FileStore

open Disk (Apart Keeps IsName)

/-! ## 1. The data file -/

theorem isName_dataFile : IsName dataFile :=
  ⟨by decide, by decide, by decide, by decide, by decide⟩

section

variable {route : Route} {directory : Place} {d d' : Disk}

/-- Reading depends on the data file alone. -/
theorem readSnapshot_of_directories (hdir : d.node directory = .ok .directory)
    (hdir' : d'.node directory = .ok .directory)
    (hdata : d'.nodes.get? (dataPlace directory) = d.nodes.get? (dataPlace directory)) :
    readSnapshot route directory d' = readSnapshot route directory d := by
  have hnode : d'.node (directory ++ [dataFile]) = d.node (directory ++ [dataFile]) := by
    rw [Disk.node_concat, Disk.node_concat, hdir', hdir]
    dsimp only
    rw [← dataPlace, hdata]
  have hexists : d'.exists? (directory ++ [dataFile]) = d.exists? (directory ++ [dataFile]) := by
    rw [Disk.exists?, Disk.exists?, hnode]
  have hread : d'.read (directory ++ [dataFile]) = d.read (directory ++ [dataFile]) := by
    rw [Disk.read, Disk.read, hnode]
  rw [readSnapshot, readSnapshot, hexists, hread]

theorem readSnapshot_congr (hdir : d.node directory = .ok .directory) (hkeeps : Keeps d d')
    (hdata : d'.nodes.get? (dataPlace directory) = d.nodes.get? (dataPlace directory)) :
    readSnapshot route directory d' = readSnapshot route directory d :=
  readSnapshot_of_directories hdir (hkeeps.node_directory hdir) hdata

/-- Before the first write there is nothing to read. -/
theorem readSnapshot_of_absent (hdir : d.node directory = .ok .directory)
    (hdata : d.nodes.get? (dataPlace directory) = none) :
    readSnapshot route directory d = .ok .empty := by
  have hnode : d.node (directory ++ [dataFile]) = .error .notFound := by
    rw [Disk.node_concat, hdir]
    dsimp only
    rw [← dataPlace, hdata]
  simp [readSnapshot, Disk.exists?, hnode]

theorem readSnapshot_of_present (hdir : d.node directory = .ok .directory)
    (hlong : (route.child dataFile).isTooLong = false) {i : Nat} {bytes : Bytes}
    (hdata : d.nodes.get? (dataPlace directory) = some (.file i bytes)) :
    readSnapshot route directory d = Snapshot.decode bytes := by
  have hnode : d.node (directory ++ [dataFile]) = .ok (.file i bytes) :=
    (Disk.node_child_eq_ok_iff hdir).mpr hdata
  simp [readSnapshot, Disk.exists?, Disk.read, hnode, hlong]

end

/-! ## 2. Open stores -/

/-- A store in a directory. -/
structure Seated (directory : Place) (s : FileStore) (d : Disk) : Prop where
  /-- The path leads to it. -/
  located : d.locate (Route.ofString s.path) = .ok directory
  isDirectory : d.node directory = .ok .directory
  /-- The locked file can be asked for, and is there. -/
  lockShort : ((Route.ofString s.path).child lockFile).isTooLong = false
  lockFile : ∃ content, d.nodes.get? (lockPlace directory) = some (.file s.lock content)
  /-- Once the store gives it back, its lock is free. -/
  held : s.lock ∉ d.locks.erase s.lock

theorem Seated.of_apart {directory : Place} {s : FileStore} {d d' : Disk}
    (h : Seated directory s d)
    (hapart : Apart [tempPlace directory, dataPlace directory] d d') (hlocks : d'.locks = d.locks) :
    Seated directory s d' where
  located := hapart.keeps.locate h.located (Disk.isDirectory_of_node h.isDirectory)
  isDirectory := hapart.keeps.node_directory h.isDirectory
  lockShort := h.lockShort
  lockFile := by
    obtain ⟨content, hlock⟩ := h.lockFile
    refine ⟨content, ?_⟩
    rw [hapart.elsewhere _ fun hmem => ?_, hlock]
    simp only [List.mem_cons, List.not_mem_nil, or_false] at hmem
    exact hmem.elim (lockPlace_ne_tempPlace directory) (lockPlace_ne_dataPlace directory)
  held := by
    rw [hlocks]
    exact h.held

/-- Only the file to be locked matters, and how often it is. -/
theorem Seated.of_lockFile {directory : Place} {s : FileStore} {d d' : Disk}
    (h : Seated directory s d) (hlocated : d'.locate (Route.ofString s.path) = .ok directory)
    (hdir : d'.node directory = .ok .directory)
    (hlock : d'.nodes.get? (lockPlace directory) = d.nodes.get? (lockPlace directory))
    (hcount : d'.locks.count s.lock = d.locks.count s.lock) : Seated directory s d' where
  located := hlocated
  isDirectory := hdir
  lockShort := h.lockShort
  lockFile := by
    rw [hlock]
    exact h.lockFile
  held := by
    have hheld := h.held
    rw [← List.count_eq_zero, List.count_erase_self] at hheld ⊢
    rw [hcount]
    exact hheld

theorem provide_eq_ok {config : FileConfig} {d d' : Disk} {directory : Place}
    (h : provide config d = (.ok directory, d')) :
    d'.locate (Route.ofString config.path) = .ok directory := by
  unfold provide at h
  dsimp only at h
  split at h
  · rename_i hlocate
    cases h
    exact hlocate
  · split at h
    · cases h
    · split at h
      · cases h
      · rename_i hmake
        cases h
        exact (Disk.makeAll_eq_ok hmake).1

theorem makeLock_eq_ok {route : Route} {directory : Place} {d d' : Disk} {lock : Nat}
    (h : makeLock route directory d = .ok (lock, d')) :
    (route.child FileStore.lockFile).isTooLong = false
      ∧ d.create (lockPlace directory) = .ok (lock, d') := by
  unfold makeLock at h
  split at h
  · cases h
  · rename_i hlong
    refine ⟨by simpa using hlong, ?_⟩
    rw [lockPlace]
    cases hcreate : d.create (directory ++ [FileStore.lockFile]) with
    | error e =>
      rw [hcreate] at h
      cases h
    | ok made =>
      rw [hcreate] at h
      cases h
      rfl

/-- Locks count for nothing when a disk is looked at. -/
theorem apart_locks (d : Disk) (locks : List Nat) : Apart [] d { d with locks } :=
  ⟨fun _ => Iff.rfl, fun _ _ => rfl⟩

/-- Taking a lock that is free. -/
theorem lock?_eq_some {d d' : Disk} {lock : Nat} (h : d.lock? lock = some d') :
    lock ∉ d.locks ∧ d' = { d with locks := lock :: d.locks } := by
  unfold Disk.lock? at h
  split at h
  · cases h
  · rename_i hfree
    cases h
    exact ⟨by simpa using hfree, rfl⟩

/-- Making a file and taking its lock is seen at that file only. -/
theorem apart_of_taken {d d₁ : Disk} {place : Place} {lock : Nat}
    (hcreate : d.create place = .ok (lock, d₁)) :
    Apart [place] d { d₁ with locks := lock :: d₁.locks } :=
  (Disk.create_apart hcreate).trans ((apart_locks d₁ _).mono (by simp))

/-- **A store that was opened** sits in its directory, and its table is what was read there. -/
theorem open_eq_ok {config : FileConfig} {dev dev' : Device} {s : FileStore}
    (h : «open» config dev = (.ok s, dev')) :
    s.path = config.path ∧ ∃ directory, Seated directory s dev'.disk
      ∧ readSnapshot (Route.ofString config.path) directory dev'.disk = .ok s.entries := by
  unfold «open» at h
  split at h
  · cases h
  · rename_i directory d hprovide
    dsimp only at h
    split at h
    · cases h
    · rename_i lock d₁ hmake
      split at h
      · cases h
      · rename_i d₂ hlock
        split at h
        · cases h
        · rename_i entries hread
          cases h
          obtain ⟨hlong, hcreate⟩ := makeLock_eq_ok hmake
          obtain ⟨hparent, -, hnodes, -⟩ := Disk.create_eq_ok hcreate
          obtain ⟨hfree, rfl⟩ := lock?_eq_some hlock
          have hapart := apart_of_taken hcreate
          have hdir := Disk.checkParent_child_eq_ok_iff.mp hparent
          refine ⟨rfl, directory, ?_, hread⟩
          exact {
            located := hapart.keeps.locate (provide_eq_ok hprovide) (Disk.isDirectory_of_node hdir)
            isDirectory := hapart.keeps.node_directory hdir
            lockShort := hlong
            lockFile := by
              refine ⟨[], ?_⟩
              dsimp only
              rw [hnodes, Table.get?_insert, if_pos rfl]
            held := by
              dsimp only
              rw [List.erase_cons_head]
              exact hfree }

/-! ## 3. Opening again -/

/-- The lock file of a store that is gone is made again under the same identity. -/
theorem Seated.makeLock_again {directory : Place} {s : FileStore} {d : Disk}
    (h : Seated directory s d) :
    ∃ d₁, makeLock (Route.ofString s.path) directory (d.unlock s.lock) = .ok (s.lock, d₁)
      ∧ d₁.locks = d.locks.erase s.lock := by
  obtain ⟨content, hlock⟩ := h.lockFile
  have hentry : (d.unlock s.lock).nodes.get? (lockPlace directory)
      = some (.file s.lock content) := hlock
  have hparent : (d.unlock s.lock).checkParent (lockPlace directory) = .ok () :=
    Disk.checkParent_child_eq_ok_iff.mpr ((apart_locks d _).keeps.node_directory h.isDirectory)
  have hcreate : (d.unlock s.lock).create (lockPlace directory) = .ok (s.lock,
      { d.unlock s.lock with nodes := d.nodes.insert (lockPlace directory) (.file s.lock []) }) := by
    rw [Disk.create, hparent]
    dsimp only
    rw [hentry]
    rfl
  refine ⟨{ d.unlock s.lock with
    nodes := d.nodes.insert (lockPlace directory) (.file s.lock []) }, ?_, rfl⟩
  rw [makeLock, h.lockShort, if_neg Bool.false_ne_true, ← lockPlace, hcreate]
  rfl

/-- **A directory that was left is opened again**, with the table that its data file holds. -/
theorem Seated.reopen {directory : Place} {s : FileStore} {d : Disk} (h : Seated directory s d)
    (config : FileConfig) (hpath : config.path = s.path) {t : Table String Metadata}
    (hread : readSnapshot (Route.ofString s.path) directory d = .ok t)
    (mishaps : List (Option Mishap)) :
    ∃ dev', «open» config (s.close ⟨d, mishaps⟩) = (.ok ⟨s.path, s.lock, t⟩, dev') := by
  have hfreed : Apart [] d (d.unlock s.lock) := apart_locks d _
  have hprovide : provide config (d.unlock s.lock) = (.ok directory, d.unlock s.lock) := by
    rw [provide, hpath, hfreed.keeps.locate h.located (Disk.isDirectory_of_node h.isDirectory)]
  obtain ⟨d₁, hmake, hlocks⟩ := h.makeLock_again
  have htake : d₁.lock? s.lock = some { d₁ with locks := s.lock :: d₁.locks } := by
    rw [Disk.lock?, hlocks, if_neg (by simpa using h.held)]
  have hapart := apart_of_taken (FileStore.makeLock_eq_ok hmake).2
  -- neither giving the lock back nor taking it again touches the data file
  have hread' : readSnapshot (Route.ofString s.path) directory
      { d₁ with locks := s.lock :: d₁.locks } = .ok t := by
    rw [readSnapshot_congr (hfreed.keeps.node_directory h.isDirectory) hapart.keeps
      (hapart.elsewhere _ (by simpa using (lockPlace_ne_dataPlace directory).symm)),
      readSnapshot_congr h.isDirectory hfreed.keeps (hfreed.elsewhere _ (by simp)), hread]
  refine ⟨⟨{ d₁ with locks := s.lock :: d₁.locks }, mishaps⟩, ?_⟩
  rw [«open», close, hprovide]
  dsimp only
  rw [hpath, hmake]
  dsimp only
  rw [htake]
  dsimp only
  rw [hread']

/-! ## 4. Data files that cannot be read -/

/-- **Nothing is opened over a data file that cannot be read.** -/
theorem open_of_decode_error {config : FileConfig} {dev : Device} {file : Bytes} {e : StoreError}
    (hfile : dev.disk.readAt ((Route.ofString config.path).child dataFile) = .ok file)
    (hdecode : Snapshot.decode file = .error e) : ∃ e', («open» config dev).1 = .error e' := by
  obtain ⟨hlong, directory, hlocate, hread⟩ :=
    (Disk.readAt_child_eq_ok_iff isName_dataFile).mp hfile
  obtain ⟨i, hnode⟩ := Disk.read_eq_ok_iff.mp hread
  have hdir := Disk.node_above hnode
  have hprovide : provide config dev.disk = (.ok directory, dev.disk) := by
    rw [provide, hlocate]
  rw [«open», hprovide]
  dsimp only
  split
  · exact ⟨_, rfl⟩
  · rename_i lock d₁ hmake
    split
    · exact ⟨_, rfl⟩
    · rename_i d₂ hlock
      obtain ⟨-, hcreate⟩ := makeLock_eq_ok hmake
      obtain ⟨-, rfl⟩ := lock?_eq_some hlock
      have hapart := apart_of_taken hcreate
      have hsame := hapart.elsewhere (dataPlace directory)
        (by simpa using (lockPlace_ne_dataPlace directory).symm)
      rw [readSnapshot_congr hdir hapart.keeps hsame, readSnapshot_of_present hdir hlong
        (Disk.get?_of_node_file hnode), hdecode]
      exact ⟨e, rfl⟩

end FileStore
end SubscriptionRegistry
