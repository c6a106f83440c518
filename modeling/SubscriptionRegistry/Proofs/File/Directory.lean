/-
# A directory that is shared

What those who share a directory rely on: it is there, or will be when it is made; the file to be
locked has one identity all the time; and what is read from the data file shows one table, whoever
reads it and by whatever path.

* `FileStore.Ground`, `FileStore.Marked`, `FileStore.Reads`: what is found in a directory.
* `FileStore.Prepared`, `FileStore.Awaiting`: a directory that can be opened, at once or once it is
  made.
* `FileStore.Elsewhere`: what others may do to the disk, without touching the directory.
* `FileStore.open_of_prepared`, `FileStore.open_of_held`: whether it is opened is up to the lock.
-/
import SubscriptionRegistry.Proofs.File.Refinement

namespace SubscriptionRegistry
namespace FileStore

open Disk (Apart)

/-! ## 1. The directory -/

section

variable (paths : String → Prop) (directory : Place) (t : Table String Metadata) (d d' : Disk)

/-- The paths by which a directory is opened.  The file to be locked can be asked for behind all of
them, and the data file behind all of them or behind none: a path may be too long for that. -/
structure Spellings : Prop where
  lockShort : ∀ path, paths path → ((Route.ofString path).child lockFile).isTooLong = false
  agree : ∀ path path', paths path → paths path' →
    ((Route.ofString path).child dataFile).isTooLong
      = ((Route.ofString path').child dataFile).isTooLong

/-- The identity of the file to be locked, or the one it gets when it is made. -/
def lockIdentity : Nat :=
  match d.nodes.get? (lockPlace directory) with
  | some (.file lock _) => lock
  | _ => d.nextIdentity

/-- The file to be locked is there. -/
def Marked (lock : Nat) : Prop :=
  ∃ content, d.nodes.get? (lockPlace directory) = some (.file lock content)

/-- The directory is there. -/
structure Ground : Prop where
  located : ∀ path, paths path → d.locate (Route.ofString path) = .ok directory
  isDirectory : d.node directory = .ok .directory
  lockFile : d.nodes.get? (lockPlace directory) ≠ some .directory

/-- What is read from the data file shows the same as a table. -/
def Reads : Prop :=
  ∀ path, paths path → ∃ u, readSnapshot (Route.ofString path) directory d = .ok u
    ∧ u.get? = t.get? ∧ u.All Metadata.Fits

/-- The directory is there, nobody has its lock, and its data file shows a table. -/
structure Prepared : Prop extends Ground paths directory d where
  free : lockIdentity directory d ∉ d.locks
  reads : Reads paths directory t d

/-- The directory is prepared, or will be when it is made. -/
def Awaiting : Prop :=
  ∀ path, paths path → ∃ d', provide ⟨path, true⟩ d = (.ok directory, d')
    ∧ Prepared paths directory t d'

/-- A directory is as it was: those paths that led there do, and the files in it are the same, each
locked as often. -/
structure Spared : Prop where
  located : ∀ path, paths path → d.locate (Route.ofString path) = .ok directory →
    d'.locate (Route.ofString path) = .ok directory
  isDirectory : d.node directory = .ok .directory → d'.node directory = .ok .directory
  files : ∀ name, d'.nodes.get? (directory ++ [name]) = d.nodes.get? (directory ++ [name])
  locks : ∀ name i content, d.nodes.get? (directory ++ [name]) = some (.file i content) →
    d'.locks.count i = d.locks.count i
  /-- No lock is held on a file that does not exist yet. -/
  fresh : d.nextIdentity ∉ d.locks → d'.nextIdentity ∉ d'.locks

/-- Others did not touch the directory, nor what it will be when it is made. -/
structure Elsewhere : Prop extends Spared paths directory d d' where
  made : ∀ path, paths path → ∀ d₁, provide ⟨path, true⟩ d = (.ok directory, d₁) →
    ∃ d₁', provide ⟨path, true⟩ d' = (.ok directory, d₁') ∧ Spared paths directory d₁ d₁'

end

/-! ## 2. What is kept when files change -/

section

variable {paths : String → Prop} {directory : Place} {t : Table String Metadata} {d d' : Disk}
  {places : List Place} {lock : Nat}

theorem lockIdentity_of_marked (h : Marked directory d lock) : lockIdentity directory d = lock := by
  obtain ⟨content, hlock⟩ := h
  rw [lockIdentity, hlock]

/-- Writing a snapshot does not touch the file to be locked. -/
theorem Marked.of_written (h : Marked directory d lock)
    (hapart : Apart [tempPlace directory, dataPlace directory] d d') : Marked directory d' lock := by
  obtain ⟨content, hlock⟩ := h
  refine ⟨content, (hapart.elsewhere _ ?_).trans hlock⟩
  simp [lockPlace_ne_tempPlace, lockPlace_ne_dataPlace]

/-- Making the file to be locked does not touch the data file. -/
theorem data_of_apart_lock (hapart : Apart [lockPlace directory] d d') :
    d'.nodes.get? (dataPlace directory) = d.nodes.get? (dataPlace directory) :=
  hapart.elsewhere _ (by simpa using (lockPlace_ne_dataPlace directory).symm)

theorem Ground.of_apart (h : Ground paths directory d) (hapart : Apart places d d') :
    Ground paths directory d' where
  located path hpath :=
    hapart.keeps.locate (h.located path hpath) (Disk.isDirectory_of_node h.isDirectory)
  isDirectory := hapart.keeps.node_directory h.isDirectory
  lockFile := fun hlock => h.lockFile ((hapart.directories _).mp hlock)

theorem Reads.congr (h : Reads paths directory t d) (hdir : d.node directory = .ok .directory)
    (hdir' : d'.node directory = .ok .directory)
    (hdata : d'.nodes.get? (dataPlace directory) = d.nodes.get? (dataPlace directory)) :
    Reads paths directory t d' := by
  intro path hpath
  obtain ⟨u, hread, hu⟩ := h path hpath
  exact ⟨u, (readSnapshot_of_directories hdir hdir' hdata).trans hread, hu⟩

/-- Tables that show the same are read alike. -/
theorem Reads.of_get?_eq {u : Table String Metadata} (h : Reads paths directory t d)
    (htu : t.get? = u.get?) : Reads paths directory u d := by
  intro path hpath
  obtain ⟨v, hread, hv, hrows⟩ := h path hpath
  exact ⟨v, hread, hv.trans htu, hrows⟩

/-- A snapshot that stands in the data file is what everybody reads. -/
theorem reads_of_encode (hspell : Spellings paths) (hdir : d.node directory = .ok .directory)
    {path : String} (hpath : paths path)
    (hshort : ((Route.ofString path).child dataFile).isTooLong = false) {i : Nat}
    (hdata : d.nodes.get? (dataPlace directory) = some (.file i (Snapshot.encode t)))
    (ht : Snapshot.Fits t) : Reads paths directory t d := by
  intro path' hpath'
  have hshort' : ((Route.ofString path').child dataFile).isTooLong = false :=
    (hspell.agree path' path hpath' hpath).trans hshort
  refine ⟨t.sort, ?_, t.get?_sort, ?_⟩
  · rw [readSnapshot_of_present hdir hshort' hdata, Snapshot.decode_encode ht]
  · intro key m hm
    rw [t.get?_sort] at hm
    exact ht.row key m hm

/-- One path is always fine, if the file to be locked can be asked for. -/
theorem spellings_of_eq {path : String}
    (hshort : ((Route.ofString path).child FileStore.lockFile).isTooLong = false) :
    Spellings (· = path) where
  lockShort path' hpath' := by
    rw [hpath']
    exact hshort
  agree path' path'' hpath' hpath'' := by rw [hpath', hpath'']

/-- The file to be locked can be made, and has the identity it is known by. -/
theorem Ground.create (h : Ground paths directory d) :
    ∃ disk, d.create (lockPlace directory) = .ok (lockIdentity directory d, disk)
      ∧ Marked directory disk (lockIdentity directory d)
      ∧ (∀ lock, Marked directory d lock → Marked directory disk lock) := by
  have hparent : d.checkParent (lockPlace directory) = .ok () :=
    Disk.checkParent_child_eq_ok_iff.mpr h.isDirectory
  have hcreate : ∃ disk, d.create (lockPlace directory) = .ok (lockIdentity directory d, disk) := by
    rw [Disk.create, hparent, lockIdentity]
    dsimp only
    cases hlock : d.nodes.get? (lockPlace directory) with
    | none => exact ⟨_, rfl⟩
    | some n =>
      cases n with
      | directory => exact absurd hlock h.lockFile
      | file lock content => exact ⟨_, rfl⟩
  obtain ⟨disk, hdisk⟩ := hcreate
  have hmarked : Marked directory disk (lockIdentity directory d) := by
    refine ⟨[], ?_⟩
    rw [(Disk.create_eq_ok hdisk).2.2.1, Table.get?_insert, if_pos rfl]
  refine ⟨disk, hdisk, hmarked, fun lock hlock => ?_⟩
  rw [← lockIdentity_of_marked hlock]
  exact hmarked

theorem Ground.makeLock (h : Ground paths directory d) (hspell : Spellings paths) {path : String}
    (hpath : paths path) :
    ∃ disk, makeLock (Route.ofString path) directory d = .ok (lockIdentity directory d, disk)
      ∧ d.create (lockPlace directory) = .ok (lockIdentity directory d, disk) := by
  obtain ⟨disk, hcreate, -⟩ := h.create
  refine ⟨disk, ?_, hcreate⟩
  rw [FileStore.makeLock, hspell.lockShort path hpath, if_neg Bool.false_ne_true, ← lockPlace, hcreate]
  rfl

theorem Ground.provide (h : Ground paths directory d) {config : FileConfig}
    (hpath : paths config.path) : provide config d = (.ok directory, d) := by
  rw [FileStore.provide, h.located _ hpath]

namespace Spared

theorem ground (h : Spared paths directory d d') (hd : Ground paths directory d) :
    Ground paths directory d' where
  located path hpath := h.located path hpath (hd.located path hpath)
  isDirectory := h.isDirectory hd.isDirectory
  lockFile := by
    rw [lockPlace, h.files]
    exact hd.lockFile

theorem marked (h : Spared paths directory d d') (hd : Marked directory d lock) :
    Marked directory d' lock := by
  obtain ⟨content, hlock⟩ := hd
  exact ⟨content, (h.files lockFile).trans hlock⟩

theorem reads (h : Spared paths directory d d') (hdir : d.node directory = .ok .directory)
    (hd : Reads paths directory t d) : Reads paths directory t d' :=
  hd.congr hdir (h.isDirectory hdir) (h.files dataFile)

/-- The file to be locked is locked as often as before; one that is not there is not locked. -/
theorem count (h : Spared paths directory d d') {n : Nat}
    (hmarked : n ≠ 0 → ∃ lock, Marked directory d lock)
    (hd : d.locks.count (lockIdentity directory d) = n) :
    d'.locks.count (lockIdentity directory d') = n := by
  have hfile : d'.nodes.get? (lockPlace directory) = d.nodes.get? (lockPlace directory) :=
    h.files lockFile
  by_cases hthere : ∃ lock, Marked directory d lock
  · obtain ⟨lock, hlock⟩ := hthere
    rw [lockIdentity_of_marked (h.marked hlock)]
    rw [lockIdentity_of_marked hlock] at hd
    obtain ⟨content, hlock⟩ := hlock
    exact (h.locks lockFile lock content hlock).trans hd
  · obtain rfl : n = 0 := Classical.byContradiction fun hn => hthere (hmarked hn)
    have hnext : ∀ d₁ : Disk, d₁.nodes.get? (lockPlace directory) = d.nodes.get? (lockPlace directory) →
        lockIdentity directory d₁ = d₁.nextIdentity := by
      intro d₁ hd₁
      rw [lockIdentity]
      split
      · rename_i lock content hlock
        exact absurd ⟨lock, content, hd₁.symm.trans hlock⟩ hthere
      · rfl
    rw [hnext d rfl, List.count_eq_zero] at hd
    rw [hnext d' hfile, List.count_eq_zero]
    exact h.fresh hd

theorem prepared (h : Spared paths directory d d') (hd : Prepared paths directory t d) :
    Prepared paths directory t d' where
  toGround := h.ground hd.toGround
  free := by
    have hcount := h.count (n := 0) (fun hn => absurd rfl hn) (List.count_eq_zero.mpr hd.free)
    exact List.count_eq_zero.mp hcount
  reads := h.reads hd.isDirectory hd.reads

end Spared

/-- A directory that is there, or may be made, is found prepared. -/
theorem Awaiting.provide_of (h : Awaiting paths directory t d) {config : FileConfig}
    (hpath : paths config.path)
    (hthere : config.createIfMissing ∨ d.locate (Route.ofString config.path) = .ok directory) :
    ∃ d', provide config d = (.ok directory, d') ∧ Prepared paths directory t d' := by
  obtain ⟨path, createIfMissing⟩ := config
  obtain ⟨d', hmade, hprepared⟩ := h path hpath
  rcases hthere with hmay | hlocate
  · obtain rfl : createIfMissing = true := hmay
    exact ⟨d', hmade, hprepared⟩
  · have hlocate' : d.locate (Route.ofString path) = .ok directory := hlocate
    rw [provide, hlocate'] at hmade
    cases hmade
    exact ⟨d, by rw [provide, hlocate'], hprepared⟩

/-- Somebody who asks for the directory finds it prepared, or it is missing and may not be made. -/
theorem Awaiting.provide_cases (h : Awaiting paths directory t d) {config : FileConfig}
    (hpath : paths config.path) :
    (∃ e, provide config d = (.error e, d))
      ∨ ∃ d', provide config d = (.ok directory, d') ∧ Prepared paths directory t d' := by
  cases hmay : config.createIfMissing with
  | true => exact .inr (h.provide_of hpath (.inl hmay))
  | false =>
    cases hlocate : d.locate (Route.ofString config.path) with
    | error e => exact .inl ⟨_, by rw [provide, hlocate, hmay]; rfl⟩
    | ok place =>
      obtain ⟨d', hmade, -⟩ := h config.path hpath
      rw [provide, hlocate] at hmade
      cases hmade
      exact .inr (h.provide_of hpath (.inr hlocate))

theorem Elsewhere.awaiting (h : Elsewhere paths directory d d')
    (hd : Awaiting paths directory t d) : Awaiting paths directory t d' := by
  intro path hpath
  obtain ⟨d₁, hprovide, hprepared⟩ := hd path hpath
  obtain ⟨d₁', hprovide', hspared⟩ := h.made path hpath d₁ hprovide
  exact ⟨d₁', hprovide', hspared.prepared hprepared⟩

end

/-! ## 3. Opening -/

section

variable {paths : String → Prop} {directory : Place} {t : Table String Metadata} {dev : Device}
  {disk : Disk} {config : FileConfig}

/-- A directory whose lock is free is opened, with the table that its data file shows. -/
theorem open_of_prepared (hspell : Spellings paths) (hpath : paths config.path)
    (hprovide : provide config dev.disk = (.ok directory, disk))
    (h : Prepared paths directory t disk) :
    ∃ s device, FileStore.open config dev = (.ok s, device) ∧ s.entries.get? = t.get? := by
  obtain ⟨disk', hmake, hcreate⟩ := h.toGround.makeLock hspell hpath
  have hlocks : disk'.locks = disk.locks := (Disk.create_eq_ok hcreate).2.2.2
  have htake : disk'.lock? (lockIdentity directory disk)
      = some { disk' with locks := lockIdentity directory disk :: disk'.locks } := by
    rw [Disk.lock?, hlocks, if_neg (by simpa using h.free)]
  have hapart := apart_of_taken hcreate
  obtain ⟨u, hread, hget, -⟩ := h.reads.congr h.isDirectory (h.toGround.of_apart hapart).isDirectory
    (data_of_apart_lock hapart) _ hpath
  refine ⟨⟨config.path, lockIdentity directory disk, u⟩,
    { dev with disk := { disk' with locks := lockIdentity directory disk :: disk'.locks } }, ?_, hget⟩
  rw [FileStore.open, hprovide]
  dsimp only
  rw [hmake]
  dsimp only
  rw [htake]
  dsimp only
  rw [hread]

/-- A directory whose lock is held is not opened. -/
theorem open_of_held (hspell : Spellings paths) (hpath : paths config.path)
    (h : Ground paths directory dev.disk)
    (hheld : lockIdentity directory dev.disk ∈ dev.disk.locks) :
    ∃ disk, FileStore.open config dev = (.error .locked, { dev with disk })
      ∧ Apart [lockPlace directory] dev.disk disk ∧ disk.locks = dev.disk.locks := by
  obtain ⟨disk, hmake, hcreate⟩ := h.makeLock hspell hpath
  have hlocks : disk.locks = dev.disk.locks := (Disk.create_eq_ok hcreate).2.2.2
  have htaken : disk.lock? (lockIdentity directory dev.disk) = none := by
    rw [Disk.lock?, hlocks, if_pos (by simpa using hheld)]
  refine ⟨disk, ?_, Disk.create_apart hcreate, hlocks⟩
  rw [FileStore.open, h.provide hpath]
  dsimp only
  rw [hmake]
  dsimp only
  rw [htaken]

end

end FileStore
end SubscriptionRegistry
