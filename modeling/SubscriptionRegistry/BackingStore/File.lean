/-
# A backing store in a file

All metadata stands in one snapshot, which is written anew at every change: to a file of its
own that is then moved in the place of the old snapshot.  The table is kept in memory as well,
and a change that cannot be written is undone there.  A lock on a file in the same directory
keeps other stores out.

* `FileStore.open`, `FileStore.close`: take and give back the directory.
* `FileStore.plan`: the steps in which a table is written.
* `FileStore.insert`, `FileStore.delete`: changes in memory that are written, or undone.
* `FileStore.get?_restore`: a change that is undone was none.
-/
import SubscriptionRegistry.BackingStore
import SubscriptionRegistry.Config
import SubscriptionRegistry.Disk.Route
import SubscriptionRegistry.Snapshot

namespace SubscriptionRegistry

/-! ## 1. A disk that may fail -/

/-- A step that goes wrong: with what fault, and how much of what it writes gets through. -/
structure Mishap where
  fault : IoFault
  written : Nat
deriving DecidableEq, Repr

/-- A disk, and what goes wrong with the next steps of writing snapshots, in order. -/
structure Device where
  disk : Disk
  mishaps : List (Option Mishap)

/-- One step of writing a snapshot. -/
inductive WriteStep
  /-- Make or empty a file. -/
  | start (file : Place)
  /-- Write behind what is in it. -/
  | append (file : Place) (bytes : Bytes)
  /-- Wait until all of it is on the disk. -/
  | sync (file : Place)
  /-- Move it to its final name. -/
  | publish (file target : Place)
deriving DecidableEq, Repr

namespace WriteStep

/-- What a step does if nothing goes wrong. -/
def run (d : Disk) : WriteStep → Except IoFault Disk
  | start file => (d.create file).map Prod.snd
  | append file bytes => d.append file bytes
  | sync _ => .ok d
  | publish file target => d.rename file target

/-- What is left of a step that goes wrong: the part of the bytes that gets through. -/
def runPartly (written : Nat) (d : Disk) : WriteStep → Disk
  | append file bytes =>
    match d.append file (bytes.take written) with
    | .ok d => d
    | .error _ => d
  | _ => d

end WriteStep

namespace Device

/-- A disk on which nothing goes wrong. -/
def sound (disk : Disk) : Device := ⟨disk, []⟩

/-- Does one step. -/
def perform (step : WriteStep) (dev : Device) : Except IoFault Unit × Device :=
  match dev.mishaps with
  | some mishap :: rest =>
    (.error mishap.fault, ⟨step.runPartly mishap.written dev.disk, rest⟩)
  | mishaps =>
    match step.run dev.disk with
    | .error e => (.error e, { dev with mishaps := mishaps.tail })
    | .ok disk => (.ok (), ⟨disk, mishaps.tail⟩)

/-- Does some steps, up to the first that fails. -/
def performAll : List WriteStep → Device → Except IoFault Unit × Device
  | [], dev => (.ok (), dev)
  | step :: rest, dev =>
    match dev.perform step with
    | (.error e, dev) => (.error e, dev)
    | (.ok (), dev) => performAll rest dev

end Device

/-! ## 2. The store -/

/-- An open store: its directory, the lock that it holds, and the table. -/
structure FileStore where
  path : String
  lock : Nat
  entries : Table String Metadata

namespace FileStore

/-- The file that holds the snapshot. -/
def dataFile : String := "subscriptions.bin"

/-- The file that a snapshot is written to. -/
def tempFile : String := "subscriptions.bin.tmp"

/-- The file that is locked. -/
def lockFile : String := "LOCK"

/-- The steps in which a table is written to a directory. -/
def plan (directory : Place) (entries : Table String Metadata) : List WriteStep :=
  let temp := directory ++ [tempFile]
  let parts := Snapshot.parts (Metadata.encodeTable entries)
  .start temp :: parts.map (.append temp)
    ++ [.sync temp, .publish temp (directory ++ [dataFile])]

/-- Writes a table to the directory that a path leads to. -/
def writeSnapshot (path : String) (entries : Table String Metadata) (dev : Device) :
    Except StoreError Unit × Device :=
  let route := Route.ofString path
  if (route.child tempFile).isTooLong then (.error (.io .nameTooLong), dev)
  else
    match dev.disk.locate route with
    | .error e => (.error (.io e), dev)
    | .ok directory =>
      match dev.performAll (plan directory entries) with
      | (.error e, dev) => (.error (.io e), dev)
      | (.ok (), dev) => (.ok (), dev)

/-- The table in the directory that a route leads to; none is there before the first write. -/
def readSnapshot (route : Route) (directory : Place) (d : Disk) :
    Except StoreError (Table String Metadata) :=
  let file := directory ++ [dataFile]
  if !(route.child dataFile).isTooLong && d.exists? file then
    match d.read file with
    | .error e => .error (.io e)
    | .ok bytes => Snapshot.decode bytes
  else .ok .empty

/-- The directory itself, made if it is missing and may be made. -/
def provide (config : FileConfig) (d : Disk) : Except StoreError Place × Disk :=
  let route := Route.ofString config.path
  match d.locate route with
  | .ok directory => (.ok directory, d)
  | .error _ =>
    if !config.createIfMissing then (.error (.io (.directoryMissing config.path)), d)
    else
      match d.makeAll route with
      | (.error e, d) => (.error (.io e), d)
      | (.ok directory, d) => (.ok directory, d)

/-- Makes the file that is locked, or empties it, and gives its identity. -/
def makeLock (route : Route) (directory : Place) (d : Disk) : Except StoreError (Nat × Disk) :=
  if (route.child lockFile).isTooLong then .error (.io .nameTooLong)
  else (d.create (directory ++ [lockFile])).mapError .io

/-- Opens a directory: takes its lock and reads its table.  If the table cannot be read the
lock is given back. -/
def «open» (config : FileConfig) (dev : Device) : Except StoreError FileStore × Device :=
  match provide config dev.disk with
  | (.error e, disk) => (.error e, { dev with disk })
  | (.ok directory, disk) =>
    let route := Route.ofString config.path
    match makeLock route directory disk with
    | .error e => (.error e, { dev with disk })
    | .ok (lock, disk) =>
      match disk.lock? lock with
      | none => (.error .locked, { dev with disk })
      | some disk =>
        match readSnapshot route directory disk with
        | .error e => (.error e, { dev with disk := disk.unlock lock })
        | .ok entries => (.ok ⟨config.path, lock, entries⟩, { dev with disk })

/-- Gives the lock back. -/
def close (s : FileStore) (dev : Device) : Device := { dev with disk := dev.disk.unlock s.lock }

/-- The number of entries. -/
def size (s : FileStore) : Nat := s.entries.size

def isEmpty (s : FileStore) : Bool := s.entries.isEmpty

/-- Puts back what stood under an id, or that nothing did. -/
def restore (id : String) (previous : Option Metadata) (s : FileStore) : FileStore :=
  match previous with
  | some m => { s with entries := s.entries.insert id m }
  | none => { s with entries := s.entries.erase id }

@[simp] theorem path_restore (id : String) (previous : Option Metadata) (s : FileStore) :
    (s.restore id previous).path = s.path := by
  cases previous <;> rfl

@[simp] theorem lock_restore (id : String) (previous : Option Metadata) (s : FileStore) :
    (s.restore id previous).lock = s.lock := by
  cases previous <;> rfl

/-- **Undoing a change restores the table**: where it was changed under one id only, and what stood
there is put back, whether something else stands there now or nothing does. -/
theorem get?_restore {id : String} {s : FileStore} {before : Table String Metadata}
    (h : ∀ key, key ≠ id → s.entries.get? key = before.get? key) :
    (s.restore id (before.get? id)).entries.get? = before.get? := by
  funext key
  unfold restore
  split
  · rename_i m hm
    rw [Table.get?_insert]
    split
    · rename_i hkey
      rw [hkey, hm]
    · rename_i hkey
      exact h key hkey
  · rename_i hnone
    rw [Table.get?_erase]
    split
    · rename_i hkey
      rw [hkey, hnone]
    · rename_i hkey
      exact h key hkey

/-- Has the table written as it is in memory after a change under an id.  If that fails the change
is undone: what stood there before is put back. -/
def commit (id : String) (previous : Option Metadata) (s : FileStore) (dev : Device) :
    Except StoreError Unit × FileStore × Device :=
  match writeSnapshot s.path s.entries dev with
  | (.error e, dev) => (.error e, s.restore id previous, dev)
  | (.ok (), dev) => (.ok (), s, dev)

/-- Stores metadata under its id.  What is stored already is not written again. -/
def insert (m : Metadata) (s : FileStore) (dev : Device) :
    Except StoreError Unit × FileStore × Device :=
  if s.entries.get? m.id = some m then (.ok (), s, dev)
  else
    commit m.id (s.entries.get? m.id) { s with entries := s.entries.insert m.id m } dev

/-- Removes what is stored under an id.  If nothing is, nothing is written. -/
def delete (id : String) (s : FileStore) (dev : Device) :
    Except StoreError Unit × FileStore × Device :=
  match s.entries.get? id with
  | none => (.ok (), s, dev)
  | some previous => commit id (some previous) { s with entries := s.entries.erase id } dev

end FileStore

/-! ## 3. As a backing store -/

/-- An open store together with the device that it is on. -/
structure Mounted where
  store : FileStore
  device : Device

instance : BackingStore Mounted where
  insert m b :=
    match b.store.insert m b.device with
    | (outcome, store, device) => (outcome, ⟨store, device⟩)
  delete id b :=
    match b.store.delete id b.device with
    | (outcome, store, device) => (outcome, ⟨store, device⟩)
  list b := (.ok b.store.entries, b)

end SubscriptionRegistry
