/-
# A disk

A tree of directories and files, as far as a store of snapshots can see it.  A file has an
identity that survives a change of its content and of its name; a lock is held on the identity.
Names are walked from the top, and what stands in the way is a fault.

* `Disk.create`, `Disk.append`, `Disk.read`, `Disk.rename`: files.
* `Disk.names`, `Disk.remove`: directories.
* `Disk.lock?`, `Disk.unlock`: locks.
-/
import SubscriptionRegistry.Bytes
import SubscriptionRegistry.Error
import SubscriptionRegistry.Table

namespace SubscriptionRegistry

/-- A place in the tree: the names from the top down to it. -/
abbrev Place := List String

/-- What stands at a place. -/
inductive Node
  | directory
  | file (identity : Nat) (content : Bytes)
deriving DecidableEq, Repr

/-- The nodes by place, the identities whose lock is held, and the next identity. -/
structure Disk where
  nodes : Table Place Node
  locks : List Nat
  nextIdentity : Nat

namespace Disk

/-- Nothing on it. -/
def empty : Disk := ⟨.empty, [], 0⟩

/-! ## 1. Looking -/

/-- Walks on from `seen`, which is a directory. -/
def walk (d : Disk) (seen : Place) : Place → Except IoFault Node
  | [] => .ok .directory
  | name :: rest =>
    match d.nodes.get? (seen ++ [name]) with
    | none => .error .notFound
    | some .directory => walk d (seen ++ [name]) rest
    | some (.file identity content) =>
      if rest.isEmpty then .ok (.file identity content) else .error .notADirectory

/-- What stands at a place. -/
def node (d : Disk) (p : Place) : Except IoFault Node := d.walk [] p

/-- Whether something stands at a place. -/
def exists? (d : Disk) (p : Place) : Bool :=
  match d.node p with
  | .ok _ => true
  | .error _ => false

/-- The content of a file. -/
def read (d : Disk) (p : Place) : Except IoFault Bytes :=
  match d.node p with
  | .error e => .error e
  | .ok .directory => .error .isADirectory
  | .ok (.file _ content) => .ok content

/-- The names in a directory, in rising order. -/
def names (d : Disk) (p : Place) : Except IoFault (List String) :=
  match d.node p with
  | .error e => .error e
  | .ok (.file _ _) => .error .notADirectory
  | .ok .directory =>
    let inside := d.nodes.keys.filterMap fun q =>
      if q.length = p.length + 1 && q.take p.length = p then q.getLast? else none
    .ok (inside.mergeSort fun a b => a ≤ b)

/-! ## 2. Files -/

/-- The directory that a place has to be in is there. -/
def checkParent (d : Disk) (p : Place) : Except IoFault Unit :=
  match d.node p.dropLast with
  | .error e => .error e
  | .ok (.file _ _) => .error .notADirectory
  | .ok .directory => .ok ()

/-- Opens a file for writing: makes it, or empties it if it is there.  With the disk comes its
identity. -/
def create (p : Place) (d : Disk) : Except IoFault (Nat × Disk) :=
  match d.checkParent p with
  | .error e => .error e
  | .ok () =>
    match d.nodes.get? p with
    | some .directory => .error .isADirectory
    | some (.file identity _) =>
      .ok (identity, { d with nodes := d.nodes.insert p (.file identity []) })
    | none =>
      .ok (d.nextIdentity,
        { d with nodes := d.nodes.insert p (.file d.nextIdentity [])
                 nextIdentity := d.nextIdentity + 1 })

/-- Writes behind the content of a file. -/
def append (p : Place) (bytes : Bytes) (d : Disk) : Except IoFault Disk :=
  match d.node p with
  | .error e => .error e
  | .ok .directory => .error .isADirectory
  | .ok (.file identity content) =>
    .ok { d with nodes := d.nodes.insert p (.file identity (content ++ bytes)) }

/-- Moves a file to another name, in one step; a file that is there is gone. -/
def rename (source target : Place) (d : Disk) : Except IoFault Disk :=
  match d.read source, d.node source, d.checkParent target with
  | .error e, _, _ | _, .error e, _ | _, _, .error e => .error e
  | .ok _, .ok file, .ok () =>
    if d.nodes.get? target = some .directory then .error .isADirectory
    else .ok { d with nodes := (d.nodes.erase source).insert target file }

/-! ## 3. Directories -/

/-- Takes away a file, or a directory and all in it. -/
def remove (p : Place) (d : Disk) : Except IoFault Disk :=
  match d.node p with
  | .error e => .error e
  | .ok _ =>
    let gone := d.nodes.keys.filter fun q => q.take p.length = p
    .ok { d with nodes := gone.foldl Table.erase d.nodes }

/-! ## 4. Locks -/

/-- Takes the lock of a file, unless it is held. -/
def lock? (identity : Nat) (d : Disk) : Option Disk :=
  if d.locks.contains identity then none else some { d with locks := identity :: d.locks }

/-- Gives a lock back. -/
def unlock (identity : Nat) (d : Disk) : Disk := { d with locks := d.locks.erase identity }

end Disk
end SubscriptionRegistry
