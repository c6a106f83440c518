/-
# Routes over a disk

A path as a disk is asked for it: step by step from the top, each step a name, `.` to stay or
`..` to go up.  A step can only be taken from a directory that is there.  A slash behind the
last step asks for a directory as well.  Names and whole paths have a length that they may not
go beyond.

* `Route.parent`, `Route.child`: the directory above, a name below.
* `Disk.locate`: the place that a route leads to.
* `Disk.vacancy`: the place that a new name would get.
* `Disk.makeAll`: makes a directory and those above it that are missing.
* `Disk.readAt`, `Disk.namesAt`, `Disk.writeAt`, `Disk.removeAt`: what is at the end of a route.
-/
import SubscriptionRegistry.Disk
import SubscriptionRegistry.Text.Split

namespace SubscriptionRegistry

/-! ## 1. Routes -/

/-- The pieces of a path between its slashes, blank ones included. -/
structure Route where
  pieces : List String
deriving DecidableEq, Repr

namespace Route

/-- The route that a text describes. -/
def ofString (s : String) : Route := ⟨(Text.split '/' s.toList).map String.ofList⟩

/-- What is walked: blank pieces are no steps. -/
def steps (r : Route) : List String := r.pieces.filter (· ≠ "")

/-- Whether a slash stands behind the last step. -/
def slashed (r : Route) : Bool := r.pieces.getLast? = some ""

/-- The bytes of the path, slashes included. -/
def length (r : Route) : Nat :=
  r.pieces.foldr (fun piece n => piece.utf8ByteSize + n) 0 + (r.pieces.length - 1)

/-- The bytes that a path has to stay below. -/
def lengthLimit : Nat := 4096

/-- Whether no disk can be asked for it, however short its way is. -/
def isTooLong (r : Route) : Bool := lengthLimit ≤ r.length

/-- Whether no disk can be asked for it: a zero character ends a name. -/
def hasZero (r : Route) : Bool := r.steps.any fun step => step.toList.contains '\x00'

/-- Pieces without those at the end that go nowhere. -/
def dropIdle (pieces : List String) : List String :=
  (pieces.reverse.dropWhile fun piece => piece = "" || piece = ".").reverse

/-- The route to the directory above, in which the last step that goes somewhere is left out. -/
def parent (r : Route) : Route := ⟨dropIdle (dropIdle r.pieces).dropLast⟩

/-- The route to a name in the directory at the end. -/
def child (r : Route) (name : String) : Route :=
  ⟨(if r.slashed then r.pieces.dropLast else r.pieces) ++ [name]⟩

/-- Whether the last step is a name. -/
def endsInName (r : Route) : Bool := r.steps.getLast?.any fun step => step ≠ "." && step ≠ ".."

end Route

namespace Disk

/-! ## 2. Places of routes -/

/-- The most bytes that a name may have. -/
def maxName : Nat := 255

/-- Whether a directory is at a place. -/
def isDirectory (d : Disk) (p : Place) : Bool := p.isEmpty || d.nodes.get? p = some .directory

/-- Takes steps from the directory `here`. -/
def follow (d : Disk) (here : Place) : List String → Except IoFault Place
  | [] => .ok here
  | step :: rest =>
    if step = "." then d.follow here rest
    else if step = ".." then d.follow here.dropLast rest
    else if maxName < step.utf8ByteSize then .error .nameTooLong
    else
      match d.nodes.get? (here ++ [step]) with
      | none => .error .notFound
      | some .directory => d.follow (here ++ [step]) rest
      | some (.file _ _) => if rest.isEmpty then .ok (here ++ [step]) else .error .notADirectory

/-- The place that a route leads to; something is there. -/
def locate (d : Disk) (r : Route) : Except IoFault Place :=
  if r.hasZero then .error .zeroInName
  else if r.isTooLong then .error .nameTooLong
  else
    match d.follow [] r.steps with
    | .error e => .error e
    | .ok p => if r.slashed && !d.isDirectory p then .error .notADirectory else .ok p

/-- The place of the name that a route ends in, whether or not something is there; none if it
ends in another step. -/
def vacancy (d : Disk) (r : Route) : Except IoFault (Option Place) :=
  if r.hasZero then .error .zeroInName
  else if r.isTooLong then .error .nameTooLong
  else
    match d.follow [] r.steps.dropLast with
    | .error e => .error e
    | .ok above =>
      match r.steps.getLast? with
      | some name =>
        if !d.isDirectory above then .error .notADirectory
        else if !r.endsInName then .ok none
        else if maxName < name.utf8ByteSize then .error .nameTooLong
        else .ok (some (above ++ [name]))
      | none => .ok none

/-! ## 3. Making directories -/

/-- Makes a directory in one that is there, unless something is at its place. -/
def make (r : Route) (d : Disk) : Except IoFault (Place × Disk) :=
  match d.vacancy r with
  | .error e => .error e
  | .ok none => .error .alreadyExists
  | .ok (some p) =>
    if d.nodes.contains p then .error .alreadyExists
    else .ok (p, { d with nodes := d.nodes.insert p .directory })

/-- Makes a directory, or finds it made. -/
def ensure (r : Route) (d : Disk) : Except IoFault (Place × Disk) :=
  match d.make r with
  | .ok made => .ok made
  | .error e =>
    match d.locate r with
    | .ok p => if d.isDirectory p then .ok (p, d) else .error e
    | .error _ => .error e

/-- Makes a directory, and up to `height` above it if they are missing.  What is made on the way
stays if it cannot be completed. -/
def makeUpTo : Nat → Route → Disk → Except IoFault Place × Disk
  | 0, r, d =>
    match d.ensure r with
    | .ok (p, d) => (.ok p, d)
    | .error e => (.error e, d)
  | height + 1, r, d =>
    match d.ensure r with
    | .ok (p, d) => (.ok p, d)
    | .error .notFound =>
      match d.makeUpTo height r.parent with
      | (.error e, d) => (.error e, d)
      | (.ok _, d) =>
        match d.ensure r with
        | .ok (p, d) => (.ok p, d)
        | .error e => (.error e, d)
    | .error e => (.error e, d)

/-- Makes a directory and all above it that are missing. -/
def makeAll (r : Route) (d : Disk) : Except IoFault Place × Disk := d.makeUpTo r.steps.length r

/-! ## 4. At the end of a route -/

/-- The content of a file. -/
def readAt (d : Disk) (r : Route) : Except IoFault Bytes := (d.locate r).bind d.read

/-- The names in a directory, in rising order. -/
def namesAt (d : Disk) (r : Route) : Except IoFault (List String) := (d.locate r).bind d.names

/-- Opens a file for writing, and makes it if it is missing. -/
def createAt (r : Route) (d : Disk) : Except IoFault (Place × Disk) :=
  match d.vacancy r with
  | .error e => .error e
  | .ok none => .error .isADirectory
  | .ok (some p) =>
    if r.slashed then .error .isADirectory else (d.create p).map fun made => (p, made.2)

/-- Writes a file anew, and makes its directory, which stays if the file cannot be written. -/
def writeAt (r : Route) (bytes : Bytes) (d : Disk) : Except IoFault Unit × Disk :=
  match d.makeAll r.parent with
  | (.error e, d) => (.error e, d)
  | (.ok _, d) =>
    match (d.createAt r).bind fun (p, d) => d.append p bytes with
    | .error e => (.error e, d)
    | .ok d => (.ok (), d)

/-- Takes away a file, or a directory and all in it.  A directory that the last step does not
name is emptied and stays. -/
def removeAt (r : Route) (d : Disk) : Except IoFault Unit × Disk :=
  match d.locate r with
  | .error e => (.error e, d)
  | .ok p =>
    if r.endsInName then
      match d.remove p with
      | .error e => (.error e, d)
      | .ok d => (.ok (), d)
    else
      let inside := ((d.names p).toOption.getD []).map fun name => p ++ [name]
      (.error .isADirectory, inside.foldl (fun d q => (d.remove q).toOption.getD d) d)

end Disk
end SubscriptionRegistry
