/-
# Records of texts in MessagePack

A record is a map from field names to texts, in any order and among pairs that are passed
over, or a list of the texts in the order of the fields.  A field may also be named by its
number.
-/
import SubscriptionRegistry.MessagePack.Head

namespace SubscriptionRegistry
namespace MessagePack

/-- The nesting that is too deep. -/
def maxDepth : Nat := 1024

/-- A record by its name in error texts and the names of its fields in order. -/
structure Shape where
  name : String
  fields : List String

/-- The fields that were found. -/
abbrev Fields := List (String × String)

/-- A map with the fields in the given order. -/
def encodeRecord (fields : Fields) : Bytes :=
  mapHead fields.length ++ fields.flatMap fun f => encodeText f.1 ++ encodeText f.2

/-- The field that a text names. -/
def Shape.named? (s : Shape) (bytes : Bytes) : Option String :=
  match Utf8.decode bytes with
  | .error _ => none
  | .ok name => s.fields.find? fun f => f = String.ofList name

/-- The key of a pair: the field that it names, or nothing if it names none. -/
def readKey (s : Shape) (b : Bytes) : Reading (Option String) :=
  match Head.read b with
  | .error e => .error e
  | .ok (.natural n, rest) => .ok (s.fields[n]?, rest)
  | .ok (.text n, rest) =>
    match readBytes n rest with
    | .error e => .error e
    | .ok (bytes, rest) => .ok (s.named? bytes, rest)
  | .ok (.bytes n, rest) =>
    match readBytes n rest with
    | .error e => .error e
    | .ok (bytes, rest) => .ok (s.named? bytes, rest)
  | .ok (head, rest) => .error (mismatch "field identifier" head rest)

/-- The next `n` pairs of a map. -/
def readPairs (s : Shape) (budget : Nat) : (n : Nat) → Fields → Bytes → Reading Fields
  | 0, found, b => .ok (found, b)
  | n + 1, found, b =>
    match readKey s b with
    | .error e => .error e
    | .ok (none, b) =>
      match skip budget b with
      | .error e => .error e
      | .ok b => readPairs s budget n found b
    | .ok (some name, b) =>
      if (found.lookup name).isSome then .error (.duplicateField name)
      else
        match readText b with
        | .error e => .error e
        | .ok (value, b) => readPairs s budget n (found ++ [(name, value)]) b

/-- The fault of a list that ends before all fields have an element. -/
def Shape.tooShort (s : Shape) (length : Nat) : Fault :=
  .invalidLength length
    ("struct " ++ s.name ++ " with " ++ toString s.fields.length ++ " elements")

/-- The elements of a list of `length`, for the fields that are left. -/
def readElements (s : Shape) (length : Nat) : List String → Fields → Bytes → Reading Fields
  | [], found, b => if found.length < length then .error (.tooLong found.length) else .ok (found, b)
  | name :: more, found, b =>
    if found.length = length then .error (s.tooShort length)
    else
      match readText b with
      | .error e => .error e
      | .ok (value, b) => readElements s length more (found ++ [(name, value)]) b

/-- A byte string in the place of a record is the list of its bytes, and none of them is a
text. -/
def byteElements (s : Shape) (n : Nat) (b : Bytes) : Fault :=
  match readBytes n b with
  | .error e => e
  | .ok ([], _) => s.tooShort 0
  | .ok (byte :: _, _) => .invalidType (.integer byte.toNat) "a string"

/-- A record, all of whose fields must be there. -/
def readRecord (s : Shape) (budget : Nat) (b : Bytes) : Reading Fields :=
  match Head.read b with
  | .error e => .error e
  | .ok (.map n, rest) =>
    match readPairs s budget n [] rest with
    | .error e => .error e
    | .ok (found, rest) =>
      match s.fields.find? fun f => (found.lookup f).isNone with
      | some name => .error (.missingField name)
      | none => .ok (found, rest)
  | .ok (.list n, rest) => readElements s n s.fields [] rest
  | .ok (.bytes n, rest) => .error (byteElements s n rest)
  | .ok (head, rest) => .error (mismatch ("struct " ++ s.name) head rest)

end MessagePack
end SubscriptionRegistry
