/-
# MessagePack, one item at a time

An item starts with a head that says what it is and how long.  Numbers stand in the head
itself; a text, a byte string or an extension is followed by its bytes, a list or a map by its
elements.

* `Head.read`: the head at the front of some bytes.
* `textHead`, `mapHead`: the shortest heads of texts and maps.
-/
import SubscriptionRegistry.Bytes
import SubscriptionRegistry.Text.Utf8
import SubscriptionRegistry.Text.Quoted
import SubscriptionRegistry.Decimal.Numeral

namespace SubscriptionRegistry
namespace MessagePack

/-! ## 1. Faults -/

/-- An item that stands where another kind of item is expected. -/
inductive Unexpected
  | nil
  | flag (b : Bool)
  | integer (n : Int)
  /-- A binary fraction, given by its 64 bits. -/
  | floating (bits : UInt64)
  | text (s : String)
  | bytes
  | list
  | map
  | extension
deriving DecidableEq, Repr

/-- The item as error texts show it. -/
def Unexpected.describe : Unexpected → String
  | .nil => "unit value"
  | .flag b => "boolean \x60" ++ toString b ++ "\x60"
  | .integer n => "integer \x60" ++ toString n ++ "\x60"
  | .floating bits => "floating point \x60" ++ Decimal.Notation.plain.text bits ++ "\x60"
  | .text s => "string " ++ Text.quote s
  | .bytes => "byte array"
  | .list => "sequence"
  | .map => "map"
  | .extension => "newtype struct"

/-- What is wrong with some bytes. -/
inductive Fault
  /-- An item is missing. -/
  | eofInMarker
  /-- A length or a number is cut short. -/
  | eofInNumber
  /-- The bytes of a text are cut short. -/
  | eofInBytes
  /-- The one byte that starts no item. -/
  | reserved
  /-- A list has more elements than the `wanted` ones. -/
  | tooLong (wanted : Nat)
  /-- Items are nested too deep. -/
  | tooDeep
  | notUtf8 (fault : Utf8.Fault)
  | invalidType (found : Unexpected) (expected : String)
  | invalidValue (found : Unexpected) (expected : String)
  | invalidLength (length : Nat) (expected : String)
  | missingField (name : String)
  | duplicateField (name : String)
  /-- The fields of a record do not make a value. -/
  | refused (text : String)
deriving DecidableEq, Repr

/-- The fault in words. -/
def Fault.message : Fault → String
  | .eofInMarker => "IO error while reading marker: failed to fill whole buffer"
  | .eofInNumber => "IO error while reading data: failed to fill whole buffer"
  | .eofInBytes => "IO error while reading data: unexpected end of file"
  | .reserved => "wrong msgpack marker Reserved"
  | .tooLong wanted => "array had incorrect length, expected " ++ toString wanted
  | .tooDeep => "depth limit exceeded"
  | .notUtf8 fault => "string found to be invalid utf8: " ++ fault.message
  | .invalidType found expected =>
    "invalid type: " ++ found.describe ++ ", expected " ++ expected
  | .invalidValue found expected =>
    "invalid value: " ++ found.describe ++ ", expected " ++ expected
  | .invalidLength length expected =>
    "invalid length " ++ toString length ++ ", expected " ++ expected
  | .missingField name => "missing field \x60" ++ name ++ "\x60"
  | .duplicateField name => "duplicate field \x60" ++ name ++ "\x60"
  | .refused text => text

/-- What a reader gives: a value and the bytes behind it. -/
abbrev Reading (α : Type) := Except Fault (α × Bytes)

/-! ## 2. Heads -/

/-- The start of an item.  Lengths count bytes, elements or pairs. -/
inductive Head
  | nil
  | flag (b : Bool)
  /-- An integer whose head has no room for a sign. -/
  | natural (n : Nat)
  /-- An integer whose head has room for a sign. -/
  | integer (n : Int)
  | floating (bits : UInt64)
  | text (length : Nat)
  | bytes (length : Nat)
  | list (length : Nat)
  | map (length : Nat)
  | extension (length : Nat)
deriving DecidableEq, Repr

/-- The number in the next `width` bytes. -/
def readNat (width : Nat) (b : Bytes) : Reading Nat :=
  match Bytes.split? width b with
  | none => .error .eofInNumber
  | some (digits, rest) => .ok (Bytes.toNatBE digits, rest)

/-- The signed number of `width` bytes. -/
def toSigned (width n : Nat) : Int :=
  if 2 * n < Nat.pow 256 width then n else (n : Int) - Nat.pow 256 width

/-- The 64 bits of the number that 32 bits stand for. -/
def widen (bits : Nat) : UInt64 := (Float32.ofBits (UInt32.ofNat bits)).toFloat.toBits

/-- What the first byte of an item tells of its head. -/
inductive Lead
  | fault (fault : Fault)
  /-- All of it. -/
  | whole (head : Head)
  /-- All but a number, which stands in the next `width` bytes. -/
  | number (width : Nat) (head : Nat → Head)

/-- What a byte tells when it comes first. -/
def lead (b : UInt8) : Lead :=
  let n := b.toNat
  if n < 0x80 then .whole (.natural n)
  else if n < 0x90 then .whole (.map (n - 0x80))
  else if n < 0xA0 then .whole (.list (n - 0x90))
  else if n < 0xC0 then .whole (.text (n - 0xA0))
  else if 0xE0 ≤ n then .whole (.integer ((n : Int) - 0x100))
  else match n with
    | 0xC0 => .whole .nil
    | 0xC1 => .fault .reserved
    | 0xC2 => .whole (.flag false)
    | 0xC3 => .whole (.flag true)
    | 0xC4 => .number 1 .bytes
    | 0xC5 => .number 2 .bytes
    | 0xC6 => .number 4 .bytes
    | 0xC7 => .number 1 .extension
    | 0xC8 => .number 2 .extension
    | 0xC9 => .number 4 .extension
    | 0xCA => .number 4 fun n => .floating (widen n)
    | 0xCB => .number 8 fun n => .floating (UInt64.ofNat n)
    | 0xCC => .number 1 .natural
    | 0xCD => .number 2 .natural
    | 0xCE => .number 4 .natural
    | 0xCF => .number 8 .natural
    | 0xD0 => .number 1 fun n => .integer (toSigned 1 n)
    | 0xD1 => .number 2 fun n => .integer (toSigned 2 n)
    | 0xD2 => .number 4 fun n => .integer (toSigned 4 n)
    | 0xD3 => .number 8 fun n => .integer (toSigned 8 n)
    | 0xD4 => .whole (.extension 1)
    | 0xD5 => .whole (.extension 2)
    | 0xD6 => .whole (.extension 4)
    | 0xD7 => .whole (.extension 8)
    | 0xD8 => .whole (.extension 16)
    | 0xD9 => .number 1 .text
    | 0xDA => .number 2 .text
    | 0xDB => .number 4 .text
    | 0xDC => .number 2 .list
    | 0xDD => .number 4 .list
    | 0xDE => .number 2 .map
    | _ => .number 4 .map

/-- The head at the front. -/
def Head.read : Bytes → Reading Head
  | [] => .error .eofInMarker
  | b :: rest =>
    match lead b with
    | .fault e => .error e
    | .whole head => .ok (head, rest)
    | .number width head =>
      match readNat width rest with
      | .error e => .error e
      | .ok (n, rest) => .ok (head n, rest)

/-- The shortest head of a text; lengths are below 2^32. -/
def textHead (length : Nat) : Bytes :=
  if length < 32 then [UInt8.ofNat (0xA0 + length)]
  else if length < 256 then 0xD9 :: Bytes.bigEndian 1 length
  else if length < 65536 then 0xDA :: Bytes.bigEndian 2 length
  else 0xDB :: Bytes.bigEndian 4 length

/-- The shortest head of a map; lengths are below 2^32. -/
def mapHead (length : Nat) : Bytes :=
  if length < 16 then [UInt8.ofNat (0x80 + length)]
  else if length < 65536 then 0xDE :: Bytes.bigEndian 2 length
  else 0xDF :: Bytes.bigEndian 4 length

/-! ## 3. Items -/

/-- A text with its head. -/
def encodeText (s : String) : Bytes :=
  let bytes := Utf8.encode s.toList
  textHead bytes.length ++ bytes

/-- The next `n` bytes. -/
def readBytes (n : Nat) (b : Bytes) : Reading Bytes :=
  match Bytes.split? n b with
  | none => .error .eofInBytes
  | some (front, rest) => .ok (front, rest)

/-- The fault of an item that is not of the expected kind, from behind its head.  A text or
byte string is read to its end first. -/
def mismatch (expected : String) (head : Head) (b : Bytes) : Fault :=
  match head with
  | .nil => .invalidType .nil expected
  | .flag b => .invalidType (.flag b) expected
  | .natural n => .invalidType (.integer n) expected
  | .integer n => .invalidType (.integer n) expected
  | .floating bits => .invalidType (.floating bits) expected
  | .list _ => .invalidType .list expected
  | .map _ => .invalidType .map expected
  | .extension _ => .invalidType .extension expected
  | .bytes n =>
    match readBytes n b with
    | .error e => e
    | .ok _ => .invalidType .bytes expected
  | .text n =>
    match readBytes n b with
    | .error e => e
    | .ok (bytes, _) =>
      match Utf8.decode bytes with
      | .error e => .notUtf8 e
      | .ok s => .invalidType (.text (String.ofList s)) expected

/-- A text, which may also be written as a byte string. -/
def readText (b : Bytes) : Reading String :=
  let expected := "a string"
  match Head.read b with
  | .error e => .error e
  | .ok (.text n, rest) =>
    match readBytes n rest with
    | .error e => .error e
    | .ok (bytes, rest) =>
      match Utf8.decode bytes with
      | .error e => .error (.notUtf8 e)
      | .ok s => .ok (String.ofList s, rest)
  | .ok (.bytes n, rest) =>
    match readBytes n rest with
    | .error e => .error e
    | .ok (bytes, rest) =>
      match Utf8.decode bytes with
      | .error _ => .error (.invalidValue .bytes expected)
      | .ok s => .ok (String.ofList s, rest)
  | .ok (head, rest) => .error (mismatch expected head rest)

/-- Past `n` bytes. -/
def skipBytes (n : Nat) (b : Bytes) : Except Fault Bytes :=
  match readBytes n b with
  | .error e => .error e
  | .ok (_, rest) => .ok rest

/-- Past `n` things that `skip` passes over. -/
def skipTimes (skip : Bytes → Except Fault Bytes) : Nat → Bytes → Except Fault Bytes
  | 0, b => .ok b
  | n + 1, b =>
    match skip b with
    | .error e => .error e
    | .ok rest => skipTimes skip n rest

/-- Past one item.  Each list, map or extension takes one from the budget, and none may take
the last. -/
def skip : (budget : Nat) → Bytes → Except Fault Bytes
  | 0, _ => .error .tooDeep
  | budget + 1, b =>
    match Head.read b with
    | .error e => .error e
    | .ok (.text n, rest) => skipBytes n rest
    | .ok (.bytes n, rest) => skipBytes n rest
    | .ok (.extension n, rest) =>
      if budget = 0 then .error .tooDeep
      else
        match rest with
        | [] => .error .eofInNumber
        | _ :: rest => skipBytes n rest
    | .ok (.list n, rest) =>
      if budget = 0 then .error .tooDeep else skipTimes (skip budget) n rest
    | .ok (.map n, rest) =>
      if budget = 0 then .error .tooDeep else skipTimes (skip budget) (2 * n) rest
    | .ok (_, rest) => .ok rest

end MessagePack
end SubscriptionRegistry
