/-
# Why a JSON text cannot be read

A fault and the place where it was found.  Lines count from 1; the column is the number of
bytes of the line that are read when the fault is found.
-/
import SubscriptionRegistry.Text.Quoted
import SubscriptionRegistry.Decimal.Numeral

namespace SubscriptionRegistry
namespace Json

/-! ## 1. Values of the wrong kind -/

/-- A value that stands where another kind of value is expected. -/
inductive Unexpected
  | flag (b : Bool)
  | integer (n : Int)
  /-- A number with a fraction or an exponent, given by the 64 bits of its binary form. -/
  | floating (bits : UInt64)
  | text (s : String)
  | null
  | list
  | object
deriving DecidableEq, Repr

/-- The value as error texts show it. -/
def Unexpected.describe : Unexpected → String
  | .flag b => "boolean \x60" ++ toString b ++ "\x60"
  | .integer n => "integer \x60" ++ toString n ++ "\x60"
  | .floating bits => "floating point \x60" ++ Decimal.Notation.compact.text bits ++ "\x60"
  | .text s => "string " ++ Text.quote s
  | .null => "null"
  | .list => "sequence"
  | .object => "map"

/-! ## 2. Faults -/

/-- What is wrong with a text. -/
inductive Fault
  | eofInList
  | eofInObject
  | eofInString
  | eofInValue
  | expectedColon
  | expectedListCommaOrEnd
  | expectedObjectCommaOrEnd
  | expectedIdent
  | expectedValue
  | invalidEscape
  | invalidNumber
  | numberOutOfRange
  | loneSurrogate
  | unexpectedEndOfHexEscape
  | controlCharacter
  | keyNotString
  | trailingComma
  | trailingCharacters
  | invalidType (found : Unexpected) (expected : String)
  | invalidValue (found : Unexpected) (expected : String)
  | invalidLength (length : Nat) (expected : String)
  | missingField (name : String)
  | duplicateField (name : String)
deriving DecidableEq, Repr

/-- The fault in words. -/
def Fault.message : Fault → String
  | .eofInList => "EOF while parsing a list"
  | .eofInObject => "EOF while parsing an object"
  | .eofInString => "EOF while parsing a string"
  | .eofInValue => "EOF while parsing a value"
  | .expectedColon => "expected \x60:\x60"
  | .expectedListCommaOrEnd => "expected \x60,\x60 or \x60]\x60"
  | .expectedObjectCommaOrEnd => "expected \x60,\x60 or \x60\x7d\x60"
  | .expectedIdent => "expected ident"
  | .expectedValue => "expected value"
  | .invalidEscape => "invalid escape"
  | .invalidNumber => "invalid number"
  | .numberOutOfRange => "number out of range"
  | .loneSurrogate => "lone leading surrogate in hex escape"
  | .unexpectedEndOfHexEscape => "unexpected end of hex escape"
  | .controlCharacter =>
    "control character (\\u0000-\\u001F) found while parsing a string"
  | .keyNotString => "key must be a string"
  | .trailingComma => "trailing comma"
  | .trailingCharacters => "trailing characters"
  | .invalidType found expected =>
    "invalid type: " ++ found.describe ++ ", expected " ++ expected
  | .invalidValue found expected =>
    "invalid value: " ++ found.describe ++ ", expected " ++ expected
  | .invalidLength length expected =>
    "invalid length " ++ toString length ++ ", expected " ++ expected
  | .missingField name => "missing field \x60" ++ name ++ "\x60"
  | .duplicateField name => "duplicate field \x60" ++ name ++ "\x60"

/-! ## 3. Places -/

/-- A place in a text. -/
structure Position where
  line : Nat
  column : Nat
deriving DecidableEq, Repr

namespace Position

/-- The place in front of the first byte. -/
def start : Position := ⟨1, 0⟩

/-- The place `n` bytes further on the same line. -/
def plus (p : Position) (n : Nat) : Position := { p with column := p.column + n }

/-- The place after one byte, which is a line end or not. -/
def afterByte (p : Position) (c : Char) : Position :=
  if c = '\n' then ⟨p.line + 1, 0⟩ else p.plus 1

/-- The place after all bytes of a character. -/
def after (p : Position) (c : Char) : Position :=
  if c = '\n' then ⟨p.line + 1, 0⟩ else p.plus c.utf8Size

/-- The place after a text. -/
def afterAll (p : Position) (cs : List Char) : Position := cs.foldl after p

/-- The place after the first `n` bytes of a text, or after all of a shorter one. -/
def afterBytes (p : Position) (n : Nat) : List Char → Position
  | [] => p
  | c :: cs =>
    if c.utf8Size ≤ n then (p.after c).afterBytes (n - c.utf8Size) cs else p.plus n

end Position

/-- A fault and where it was found. -/
structure Error where
  fault : Fault
  position : Position
deriving DecidableEq, Repr

/-- The fault in words, and its place. -/
def Error.message (e : Error) : String :=
  e.fault.message ++ " at line " ++ toString e.position.line ++ " column "
    ++ toString e.position.column

end Json
end SubscriptionRegistry
