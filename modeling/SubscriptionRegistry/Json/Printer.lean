/-
# Writing JSON

Compact records: no blanks, members in the order of the fields.  In strings quotes, backslashes
and control characters are escaped and all else stands as it is.
-/
import SubscriptionRegistry.Text.Hex

namespace SubscriptionRegistry
namespace Json

/-- One character of a string. -/
def escapeChar (c : Char) : List Char :=
  if c = '"' then ['\\', '"']
  else if c = '\\' then ['\\', '\\']
  else if c = '\x08' then ['\\', 'b']
  else if c = '\x0c' then ['\\', 'f']
  else if c = '\n' then ['\\', 'n']
  else if c = '\r' then ['\\', 'r']
  else if c = '\t' then ['\\', 't']
  else if c < ' ' then ['\\', 'u'] ++ Text.hexPadded 4 c.toNat
  else [c]

/-- A string between its quotes. -/
def quoted (s : String) : List Char := '"' :: s.toList.flatMap escapeChar ++ ['"']

/-- A member of an object. -/
def member (name : String) (value : List Char) : List Char := quoted name ++ ':' :: value

/-- An object with the given members. -/
def braced (members : List (List Char)) : List Char :=
  '\x7b' :: [','].intercalate members ++ ['\x7d']

/-- A truth value. -/
def flag (b : Bool) : List Char := (toString b).toList

/-- A natural number. -/
def natural (n : Nat) : List Char := Nat.toDigits 10 n

end Json
end SubscriptionRegistry
