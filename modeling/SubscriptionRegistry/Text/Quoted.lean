/-
# Quoted text in messages

A text between double quotes, on one line, with every character visible: quotes, backslashes
and line ends are escaped, and so is what would not show.
-/
import SubscriptionRegistry.Text.Hex
import SubscriptionRegistry.Text.Unprintable

namespace SubscriptionRegistry
namespace Text

/-- One character between the quotes. -/
def quoteChar (c : Char) : List Char :=
  if c = '"' then ['\\', '"']
  else if c = '\\' then ['\\', '\\']
  else if c = '\n' then ['\\', 'n']
  else if c = '\r' then ['\\', 'r']
  else if c = '\t' then ['\\', 't']
  else if c = '\x00' then ['\\', '0']
  else if isUnprintable c then ['\\', 'u', '\x7b'] ++ hexDigits c.toNat ++ ['\x7d']
  else [c]

/-- The text between quotes. -/
def quote (s : String) : String :=
  String.ofList ('"' :: s.toList.flatMap quoteChar ++ ['"'])

end Text
end SubscriptionRegistry
