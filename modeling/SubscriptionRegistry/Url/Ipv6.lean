/-
# IPv6 addresses in hosts

What stands between the brackets: eight groups of one to four hexadecimal digits, where one
`::` may stand for missing groups, and four decimal bytes may stand for the last two groups.

* `Ipv6.isAddress`: whether a text is such an address.
-/
import SubscriptionRegistry.Text.Split
import SubscriptionRegistry.Url.Digits

namespace SubscriptionRegistry
namespace Url
namespace Ipv6

/-- One to four hexadecimal digits. -/
def isGroup (s : List Char) : Bool :=
  !s.isEmpty && s.length ≤ 4 && s.all fun c => (digit? 16 c).isSome

/-- A decimal number up to 255 without a leading zero. -/
def isByte (s : List Char) : Bool :=
  match digits? 10 s with
  | some n => !s.isEmpty && n ≤ 255 && (s.length = 1 || s.head? ≠ some '0')
  | none => false

/-- Four decimal bytes between dots. -/
def isDotted (s : List Char) : Bool :=
  let bytes := Text.split '.' s
  bytes.length = 4 && bytes.all isByte

/-- Whether the groups left complete an address.  `seen` groups stand before them, and
`gap` tells whether a `::` does.  An empty group here is the second half of a `::`. -/
def completes (seen : Nat) (gap : Bool) : List (List Char) → Bool
  | [] => false
  | [[]] => gap
  | [g] =>
    if g.contains '.' then seen ≤ 6 && isDotted g && (gap || seen = 6)
    else seen < 8 && isGroup g && (gap || seen = 7)
  | [] :: rest => seen < 8 && !gap && completes (seen + 1) true rest
  | g :: rest => seen < 8 && isGroup g && rest ≠ [[]] && completes (seen + 1) gap rest

/-- Whether the text is an address. -/
def isAddress (s : List Char) : Bool :=
  match s with
  | ':' :: ':' :: rest => completes 1 true (Text.split ':' rest)
  | ':' :: _ => false
  | [] => false
  | _ => completes 0 false (Text.split ':' s)

end Ipv6
end Url
end SubscriptionRegistry
