/-
# IPv4 addresses in hosts

A domain that ends in a number is an IPv4 address or it is nothing.  Parts are decimal, octal
after `0` or hexadecimal after `0x`; the last part fills the bytes that the others leave.

* `Ipv4.endsInNumber`: which domains are read as addresses.
* `Ipv4.parse?`: the address as one number below 2^32.
-/
import SubscriptionRegistry.Text.Split
import SubscriptionRegistry.Url.Digits

namespace SubscriptionRegistry
namespace Url
namespace Ipv4

/-- The number a part spells, of whatever size.  `0x` alone spells zero. -/
def part? : List Char → Option Nat
  | [] => none
  | '0' :: 'x' :: rest => digits? 16 rest
  | '0' :: 'X' :: rest => digits? 16 rest
  | '0' :: c :: rest => digits? 8 (c :: rest)
  | s => digits? 10 s

/-- The label that decides whether a domain is an address: the last one, or the one before a
final dot. -/
def lastLabel? (domain : List Char) : Option (List Char) :=
  match (Text.split '.' domain).reverse with
  | [] :: label :: _ => some label
  | [] :: [] => none
  | label :: _ => some label
  | [] => none

/-- Whether the domain has to be read as an address. -/
def endsInNumber (domain : List Char) : Bool :=
  match lastLabel? domain with
  | none => false
  | some label =>
    (!label.isEmpty && label.all fun c => (digit? 10 c).isSome) || (part? label).isSome

/-- The parts of an address; one final dot does not count. -/
def parts (domain : List Char) : List (List Char) :=
  match (Text.split '.' domain).reverse with
  | [] :: labels => labels.reverse
  | labels => labels.reverse

/-- The parts from high to low as one number: all but the last are bytes, and the last fills
the `room` bytes that are left. -/
def assemble? (room : Nat) : List Nat → Option Nat
  | [] => none
  | [n] => if n < Nat.pow 256 room then some n else none
  | n :: rest =>
    if n < 256 then (assemble? (room - 1) rest).map (n * Nat.pow 256 (room - 1) + ·) else none

/-- The address a domain spells. -/
def parse? (domain : List Char) : Option Nat :=
  let labels := parts domain
  if labels.length ≤ 4 then (labels.mapM part?).bind (assemble? 4) else none

end Ipv4
end Url
end SubscriptionRegistry
