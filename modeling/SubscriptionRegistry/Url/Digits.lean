/-
# Numerals in hosts

`digit?` reads a digit in a base up to 16, `digits?` a whole numeral.
-/

namespace SubscriptionRegistry
namespace Url

/-- The worth of a digit below `base`; letters count in either case. -/
def digit? (base : Nat) (c : Char) : Option Nat :=
  let n := c.toNat
  let worth :=
    if 0x30 ≤ n ∧ n ≤ 0x39 then n - 0x30
    else if 0x41 ≤ n ∧ n ≤ 0x5A then n - 0x41 + 10
    else if 0x61 ≤ n ∧ n ≤ 0x7A then n - 0x61 + 10
    else base
  if worth < base then some worth else none

/-- The number that the digits spell, read on from `high`. -/
def digitsFrom? (base high : Nat) : List Char → Option Nat
  | [] => some high
  | c :: rest => (digit? base c).bind fun d => digitsFrom? base (high * base + d) rest

/-- The number that the digits spell; no digits spell zero. -/
def digits? (base : Nat) (s : List Char) : Option Nat := digitsFrom? base 0 s

end Url
end SubscriptionRegistry
