/-
# The shortest decimal of a binary fraction

A number `m * 2^q` with a 53-bit `m` is the nearest such number to a whole interval of reals.
Of the decimals `c * 10^g` in that interval the one on the coarsest grid is the shortest, and
of two on that grid the nearer one is taken.

* `Binary64.ofBits`: what the 64 bits of a number mean.
* `Binary64.shortest`: its shortest decimal.
-/

namespace SubscriptionRegistry
namespace Decimal

/-- What 64 bits mean: a number `± mantissa * 2^exponent`, an infinity or no number. -/
inductive Binary64
  | finite (negative : Bool) (mantissa : Nat) (exponent : Int)
  | infinite (negative : Bool)
  | notANumber
deriving DecidableEq, Repr

/-- The bit in front of the fraction, which is not written down. -/
def leadingBit : Nat := 0x10000000000000

/-- One sign bit, eleven of exponent, fifty-two of fraction. -/
def Binary64.ofBits (bits : UInt64) : Binary64 :=
  let n := bits.toNat
  let negative := 0x8000000000000000 ≤ n
  let exponent : Nat := n / leadingBit % 2048
  let fraction : Nat := n % leadingBit
  if exponent = 2047 then if fraction = 0 then .infinite negative else .notANumber
  else if exponent = 0 then .finite negative fraction (-1074)
  else .finite negative (leadingBit + fraction) ((exponent : Int) - 1075)

/-- A positive decimal `digits * 10^scale`. -/
structure Shortest where
  digits : Nat
  scale : Int
deriving DecidableEq, Repr

/-- The interval of the reals that round to `m * 2^q`, as multiples of `2^(q-2)`: its ends,
the number itself, and whether the ends belong to it. -/
structure Interval where
  low : Nat
  middle : Nat
  high : Nat
  closed : Bool

/-- Below a power of two the next number is only half as far. -/
def interval (m : Nat) (q : Int) : Interval :=
  { low := if m = leadingBit ∧ -1074 < q then 4 * m - 1 else 4 * m - 2
    middle := 4 * m
    high := 4 * m + 2
    closed := m % 2 = 0 }

/-- `n * 2^two * 10^ten` as a fraction. -/
def scaled (two ten : Int) : Nat × Nat :=
  (Nat.pow 2 two.toNat * Nat.pow 10 ten.toNat, Nat.pow 2 (-two).toNat * Nat.pow 10 (-ten).toNat)

/-- The nearest `c` with `c * 10^g` in the interval, if there is one. -/
def Interval.onGrid? (i : Interval) (q g : Int) : Option Nat :=
  let (num, den) := scaled (q - 2) (-g)
  let inside := fun c : Nat =>
    c ≠ 0 && if i.closed then i.low * num ≤ c * den && c * den ≤ i.high * num
      else i.low * num < c * den && c * den < i.high * num
  let below := i.middle * num / den
  let above := below + 1
  match inside below, inside above with
  | false, false => none
  | true, false => some below
  | false, true => some above
  | true, true =>
    let down := i.middle * num - below * den
    let up := above * den - i.middle * num
    if down < up || (down = up && below % 2 = 0) then some below else some above

/-- The first grid with a hit, from `10^g` down. -/
def searchFrom (i : Interval) (q : Int) : Nat → Int → Shortest
  | 0, g => ⟨0, g⟩
  | finer + 1, g =>
    match i.onGrid? q g with
    | some c => ⟨c, g⟩
    | none => searchFrom i q finer (g - 1)

/-- The shortest decimal that rounds to `m * 2^q`.  The largest number is below `10^309`, and
no number needs digits below `10^-344`. -/
def shortest (m : Nat) (q : Int) : Shortest :=
  if m = 0 then ⟨0, 0⟩ else searchFrom (interval m q) q 660 309

end Decimal
end SubscriptionRegistry
