/-
# Numerals

How a shortest decimal is written.  A numeral always shows that it is no integer: it has a
point or an exponent.
-/
import SubscriptionRegistry.Decimal.Shortest

namespace SubscriptionRegistry
namespace Decimal

/-- Which numbers are written without an exponent, by the power of ten of their first digit. -/
structure Notation where
  positional : Int → Bool

/-- Without an exponent from `0.00001` up to below `10^16`. -/
def Notation.compact : Notation := ⟨fun e => -5 ≤ e && e ≤ 15⟩

/-- Never an exponent. -/
def Notation.plain : Notation := ⟨fun _ => true⟩

/-- The digits with the point in its place, and `.0` where nothing follows it. -/
def withPoint (digits : List Char) (scale : Int) : List Char :=
  let places := (-scale).toNat
  if 0 ≤ scale then digits ++ List.replicate scale.toNat '0' ++ ['.', '0']
  else if places < digits.length then
    digits.take (digits.length - places) ++ '.' :: digits.drop (digits.length - places)
  else '0' :: '.' :: List.replicate (places - digits.length) '0' ++ digits

/-- One digit before the point, if more follow, and the signed power of ten. -/
def withExponent (digits : List Char) (exponent : Int) : List Char :=
  let mantissa := match digits with
    | d :: e :: rest => d :: '.' :: e :: rest
    | digits => digits
  let sign := if exponent < 0 then '-' else '+'
  mantissa ++ 'e' :: sign :: Nat.toDigits 10 exponent.natAbs

/-- The numeral of a positive decimal. -/
def Notation.numeral (n : Notation) (d : Shortest) : List Char :=
  let digits := Nat.toDigits 10 d.digits
  let exponent := d.scale + digits.length - 1
  if n.positional exponent then withPoint digits d.scale else withExponent digits exponent

/-- The text of a number given by its 64 bits. -/
def Notation.text (n : Notation) (bits : UInt64) : String :=
  match Binary64.ofBits bits with
  | .notANumber => "NaN"
  | .infinite negative => if negative then "-inf" else "inf"
  | .finite negative mantissa exponent =>
    String.ofList ((if negative then ['-'] else []) ++ n.numeral (shortest mantissa exponent))

end Decimal
end SubscriptionRegistry
