/-
# Ranges of characters

Properties of characters are kept as tables: ranges of the code points that have the property.

* `Ranges.holds`: whether one of the ranges has a character in it.
-/

namespace SubscriptionRegistry
namespace Text

/-- Ranges of code points, both ends included. -/
abbrev Ranges := Array (Nat × Nat)

/-- Whether a character lies in one of the ranges. -/
def Ranges.holds (ranges : Ranges) (c : Char) : Bool :=
  ranges.any fun r => r.1 ≤ c.toNat && c.toNat ≤ r.2

end Text
end SubscriptionRegistry
