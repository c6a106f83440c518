/-
# Generated subscription ids

A fresh id is `urn:uuid:` and a random UUID: 128 bits of which six say that it is random.
-/
import SubscriptionRegistry.Text.Hex

namespace SubscriptionRegistry
namespace Urn

/-- What every generated id starts with. -/
def scheme : String := "urn:uuid:"

/-- A UUID from 122 random bits, in groups of 8, 4, 4, 4 and 12 digits: the third group starts
with the version 4 and the fourth with the variant bits `10`. -/
def uuid (random : Nat) : List Char :=
  Text.hexPadded 8 (random >>> 90) ++ '-' :: Text.hexPadded 4 (random >>> 74)
    ++ '-' :: '4' :: Text.hexPadded 3 (random >>> 62)
    ++ '-' :: Text.hexPadded 4 (0x8000 + (random >>> 48) % 0x4000)
    ++ '-' :: Text.hexPadded 12 random

/-- The id made from 122 random bits. -/
def ofRandom (random : Nat) : String := scheme ++ String.ofList (uuid random)

end Urn
end SubscriptionRegistry
