/-
# Paths

A path is compared by its components: blank components do not count, nor does `.`
anywhere but in front.
-/
import SubscriptionRegistry.Text.Split

namespace SubscriptionRegistry

/-- A path by its components. -/
structure Path where
  absolute : Bool
  components : List String
deriving DecidableEq, Repr

namespace Path

/-- The components of a text, the first of which may be `.` unless the path is absolute. -/
def ofString (s : String) : Path :=
  let absolute := s.toList.head? = some '/'
  let pieces := (Text.split '/' s.toList).map String.ofList
  let counted := pieces.filter fun p => p ≠ "" && p ≠ "."
  ⟨absolute, if !absolute && pieces.head? = some "." then "." :: counted else counted⟩

end Path
end SubscriptionRegistry
