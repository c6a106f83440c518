/-
# Text between separators

* `split`: the pieces of a text, blank ones included.
-/

namespace SubscriptionRegistry
namespace Text

/-- The stretches between the separators.  There is one more of them than separators. -/
def split (separator : Char) : List Char → List (List Char)
  | [] => [[]]
  | c :: rest =>
    if c = separator then [] :: split separator rest
    else match split separator rest with
      | [] => [[c]]
      | label :: labels => (c :: label) :: labels

end Text
end SubscriptionRegistry
