/-
# Labels

The texts between the full stops of a domain.  A label may be spelled in Punycode, behind
`xn--`; what is spelled must be in composed form, of characters that stand for themselves, and
must need the spelling.

* `read?`: the text that a label stands for, unless something is wrong with it.
* `isDirected`: whether a label runs in one direction, as all labels have to in a domain with
  letters that run to the left.
-/
import SubscriptionRegistry.Text.Composition
import SubscriptionRegistry.Text.Direction
import SubscriptionRegistry.Text.Joining
import SubscriptionRegistry.Url.Domain.Character
import SubscriptionRegistry.Url.Punycode

namespace SubscriptionRegistry
namespace Url
namespace Domain

/-! ## 1. Characters in their places -/

/-- The longest label with characters outside ASCII in it. -/
def maxLength : Nat := 1000

/-- The longest spelling of a label. -/
def maxSpelling : Nat := 2000

/-- Whether zero-width joiners and non-joiners stand where they change something: behind a sign
that takes a vowel away, or, to keep them apart, between letters that join.  `before` is the
text in front, the nearest character first. -/
def joinersFit (before : List Char) : List Char → Bool
  | [] => true
  | c :: rest =>
    let here :=
      if c = '\u200c' ∨ c = '\u200d' then
        match before with
        | [] => false
        | b :: _ =>
          Text.combiningClass b = 9
            || (c = '\u200c'
              && ((before.dropWhile Text.isTransparent).head?).any Text.joinsNext
              && ((rest.dropWhile Text.isTransparent).head?).any Text.joinsPrevious)
      else true
    here && joinersFit (c :: before) rest

/-- Whether characters that may stand in a domain stand in places where they may: no mark in
front, no joiner without an effect, no ASCII character that ends a host. -/
def isLabel (label : List Char) : Bool :=
  !label.any isForbidden && !label.head?.any Text.isMark && joinersFit [] label
    && (label.length ≤ maxLength || label.all fun c => c.toNat < 0x80)

/-! ## 2. Spelled labels -/

/-- Whether a character stands for itself. -/
def isPlain (c : Char) : Bool := !isDisallowed c && !isVariant c && !isIgnored c

/-- The text that a label in Punycode spells. -/
def spelled? (spelling : List Char) : Option (List Char) :=
  if maxSpelling < spelling.length then none
  else
    (Punycode.decode? spelling).filter fun label =>
      label.any (fun c => 0x80 ≤ c.toNat) && label.all isPlain && Text.compose label = label

/-- The text that a label stands for, unless something is wrong with it. -/
def read? (label : List Char) : Option (List Char) :=
  let text := match label with
    | 'x' :: 'n' :: '-' :: '-' :: spelling => spelled? spelling
    | _ => some label
  text.filter isLabel

/-! ## 3. Directions -/

/-- Whether a domain has to watch directions because of this label. -/
def runsLeft (label : List Char) : Bool :=
  label.any fun c => Text.direction c = .right || Text.direction c = .arabic

/-- Whether a label runs in one direction: which one is told by its first character, a letter;
no letter goes against it; digits of one kind stand in a label that runs to the left; and it
ends in a letter or a digit, marks not counted.  A label without characters is no matter. -/
def isDirected (label : List Char) : Bool :=
  let directions := label.map Text.direction
  let trimmed := (directions.reverse.dropWhile (· = .attached)).head?
  match directions.head? with
  | none => true
  | some .left =>
    directions.all (fun d => d = .left || d = .european || d = .neutral || d = .attached)
      && trimmed.any fun d => d = .left || d = .european
  | some .right =>
    directions.all (fun d => d ≠ .left && d ≠ .separator)
      && !(directions.contains .european && directions.contains .arabic)
      && trimmed.any fun d => d = .right || d = .european || d = .arabic
  | some _ => false

end Domain
end Url
end SubscriptionRegistry
