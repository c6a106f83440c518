/-
# Punycode, decoding

The ASCII spelling of a label with other characters in it.  Before the last hyphen stand the
ASCII characters; after it, in base 36, how far to move a cursor that runs through the
positions of the text and, at each turn, on to the next code point.

* `Punycode.decode?`: the label, if the spelling is whole and stays within Unicode.
-/

namespace SubscriptionRegistry
namespace Url
namespace Punycode

/-- The largest number that the decoder may hold. -/
def limit : Nat := 0xFFFFFFFF

/-- The decoder between two digits.  A delta is read with the weight `weight` for its next
digit and `position` digits of it read; `start` is the cursor before it. -/
structure State where
  output : List Char
  code : Nat
  bias : Nat
  start : Nat
  cursor : Nat
  weight : Nat
  position : Nat

/-- Before the first delta. -/
def State.initial (basic : List Char) : State :=
  ⟨basic, 128, 72, 0, 0, 1, 0⟩

/-- A letter counts from 0, whatever its case, and a decimal digit from 26. -/
def digit? (c : Char) : Option Nat :=
  let n := c.toNat
  if 0x61 ≤ n ∧ n ≤ 0x7A then some (n - 0x61)
  else if 0x41 ≤ n ∧ n ≤ 0x5A then some (n - 0x41)
  else if 0x30 ≤ n ∧ n ≤ 0x39 then some (n - 0x30 + 26)
  else none

/-- Divides a delta down until it is small, counting the divisions by 35. -/
def shrink : Nat → Nat → Nat → Nat × Nat
  | 0, delta, k => (delta, k)
  | turns + 1, delta, k => if 455 < delta then shrink turns (delta / 35) (k + 36) else (delta, k)

/-- The bias after a delta, for a text of `length` characters. -/
def adapt (delta length : Nat) (first : Bool) : Nat :=
  let delta := if first then delta / 700 else delta / 2
  let (delta, k) := shrink 32 (delta + delta / length) 0
  k + 36 * delta / (delta + 38)

/-- The least digit that is not the last of its delta. -/
def State.threshold (s : State) : Nat :=
  let k := 36 * (s.position + 1)
  if k ≤ s.bias then 1 else if s.bias + 26 ≤ k then 26 else k - s.bias

/-- A number that names a character. -/
def char? (n : Nat) : Option Char := if h : n.isValidChar then some (Char.ofNatAux n h) else none

/-- A delta is complete: put its character in. -/
def State.place? (s : State) : Option State :=
  let length := s.output.length + 1
  let code := s.code + s.cursor / length
  let cursor := s.cursor % length
  if limit < code then none
  else (char? code).map fun c =>
    { output := s.output.take cursor ++ c :: s.output.drop cursor
      code := code
      bias := adapt (s.cursor - s.start) length (s.start = 0)
      start := cursor + 1, cursor := cursor + 1, weight := 1, position := 0 }

/-- Read one digit. -/
def State.read? (s : State) (c : Char) : Option State :=
  (digit? c).bind fun d =>
    let cursor := s.cursor + d * s.weight
    if limit < cursor then none
    else if d < s.threshold then { s with cursor := cursor }.place?
    else
      let weight := s.weight * (36 - s.threshold)
      if limit < weight then none
      else some { s with cursor := cursor, weight := weight, position := s.position + 1 }

/-- The spelling cut at its last hyphen: the ASCII characters and the deltas.  A hyphen in
front cuts nothing. -/
def cut (s : List Char) : List Char × List Char :=
  let deltas := (s.reverse.takeWhile (· ≠ '-')).reverse
  let basic := s.take (s.length - deltas.length - 1)
  if basic.isEmpty then ([], s) else (basic, deltas)

/-- The label that is spelled, in ASCII. -/
def decode? (s : List Char) : Option (List Char) :=
  let (basic, deltas) := cut s
  if basic.any fun c => 0x80 ≤ c.toNat then none
  else
    (deltas.foldlM State.read? (State.initial basic)).bind fun last =>
      if last.position = 0 then some last.output else none

end Punycode
end Url
end SubscriptionRegistry
