/-
# Records in JSON

A record is written as an object, whose members may stand in any order among members that are
passed over, or as an array of its fields in order.  A `Shape` lists the fields; reading gives
the fields that were found.

* `Shape.read`: the record at the front of a text.
* `Cursor.finish`: nothing but blanks may follow it.
-/
import SubscriptionRegistry.Json.Cursor

namespace SubscriptionRegistry
namespace Json

/-! ## 1. Fields -/

/-- What a field holds. -/
inductive Kind
  | natural
  | flag
  | text
  | path
deriving DecidableEq, Repr

/-- The kind as error texts name it. -/
def Kind.expected : Kind → String
  | .natural => "u64"
  | .flag => "a boolean"
  | .text => "a string"
  | .path => "path string"

/-- The value of a field. -/
inductive Scalar
  | natural (n : Nat)
  | flag (b : Bool)
  | text (s : String)
deriving DecidableEq, Repr

/-- The names, in order, and kinds of the fields of a record.  A lenient record may miss any. -/
structure Shape where
  name : String
  fields : List (String × Kind)
  lenient : Bool

/-- The record as error texts name it. -/
def Shape.expected (s : Shape) : String := "struct " ++ s.name

/-- The fields that were found. -/
abbrev Fields := List (String × Scalar)

namespace Cursor

/-- The fault of a value, after blanks, that is not of the expected kind.  The value is read,
unless it is in brackets. -/
def mismatch {α : Type} (expected : String) (c : Cursor) : Except Error α :=
  let found := fun (u : Unexpected) (c : Cursor) =>
    (c.fail (.invalidType u expected) : Except Error α)
  let literal := fun (letters : List Char) (u : Unexpected) =>
    match word letters c.advance with
    | .error e => .error e
    | .ok c => found u c
  match c.rest with
  | [] => c.fail .eofInValue
  | 'n' :: _ => literal ['u', 'l', 'l'] .null
  | 't' :: _ => literal ['r', 'u', 'e'] (.flag true)
  | 'f' :: _ => literal ['a', 'l', 's', 'e'] (.flag false)
  | '"' :: _ =>
    match c.advance.text with
    | .error e => .error e
    | .ok (s, c) => found (.text s) c
  | '[' :: _ => found .list c
  | '\x7b' :: _ => found .object c
  | x :: _ =>
    if x.isDigit || x = '-' then
      match c.number with
      | .error e => .error e
      | .ok (.integer n, c) => found (.integer n) c
      | .ok (.floating bits, c) => found (.floating bits) c
    else c.failAhead .expectedValue

/-- A number that is expected to be natural, after blanks. -/
def natural (c : Cursor) : Reading Scalar :=
  if (c.rest.head?.map fun x => x.isDigit || x = '-').getD false then
    match c.number with
    | .error e => .error e
    | .ok (.integer n, c) =>
      if 0 ≤ n then .ok (.natural n.toNat, c)
      else c.fail (.invalidValue (.integer n) Kind.natural.expected)
    | .ok (.floating bits, c) => c.fail (.invalidType (.floating bits) Kind.natural.expected)
  else c.mismatch Kind.natural.expected

/-- A truth value, after blanks. -/
def flag (c : Cursor) : Reading Scalar :=
  match c.rest with
  | 't' :: _ =>
    match word ['r', 'u', 'e'] c.advance with
    | .error e => .error e
    | .ok c => .ok (.flag true, c)
  | 'f' :: _ =>
    match word ['a', 'l', 's', 'e'] c.advance with
    | .error e => .error e
    | .ok c => .ok (.flag false, c)
  | _ => c.mismatch Kind.flag.expected

/-- A string, after blanks. -/
def string (expected : String) (c : Cursor) : Reading Scalar :=
  match c.rest with
  | '"' :: _ =>
    match c.advance.text with
    | .error e => .error e
    | .ok (s, c) => .ok (.text s, c)
  | _ => c.mismatch expected

/-- A value of a kind. -/
def scalar (kind : Kind) (c : Cursor) : Reading Scalar :=
  match kind with
  | .natural => c.skipBlanks.natural
  | .flag => c.skipBlanks.flag
  | .text | .path => c.skipBlanks.string kind.expected

/-! ## 2. Arrays -/

/-- Whether another element comes, and the cursor in front of it or of the closing bracket. -/
def nextElement (first : Bool) (c : Cursor) : Reading Bool :=
  let c := c.skipBlanks
  match c.rest with
  | [] => c.fail .eofInList
  | ']' :: _ => .ok (false, c)
  | x :: _ =>
    if first then .ok (true, c)
    else if x = ',' then
      let c := c.advance.skipBlanks
      match c.rest with
      | [] => c.fail .eofInValue
      | ']' :: _ => c.failAhead .trailingComma
      | _ => .ok (true, c)
    else c.failAhead .expectedListCommaOrEnd

/-- Past the closing bracket of an array of which no more elements are wanted. -/
def endList (c : Cursor) : Except Error Cursor :=
  let c := c.skipBlanks
  match c.rest with
  | [] => c.fail .eofInList
  | ']' :: _ => .ok c.advance
  | ',' :: _ =>
    let c := c.advance.skipBlanks
    if c.rest.head? = some ']' then c.failAhead .trailingComma
    else c.failAhead .trailingCharacters
  | _ => c.failAhead .trailingCharacters

/-- The fields of a record written as an array, from the field that comes next. -/
def elements (shape : Shape) (found : Fields) :
    List (String × Kind) → Cursor → Reading Fields
  | [], c =>
    match c.endList with
    | .error e => .error e
    | .ok c => .ok (found, c)
  | (name, kind) :: more, c =>
    match c.nextElement found.isEmpty with
    | .error e => .error e
    | .ok (false, c) =>
      if shape.lenient then .ok (found, c.advance)
      else
        c.advance.fail (.invalidLength found.length
          (shape.expected ++ " with " ++ toString shape.fields.length ++ " elements"))
    | .ok (true, c) =>
      match c.scalar kind with
      | .error e => .error e
      | .ok (value, c) => elements shape (found ++ [(name, value)]) more c

/-! ## 3. Objects -/

/-- The next key, or nothing in front of the closing bracket. -/
def nextKey (first : Bool) (c : Cursor) : Reading (Option String) :=
  let key := fun c : Cursor =>
    match c.advance.text with
    | .error e => .error e
    | .ok (s, c) => .ok (some s, c)
  let c := c.skipBlanks
  match c.rest with
  | [] => c.fail .eofInObject
  | '\x7d' :: _ => .ok (none, c)
  | x :: _ =>
    if first then if x = '"' then key c else c.failAhead .keyNotString
    else if x = ',' then
      let c := c.advance.skipBlanks
      match c.rest with
      | [] => c.fail .eofInValue
      | '"' :: _ => key c
      | '\x7d' :: _ => c.failAhead .trailingComma
      | _ => c.failAhead .keyNotString
    else c.failAhead .expectedObjectCommaOrEnd

/-- Behind a key that was there before, the object is given up: the fault is found behind the
blanks and, if it comes next, the closing bracket. -/
def failDuplicate {α : Type} (name : String) (c : Cursor) : Except Error α :=
  let c := c.skipBlanks
  (if c.rest.head? = some '\x7d' then c.advance else c).fail (.duplicateField name)

/-- The value behind a key: a field's is kept, any other is passed over. -/
def member (shape : Shape) (found : Fields) (key : String) (c : Cursor) : Reading Fields :=
  match shape.fields.lookup key with
  | none =>
    match c.colon with
    | .error e => .error e
    | .ok c =>
      match c.skipValue with
      | .error e => .error e
      | .ok c => .ok (found, c)
  | some kind =>
    if (found.lookup key).isSome then c.failDuplicate key
    else
      match c.colon with
      | .error e => .error e
      | .ok c =>
        match c.scalar kind with
        | .error e => .error e
        | .ok (value, c) => .ok (found ++ [(key, value)], c)

/-! ### Members only get shorter -/

theorem failPair_ne_ok {α : Type} {p : Position} {rest : List Char} {a : α} :
    failPair p rest ≠ .ok a := by
  unfold failPair
  split <;> simp

theorem length_textFrom_lt {read : List Char} {p : Position} {rest : List Char}
    {s : String} {d : Cursor} (h : textFrom read p rest = .ok (s, d)) :
    d.rest.length < rest.length := by
  fun_induction textFrom read p rest <;> simp_all [failPair_ne_ok] <;> grind

theorem length_text_lt {c d : Cursor} {s : String} (h : c.text = .ok (s, d)) :
    d.rest.length < c.rest.length :=
  length_textFrom_lt h

theorem length_floating_le {negative : Bool} {n : Nat} {e : Int} {c d : Cursor} {v : Number}
    (h : floating negative n e c = .ok (v, d)) : d.rest.length ≤ c.rest.length := by
  unfold floating at h
  split at h <;> simp_all

theorem length_exponentDigits_le {negative down : Bool} {n : Nat} {e : Int} {c d : Cursor}
    {v : Number} (h : exponentDigits negative n e down c = .ok (v, d)) :
    d.rest.length ≤ c.rest.length := by
  simp only [exponentDigits] at h
  split at h
  · exact Nat.le_trans (length_floating_le h) c.length_digits_le
  · split at h
    · simp at h
    · exact Nat.le_trans (length_floating_le h) c.length_digits_le

theorem length_exponentPart_le {negative : Bool} {n : Nat} {e : Int} {c d : Cursor}
    {v : Number} (h : exponentPart negative n e c = .ok (v, d)) :
    d.rest.length ≤ c.rest.length := by
  simp only [exponentPart] at h
  split at h
  · simp at h
  · split at h
    · exact Nat.le_trans (length_exponentDigits_le h)
        (Nat.le_trans c.advance.length_skipSign_le c.length_advance_le)
    · simp at h

theorem length_fractionPart_le {negative : Bool} {n : Nat} {e : Int} {c d : Cursor}
    {v : Number} (h : fractionPart negative n e c = .ok (v, d)) :
    d.rest.length ≤ c.rest.length := by
  simp only [fractionPart] at h
  have hd := Nat.le_trans c.advance.length_digits_le c.length_advance_le
  split at h
  · split at h <;> simp at h
  · split at h
    · exact Nat.le_trans (length_exponentPart_le h) hd
    · exact Nat.le_trans (length_floating_le h) hd

theorem length_afterInteger_le {negative : Bool} {n dropped : Nat} {c d : Cursor} {v : Number}
    (h : afterInteger negative n dropped c = .ok (v, d)) : d.rest.length ≤ c.rest.length := by
  unfold afterInteger at h
  repeat' split at h
  · exact length_fractionPart_le h
  · exact length_exponentPart_le h
  · exact length_floating_le h
  · simp_all
  · simp_all
  · exact length_floating_le h

theorem length_unsigned_le {negative : Bool} {c d : Cursor} {v : Number}
    (h : unsigned negative c = .ok (v, d)) : d.rest.length ≤ c.rest.length := by
  unfold unsigned at h
  split at h
  · simp at h
  · split at h
    · simp at h
    · exact Nat.le_trans (length_afterInteger_le h) c.length_advance_le
  · split at h
    · exact Nat.le_trans (length_afterInteger_le h) c.length_digits_le
    · simp at h

theorem length_number_le {c d : Cursor} {v : Number} (h : c.number = .ok (v, d)) :
    d.rest.length ≤ c.rest.length := by
  unfold number at h
  split at h
  · exact Nat.le_trans (length_unsigned_le h) c.length_advance_le
  · exact length_unsigned_le h

@[simp] theorem mismatch_ne_ok {α : Type} {expected : String} {c : Cursor} {a : α} :
    c.mismatch expected ≠ .ok a := by
  simp only [mismatch]
  repeat' split
  all_goals simp

theorem length_scalar_le {kind : Kind} {c d : Cursor} {v : Scalar}
    (h : c.scalar kind = .ok (v, d)) : d.rest.length ≤ c.rest.length := by
  refine Nat.le_trans ?_ c.length_skipBlanks_le
  have hs : ∀ expected, c.skipBlanks.string expected = .ok (v, d) →
      d.rest.length ≤ c.skipBlanks.rest.length := by
    intro expected h
    unfold string at h
    split at h
    · split at h
      · simp at h
      next h' =>
        simp only [Except.ok.injEq, Prod.mk.injEq] at h
        exact h.2 ▸ Nat.le_of_lt (Nat.lt_of_lt_of_le (length_text_lt h')
          c.skipBlanks.length_advance_le)
    · simp at h
  cases kind with
  | natural =>
    simp only [scalar, natural] at h
    split at h
    · split at h
      · simp at h
      next h' =>
        split at h
        · simp only [Except.ok.injEq, Prod.mk.injEq] at h
          exact h.2 ▸ length_number_le h'
        · simp at h
      · simp at h
    · simp at h
  | flag =>
    simp only [scalar, flag] at h
    split at h
    · split at h
      · simp at h
      next h' =>
        simp only [Except.ok.injEq, Prod.mk.injEq] at h
        exact h.2 ▸ Nat.le_trans (length_word_le h') c.skipBlanks.length_advance_le
    · split at h
      · simp at h
      next h' =>
        simp only [Except.ok.injEq, Prod.mk.injEq] at h
        exact h.2 ▸ Nat.le_trans (length_word_le h') c.skipBlanks.length_advance_le
    · simp at h
  | text => exact hs _ h
  | path => exact hs _ h

theorem length_skipFrom_le {place : Place} {stack : List Frame} {c d : Cursor}
    (h : skipFrom place stack c = .ok d) : d.rest.length ≤ c.rest.length := by
  fun_induction skipFrom place stack c <;> simp_all <;> grind

theorem length_member_le {shape : Shape} {found found' : Fields} {key : String}
    {c d : Cursor} (h : member shape found key c = .ok (found', d)) :
    d.rest.length ≤ c.rest.length := by
  unfold member at h
  split at h
  · split at h
    · simp at h
    next h₁ =>
      split at h
      · simp at h
      next h₂ =>
        simp only [Except.ok.injEq, Prod.mk.injEq] at h
        exact h.2 ▸ Nat.le_trans (length_skipFrom_le h₂) (length_colon_le h₁)
  · split at h
    · simp [failDuplicate] at h
    · split at h
      · simp at h
      next h₁ =>
        split at h
        · simp at h
        next h₂ =>
          simp only [Except.ok.injEq, Prod.mk.injEq] at h
          exact h.2 ▸ Nat.le_trans (length_scalar_le h₂) (length_colon_le h₁)

theorem length_nextKey_lt {first : Bool} {c d : Cursor} {key : String}
    (h : nextKey first c = .ok (some key, d)) : d.rest.length < c.rest.length := by
  have hk : ∀ b : Cursor, b.rest.length ≤ c.rest.length →
      (match b.advance.text with
        | .error e => (.error e : Reading (Option String))
        | .ok (s, b) => .ok (some s, b)) = .ok (some key, d) →
      d.rest.length < c.rest.length := by
    intro b hb h
    split at h
    · simp at h
    next h' =>
      simp only [Except.ok.injEq, Prod.mk.injEq] at h
      exact h.2 ▸ Nat.lt_of_lt_of_le (length_text_lt h') (Nat.le_trans b.length_advance_le hb)
  simp only [nextKey] at h
  have h₁ := c.length_skipBlanks_le
  have h₂ := Nat.le_trans c.skipBlanks.advance.length_skipBlanks_le
    (Nat.le_trans c.skipBlanks.length_advance_le h₁)
  split at h
  · simp at h
  · simp at h
  · split at h
    · split at h
      · exact hk _ h₁ h
      · simp at h
    · split at h
      · split at h
        · simp at h
        · exact hk _ h₂ h
        · simp at h
        · simp at h
      · simp at h

/-- The members of an object up to its closing bracket. -/
def members (shape : Shape) (first : Bool) (found : Fields) (c : Cursor) : Reading Fields :=
  match hk : nextKey first c with
  | .error e => .error e
  | .ok (none, c) => .ok (found, c)
  | .ok (some key, d) =>
    match hm : member shape found key d with
    | .error e => .error e
    | .ok (found, d') =>
      have := length_nextKey_lt hk
      have := length_member_le hm
      members shape false found d'
termination_by c.rest.length

/-- The fields of a record written as an object, from behind its opening bracket. -/
def object (shape : Shape) (c : Cursor) : Reading Fields :=
  match members shape true [] c with
  | .error e => .error e
  | .ok (found, c) =>
    match shape.fields.find? fun f => (found.lookup f.1).isNone with
    | some (name, _) =>
      if shape.lenient then .ok (found, c.advance) else c.advance.fail (.missingField name)
    | none => .ok (found, c.advance)

/-! ## 4. Records -/

/-- The record that starts here. -/
def record (shape : Shape) (c : Cursor) : Reading Fields :=
  let c := c.skipBlanks
  match c.rest with
  | [] => c.fail .eofInValue
  | '[' :: _ => elements shape [] shape.fields c.advance
  | '\x7b' :: _ => object shape c.advance
  | _ => c.mismatch shape.expected

/-- Nothing but blanks may follow. -/
def finish (c : Cursor) : Except Error Unit :=
  let c := c.skipBlanks
  if c.rest.isEmpty then .ok () else c.failAhead .trailingCharacters

end Cursor

/-- The record at the front of a text, and the cursor behind it. -/
def Shape.read (shape : Shape) (text : String) : Reading Fields :=
  (Cursor.start text).record shape

end Json
end SubscriptionRegistry
