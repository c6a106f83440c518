/-
# The tokens of a text

What the readers of blanks, words, strings and numbers get over, said of the characters alone.  For
each reader there is one lemma that tells where it comes to stand; positions matter to errors only.

* `Json.Stops`, `Json.Gives`: that a reader comes to stand in front of some rest.
* `Json.Loose`, `Json.Spells`: what stands between the quotes of a string, passed over and read.
* `Json.Numeral`: numbers as they are passed over.
* `Json.Atom`: values without brackets (`Cursor.stops_skipScalar`,
  `Cursor.exists_atom_of_stops`).
-/
import SubscriptionRegistry.Json.Record

namespace SubscriptionRegistry
namespace Json

/-! ## 1. Where a reader stands -/

/-- A reader gets over something and stands in front of the rest. -/
def Stops (r : Except Error Cursor) (rest : List Char) : Prop := ∃ d, r = .ok d ∧ d.rest = rest

/-- A reader gives a value and stands in front of the rest. -/
def Gives {α : Type} (r : Reading α) (a : α) (rest : List Char) : Prop :=
  ∃ d, r = .ok (a, d) ∧ d.rest = rest

section Outcomes

variable {α : Type} {a b : α} {c d : Cursor} {r : Except Error Cursor} {q : Reading α} {e : Error}
  {rest rest' : List Char}

@[simp] theorem stops_ok : Stops (.ok d) rest ↔ d.rest = rest := by
  simp [Stops]

@[simp] theorem not_stops_error : ¬ Stops (.error e) rest := by
  simp [Stops]

@[simp] theorem gives_ok : Gives (.ok (a, d)) b rest ↔ a = b ∧ d.rest = rest := by
  simp [Gives, and_assoc]

@[simp] theorem not_gives_error : ¬ Gives (.error e : Reading α) a rest := by
  simp [Gives]

theorem stops_of_eq_ok (h : r = .ok d) : Stops r d.rest := ⟨d, h, rfl⟩

theorem gives_of_eq_ok (h : q = .ok (a, d)) : Gives q a d.rest := ⟨d, h, rfl⟩

/-- One reader after another. -/
theorem stops_bind_iff {k : Cursor → Except Error Cursor} :
    Stops (match r with | .error e => .error e | .ok c => k c) rest ↔
      ∃ d, r = .ok d ∧ Stops (k d) rest := by
  cases r <;> simp

/-- A reader stands in one place. -/
theorem Stops.eq (h : Stops r rest) (h' : Stops r rest') : rest = rest' := by
  obtain ⟨d, hd, rfl⟩ := h
  obtain ⟨d', hd', rfl⟩ := h'
  rw [hd, Except.ok.injEq] at hd'
  rw [hd']

@[simp] theorem not_stops_fail {f : Fault} : ¬ Stops (c.fail f) rest := by
  rintro ⟨d, h, -⟩
  exact Cursor.fail_ne_ok h

@[simp] theorem not_stops_failAhead {f : Fault} : ¬ Stops (c.failAhead f) rest := by
  rintro ⟨d, h, -⟩
  exact Cursor.failAhead_ne_ok h

@[simp] theorem not_stops_failHex {p : Position} {t : List Char} :
    ¬ Stops (Cursor.failHex p t) rest := by
  rintro ⟨d, h, -⟩
  exact Cursor.failHex_ne_ok h

@[simp] theorem not_gives_fail {f : Fault} : ¬ Gives (c.fail f) a rest := by
  rintro ⟨d, h, -⟩
  exact Cursor.fail_ne_ok h

@[simp] theorem not_gives_failAhead {f : Fault} : ¬ Gives (c.failAhead f) a rest := by
  rintro ⟨d, h, -⟩
  exact Cursor.failAhead_ne_ok h

@[simp] theorem not_gives_failHex {p : Position} {t : List Char} :
    ¬ Gives (Cursor.failHex p t) a rest := by
  rintro ⟨d, h, -⟩
  exact Cursor.failHex_ne_ok h

@[simp] theorem not_gives_failPair {p : Position} {t : List Char} :
    ¬ Gives (Cursor.failPair p t) a rest := by
  rintro ⟨d, h, -⟩
  exact Cursor.failPair_ne_ok h

end Outcomes

theorem Cursor.rest_advance (c : Cursor) : c.advance.rest = c.rest.tail := by
  unfold Cursor.advance
  split <;> simp_all

/-! ## 2. Blanks and words -/

/-- Nothing but blanks. -/
def Blanks (b : List Char) : Prop := ∀ x ∈ b, Cursor.isBlank x = true

/-- The text does not start with a blank. -/
def Unblank (t : List Char) : Prop := ∀ x ∈ t.head?, Cursor.isBlank x = false

theorem blanks_nil : Blanks [] := by
  simp [Blanks]

theorem Blanks.append {b b' : List Char} (hb : Blanks b) (hb' : Blanks b') : Blanks (b ++ b') :=
  fun x hx => (List.mem_append.mp hx).elim (hb x) (hb' x)

@[simp] theorem unblank_cons {x : Char} {t : List Char} :
    Unblank (x :: t) ↔ Cursor.isBlank x = false := by
  simp [Unblank]

namespace Cursor

variable {c d : Cursor} {rest t : List Char}

theorem rest_dropWhile_eq_iff {test : Char → Bool} :
    (c.dropWhile test).rest = t ↔ (∀ x ∈ t.head?, test x = false) ∧
      ∃ b, (∀ x ∈ b, test x = true) ∧ c.rest = b ++ t := by
  constructor
  case mp =>
    rintro rfl
    refine ⟨fun x hx => ?_, c.rest.takeWhile test, List.all_eq_true.mp List.all_takeWhile,
      List.takeWhile_append_dropWhile.symm⟩
    have := List.head?_dropWhile_not test c.rest
    rw [show (c.rest.dropWhile test).head? = some x from hx] at this
    simpa using this
  case mpr =>
    rintro ⟨ht, b, hb, h⟩
    rw [dropWhile, h, List.dropWhile_append_of_pos hb]
    cases t with
    | nil => rfl
    | cons x t => rw [List.dropWhile_cons_of_neg (by simpa using ht)]

theorem rest_skipBlanks_eq_iff :
    c.skipBlanks.rest = t ↔ Unblank t ∧ ∃ b, Blanks b ∧ c.rest = b ++ t :=
  rest_dropWhile_eq_iff

theorem exists_blanks (c : Cursor) : ∃ b, Blanks b ∧ c.rest = b ++ c.skipBlanks.rest :=
  (rest_skipBlanks_eq_iff.mp rfl).2

theorem stops_word_iff {w : List Char} : Stops (word w c) rest ↔ c.rest = w ++ rest := by
  induction w generalizing c with
  | nil => simp [word]
  | cons x w ih =>
    unfold word
    cases hc : c.rest with
    | nil => simp
    | cons y t =>
      by_cases hxy : x = y
      · simp [hxy, ih, rest_advance, hc]
      · simp [hxy, Ne.symm hxy]

end Cursor

/-! ## 3. Strings -/

/-- A character that stands for itself in a string. -/
def Plain (x : Char) : Prop := x ≠ '"' ∧ x ≠ '\\' ∧ ¬ x < ' '

/-- What may stand between the quotes of a string that is passed over.  Any four hexadecimal
digits will do. -/
inductive Loose : List Char → Prop
  | nil : Loose []
  | plain {x : Char} {t : List Char} : Plain x → Loose t → Loose (x :: t)
  | short {x y : Char} {t : List Char} :
      Cursor.escape? x = some y → Loose t → Loose ('\\' :: x :: t)
  | hex {a b c d : Char} {n : Nat} {t : List Char} :
      Cursor.hex4? a b c d = some n → Loose t → Loose ('\\' :: 'u' :: a :: b :: c :: d :: t)

/-- What stands between the quotes of a string that is read, and the characters it spells.  A
character that takes two escapes has both of its halves. -/
inductive Spells : List Char → List Char → Prop
  | nil : Spells [] []
  | plain {x : Char} {t s : List Char} : Plain x → Spells t s → Spells (x :: t) (x :: s)
  | short {x y : Char} {t s : List Char} :
      Cursor.escape? x = some y → Spells t s → Spells ('\\' :: x :: t) (y :: s)
  | hex {a b c d : Char} {n : Nat} {t s : List Char} : Cursor.hex4? a b c d = some n →
      Cursor.isLowSurrogate n = false → Cursor.isHighSurrogate n = false → Spells t s →
      Spells ('\\' :: 'u' :: a :: b :: c :: d :: t) (Char.ofNat n :: s)
  | pair {a b c d e f g h : Char} {n m : Nat} {t s : List Char} :
      Cursor.hex4? a b c d = some n → Cursor.isHighSurrogate n = true →
      Cursor.hex4? e f g h = some m → Cursor.isLowSurrogate m = true → Spells t s →
      Spells ('\\' :: 'u' :: a :: b :: c :: d :: '\\' :: 'u' :: e :: f :: g :: h :: t)
        (Cursor.joinSurrogates n m :: s)

theorem Spells.loose {t s : List Char} (h : Spells t s) : Loose t := by
  induction h with
  | nil => exact .nil
  | plain hx _ ih => exact .plain hx ih
  | short hx _ ih => exact .short hx ih
  | hex hn _ _ _ ih => exact .hex hn ih
  | pair hn _ hm _ _ ih => exact .hex hn (.hex hm ih)

theorem Spells.append {t t' s s' : List Char} (h : Spells t s) (h' : Spells t' s') :
    Spells (t ++ t') (s ++ s') := by
  induction h with
  | nil => exact h'
  | plain hx _ ih => exact .plain hx ih
  | short hx _ ih => exact .short hx ih
  | hex hn hl hh _ ih => exact .hex hn hl hh ih
  | pair hn hh hm hl _ ih => exact .pair hn hh hm hl ih

namespace Cursor

variable {c d : Cursor} {p : Position} {rest t cs : List Char}

theorem escape?_ne_u {x y : Char} (h : escape? x = some y) : x ≠ 'u' := by
  rintro rfl
  simp [escape?] at h

theorem exists_loose_of_stops (h : Stops (skipTextFrom p cs) rest) :
    ∃ t, Loose t ∧ cs = t ++ '"' :: rest := by
  fun_induction skipTextFrom p cs with
  | case2 => exact ⟨[], .nil, by simpa using h⟩
  | case5 p a b c d rest n hn ih =>
    obtain ⟨t, ht, rfl⟩ := ih h
    exact ⟨_, .hex hn ht, rfl⟩
  | case8 p x rest _ _ y hx ih =>
    obtain ⟨t, ht, rfl⟩ := ih h
    exact ⟨_, .short hx ht, rfl⟩
  | case10 p x rest hq hb _ _ hb' hx ih =>
    obtain ⟨t, ht, rfl⟩ := ih h
    have hbackslash : x ≠ '\\' := fun hxb => by
      cases t <;> exact hb' _ _ hxb rfl
    exact ⟨_, .plain ⟨hq, hbackslash, hx⟩ ht, rfl⟩
  | _ => simp at h

theorem stops_skipTextFrom (ht : Loose t) : Stops (skipTextFrom p (t ++ '"' :: rest)) rest := by
  induction ht generalizing p with
  | nil => simp [skipTextFrom]
  | plain hx _ ih => simp [skipTextFrom, hx.1, hx.2.1, hx.2.2, ih]
  | short hx _ ih => simp [skipTextFrom, hx, escape?_ne_u hx, ih]
  | hex hn _ ih => simp [skipTextFrom, hn, ih]

theorem stops_skipText_iff :
    Stops c.skipText rest ↔ ∃ t, Loose t ∧ c.rest = t ++ '"' :: rest := by
  refine ⟨exists_loose_of_stops, ?_⟩
  rintro ⟨t, ht, h⟩
  rw [skipText, h]
  exact stops_skipTextFrom ht

theorem exists_spells_of_gives {read : List Char} {s : String}
    (h : Gives (textFrom read p cs) s rest) :
    ∃ t u, Spells t u ∧ s = String.ofList (read.reverse ++ u) ∧ cs = t ++ '"' :: rest := by
  fun_induction textFrom read p cs with
  | case2 =>
    obtain ⟨rfl, rfl⟩ := gives_ok.mp h
    exact ⟨[], [], .nil, by simp, rfl⟩
  | case7 read p a b c d n hn _ hh e f g h' rest m hm hl ih =>
    obtain ⟨t, u, ht, rfl, rfl⟩ := ih h
    exact ⟨_, _, .pair hn hh hm hl ht, by simp, rfl⟩
  | case10 read p a b c d rest n hn hl hh ih =>
    obtain ⟨t, u, ht, rfl, rfl⟩ := ih h
    exact ⟨_, _, .hex hn (by simpa using hl) (by simpa using hh) ht, by simp, rfl⟩
  | case13 read p x rest _ _ y hx ih =>
    obtain ⟨t, u, ht, rfl, rfl⟩ := ih h
    exact ⟨_, _, .short hx ht, by simp, rfl⟩
  | case15 read p x rest hq _ _ _ hb hx ih =>
    obtain ⟨t, u, ht, rfl, rfl⟩ := ih h
    have hbackslash : x ≠ '\\' := fun hxb => by
      cases t <;> exact hb _ _ hxb rfl
    exact ⟨_, _, .plain ⟨hq, hbackslash, hx⟩ ht, by simp, rfl⟩
  | _ => simp at h

theorem gives_textFrom {u : List Char} (read : List Char) (ht : Spells t u) :
    Gives (textFrom read p (t ++ '"' :: rest)) (String.ofList (read.reverse ++ u)) rest := by
  induction ht generalizing p read with
  | nil => simp [textFrom]
  | @plain x t s hx _ ih =>
    have := @ih (p.after x) (x :: read)
    simpa [textFrom, hx.1, hx.2.1, hx.2.2] using this
  | @short x y t s hx _ ih =>
    have := @ih (p.plus 2) (y :: read)
    simpa [textFrom, hx, escape?_ne_u hx] using this
  | @hex a b c d n t s hn hl hh _ ih =>
    have := @ih (p.plus 6) (Char.ofNat n :: read)
    simpa [textFrom, hn, hl, hh] using this
  | @pair a b c d e f g h n m t s hn hh hm hl _ ih =>
    have := @ih (p.plus 12) (joinSurrogates n m :: read)
    have hl' : isLowSurrogate n = false := by
      simp only [isHighSurrogate, isLowSurrogate, Bool.and_eq_true, decide_eq_true_eq] at hh ⊢
      simp; omega
    simpa [textFrom, hn, hh, hl', hm, hl] using this

theorem gives_text_iff {s : String} :
    Gives c.text s rest ↔ ∃ t, Spells t s.toList ∧ c.rest = t ++ '"' :: rest := by
  constructor
  case mp =>
    intro h
    obtain ⟨t, u, ht, rfl, hc⟩ := exists_spells_of_gives h
    exact ⟨t, by simpa using ht, hc⟩
  case mpr =>
    rintro ⟨t, ht, h⟩
    rw [text, h]
    simpa using gives_textFrom [] ht

end Cursor

/-! ## 4. Numbers -/

/-- Digits, at least one. -/
def Digits (ds : List Char) : Prop := ds ≠ [] ∧ ∀ x ∈ ds, x.isDigit = true

/-- The integer part of a number: no zero stands in front of other digits. -/
def Whole (w : List Char) : Prop := Digits w ∧ (w.head? = some '0' → w = ['0'])

/-- A point and digits, or nothing. -/
def Fraction (f : List Char) : Prop := f = [] ∨ ∃ ds, Digits ds ∧ f = '.' :: ds

/-- An exponent, or nothing. -/
def Exponent (e : List Char) : Prop :=
  e = [] ∨ ∃ x sign ds, (x = 'e' ∨ x = 'E') ∧ (sign = [] ∨ sign = ['-'] ∨ sign = ['+']) ∧
    Digits ds ∧ e = x :: (sign ++ ds)

/-- A number behind its sign. -/
def Unsigned (t : List Char) : Prop :=
  ∃ w f e, Whole w ∧ Fraction f ∧ Exponent e ∧ t = w ++ f ++ e

/-- A number. -/
def Numeral (t : List Char) : Prop := Unsigned t ∨ ∃ u, Unsigned u ∧ t = '-' :: u

/-- The text does not go on with a digit. -/
def Undigit (t : List Char) : Prop := ∀ x ∈ t.head?, x.isDigit = false

/-- The text does not go on with what could be part of a number. -/
def Boundary (t : List Char) : Prop :=
  ∀ x ∈ t.head?, x.isDigit = false ∧ x ≠ '.' ∧ x ≠ 'e' ∧ x ≠ 'E'

theorem ne_of_isDigit {x y : Char} (hx : x.isDigit = true) (hy : y.isDigit = false) : x ≠ y := by
  rintro rfl
  simp [hx] at hy

theorem Boundary.undigit {t : List Char} (h : Boundary t) : Undigit t := fun x hx => (h x hx).1

theorem Digits.exists_cons {ds : List Char} (h : Digits ds) :
    ∃ x t, ds = x :: t ∧ x.isDigit = true := by
  obtain _ | ⟨x, t⟩ := ds
  · exact absurd rfl h.1
  · exact ⟨x, t, rfl, h.2 x List.mem_cons_self⟩

theorem Exponent.undigit {e rest : List Char} (he : Exponent e) (hr : Undigit rest) :
    Undigit (e ++ rest) := by
  obtain rfl | ⟨x, sign, ds, rfl | rfl, -, -, rfl⟩ := he
  · exact hr
  · simp [Undigit]
  · simp [Undigit]

theorem Fraction.undigit {f rest : List Char} (hf : Fraction f) (hr : Undigit rest) :
    Undigit (f ++ rest) := by
  obtain rfl | ⟨ds, -, rfl⟩ := hf
  · exact hr
  · simp [Undigit]

namespace Cursor

variable {c d : Cursor} {rest t : List Char}

theorem stops_skipDigits_iff :
    Stops c.skipDigits rest ↔ Undigit rest ∧ ∃ ds, Digits ds ∧ c.rest = ds ++ rest := by
  have hrest : c.digits.2.rest = rest ↔ Undigit rest ∧
      ∃ ds, (∀ x ∈ ds, x.isDigit = true) ∧ c.rest = ds ++ rest :=
    rest_dropWhile_eq_iff
  unfold skipDigits
  split
  case isTrue hd =>
    rw [stops_ok, hrest]
    refine and_congr_right fun hr => exists_congr fun ds =>
      ⟨fun ⟨hds, h⟩ => ⟨⟨?_, hds⟩, h⟩, fun ⟨hds, h⟩ => ⟨hds.2, h⟩⟩
    rintro rfl
    cases hh : rest.head? with
    | none => simp [h, hh] at hd
    | some x => simp [h, hh, hr x hh] at hd
  case isFalse hd =>
    refine ⟨fun h => absurd h not_stops_failAhead, ?_⟩
    rintro ⟨-, ds, hds, h⟩
    obtain ⟨x, t, rfl, hx⟩ := hds.exists_cons
    simp [h, hx] at hd

theorem exists_sign (c : Cursor) : ∃ sign,
    (sign = [] ∨ sign = ['-'] ∨ sign = ['+']) ∧ c.rest = sign ++ c.skipSign.rest := by
  unfold skipSign
  split
  case isTrue h =>
    cases hc : c.rest with
    | nil => simp [hc] at h
    | cons x t =>
      refine ⟨[x], ?_, by simp [rest_advance, hc]⟩
      simpa [hc] using h
  case isFalse => exact ⟨[], .inl rfl, rfl⟩

theorem rest_skipSign {sign ds : List Char} (hs : sign = [] ∨ sign = ['-'] ∨ sign = ['+'])
    (hds : Digits ds) (hc : c.rest = sign ++ (ds ++ rest)) : c.skipSign.rest = ds ++ rest := by
  obtain ⟨x, t, rfl, hx⟩ := hds.exists_cons
  obtain rfl | rfl | rfl := hs
  · have hm : x ≠ '-' := ne_of_isDigit hx rfl
    have hp : x ≠ '+' := ne_of_isDigit hx rfl
    simp [skipSign, hc, hm, hp]
  · simp [skipSign, hc, rest_advance]
  · simp [skipSign, hc, rest_advance]

theorem exists_exponent_of_stops (h : Stops c.skipExponent rest) :
    ∃ e, Exponent e ∧ c.rest = e ++ rest := by
  unfold skipExponent at h
  split at h
  case isTrue he =>
    obtain ⟨-, ds, hds, hd⟩ := stops_skipDigits_iff.mp h
    obtain ⟨sign, hs, ha⟩ := c.advance.exists_sign
    cases hc : c.rest with
    | nil => simp [atExponent, hc] at he
    | cons x t =>
      refine ⟨x :: (sign ++ ds), .inr ⟨x, sign, ds, ?_, hs, hds, rfl⟩, ?_⟩
      · simpa [atExponent, hc] using he
      · simpa [rest_advance, hc, hd] using ha
  case isFalse => exact ⟨[], .inl rfl, stops_ok.mp h⟩

theorem stops_skipExponent {e : List Char} (he : Exponent e) (hr : Boundary rest)
    (hc : c.rest = e ++ rest) : Stops c.skipExponent rest := by
  obtain rfl | ⟨x, sign, ds, hx, hs, hds, rfl⟩ := he
  · have hne : c.atExponent = false := by
      cases hh : rest.head? with
      | none => simp [atExponent, hc, hh]
      | some y => simp [atExponent, hc, hh, (hr y hh).2.2.1, (hr y hh).2.2.2]
    simpa [skipExponent, hne] using hc
  · have he : c.atExponent = true := by simpa [atExponent, hc] using hx
    rw [skipExponent, if_pos he, stops_skipDigits_iff]
    exact ⟨hr.undigit, ds, hds, rest_skipSign hs hds (by simp [rest_advance, hc])⟩

theorem exists_fraction_of_stops (h : Stops c.skipFraction rest) :
    ∃ f e, Fraction f ∧ Exponent e ∧ c.rest = f ++ (e ++ rest) := by
  unfold skipFraction at h
  split at h
  case isTrue hp =>
    obtain ⟨d, hd, h⟩ := stops_bind_iff.mp h
    obtain ⟨e, he, hrest⟩ := exists_exponent_of_stops h
    obtain ⟨-, ds, hds, ha⟩ := stops_skipDigits_iff.mp (stops_of_eq_ok hd)
    cases hc : c.rest with
    | nil => simp [hc] at hp
    | cons x t =>
      obtain rfl : x = '.' := by simpa [hc] using hp
      refine ⟨'.' :: ds, e, .inr ⟨ds, hds, rfl⟩, he, ?_⟩
      simpa [rest_advance, hc, hrest] using ha
  case isFalse =>
    obtain ⟨e, he, hrest⟩ := exists_exponent_of_stops h
    exact ⟨[], e, .inl rfl, he, hrest⟩

theorem stops_skipFraction {f e : List Char} (hf : Fraction f) (he : Exponent e)
    (hr : Boundary rest) (hc : c.rest = f ++ (e ++ rest)) : Stops c.skipFraction rest := by
  obtain rfl | ⟨ds, hds, rfl⟩ := hf
  · have hne : c.rest.head? ≠ some '.' := by
      obtain rfl | ⟨x, sign, ds, rfl | rfl, -, -, rfl⟩ := he
      · intro h
        exact (hr '.' (by simpa [hc] using h)).2.1 rfl
      · simp [hc]
      · simp [hc]
    rw [skipFraction, if_neg hne]
    exact stops_skipExponent he hr hc
  · obtain ⟨d, hd, hrest⟩ : Stops c.advance.skipDigits (e ++ rest) :=
      stops_skipDigits_iff.mpr ⟨he.undigit hr.undigit, ds, hds, by simp [rest_advance, hc]⟩
    rw [skipFraction, if_pos (by simp [hc]), hd]
    exact stops_skipExponent he hr hrest

theorem exists_unsigned_of_stops (h : Stops c.skipNumber rest) :
    ∃ u, Unsigned u ∧ c.rest = u ++ rest := by
  unfold skipNumber at h
  split at h
  next t hc =>
    split at h
    · exact absurd h not_stops_failAhead
    · obtain ⟨f, e, hf, he, ha⟩ := exists_fraction_of_stops h
      refine ⟨_, ⟨['0'], f, e, ⟨by simp [Digits], by simp⟩, hf, he, rfl⟩, ?_⟩
      simpa [rest_advance, hc] using ha
  next hz =>
    obtain ⟨d, hd, h⟩ := stops_bind_iff.mp h
    obtain ⟨f, e, hf, he, hrest⟩ := exists_fraction_of_stops h
    obtain ⟨-, ds, hds, hc⟩ := stops_skipDigits_iff.mp (stops_of_eq_ok hd)
    refine ⟨_, ⟨ds, f, e, ⟨hds, fun h0 => ?_⟩, hf, he, rfl⟩, by simp [hc, hrest]⟩
    obtain ⟨x, t, rfl, -⟩ := hds.exists_cons
    obtain rfl : x = '0' := by simpa using h0
    exact absurd hc (hz _)

theorem stops_skipNumber {u : List Char} (hu : Unsigned u) (hr : Boundary rest)
    (hc : c.rest = u ++ rest) : Stops c.skipNumber rest := by
  obtain ⟨w, f, e, ⟨hw, hz⟩, hf, he, rfl⟩ := hu
  have hu : Undigit (f ++ (e ++ rest)) := hf.undigit (he.undigit hr.undigit)
  unfold skipNumber
  split
  next t ht =>
    obtain rfl : w = ['0'] := by
      obtain ⟨x, v, rfl, -⟩ := hw.exists_cons
      rw [ht] at hc
      exact hz (by simpa using (List.cons.inj hc).1.symm)
    obtain rfl : t = f ++ (e ++ rest) := by simpa [ht] using hc
    have hd : ¬ ((f ++ (e ++ rest)).head?.map Char.isDigit).getD false = true := by
      cases hh : (f ++ (e ++ rest)).head? with
      | none => simp
      | some x => simp [hu x hh]
    rw [if_neg hd]
    exact stops_skipFraction hf he hr (by simp [rest_advance, ht])
  next hne =>
    obtain ⟨d, hd, hrest⟩ : Stops c.skipDigits (f ++ (e ++ rest)) :=
      stops_skipDigits_iff.mpr ⟨hu, w, hw, by simp [hc]⟩
    rw [hd]
    exact stops_skipFraction hf he hr hrest

end Cursor

/-! ## 5. Values without brackets -/

/-- The words of JSON. -/
def words : List (List Char) :=
  [['n', 'u', 'l', 'l'], ['t', 'r', 'u', 'e'], ['f', 'a', 'l', 's', 'e']]

/-- A value without brackets. -/
inductive Atom : List Char → Prop
  | word {w : List Char} : w ∈ words → Atom w
  | text {t : List Char} : Loose t → Atom ('"' :: (t ++ ['"']))
  | number {t : List Char} : Numeral t → Atom t

/-- How a value without brackets starts. -/
def Opens (x : Char) : Prop := x = 'n' ∨ x = 't' ∨ x = 'f' ∨ x = '"' ∨ x = '-' ∨ x.isDigit = true

theorem Unsigned.exists_cons {u : List Char} (h : Unsigned u) :
    ∃ x t, u = x :: t ∧ x.isDigit = true := by
  obtain ⟨w, f, e, ⟨hw, -⟩, -, -, rfl⟩ := h
  obtain ⟨x, t, rfl, hx⟩ := hw.exists_cons
  exact ⟨x, _, rfl, hx⟩

theorem Atom.exists_cons {v : List Char} (h : Atom v) : ∃ x t, v = x :: t ∧ Opens x := by
  cases h with
  | word hw =>
    simp only [words, List.mem_cons, List.not_mem_nil, or_false] at hw
    obtain rfl | rfl | rfl := hw <;> exact ⟨_, _, rfl, by simp [Opens]⟩
  | text => exact ⟨_, _, rfl, by simp [Opens]⟩
  | number hn =>
    obtain hu | ⟨u, -, rfl⟩ := hn
    · obtain ⟨x, t, rfl, hx⟩ := hu.exists_cons
      exact ⟨x, t, rfl, by simp [Opens, hx]⟩
    · exact ⟨_, _, rfl, by simp [Opens]⟩

namespace Cursor

variable {c d : Cursor} {rest v : List Char}

theorem skipScalar_of_isDigit {x : Char} {t : List Char} (hc : c.rest = x :: t)
    (hx : x.isDigit = true) : c.skipScalar = c.skipNumber := by
  unfold skipScalar
  split
  case h_7 y u _ _ _ _ _ h =>
    obtain ⟨rfl, rfl⟩ : x = y ∧ t = u := by simpa [hc] using h
    rw [if_pos hx]
  case h_1 h => simp [hc] at h
  all_goals
    obtain ⟨rfl, -⟩ := List.cons.inj (hc.symm.trans ‹_›)
    simp at hx

theorem exists_atom_of_stops_word {x : Char} {w t : List Char} (hw : x :: w ∈ words)
    (hc : c.rest = x :: t) (h : Stops (word w c.advance) rest) :
    ∃ v, Atom v ∧ c.rest = v ++ rest :=
  ⟨x :: w, .word hw, by simpa [stops_word_iff, rest_advance, hc] using h⟩

theorem exists_atom_of_stops (h : Stops c.skipScalar rest) : ∃ v, Atom v ∧ c.rest = v ++ rest := by
  unfold skipScalar at h
  split at h
  case h_1 => simp at h
  case h_2 t hc => exact exists_atom_of_stops_word (by simp [words]) hc h
  case h_3 t hc => exact exists_atom_of_stops_word (by simp [words]) hc h
  case h_4 t hc => exact exists_atom_of_stops_word (by simp [words]) hc h
  case h_5 t hc =>
    obtain ⟨s, hs, ht⟩ := stops_skipText_iff.mp h
    exact ⟨_, .text hs, by simpa [rest_advance, hc] using ht⟩
  case h_6 t hc =>
    obtain ⟨u, hu, ht⟩ := exists_unsigned_of_stops h
    exact ⟨_, .number (.inr ⟨u, hu, rfl⟩), by simpa [rest_advance, hc] using ht⟩
  case h_7 =>
    split at h
    · obtain ⟨u, hu, ht⟩ := exists_unsigned_of_stops h
      exact ⟨_, .number (.inl hu), ht⟩
    · simp at h

theorem stops_skipScalar (hv : Atom v) (hr : Boundary rest) (hc : c.rest = v ++ rest) :
    Stops c.skipScalar rest := by
  cases hv with
  | word hw =>
    simp only [words, List.mem_cons, List.not_mem_nil, or_false] at hw
    obtain rfl | rfl | rfl := hw <;> simp_all [skipScalar, stops_word_iff, rest_advance]
  | text ht =>
    have h : Stops c.advance.skipText rest :=
      stops_skipText_iff.mpr ⟨_, ht, by simp [rest_advance, hc]⟩
    simpa [skipScalar, hc] using h
  | number hn =>
    obtain hu | ⟨u, hu, rfl⟩ := hn
    · obtain ⟨x, t, rfl, hx⟩ := hu.exists_cons
      rw [skipScalar_of_isDigit (by simpa using hc) hx]
      exact stops_skipNumber hu hr hc
    · have h : Stops c.advance.skipNumber rest :=
        stops_skipNumber hu hr (by simp [rest_advance, hc])
      simpa [skipScalar, hc] using h

end Cursor

end Json
end SubscriptionRegistry
