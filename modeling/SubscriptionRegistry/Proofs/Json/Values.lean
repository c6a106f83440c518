/-
# Values of any depth

What is written behind an unknown key is passed over, brackets and all.  The reader keeps the open
brackets in a stack, the grammar nests.  That both speak of the same texts is shown in two steps: a
written value leads the reader from in front of it to behind it, whatever brackets are open around
it; and a reader that gets through has seen what its place and its stack demand.

* `Json.Written`: values, and the parts of a bracket.
* `Cursor.stops_skipValue`: a written value is passed over.
* `Cursor.exists_written_of_stops`: only a written value is.
-/
import SubscriptionRegistry.Proofs.Json.Tokens

namespace SubscriptionRegistry
namespace Json

/-! ## 1. The grammar -/

/-- The bracket that opens a frame. -/
def Cursor.Frame.opening : Cursor.Frame → Char
  | .list => '['
  | .object => '\x7b'

/-- What stands in front of an element: in an object, a key and a colon. -/
inductive Label : Cursor.Frame → List Char → Prop
  | list : Label .list []
  | object {t b : List Char} : Loose t → Blanks b →
      Label .object ('"' :: (t ++ '"' :: (b ++ [':'])))

/-- What may be written: a value, or what is left of a bracket. -/
inductive Part
  | value
  /-- Behind the opening bracket. -/
  | opened (f : Cursor.Frame)
  /-- Behind an element. -/
  | behind (f : Cursor.Frame)

/-- Values of any depth, and what is left of a bracket up to the one that closes it. -/
inductive Written : Part → List Char → Prop
  | atom {v : List Char} : Atom v → Written .value v
  | bracket {f : Cursor.Frame} {t : List Char} :
      Written (.opened f) t → Written .value (f.opening :: t)
  | empty {f : Cursor.Frame} {b : List Char} : Blanks b → Written (.opened f) (b ++ [f.close])
  | first {f : Cursor.Frame} {b k b' v t : List Char} : Blanks b → Label f k → Blanks b' →
      Written .value v → Written (.behind f) t → Written (.opened f) (b ++ (k ++ (b' ++ (v ++ t))))
  | close {f : Cursor.Frame} {b : List Char} : Blanks b → Written (.behind f) (b ++ [f.close])
  | next {f : Cursor.Frame} {b b₁ k b' v t : List Char} : Blanks b → Blanks b₁ → Label f k →
      Blanks b' → Written .value v → Written (.behind f) t →
      Written (.behind f) (b ++ ',' :: (b₁ ++ (k ++ (b' ++ (v ++ t)))))

/-! ### How values start, and what follows them -/

/-- How a value starts. -/
def Begins (x : Char) : Prop := Opens x ∨ ∃ f : Cursor.Frame, x = f.opening

theorem Written.exists_cons {v : List Char} (h : Written .value v) :
    ∃ x t, v = x :: t ∧ Begins x := by
  cases h with
  | atom ha =>
    obtain ⟨x, t, rfl, hx⟩ := ha.exists_cons
    exact ⟨x, t, rfl, .inl hx⟩
  | bracket => exact ⟨_, _, rfl, .inr ⟨_, rfl⟩⟩

theorem Opens.ofBracket? {x : Char} (h : Opens x) : Cursor.Frame.ofBracket? x = none := by
  obtain rfl | rfl | rfl | rfl | rfl | hd := h
  case inr.inr.inr.inr.inr =>
    have h₁ : x ≠ '[' := ne_of_isDigit hd rfl
    have h₂ : x ≠ '\x7b' := ne_of_isDigit hd rfl
    simp [Cursor.Frame.ofBracket?]
  all_goals rfl

theorem Begins.isBlank {x : Char} (h : Begins x) : Cursor.isBlank x = false := by
  obtain (rfl | rfl | rfl | rfl | rfl | hd) | ⟨f, rfl⟩ := h
  case inr => cases f <;> rfl
  case inl.inr.inr.inr.inr.inr =>
    have h₁ : x ≠ ' ' := ne_of_isDigit hd rfl
    have h₂ : x ≠ '\n' := ne_of_isDigit hd rfl
    have h₃ : x ≠ '\t' := ne_of_isDigit hd rfl
    have h₄ : x ≠ '\r' := ne_of_isDigit hd rfl
    simp [Cursor.isBlank, h₁, h₂, h₃, h₄]
  all_goals rfl

theorem Begins.ne_close {x : Char} (h : Begins x) (f : Cursor.Frame) : x ≠ f.close := by
  obtain (rfl | rfl | rfl | rfl | rfl | hd) | ⟨g, rfl⟩ := h
  case inr => cases f <;> cases g <;> decide
  case inl.inr.inr.inr.inr.inr => exact ne_of_isDigit hd (by cases f <;> rfl)
  all_goals cases f <;> decide

theorem Cursor.Frame.ofBracket?_eq_some_iff {x : Char} {f : Cursor.Frame} :
    Cursor.Frame.ofBracket? x = some f ↔ x = f.opening := by
  constructor
  case mp =>
    intro h
    unfold Cursor.Frame.ofBracket? at h
    split at h <;> cases h <;> rfl
  case mpr =>
    rintro rfl
    cases f <;> rfl

theorem Cursor.Frame.isBlank_close (f : Cursor.Frame) : Cursor.isBlank f.close = false := by
  cases f <;> rfl

theorem boundary_append {b t : List Char} (hb : Blanks b) (ht : Boundary t) :
    Boundary (b ++ t) := by
  cases b with
  | nil => exact ht
  | cons x b =>
    have hx := hb x List.mem_cons_self
    simp only [Cursor.isBlank, Bool.or_eq_true, decide_eq_true_eq] at hx
    obtain ((rfl | rfl) | rfl) | rfl := hx <;> simp [Boundary]

theorem Written.boundary {f : Cursor.Frame} {t : List Char} (h : Written (.behind f) t)
    (rest : List Char) : Boundary (t ++ rest) := by
  cases h with
  | close hb =>
    rw [List.append_assoc]
    exact boundary_append hb (by cases f <;> simp [Boundary, Cursor.Frame.close])
  | next hb =>
    rw [List.append_assoc]
    exact boundary_append hb (by simp [Boundary])

/-! ## 2. The parts of a reader -/

namespace Cursor

variable {c d : Cursor} {rest b t : List Char} {x : Char} {f : Frame} {stack : List Frame}

/-- Past the blanks stands what follows them. -/
theorem rest_skipBlanks (hc : c.rest = b ++ x :: t) (hb : Blanks b) (hx : isBlank x = false) :
    c.skipBlanks.rest = x :: t :=
  rest_skipBlanks_eq_iff.mpr ⟨by simpa using hx, b, hb, hc⟩

theorem stops_colon_iff : Stops c.colon rest ↔ ∃ b, Blanks b ∧ c.rest = b ++ ':' :: rest := by
  constructor
  case mp =>
    intro h
    obtain ⟨b, hb, hc⟩ := c.exists_blanks
    simp only [colon] at h
    split at h
    case h_2 t ht => exact ⟨b, hb, by simpa [rest_advance, ht, hc] using h⟩
    all_goals simp at h
  case mpr =>
    rintro ⟨b, hb, hc⟩
    have hs := rest_skipBlanks hc hb rfl
    simp [colon, hs, rest_advance]

theorem exists_label_of_stops (h : Stops (skipKey f c) rest) :
    ∃ b k, Blanks b ∧ Label f k ∧ c.rest = b ++ (k ++ rest) := by
  cases f with
  | list => exact ⟨[], [], blanks_nil, .list, stops_ok.mp h⟩
  | object =>
    obtain ⟨b, hb, hc⟩ := c.exists_blanks
    simp only [skipKey] at h
    split at h
    case h_2 t ht =>
      obtain ⟨d, hd, h⟩ := stops_bind_iff.mp h
      obtain ⟨s, hs, hsr⟩ := stops_skipText_iff.mp (stops_of_eq_ok hd)
      obtain ⟨b', hb', hd'⟩ := stops_colon_iff.mp h
      refine ⟨b, _, hb, .object hs hb', ?_⟩
      have : t = s ++ '"' :: d.rest := by simpa [rest_advance, ht] using hsr
      simp [hc, ht, this, hd']
    all_goals simp at h

theorem stops_skipKey {k b' : List Char} (hb : Blanks b) (hk : Label f k) (hb' : Blanks b')
    (hc : c.rest = b ++ (k ++ (b' ++ rest))) :
    ∃ b'', Blanks b'' ∧ Stops (skipKey f c) (b'' ++ rest) := by
  cases hk with
  | list =>
    exact ⟨b ++ b', hb.append hb', by simp [skipKey, hc]⟩
  | @object s b₁ hs hb₁ =>
    have hq := rest_skipBlanks hc hb rfl
    obtain ⟨d, hd, hdr⟩ : Stops c.skipBlanks.advance.skipText (b₁ ++ ':' :: (b' ++ rest)) :=
      stops_skipText_iff.mpr ⟨s, hs, by simp [rest_advance, hq]⟩
    refine ⟨b', hb', ?_⟩
    simp only [skipKey, hq, hd]
    exact stops_colon_iff.mpr ⟨b₁, hb₁, hdr⟩

/-- A first element does not look like the closing bracket. -/
theorem stops_skipKey_first {k b' v : List Char} (hb : Blanks b) (hk : Label f k) (hb' : Blanks b')
    (hv : Written .value v) (hc : c.rest = b ++ (k ++ (b' ++ (v ++ rest)))) :
    ∃ x t, c.skipBlanks.rest = x :: t ∧ x ≠ f.close ∧
      ∃ b'', Blanks b'' ∧ Stops (skipKey f c.skipBlanks) (b'' ++ (v ++ rest)) := by
  obtain ⟨x, v, rfl, hx⟩ := hv.exists_cons
  cases hk with
  | list =>
    have hs : c.skipBlanks.rest = x :: (v ++ rest) :=
      rest_skipBlanks (by simpa using hc) (hb.append hb') hx.isBlank
    exact ⟨x, _, hs, hx.ne_close _, [], blanks_nil, stops_ok.mpr hs⟩
  | object ht hb₁ =>
    have hs := rest_skipBlanks hc hb rfl
    exact ⟨_, _, hs, by decide, stops_skipKey blanks_nil (.object ht hb₁) hb' hs⟩

/-! ### One step of the reader -/

theorem skipFrom_before (hc : c.skipBlanks.rest = x :: t) :
    skipFrom .before stack c =
      match Frame.ofBracket? x with
      | some f => skipFrom .opened (f :: stack) c.skipBlanks.advance
      | none =>
        match c.skipBlanks.skipScalar with
        | .error e => .error e
        | .ok d => skipFrom .behind stack d := by
  rw [skipFrom]
  split
  next h => simp [hc] at h
  next h =>
    obtain ⟨rfl, -⟩ := List.cons.inj (hc.symm.trans h)
    cases Frame.ofBracket? x with
    | some f => rfl
    | none =>
      simp only
      split <;> simp_all

theorem skipFrom_opened (hc : c.skipBlanks.rest = x :: t) :
    skipFrom .opened (f :: stack) c =
      if x = f.close then skipFrom .behind stack c.skipBlanks.advance
      else
        match skipKey f c.skipBlanks with
        | .error e => .error e
        | .ok d => skipFrom .before (f :: stack) d := by
  rw [skipFrom]
  split
  next h => simp [hc] at h
  next h =>
    obtain ⟨rfl, -⟩ := List.cons.inj (hc.symm.trans h)
    by_cases hx : x = f.close
    · simp [hx]
    · simp only [hx, if_false]
      split <;> simp_all

theorem skipFrom_behind (hc : c.skipBlanks.rest = x :: t) :
    skipFrom .behind (f :: stack) c =
      if x = f.close then skipFrom .behind stack c.skipBlanks.advance
      else if x = ',' then
        match skipKey f c.skipBlanks.advance with
        | .error e => .error e
        | .ok d => skipFrom .before (f :: stack) d
      else c.skipBlanks.failAhead f.expectedCommaOrEnd := by
  rw [skipFrom]
  split
  next h => simp [hc] at h
  next h =>
    obtain ⟨rfl, -⟩ := List.cons.inj (hc.symm.trans h)
    by_cases hx : x = f.close
    · simp [hx]
    · simp only [hx, if_false]
      by_cases hcomma : x = ','
      · simp only [hcomma, if_true]
        split <;> simp_all
      · simp [hcomma]

/-! ## 3. A written value is passed over -/

/-- A text takes the reader from one place to another, if what follows cannot be part of it. -/
def Leads (place : Place) (stack : List Frame) (t : List Char) (place' : Place)
    (stack' : List Frame) : Prop :=
  ∀ c rest, c.rest = t ++ rest → Boundary rest →
    ∃ d, d.rest = rest ∧ skipFrom place stack c = skipFrom place' stack' d

/-- What it means that a part is passed over, with any brackets open around it. -/
def Passed : Part → List Char → Prop
  | .value, v => ∀ stack b, Blanks b → Leads .before stack (b ++ v) .behind stack
  | .opened f, t => ∀ stack, Leads .opened (f :: stack) t .behind stack
  | .behind f, t => ∀ stack, Leads .behind (f :: stack) t .behind stack

/-- An element leads on to what is left of its bracket, and that to the end of it. -/
theorem leads_element {v : List Char} (hb : Blanks b) (hv : Passed .value v)
    (ht : Passed (.behind f) t) (hafter : ∀ rest, Boundary (t ++ rest)) :
    Leads .before (f :: stack) (b ++ (v ++ t)) .behind stack := by
  intro c rest hc hr
  obtain ⟨d, hd, hvalue⟩ := hv (f :: stack) b hb c (t ++ rest) (by simpa using hc) (hafter rest)
  obtain ⟨d', hd', hrest⟩ := ht stack d rest hd hr
  exact ⟨d', hd', hvalue.trans hrest⟩

/-- **What is written is passed over.**  By induction on how it is written, for any brackets around
it: an element stands in its own bracket, so the stack has to be free. -/
theorem passed_of_written {p : Part} {t : List Char} (h : Written p t) : Passed p t := by
  induction h with
  -- a value leads from in front of it to behind it
  | @atom v hv =>
    intro stack b hb c rest hc hr
    obtain ⟨x, t, rfl, hx⟩ := hv.exists_cons
    have hs : c.skipBlanks.rest = x :: (t ++ rest) :=
      rest_skipBlanks (by simpa using hc) hb (Begins.isBlank (.inl hx))
    obtain ⟨d, hd, hdr⟩ := stops_skipScalar hv hr hs
    exact ⟨d, hdr, by rw [skipFrom_before hs, hx.ofBracket?, hd]⟩
  | @bracket f t ht ih =>
    intro stack b hb c rest hc hr
    have hs : c.skipBlanks.rest = f.opening :: (t ++ rest) :=
      rest_skipBlanks (by simpa using hc) hb (Begins.isBlank (.inr ⟨f, rfl⟩))
    rw [skipFrom_before hs, Frame.ofBracket?_eq_some_iff.mpr rfl]
    exact ih stack _ rest (by simp [rest_advance, hs]) hr
  -- behind an opening bracket the closing one may come at once, but no comma
  | @empty f b hb =>
    intro stack c rest hc hr
    have hs : c.skipBlanks.rest = f.close :: rest :=
      rest_skipBlanks (by simpa using hc) hb f.isBlank_close
    exact ⟨c.skipBlanks.advance, by simp [rest_advance, hs], by rw [skipFrom_opened hs, if_pos rfl]⟩
  | @first f b k b' v t hb hk hb' hv ht ihv iht =>
    intro stack c rest hc hr
    have hc' : c.rest = b ++ (k ++ (b' ++ (v ++ (t ++ rest)))) := by simpa using hc
    obtain ⟨x, u, hx, hxc, b'', hb'', d, hd, hdr⟩ := stops_skipKey_first hb hk hb' hv hc'
    rw [skipFrom_opened hx, if_neg hxc, hd]
    exact leads_element hb'' ihv iht ht.boundary d rest (by simpa using hdr) hr
  -- behind an element a comma calls for another one
  | @close f b hb =>
    intro stack c rest hc hr
    have hs : c.skipBlanks.rest = f.close :: rest :=
      rest_skipBlanks (by simpa using hc) hb f.isBlank_close
    exact ⟨c.skipBlanks.advance, by simp [rest_advance, hs],
      by rw [skipFrom_behind hs, if_pos rfl]⟩
  | @next f b b₁ k b' v t hb hb₁ hk hb' hv ht ihv iht =>
    intro stack c rest hc hr
    have hs : c.skipBlanks.rest = ',' :: (b₁ ++ (k ++ (b' ++ (v ++ (t ++ rest))))) :=
      rest_skipBlanks (by simpa using hc) hb rfl
    have hc' : c.skipBlanks.advance.rest = b₁ ++ (k ++ (b' ++ (v ++ (t ++ rest)))) := by
      simp [rest_advance, hs]
    obtain ⟨b'', hb'', d, hd, hdr⟩ := stops_skipKey hb₁ hk hb' hc'
    have hcomma : ',' ≠ f.close := by cases f <;> decide
    rw [skipFrom_behind hs, if_neg hcomma, if_pos rfl, hd]
    exact leads_element hb'' ihv iht ht.boundary d rest (by simpa using hdr) hr

/-- A written value is passed over, wherever it stands. -/
theorem stops_skipValue {v : List Char} (hb : Blanks b) (hv : Written .value v)
    (hr : Boundary rest) (hc : c.rest = b ++ (v ++ rest)) : Stops c.skipValue rest := by
  obtain ⟨d, hd, h⟩ := passed_of_written hv [] b hb c rest (by simpa using hc) hr
  exact ⟨d, by rw [skipValue, h, skipFrom], hd⟩

/-! ## 4. Only a written value is passed over -/

/-- What closes the open brackets, one after another. -/
inductive Closes : List Frame → List Char → Prop
  | nil : Closes [] []
  | cons {f : Frame} {stack : List Frame} {t u : List Char} :
      Written (.behind f) t → Closes stack u → Closes (f :: stack) (t ++ u)

/-- What a reader in a place still has to see. -/
inductive Demands : Place → List Frame → List Char → Prop
  | before {stack : List Frame} {b v u : List Char} :
      Blanks b → Written .value v → Closes stack u → Demands .before stack (b ++ (v ++ u))
  | opened {f : Frame} {stack : List Frame} {t u : List Char} :
      Written (.opened f) t → Closes stack u → Demands .opened (f :: stack) (t ++ u)
  | behind {stack : List Frame} {u : List Char} : Closes stack u → Demands .behind stack u
  /-- No reader stands behind an opening bracket where none is open. -/
  | nowhere : Demands .opened [] []

theorem Demands.closes (h : Demands .behind stack t) : Closes stack t := by
  cases h
  assumption

/-- In front of an element, what is left of the bracket is to be seen. -/
theorem Demands.exists_element (h : Demands .before (f :: stack) t) :
    ∃ b v t' u, Blanks b ∧ Written .value v ∧ Written (.behind f) t' ∧ Closes stack u ∧
      t = b ++ (v ++ (t' ++ u)) := by
  cases h with
  | before hb hv hu =>
    cases hu with
    | cons ht hu => exact ⟨_, _, _, _, hb, hv, ht, hu, rfl⟩

/-- **A reader that gets through has seen what it had to.**  By induction on its steps: each takes
what it demands off the front, and leaves what the next place demands. -/
theorem exists_demands {place : Place} (h : skipFrom place stack c = .ok d) :
    ∃ t, Demands place stack t ∧ c.rest = t ++ d.rest := by
  fun_induction skipFrom place stack c with
  | case2 c stack d' x t hd f hf _ _ ih =>
    obtain ⟨_, ho, hrest⟩ := ih h
    cases ho with
    | opened ho hu =>
      obtain ⟨b, hb, hc⟩ := c.exists_blanks
      obtain rfl := Frame.ofBracket?_eq_some_iff.mp hf
      refine ⟨_, .before hb (.bracket ho) hu, ?_⟩
      rw [rest_advance, hd, List.tail_cons] at hrest
      rw [hc, hd, hrest]
      simp
  | case4 c stack d' x t hd hx d'' hs _ _ ih =>
    obtain ⟨u, hu, hrest⟩ := ih h
    obtain ⟨b, hb, hc⟩ := c.exists_blanks
    obtain ⟨v, hv, hvr⟩ := exists_atom_of_stops (stops_of_eq_ok hs)
    refine ⟨_, .before hb (.atom hv) hu.closes, ?_⟩
    rw [hc, hvr, hrest]
    simp
  | case5 c =>
    cases h
    exact ⟨[], .nowhere, rfl⟩
  | case7 c f outer d' t _ hd _ ih =>
    obtain ⟨u, hu, hrest⟩ := ih h
    obtain ⟨b, hb, hc⟩ := c.exists_blanks
    refine ⟨_, .opened (.empty hb) hu.closes, ?_⟩
    rw [rest_advance, hd, List.tail_cons] at hrest
    rw [hc, hd, hrest]
    simp
  | case9 c f outer d' x t hd hx d'' hk _ _ ih =>
    obtain ⟨t', ht', hrest⟩ := ih h
    obtain ⟨b', v, t', u, hb', hv, ht, hu, rfl⟩ := ht'.exists_element
    obtain ⟨b, hb, hc⟩ := c.exists_blanks
    obtain ⟨b₁, k, hb₁, hk, hkr⟩ := exists_label_of_stops (stops_of_eq_ok hk)
    refine ⟨_, .opened (.first (hb.append hb₁) hk hb' hv ht) hu, ?_⟩
    rw [hc, hkr, hrest]
    simp
  | case10 c =>
    cases h
    exact ⟨[], .behind .nil, rfl⟩
  | case12 c f outer d' t _ hd _ ih =>
    obtain ⟨u, hu, hrest⟩ := ih h
    obtain ⟨b, hb, hc⟩ := c.exists_blanks
    refine ⟨_, .behind (.cons (.close hb) hu.closes), ?_⟩
    rw [rest_advance, hd, List.tail_cons] at hrest
    rw [hc, hd, hrest]
    simp
  | case14 c f outer d' t d'' hk _ _ hd _ _ ih =>
    obtain ⟨t', ht', hrest⟩ := ih h
    obtain ⟨b', v, t', u, hb', hv, ht, hu, rfl⟩ := ht'.exists_element
    obtain ⟨b, hb, hc⟩ := c.exists_blanks
    obtain ⟨b₁, k, hb₁, hk, hkr⟩ := exists_label_of_stops (stops_of_eq_ok hk)
    refine ⟨_, .behind (.cons (.next hb hb₁ hk hb' hv ht) hu), ?_⟩
    rw [rest_advance, hd, List.tail_cons] at hkr
    rw [hc, hd, hkr, hrest]
    simp
  | _ => simp at h

/-- Only a written value is passed over. -/
theorem exists_written_of_stops (h : Stops c.skipValue rest) :
    ∃ b v, Blanks b ∧ Written .value v ∧ c.rest = b ++ (v ++ rest) := by
  obtain ⟨d, hd, rfl⟩ := h
  obtain ⟨t, ht, hc⟩ := exists_demands hd
  cases ht with
  | before hb hv hu =>
    cases hu
    exact ⟨_, _, hb, hv, by simpa using hc⟩

end Cursor

end Json
end SubscriptionRegistry
