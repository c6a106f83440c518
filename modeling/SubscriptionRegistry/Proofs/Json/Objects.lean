/-
# Records from objects

The members of an object may come in any order, and any others may stand between them.  What a
record takes from them is told name by name: a field is taken from the one member of its name,
and a name that comes twice, or not at all, leaves no record.

* `Json.ObjectText`: the text of an object, with its members.
* `Json.Collects`: what becomes of the fields found so far, member by member.
* `Cursor.gives_members_iff`: along a written object the reader does as `Collects` says.
* `Cursor.exists_members_of_gives`: a reader that gets through has read an object.
* `Json.collects_iff`: the fields that are found, name by name.
-/
import SubscriptionRegistry.Proofs.Json.Values

namespace SubscriptionRegistry
namespace Json

/-! ## 1. Objects -/

/-- A member: its name, and its value as it is written. -/
abbrev Member := String × List Char

/-- What stands in front of a key: blanks, and a comma unless the member is the first. -/
inductive Separator : Bool → List Char → Prop
  | first {b : List Char} : Blanks b → Separator true b
  | next {b b' : List Char} : Blanks b → Blanks b' → Separator false (b ++ ',' :: b')

/-- Members up to the closing bracket.  The flag tells whether the next one is the first. -/
inductive Members : Bool → List Member → List Char → Prop
  | close {first : Bool} {b : List Char} : Blanks b → Members first [] (b ++ ['\x7d'])
  | member {first : Bool} {name : String} {k t b b' v u : List Char} {ms : List Member} :
      Separator first k → Spells t name.toList → Blanks b → Blanks b' → Written .value v →
      Members false ms u →
      Members first ((name, v) :: ms) (k ++ '"' :: (t ++ '"' :: (b ++ ':' :: (b' ++ (v ++ u)))))

/-- The text of an object with these members. -/
def ObjectText (ms : List Member) (text : String) : Prop :=
  ∃ b t b', Blanks b ∧ Members true ms t ∧ Blanks b' ∧ text.toList = b ++ '\x7b' :: (t ++ b')

/-- A value is a string, and spells `s`. -/
def Reads (v : List Char) (s : String) : Prop :=
  ∃ t, Spells t s.toList ∧ v = '"' :: (t ++ ['"'])

theorem Members.boundary {ms : List Member} {t : List Char} (h : Members false ms t)
    (rest : List Char) : Boundary (t ++ rest) := by
  cases h with
  | close hb =>
    rw [List.append_assoc]
    exact boundary_append hb (by simp [Boundary])
  | member hk =>
    cases hk with
    | next hb =>
      rw [List.append_assoc, List.append_assoc]
      exact boundary_append hb (by simp [Boundary])

theorem Reads.written {v : List Char} {s : String} (h : Reads v s) : Written .value v := by
  obtain ⟨t, ht, rfl⟩ := h
  exact .atom (.text ht.loose)

/-- A value that starts with a quote is a string. -/
theorem Written.exists_loose {t : List Char} (h : Written .value ('"' :: t)) :
    ∃ u, Loose u ∧ t = u ++ ['"'] := by
  generalize hv : '"' :: t = v at h
  cases h with
  | @bracket f =>
    have hq : '"' = f.opening := (List.cons.inj hv).1
    exact absurd hq (by cases f <;> decide)
  | atom ha =>
    cases ha with
    | word hw =>
      subst hv
      simp [words] at hw
    | @text u hu => exact ⟨u, hu, (List.cons.inj hv).2⟩
    | number hn =>
      obtain hu | ⟨u, -, rfl⟩ := hn
      · obtain ⟨x, _, rfl, hx⟩ := hu.exists_cons
        obtain rfl : '"' = x := (List.cons.inj hv).1
        simp at hx
      · simp at hv

/-! ## 2. The parts of a reader -/

section Readers

variable {α : Type} {a : α} {r : Except Error Cursor} {rest : List Char}

theorem gives_bind_iff {k : Cursor → Reading α} :
    Gives (match r with | .error e => .error e | .ok c => k c) a rest ↔
      ∃ d, r = .ok d ∧ Gives (k d) a rest := by
  cases r <;> simp

theorem gives_text_bind_iff {q : Reading String} {k : String → Cursor → Reading α} :
    Gives (match q with | .error e => .error e | .ok (s, c) => k s c) a rest ↔
      ∃ s d, q = .ok (s, d) ∧ Gives (k s d) a rest := by
  obtain _ | ⟨s, d⟩ := q
  · simp
  · simp [and_assoc]

end Readers

namespace Cursor

variable {c d : Cursor} {rest t b v : List Char} {name : String} {first : Bool}

/-- A key, from behind its quote. -/
theorem gives_key_iff {key : Option String} :
    Gives (match c.text with
        | .error e => (.error e : Reading (Option String))
        | .ok (s, c) => .ok (some s, c)) key rest ↔
      ∃ name t, key = some name ∧ Spells t name.toList ∧ c.rest = t ++ '"' :: rest := by
  rw [gives_text_bind_iff]
  constructor
  case mp =>
    rintro ⟨s, d, hd, hk⟩
    obtain ⟨rfl, rfl⟩ := gives_ok.mp hk
    obtain ⟨t, ht, hc⟩ := gives_text_iff.mp (gives_of_eq_ok hd)
    exact ⟨s, t, rfl, ht, hc⟩
  case mpr =>
    rintro ⟨s, t, rfl, ht, hc⟩
    obtain ⟨d, hd, rfl⟩ := gives_text_iff.mpr ⟨t, ht, hc⟩
    exact ⟨s, d, hd, gives_ok.mpr ⟨rfl, rfl⟩⟩

/-- What stands where a key is looked for. -/
inductive Ahead (first : Bool) : Option String → List Char → List Char → Prop
  | close {b t : List Char} : Blanks b → Ahead first none ('\x7d' :: t) (b ++ '\x7d' :: t)
  | key {name : String} {k t rest : List Char} : Separator first k → Spells t name.toList →
      Ahead first (some name) rest (k ++ '"' :: (t ++ '"' :: rest))

theorem Ahead.of_none {t : List Char} (h : Ahead first none rest t) :
    ∃ b u, Blanks b ∧ rest = '\x7d' :: u ∧ t = b ++ '\x7d' :: u := by
  cases h with
  | close hb => exact ⟨_, _, hb, rfl, rfl⟩

theorem Ahead.of_some {t : List Char} (h : Ahead first (some name) rest t) :
    ∃ k u, Separator first k ∧ Spells u name.toList ∧ t = k ++ '"' :: (u ++ '"' :: rest) := by
  cases h with
  | key hk hu => exact ⟨_, _, hk, hu, rfl⟩

theorem gives_nextKey_iff {key : Option String} :
    Gives (nextKey first c) key rest ↔ Ahead first key rest c.rest := by
  constructor
  case mp =>
    intro h
    obtain ⟨b, hb, hc⟩ := c.exists_blanks
    simp only [nextKey] at h
    split at h
    case h_1 => simp at h
    case h_2 t ht =>
      obtain ⟨rfl, rfl⟩ := gives_ok.mp h
      rw [hc, ht]
      exact .close hb
    case h_3 x t _ ht =>
      cases first with
      | true =>
        simp only [if_true] at h
        split at h
        case isTrue hx =>
          obtain ⟨name, u, rfl, hu, hur⟩ := gives_key_iff.mp h
          rw [rest_advance, ht, List.tail_cons] at hur
          rw [hc, ht, hx, hur]
          exact .key (.first hb) hu
        case isFalse => simp at h
      | false =>
        simp only [Bool.false_eq_true, if_false] at h
        split at h
        case isTrue hx =>
          obtain ⟨b', hb', hc'⟩ := c.skipBlanks.advance.exists_blanks
          rw [rest_advance, ht, List.tail_cons] at hc'
          split at h
          case h_2 u hu =>
            obtain ⟨name, u', rfl, hu', hur⟩ := gives_key_iff.mp h
            rw [rest_advance, hu, List.tail_cons] at hur
            have hkey : Ahead false (some name) rest
                (b ++ ',' :: b' ++ '"' :: (u' ++ '"' :: rest)) :=
              .key (.next hb hb') hu'
            simpa [hc, ht, hx, hc', hu, hur] using hkey
          all_goals simp at h
        case isFalse => simp at h
  case mpr =>
    generalize hc : c.rest = t
    intro h
    cases h with
    | close hb =>
      have hs := rest_skipBlanks hc hb rfl
      simp [nextKey, hs]
    | @key name _ t _ hk ht =>
      cases hk with
      | first hb =>
        have hs := rest_skipBlanks hc hb rfl
        have hkey : c.skipBlanks.advance.rest = t ++ '"' :: rest := by simp [rest_advance, hs]
        simp only [nextKey, hs, if_true]
        exact gives_key_iff.mpr ⟨name, t, rfl, ht, hkey⟩
      | @next b b' hb hb' =>
        have hs : c.skipBlanks.rest = ',' :: (b' ++ '"' :: (t ++ '"' :: rest)) :=
          rest_skipBlanks (by simpa using hc) hb rfl
        have hs' : c.skipBlanks.advance.skipBlanks.rest = '"' :: (t ++ '"' :: rest) :=
          rest_skipBlanks (by simp [rest_advance, hs]) hb' rfl
        have hkey : c.skipBlanks.advance.skipBlanks.advance.rest = t ++ '"' :: rest := by
          simp [rest_advance, hs']
        simp only [nextKey, hs, hs', Bool.false_eq_true, if_false]
        exact gives_key_iff.mpr ⟨name, t, rfl, ht, hkey⟩

theorem gives_scalar_text_iff {x : Scalar} :
    Gives (c.scalar .text) x rest ↔
      ∃ b v s, Blanks b ∧ Reads v s ∧ x = .text s ∧ c.rest = b ++ (v ++ rest) := by
  constructor
  case mp =>
    intro h
    obtain ⟨b, hb, hc⟩ := c.exists_blanks
    simp only [scalar, string] at h
    split at h
    case h_1 t ht =>
      obtain ⟨s, d, hd, hx⟩ := gives_text_bind_iff.mp h
      obtain ⟨rfl, rfl⟩ := gives_ok.mp hx
      obtain ⟨u, hu, hur⟩ := gives_text_iff.mp (gives_of_eq_ok hd)
      refine ⟨b, _, s, hb, ⟨u, hu, rfl⟩, rfl, ?_⟩
      rw [rest_advance, ht, List.tail_cons] at hur
      simp [hc, ht, hur]
    case h_2 =>
      obtain ⟨d, hd, -⟩ := h
      exact absurd hd mismatch_ne_ok
  case mpr =>
    rintro ⟨b, _, s, hb, ⟨t, ht, rfl⟩, rfl, hc⟩
    have hs : c.skipBlanks.rest = '"' :: (t ++ '"' :: rest) :=
      rest_skipBlanks (by simpa using hc) hb rfl
    obtain ⟨d, hd, hdr⟩ : Gives c.skipBlanks.advance.text s rest :=
      gives_text_iff.mpr ⟨t, ht, by simp [rest_advance, hs]⟩
    simp [scalar, string, hs, hd, hdr]

/-- Of a written value, what is read as a string is all of it. -/
theorem gives_scalar_of_written {b v : List Char} {x : Scalar} {r : List Char} (hb : Blanks b)
    (hv : Written .value v) (hc : c.rest = b ++ (v ++ rest)) :
    Gives (c.scalar .text) x r ↔ (∃ s, Reads v s ∧ x = .text s) ∧ r = rest := by
  rw [gives_scalar_text_iff]
  constructor
  case mp =>
    rintro ⟨b', _, s, hb', ⟨t, ht, rfl⟩, rfl, hc'⟩
    obtain ⟨y, v, rfl, hy⟩ := hv.exists_cons
    -- both readings go on from the first character that is no blank
    have hs : c.skipBlanks.rest = y :: (v ++ rest) := rest_skipBlanks hc hb hy.isBlank
    have hs' : c.skipBlanks.rest = '"' :: (t ++ '"' :: r) :=
      rest_skipBlanks (by simpa using hc') hb' rfl
    obtain ⟨rfl, hvr⟩ := List.cons.inj (hs.symm.trans hs')
    obtain ⟨u, hu, rfl⟩ := hv.exists_loose
    have hstop : Stops (skipTextFrom .start (t ++ '"' :: r)) rest := by
      rw [← hvr]
      simpa using stops_skipTextFrom hu
    obtain rfl := hstop.eq (stops_skipTextFrom ht.loose)
    refine ⟨⟨s, ⟨t, ht, ?_⟩, rfl⟩, rfl⟩
    have : u = t := by simpa using hvr
    rw [this]
  case mpr =>
    rintro ⟨⟨s, hs, rfl⟩, rfl⟩
    exact ⟨b, v, s, hb, hs, rfl, hc⟩

end Cursor

/-! ## 3. Members -/

/-- All fields of the record are strings. -/
def Textual (shape : Shape) : Prop :=
  ∀ key kind, shape.fields.lookup key = some kind → kind = .text

/-- What becomes of the fields found so far at one member. -/
inductive Takes (shape : Shape) (found : Fields) : Member → Fields → Prop
  | other {m : Member} : shape.fields.lookup m.1 = none → Takes shape found m found
  | field {m : Member} {s : String} : shape.fields.lookup m.1 = some .text →
      found.lookup m.1 = none → Reads m.2 s →
      Takes shape found m (found ++ [(m.1, .text s)])

/-- What becomes of the fields found so far, member by member. -/
inductive Collects (shape : Shape) : Fields → List Member → Fields → Prop
  | nil {found : Fields} : Collects shape found [] found
  | cons {found found₁ found₂ : Fields} {m : Member} {ms : List Member} :
      Takes shape found m found₁ → Collects shape found₁ ms found₂ →
      Collects shape found (m :: ms) found₂

namespace Cursor

variable {c d : Cursor} {rest b b' v : List Char} {name key : String} {first : Bool}
  {shape : Shape} {found found' : Fields}

theorem exists_takes_of_gives (hshape : Textual shape)
    (h : Gives (member shape found key c) found' rest) :
    ∃ b b' v, Blanks b ∧ Blanks b' ∧ Written .value v ∧ Takes shape found (key, v) found' ∧
      c.rest = b ++ ':' :: (b' ++ (v ++ rest)) := by
  unfold member at h
  split at h
  case h_1 hkey =>
    obtain ⟨d, hd, h⟩ := gives_bind_iff.mp h
    obtain ⟨d', hd', h⟩ := gives_bind_iff.mp h
    obtain ⟨rfl, rfl⟩ := gives_ok.mp h
    obtain ⟨b, hb, hc⟩ := stops_colon_iff.mp (stops_of_eq_ok hd)
    obtain ⟨b', v, hb', hv, hvr⟩ := exists_written_of_stops (stops_of_eq_ok hd')
    exact ⟨b, b', v, hb, hb', hv, .other hkey, by rw [hc, hvr]⟩
  case h_2 kind hkey =>
    obtain rfl := hshape key kind hkey
    split at h
    case isTrue => simp [failDuplicate] at h
    case isFalse hnew =>
      obtain ⟨d, hd, h⟩ := gives_bind_iff.mp h
      obtain ⟨b, hb, hc⟩ := stops_colon_iff.mp (stops_of_eq_ok hd)
      split at h
      case h_1 => simp at h
      case h_2 x d' hx =>
        obtain ⟨rfl, rfl⟩ := gives_ok.mp h
        obtain ⟨b', v, s, hb', hs, rfl, hvr⟩ := gives_scalar_text_iff.mp (gives_of_eq_ok hx)
        have hnone : found.lookup key = none := Option.not_isSome_iff_eq_none.mp hnew
        exact ⟨b, b', v, hb, hb', hs.written, .field hkey hnone hs, by rw [hc, hvr]⟩

theorem gives_member_iff (hshape : Textual shape) {r : List Char} (hb : Blanks b) (hb' : Blanks b')
    (hv : Written .value v) (hr : Boundary rest) (hc : c.rest = b ++ ':' :: (b' ++ (v ++ rest))) :
    Gives (member shape found key c) found' r ↔ Takes shape found (key, v) found' ∧ r = rest := by
  obtain ⟨d, hd, hdr⟩ := stops_colon_iff.mpr ⟨b, hb, hc⟩
  unfold member
  split
  case h_1 hkey =>
    obtain ⟨d', hd', hdr'⟩ := stops_skipValue hb' hv hr hdr
    simp only [hd, hd', gives_ok]
    constructor
    case mp =>
      rintro ⟨rfl, rfl⟩
      exact ⟨.other hkey, hdr'⟩
    case mpr =>
      rintro ⟨htake, rfl⟩
      cases htake with
      | other => exact ⟨rfl, hdr'⟩
      | field hkey' => simp [hkey] at hkey'
  case h_2 kind hkey =>
    obtain rfl := hshape key kind hkey
    split
    case isTrue hold =>
      refine ⟨fun h => by simp [failDuplicate] at h, ?_⟩
      rintro ⟨htake, -⟩
      cases htake with
      | other hkey' => simp [hkey] at hkey'
      | field _ hnew => simp [show found.lookup key = none from hnew] at hold
    case isFalse hnew =>
      have hnone : found.lookup key = none := Option.not_isSome_iff_eq_none.mp hnew
      have hscalar := fun x => gives_scalar_of_written (x := x) (r := r) hb' hv hdr
      simp only [hd]
      constructor
      case mp =>
        intro h
        split at h
        case h_1 => simp at h
        case h_2 x d' hx =>
          obtain ⟨rfl, rfl⟩ := gives_ok.mp h
          obtain ⟨⟨s, hs, rfl⟩, hrest⟩ := (hscalar x).mp (gives_of_eq_ok hx)
          exact ⟨.field hkey hnone hs, hrest⟩
      case mpr =>
        rintro ⟨htake, hrest⟩
        cases htake with
        | other hkey' => simp [hkey] at hkey'
        | @field s _ _ hs =>
          obtain ⟨d', hd', hdr'⟩ := (hscalar _).mpr ⟨⟨s, hs, rfl⟩, hrest⟩
          simp [hd', hdr']

/-- A reader that gets to the closing bracket has read the members of an object. -/
theorem exists_members_of_gives (hshape : Textual shape)
    (h : Gives (members shape first found c) found' rest) :
    ∃ ms t u, Members first ms t ∧ Collects shape found ms found' ∧ rest = '\x7d' :: u ∧
      c.rest = t ++ u := by
  fun_induction members shape first found c with
  | case2 first found c d hk =>
    obtain ⟨rfl, rfl⟩ := gives_ok.mp h
    obtain ⟨b, u, hb, hd, hc⟩ := (gives_nextKey_iff.mp (gives_of_eq_ok hk)).of_none
    exact ⟨[], _, u, .close hb, .nil, hd, by rw [hc]; simp⟩
  | case4 first found c key d hk found₁ d' hm _ _ ih =>
    obtain ⟨ms, t, u, ht, hms, hrest, hd'⟩ := ih h
    obtain ⟨k, s, hk, hs, hc⟩ := (gives_nextKey_iff.mp (gives_of_eq_ok hk)).of_some
    obtain ⟨b, b', v, hb, hb', hv, htake, hd⟩ := exists_takes_of_gives hshape (gives_of_eq_ok hm)
    refine ⟨(key, v) :: ms, _, u, .member hk hs hb hb' hv ht, .cons htake hms, hrest, ?_⟩
    rw [hc, hd, hd']
    simp
  | _ => simp at h

theorem members_of_none (h : nextKey first c = .ok (none, d)) :
    members shape first found c = .ok (found, d) := by
  rw [members]
  split <;> simp_all

theorem members_of_some (h : nextKey first c = .ok (some key, d)) :
    members shape first found c =
      match member shape found key d with
      | .error e => .error e
      | .ok (found, d') => members shape false found d' := by
  rw [members]
  split
  case h_3 hk =>
    simp only [h, Except.ok.injEq, Prod.mk.injEq, Option.some.injEq] at hk
    obtain ⟨rfl, rfl⟩ := hk
    split <;> simp_all
  all_goals simp_all

/-- Along written members the reader does as told. -/
theorem gives_members_iff (hshape : Textual shape) {ms : List Member} {t : List Char}
    (ht : Members first ms t) (hc : c.rest = t ++ rest) {r : List Char} :
    Gives (members shape first found c) found' r ↔
      Collects shape found ms found' ∧ r = '\x7d' :: rest := by
  induction ht generalizing found c with
  | @close first b hb =>
    obtain ⟨d, hd, hdr⟩ : Gives (nextKey first c) none ('\x7d' :: rest) :=
      gives_nextKey_iff.mpr (by rw [hc, List.append_assoc]; exact .close hb)
    rw [members_of_none hd, gives_ok, hdr]
    constructor
    case mp =>
      rintro ⟨rfl, rfl⟩
      exact ⟨.nil, rfl⟩
    case mpr =>
      rintro ⟨hms, rfl⟩
      cases hms
      exact ⟨rfl, rfl⟩
  | @member first name k t b b' v u ms hk ht hb hb' hv hu ih =>
    have hc' : c.rest = k ++ '"' :: (t ++ '"' :: (b ++ ':' :: (b' ++ (v ++ (u ++ rest))))) := by
      simpa using hc
    obtain ⟨d, hd, hdr⟩ : Gives (nextKey first c) (some name)
        (b ++ ':' :: (b' ++ (v ++ (u ++ rest)))) :=
      gives_nextKey_iff.mpr (hc' ▸ .key hk ht)
    have hstep : ∀ found₁ r, Gives (member shape found name d) found₁ r ↔
        Takes shape found (name, v) found₁ ∧ r = u ++ rest :=
      fun _ _ => gives_member_iff hshape hb hb' hv (hu.boundary rest) hdr
    rw [members_of_some hd]
    constructor
    case mp =>
      intro h
      split at h
      case h_1 => simp at h
      case h_2 found₁ d' hm =>
        obtain ⟨htake, hd'⟩ := (hstep found₁ _).mp (gives_of_eq_ok hm)
        obtain ⟨hms, hr⟩ := (ih hd').mp h
        exact ⟨.cons htake hms, hr⟩
    case mpr =>
      rintro ⟨hms, hr⟩
      cases hms with
      | @cons _ found₁ _ _ _ htake hms =>
        obtain ⟨d', hm, hd'⟩ := (hstep found₁ _).mpr ⟨htake, rfl⟩
        simp only [hm]
        exact (ih hd').mpr ⟨hms, hr⟩

end Cursor

/-! ## 4. Name by name -/

/-- One member of an object has this name, and its value is a string that spells `s`. -/
def Sole (ms : List Member) (name s : String) : Prop :=
  ∃ v, ms.filter (fun m => m.1 == name) = [(name, v)] ∧ Reads v s

/-- What members make of a field: it is kept if it was found before and does not come again, and is
taken from the one member of its name. -/
def Found (found : Fields) (ms : List Member) (name : String) (x : Option Scalar) : Prop :=
  match found.lookup name with
  | some y => ms.filter (fun m => m.1 == name) = [] ∧ x = some y
  | none => (ms.filter (fun m => m.1 == name) = [] ∧ x = none) ∨
    ∃ s, Sole ms name s ∧ x = some (.text s)

section Names

variable {shape : Shape} {found found' : Fields} {m : Member} {ms : List Member} {name s : String}

theorem Reads.unique {v : List Char} {s s' : String} (h : Reads v s) (h' : Reads v s') :
    s = s' := by
  obtain ⟨t, ht, rfl⟩ := h
  obtain ⟨t', ht', hv⟩ := h'
  obtain rfl : t = t' := by simpa using hv
  have hs : Gives (Cursor.textFrom [] .start (t ++ ['"'])) s [] := by
    simpa using Cursor.gives_textFrom [] ht
  have hs' : Gives (Cursor.textFrom [] .start (t ++ ['"'])) s' [] := by
    simpa using Cursor.gives_textFrom [] ht'
  obtain ⟨d, hd, -⟩ := hs
  obtain ⟨d', hd', -⟩ := hs'
  simp only [hd, Except.ok.injEq, Prod.mk.injEq] at hd'
  exact hd'.1

theorem Sole.unique {s' : String} (h : Sole ms name s) (h' : Sole ms name s') : s = s' := by
  obtain ⟨v, hv, hs⟩ := h
  obtain ⟨v', hv', hs'⟩ := h'
  obtain rfl : v = v' := by simpa [hv] using hv'
  exact hs.unique hs'

/-- Where nothing was found before, a field that is found is the one member of its name. -/
theorem found_nil_iff {x : Option Scalar} : Found [] ms name x ↔
    (ms.filter (fun m => m.1 == name) = [] ∧ x = none) ∨
      ∃ s, Sole ms name s ∧ x = some (.text s) :=
  Iff.rfl

theorem lookup_append_self {x : Scalar} (h : found.lookup name = none) :
    (found ++ [(name, x)]).lookup name = some x := by
  simp [List.lookup_append, h]

theorem lookup_append_of_ne {x : Scalar} {key : String} (h : key ≠ name) :
    (found ++ [(key, x)]).lookup name = found.lookup name := by
  simp [List.lookup_append, List.lookup_cons, beq_false_of_ne h.symm]

theorem sole_cons_self : Sole (m :: ms) m.1 s ↔
    ms.filter (fun n => n.1 == m.1) = [] ∧ Reads m.2 s := by
  obtain ⟨key, v⟩ := m
  simp only [Sole, List.filter_cons, beq_self_eq_true, if_true, List.cons.injEq, Prod.mk.injEq,
    true_and]
  constructor
  case mp =>
    rintro ⟨v', ⟨rfl, hms⟩, hv⟩
    exact ⟨hms, hv⟩
  case mpr =>
    rintro ⟨hms, hv⟩
    exact ⟨v, ⟨rfl, hms⟩, hv⟩

/-- A member of another name changes nothing. -/
theorem found_cons_of_ne {x : Option Scalar} (h : m.1 ≠ name) :
    Found found (m :: ms) name x ↔ Found found ms name x := by
  simp [Found, Sole, beq_false_of_ne h]

/-- A member of the name comes first if the field is found there. -/
theorem found_cons_self {x : Option Scalar} (hnew : found.lookup m.1 = none) (hs : Reads m.2 s) :
    Found found (m :: ms) m.1 x ↔ Found (found ++ [(m.1, .text s)]) ms m.1 x := by
  simp only [Found, hnew, lookup_append_self hnew, List.filter_cons, beq_self_eq_true, if_true,
    sole_cons_self]
  constructor
  case mp =>
    rintro (⟨h, -⟩ | ⟨s', ⟨hms, hs'⟩, rfl⟩)
    · exact absurd h (List.cons_ne_nil _ _)
    · exact ⟨hms, by rw [hs.unique hs']⟩
  case mpr =>
    rintro ⟨hms, rfl⟩
    exact .inr ⟨s, ⟨hms, hs⟩, rfl⟩

theorem found_append_of_ne {x : Option Scalar} {key : String} {y : Scalar} (h : key ≠ name) :
    Found (found ++ [(key, y)]) ms name x ↔ Found found ms name x := by
  rw [Found, lookup_append_of_ne h, Found]

theorem ne_of_lookup {key : String} (hkey : shape.fields.lookup key = none)
    (hname : (shape.fields.lookup name).isSome) : key ≠ name := by
  rintro rfl
  simp [hkey] at hname

/-- One member does to each name what it is told to. -/
theorem Takes.found_iff {found₁ : Fields} {x : Option Scalar} (h : Takes shape found m found₁)
    (hname : (shape.fields.lookup name).isSome) :
    Found found (m :: ms) name x ↔ Found found₁ ms name x := by
  cases h with
  | other hkey => exact found_cons_of_ne (ne_of_lookup hkey hname)
  | field _ hnew hs =>
    by_cases hm : m.1 = name
    · subst hm
      exact found_cons_self hnew hs
    · rw [found_cons_of_ne hm, found_append_of_ne hm]

/-- What is found of each name is what its members make of it. -/
theorem found_of_collects (h : Collects shape found ms found')
    (hname : (shape.fields.lookup name).isSome) : Found found ms name (found'.lookup name) := by
  induction h with
  | @nil found => cases hf : found.lookup name <;> simp [Found, hf]
  | cons htake _ ih => exact (htake.found_iff hname).mpr ih

/-- If each name of a field can be found, or is not there, the record gets through. -/
theorem exists_collects (hshape : Textual shape)
    (h : ∀ name, (shape.fields.lookup name).isSome → ∃ x, Found found ms name x) :
    ∃ found', Collects shape found ms found' := by
  induction ms generalizing found with
  | nil => exact ⟨found, .nil⟩
  | cons m ms ih =>
    obtain ⟨found₁, htake⟩ : ∃ found₁, Takes shape found m found₁ := by
      cases hkey : shape.fields.lookup m.1 with
      | none => exact ⟨_, .other hkey⟩
      | some kind =>
        obtain rfl := hshape _ _ hkey
        obtain ⟨x, hx⟩ := h m.1 (by simp [hkey])
        cases hnew : found.lookup m.1 with
        | some y => simp [Found, hnew] at hx
        | none =>
          simp only [Found, hnew, List.filter_cons, beq_self_eq_true, if_true, List.cons_ne_nil,
            false_and, false_or, sole_cons_self] at hx
          obtain ⟨s, ⟨-, hs⟩, -⟩ := hx
          exact ⟨_, .field hkey hnew hs⟩
    have hnext : ∀ name, (shape.fields.lookup name).isSome → ∃ x, Found found₁ ms name x :=
      fun name hname => (h name hname).imp fun _ => (htake.found_iff hname).mp
    obtain ⟨found₂, hms⟩ := ih hnext
    exact ⟨found₂, .cons htake hms⟩

end Names

/-! ## 5. Records -/

namespace Cursor

variable {c d : Cursor} {rest t r : List Char} {shape : Shape} {found : Fields} {ms : List Member}

/-- Of a written object a record is made exactly if no field is missing. -/
theorem gives_object_iff (hshape : Textual shape) (hstrict : shape.lenient = false)
    (ht : Members true ms t) (hc : c.rest = t ++ rest) :
    Gives (object shape c) found r ↔ (Collects shape [] ms found ∧
      ∀ f ∈ shape.fields, (found.lookup f.1).isSome) ∧ r = rest := by
  have hmembers : ∀ found r, Gives (members shape true [] c) found r ↔
      Collects shape [] ms found ∧ r = '\x7d' :: rest :=
    fun _ _ => gives_members_iff hshape ht hc
  unfold object
  constructor
  case mp =>
    intro h
    split at h
    case h_1 => simp at h
    case h_2 found₁ d hd =>
      obtain ⟨hms, hdr⟩ := (hmembers found₁ _).mp (gives_of_eq_ok hd)
      split at h
      case h_1 => simp [hstrict] at h
      case h_2 hnone =>
        obtain ⟨rfl, rfl⟩ := gives_ok.mp h
        rw [List.find?_eq_none] at hnone
        refine ⟨⟨hms, fun f hf => ?_⟩, by rw [rest_advance, hdr, List.tail_cons]⟩
        simpa [Option.isSome_iff_ne_none] using hnone f hf
  case mpr =>
    rintro ⟨⟨hms, hall⟩, rfl⟩
    obtain ⟨d, hd, hdr⟩ := (hmembers found _).mpr ⟨hms, rfl⟩
    have hnone : (shape.fields.find? fun f => (found.lookup f.1).isNone) = none :=
      List.find?_eq_none.mpr fun f hf => by simp [Option.isSome_iff_ne_none.mp (hall f hf)]
    simp [hd, hnone, rest_advance, hdr]

theorem exists_object_of_gives (hshape : Textual shape) (h : Gives (object shape c) found rest) :
    ∃ ms t, Members true ms t ∧ c.rest = t ++ rest := by
  unfold object at h
  split at h
  case h_1 => simp at h
  case h_2 found₁ d hd =>
    obtain ⟨ms, t, u, ht, -, hdr, hc⟩ := exists_members_of_gives hshape (gives_of_eq_ok hd)
    have hrest : d.advance.rest = u := by rw [rest_advance, hdr, List.tail_cons]
    refine ⟨ms, t, ht, ?_⟩
    split at h
    case h_1 =>
      split at h
      case isTrue =>
        obtain ⟨-, rfl⟩ := gives_ok.mp h
        rw [hc, hrest]
      case isFalse => simp at h
    case h_2 =>
      obtain ⟨-, rfl⟩ := gives_ok.mp h
      rw [hc, hrest]

theorem finish_eq_ok_iff : c.finish = .ok () ↔ Blanks c.rest := by
  have hblank : c.skipBlanks.rest = [] ↔ Blanks c.rest := by
    rw [rest_skipBlanks_eq_iff]
    simp [Unblank]
  rw [← hblank, ← List.isEmpty_iff]
  simp only [finish]
  split <;> simp_all

end Cursor

/-- The text starts with the bracket of an object. -/
def AtObject (text : String) : Prop :=
  (text.toList.dropWhile Cursor.isBlank).head? = some '\x7b'

section Texts

variable {shape : Shape} {found : Fields} {ms : List Member} {text : String}
  {b t rest r : List Char}

theorem gives_read_iff (hshape : Textual shape) (hstrict : shape.lenient = false) (hb : Blanks b)
    (ht : Members true ms t) (htext : text.toList = b ++ '\x7b' :: (t ++ rest)) :
    Gives (shape.read text) found r ↔ (Collects shape [] ms found ∧
      ∀ f ∈ shape.fields, (found.lookup f.1).isSome) ∧ r = rest := by
  have hs : (Cursor.start text).skipBlanks.rest = '\x7b' :: (t ++ rest) :=
    Cursor.rest_skipBlanks htext hb rfl
  simp only [Shape.read, Cursor.record, hs]
  exact Cursor.gives_object_iff hshape hstrict ht (by rw [Cursor.rest_advance, hs, List.tail_cons])

theorem exists_object_of_read (hshape : Textual shape) (hobject : AtObject text)
    (h : Gives (shape.read text) found rest) :
    ∃ b ms t, Blanks b ∧ Members true ms t ∧ text.toList = b ++ '\x7b' :: (t ++ rest) := by
  obtain ⟨b, hb, hc⟩ := (Cursor.start text).exists_blanks
  obtain ⟨u, hu⟩ : ∃ u, (Cursor.start text).skipBlanks.rest = '\x7b' :: u :=
    List.head?_eq_some_iff.mp hobject
  simp only [Shape.read, Cursor.record, hu] at h
  obtain ⟨ms, t, ht, htr⟩ := Cursor.exists_object_of_gives hshape h
  rw [Cursor.rest_advance, hu, List.tail_cons] at htr
  refine ⟨b, ms, t, hb, ht, ?_⟩
  rw [← htr, ← hu]
  exact hc

end Texts

end Json
end SubscriptionRegistry
