/-
# Metadata through JSON

What is written is read back, whatever characters it holds, and nothing comes in by a text that
`Metadata.create` would not have made.  Of an object each field is taken from the one member of its
name: order does not count, nor do other members.

* `Json.spells_escaped`: an escaped string spells itself.
* `Json.objectText_braced`: what is written between braces is the text of an object.
* `Metadata.TakenFrom`: the four fields are the four members of their names.
* `Metadata.ofJson_eq_ok_iff_of_object`: what metadata an object makes.
* `Metadata.json_faithful`: all of it together.
-/
import SubscriptionRegistry.Proofs.Json.Objects
import SubscriptionRegistry.Metadata.Json

namespace SubscriptionRegistry

/-! ## 1. What is written -/

namespace Json

theorem hexDigit?_hexDigit : ∀ n < 16, Cursor.hexDigit? (Text.hexDigit n) = some n := by
  decide

theorem hex4?_hexPadded {n : Nat} (hn : n < 0x10000) : ∃ a b c d,
    Text.hexPadded 4 n = [a, b, c, d] ∧ Cursor.hex4? a b c d = some n := by
  refine ⟨_, _, _, _, rfl, ?_⟩
  have hdigit : ∀ m, Cursor.hexDigit? (Text.hexDigit (m % 16)) = some (m % 16) :=
    fun m => hexDigit?_hexDigit _ (Nat.mod_lt _ (by decide))
  simp only [Cursor.hex4?, hdigit, Option.some.injEq]
  omega

/-- A character is spelled by what it is escaped to. -/
theorem spells_escapeChar (x : Char) : Spells (escapeChar x) [x] := by
  unfold escapeChar
  iterate 7
    split
    next hx =>
      subst hx
      exact .short rfl .nil
  split
  case isTrue hx =>
    have hlt : x.toNat < 32 := hx
    obtain ⟨a, b, c, d, hhex, hn⟩ := hex4?_hexPadded (n := x.toNat) (by omega)
    have hlow : Cursor.isLowSurrogate x.toNat = false := by
      simp [Cursor.isLowSurrogate]; omega
    have hhigh : Cursor.isHighSurrogate x.toNat = false := by
      simp [Cursor.isHighSurrogate]; omega
    have hspell := Spells.hex hn hlow hhigh .nil
    rw [hhex]
    simpa using hspell
  case isFalse hq hb _ _ _ _ _ hx => exact .plain ⟨hq, hb, hx⟩ .nil

/-- An escaped string spells itself. -/
theorem spells_escaped (s : List Char) : Spells (s.flatMap escapeChar) s := by
  induction s with
  | nil => exact .nil
  | cons x s ih =>
    rw [List.flatMap_cons]
    exact (spells_escapeChar x).append ih

theorem reads_quoted (s : String) : Reads (quoted s) s :=
  ⟨_, spells_escaped s.toList, rfl⟩

theorem intercalate_comma_cons (x : List Char) (xs : List (List Char)) :
    [','].intercalate (x :: xs) = x ++ xs.flatMap (',' :: ·) := by
  induction xs generalizing x with
  | nil => simp [List.intercalate]
  | cons y ys ih =>
    rw [List.flatMap_cons, List.cons_append, ← ih y]
    simp [List.intercalate]

/-- A member that is written stands in front of those behind it. -/
theorem Members.cons {first : Bool} {k u : List Char} {m : Member} {ms : List Member}
    (hk : Separator first k) (hm : Written .value m.2) (hu : Members false ms u) :
    Members first (m :: ms) (k ++ (Json.member m.1 m.2 ++ u)) := by
  have h := Members.member hk (spells_escaped m.1.toList) blanks_nil blanks_nil hm hu
  simpa [Json.member, quoted] using h

theorem members_commas {ms : List Member} (h : ∀ m ∈ ms, Written .value m.2) :
    Members false ms ((ms.flatMap fun m => ',' :: Json.member m.1 m.2) ++ ['\x7d']) := by
  induction ms with
  | nil => exact .close blanks_nil
  | cons m ms ih =>
    have hm := Members.cons (.next blanks_nil blanks_nil) (h m List.mem_cons_self)
      (ih fun n hn => h n (List.mem_cons_of_mem m hn))
    simpa using hm

/-- Any members may stand in an object, in any order. -/
theorem objectText_braced {ms : List Member} (h : ∀ m ∈ ms, Written .value m.2) :
    ObjectText ms (String.ofList (braced (ms.map fun m => Json.member m.1 m.2))) := by
  cases ms with
  | nil =>
    refine ⟨[], _, [], blanks_nil, .close blanks_nil, blanks_nil, ?_⟩
    simp [braced, List.intercalate]
  | cons m ms =>
    have hm := Members.cons (.first blanks_nil) (h m List.mem_cons_self)
      (members_commas fun n hn => h n (List.mem_cons_of_mem m hn))
    refine ⟨[], _, [], blanks_nil, hm, blanks_nil, ?_⟩
    simp [braced, intercalate_comma_cons, List.flatMap_map]

end Json

namespace Metadata

open Json

/-! ## 2. Taken by name -/

/-- Each field is the one member of its name. -/
structure TakenFrom (ms : List Member) (m : Metadata) : Prop where
  id : Sole ms idField m.id
  kind : Sole ms kindField m.kind
  filter : Sole ms filterField m.filter
  callback : Sole ms callbackField m.callback

theorem mem_fields_iff {name : String} {kind : Json.Kind} :
    (name, kind) ∈ shape.fields ↔ name ∈ fieldNames ∧ kind = .text := by
  simp only [shape, List.mem_map, Prod.mk.injEq]
  constructor
  case mp =>
    rintro ⟨_, hname, rfl, rfl⟩
    exact ⟨hname, rfl⟩
  case mpr =>
    rintro ⟨hname, rfl⟩
    exact ⟨name, hname, rfl, rfl⟩

theorem textual_shape : Textual shape := by
  intro key kind h
  obtain ⟨l₁, l₂, hfields, -⟩ := List.lookup_eq_some_iff.mp h
  have hmem : (key, kind) ∈ shape.fields := by simp [hfields]
  exact (mem_fields_iff.mp hmem).2

theorem forall_fieldNames_iff {P : String → Prop} : (∀ name ∈ fieldNames, P name) ↔
    P idField ∧ P kindField ∧ P filterField ∧ P callbackField := by
  simp [fieldNames]

theorem isSome_lookup_shape_iff {name : String} :
    (shape.fields.lookup name).isSome ↔ name ∈ fieldNames := by
  rw [← Option.ne_none_iff_isSome, ne_eq, List.lookup_eq_none_iff]
  simp [shape]

/-- The members that metadata is written as. -/
def membersOf (m : Metadata) : List Member :=
  [(idField, quoted m.id), (kindField, quoted m.kind), (filterField, quoted m.filter),
    (callbackField, quoted m.callback)]

theorem objectText_toJson (m : Metadata) : ObjectText m.membersOf m.toJson := by
  refine objectText_braced fun member hmember => ?_
  simp only [membersOf, List.mem_cons, List.not_mem_nil, or_false] at hmember
  obtain rfl | rfl | rfl | rfl := hmember <;> exact (reads_quoted _).written

theorem takenFrom_membersOf (m : Metadata) : TakenFrom m.membersOf m where
  id := ⟨_, rfl, reads_quoted _⟩
  kind := ⟨_, rfl, reads_quoted _⟩
  filter := ⟨_, rfl, reads_quoted _⟩
  callback := ⟨_, rfl, reads_quoted _⟩

theorem ofFields_eq_ok_iff {found : Fields} {m : Metadata} :
    ofFields found = .ok m ↔ m = ⟨textIn found idField, textIn found kindField,
      textIn found filterField, textIn found callbackField⟩ ∧ m.Valid :=
  create_eq_ok_iff

theorem ofJson_eq_ok_iff {text : String} {m : Metadata} :
    ofJson text = .ok m ↔ ∃ found rest, Gives (shape.read text) found rest ∧
      ofFields found = .ok m ∧ Blanks rest := by
  unfold ofJson
  constructor
  case mp =>
    intro h
    split at h
    case h_1 => cases h
    case h_2 found c hread =>
      split at h
      case h_1 => cases h
      case h_2 m' hm =>
        split at h
        case h_1 => cases h
        case h_2 hfinish =>
          cases h
          exact ⟨found, c.rest, gives_of_eq_ok hread, hm, Cursor.finish_eq_ok_iff.mp hfinish⟩
  case mpr =>
    rintro ⟨found, _, ⟨c, hread, rfl⟩, hm, hrest⟩
    simp [hread, hm, Cursor.finish_eq_ok_iff.mpr hrest]

section Names

variable {ms : List Member} {found : Fields} {name s : String} {m : Metadata}

theorem TakenFrom.exists_sole (h : TakenFrom ms m) : ∀ name ∈ fieldNames, ∃ s, Sole ms name s :=
  forall_fieldNames_iff.mpr ⟨⟨_, h.id⟩, ⟨_, h.kind⟩, ⟨_, h.filter⟩, ⟨_, h.callback⟩⟩

/-- What is found in a field is what its one member spells. -/
theorem sole_of_collects (hms : Collects shape [] ms found)
    (hall : ∀ f ∈ shape.fields, (found.lookup f.1).isSome) (hname : name ∈ fieldNames) :
    Sole ms name (textIn found name) := by
  have hsome : (found.lookup name).isSome := hall (name, .text) (mem_fields_iff.mpr ⟨hname, rfl⟩)
  obtain ⟨-, hnone⟩ | ⟨s, hs, hx⟩ :=
    found_nil_iff.mp (found_of_collects hms (isSome_lookup_shape_iff.mpr hname))
  · simp [hnone] at hsome
  · simpa [textIn, hx] using hs

theorem lookup_of_sole (hms : Collects shape [] ms found) (hname : name ∈ fieldNames)
    (hs : Sole ms name s) : found.lookup name = some (.text s) := by
  obtain ⟨hnil, -⟩ | ⟨s', hs', hx⟩ :=
    found_nil_iff.mp (found_of_collects hms (isSome_lookup_shape_iff.mpr hname))
  · obtain ⟨v, hv, -⟩ := hs
    simp [hnil] at hv
  · rw [hx, hs.unique hs']

theorem textIn_of_sole (hms : Collects shape [] ms found) (hname : name ∈ fieldNames)
    (hs : Sole ms name s) : textIn found name = s := by
  simp [textIn, lookup_of_sole hms hname hs]

end Names

/-- What metadata an object makes: that which is taken from its members, if it is valid. -/
theorem ofJson_eq_ok_iff_of_object {ms : List Member} {text : String} (h : ObjectText ms text)
    {m : Metadata} : ofJson text = .ok m ↔ m.Valid ∧ TakenFrom ms m := by
  obtain ⟨b, t, b', hb, ht, hb', htext⟩ := h
  have hread : ∀ found r, Gives (shape.read text) found r ↔ (Collects shape [] ms found ∧
      ∀ f ∈ shape.fields, (found.lookup f.1).isSome) ∧ r = b' :=
    fun _ _ => gives_read_iff textual_shape rfl hb ht htext
  rw [ofJson_eq_ok_iff]
  constructor
  case mp =>
    rintro ⟨found, rest, hfound, hm, -⟩
    obtain ⟨⟨hms, hall⟩, -⟩ := (hread found rest).mp hfound
    obtain ⟨rfl, hvalid⟩ := ofFields_eq_ok_iff.mp hm
    obtain ⟨hid, hkind, hfilter, hcallback⟩ :=
      forall_fieldNames_iff.mp fun name => sole_of_collects hms hall
    exact ⟨hvalid, hid, hkind, hfilter, hcallback⟩
  case mpr =>
    rintro ⟨hvalid, htaken⟩
    obtain ⟨found, hms⟩ : ∃ found, Collects shape [] ms found := by
      refine exists_collects textual_shape fun name hname => ?_
      obtain ⟨s, hs⟩ := htaken.exists_sole name (isSome_lookup_shape_iff.mp hname)
      exact ⟨_, found_nil_iff.mpr (.inr ⟨s, hs, rfl⟩)⟩
    have hall : ∀ f ∈ shape.fields, (found.lookup f.1).isSome := by
      intro f hf
      have hname : f.1 ∈ fieldNames := (mem_fields_iff.mp hf).1
      obtain ⟨s, hs⟩ := htaken.exists_sole f.1 hname
      simp [lookup_of_sole hms hname hs]
    have hin : ∀ name ∈ fieldNames, ∀ s, Sole ms name s → textIn found name = s :=
      fun name hname s => textIn_of_sole hms hname
    obtain ⟨hid, hkind, hfilter, hcallback⟩ := forall_fieldNames_iff.mp hin
    refine ⟨found, b', (hread found b').mpr ⟨⟨hms, hall⟩, rfl⟩, ?_, hb'⟩
    rw [ofFields_eq_ok_iff, hid _ htaken.id, hkind _ htaken.kind, hfilter _ htaken.filter,
      hcallback _ htaken.callback]
    exact ⟨rfl, hvalid⟩

/-- Whatever is read is valid. -/
theorem valid_of_ofJson {text : String} {m : Metadata} (h : ofJson text = .ok m) : m.Valid := by
  obtain ⟨found, _, -, hm, -⟩ := ofJson_eq_ok_iff.mp h
  exact (ofFields_eq_ok_iff.mp hm).2

theorem exists_objectText {text : String} {m : Metadata} (hobject : AtObject text)
    (h : ofJson text = .ok m) : ∃ ms, ObjectText ms text := by
  obtain ⟨found, rest, hread, -, hrest⟩ := ofJson_eq_ok_iff.mp h
  obtain ⟨b, ms, t, hb, ht, htext⟩ := exists_object_of_read textual_shape hobject hread
  exact ⟨ms, b, t, rest, hb, ht, hrest, htext⟩

/-! ## 3. What does not count, and what is refused -/

/-- The members that have the name of a field. -/
def ownMembers (ms : List Member) : List Member := ms.filter fun m => m.1 ∈ fieldNames

/-- A member of a field is missing, comes twice or is no string. -/
inductive Faulty (ms : List Member) (name : String) : Prop
  | missing : (∀ m ∈ ms, m.1 ≠ name) → Faulty ms name
  | repeated : 2 ≤ ms.countP (fun m => m.1 == name) → Faulty ms name
  | notString {v : List Char} : (name, v) ∈ ms → v.head? ≠ some '"' → Faulty ms name

theorem not_sole_of_faulty {ms : List Member} {name s : String} (h : Faulty ms name) :
    ¬ Sole ms name s := by
  rintro ⟨v, hv, t, -, rfl⟩
  cases h with
  | missing hne =>
    have hmem : (name, '"' :: (t ++ ['"'])) ∈ ms.filter fun m => m.1 == name := by simp [hv]
    exact hne _ (List.mem_filter.mp hmem).1 rfl
  | repeated htwice =>
    rw [List.countP_eq_length_filter, hv] at htwice
    simp at htwice
  | @notString v' hmem hhead =>
    have hmem' : (name, v') ∈ ms.filter fun m => m.1 == name := by simp [hmem]
    rw [hv, List.mem_singleton] at hmem'
    simp [(Prod.mk.inj hmem').2] at hhead

/-- The members of a field are among those of the fields. -/
theorem filter_ownMembers {ms : List Member} {name : String} (hname : name ∈ fieldNames) :
    (ownMembers ms).filter (fun m => m.1 == name) = ms.filter fun m => m.1 == name := by
  rw [ownMembers, List.filter_filter]
  refine List.filter_congr fun m _ => ?_
  by_cases hm : m.1 = name <;> simp [hm, hname]

theorem sole_of_perm {ms ms' : List Member} {name s : String}
    (h : (ownMembers ms).Perm (ownMembers ms')) (hname : name ∈ fieldNames) (hs : Sole ms name s) :
    Sole ms' name s := by
  obtain ⟨v, hv, hs⟩ := hs
  have hperm := h.filter fun m => m.1 == name
  rw [filter_ownMembers hname, filter_ownMembers hname, hv] at hperm
  exact ⟨v, (List.singleton_perm.mp hperm).symm, hs⟩

theorem TakenFrom.of_perm {ms ms' : List Member} {m : Metadata}
    (h : (ownMembers ms).Perm (ownMembers ms')) (hm : TakenFrom ms m) : TakenFrom ms' m := by
  have hsole : ∀ name ∈ fieldNames, ∀ s, Sole ms name s → Sole ms' name s :=
    fun name hname s => sole_of_perm h hname
  obtain ⟨hid, hkind, hfilter, hcallback⟩ := forall_fieldNames_iff.mp hsole
  exact ⟨hid _ hm.id, hkind _ hm.kind, hfilter _ hm.filter, hcallback _ hm.callback⟩

theorem error_of_forall_ne_ok {text : String} (h : ∀ m, ofJson text ≠ .ok m) :
    ∃ why, ofJson text = .error why := by
  cases hread : ofJson text with
  | error why => exact ⟨why, rfl⟩
  | ok m => exact absurd hread (h m)

/-! ## 4. Both ways -/

/-- **Metadata survives JSON, and JSON lets nothing else in.**  What `create` makes is read back
from its text.  Whatever is read, from an object or not, has four fields that are not empty and a
callback that passes the check.  A text that starts as an object and is read is one, and its fields
are the members of their names; any object is read exactly if they make valid metadata.  So the
order of the members does not count, nor does any member of another name, and an object is refused
in which one of the four is missing, comes twice or is no string. -/
theorem json_faithful :
    (∀ kind filter callback id m, create kind filter callback id = .ok m →
      ofJson m.toJson = .ok m) ∧
    (∀ text m, ofJson text = .ok m → m.id ≠ "" ∧ m.kind ≠ "" ∧ m.filter ≠ "" ∧ m.callback ≠ "" ∧
      checkCallback m.callback = .ok ()) ∧
    (∀ text m, AtObject text → ofJson text = .ok m → ∃ ms, ObjectText ms text ∧ TakenFrom ms m) ∧
    (∀ text ms m, ObjectText ms text → (ofJson text = .ok m ↔ m.Valid ∧ TakenFrom ms m)) ∧
    (∀ text text' ms ms', ObjectText ms text → ObjectText ms' text' →
      (ownMembers ms).Perm (ownMembers ms') → ∀ m, ofJson text = .ok m ↔ ofJson text' = .ok m) ∧
    (∀ text ms name, ObjectText ms text → name ∈ fieldNames → Faulty ms name →
      ∃ why, ofJson text = .error why) := by
  refine ⟨?survives, ?valid, ?fromMembers, ?object, ?others, ?refused⟩
  case survives =>
    intro kind filter callback id m h
    exact (ofJson_eq_ok_iff_of_object (objectText_toJson m)).mpr
      ⟨(create_eq_ok_iff.mp h).2, takenFrom_membersOf m⟩
  case valid =>
    intro text m h
    obtain ⟨hkind, hfilter, hcallback, hid, hcheck⟩ := valid_of_ofJson h
    exact ⟨hid, hkind, hfilter, hcallback, checkCallback_eq_ok_iff.mpr hcheck⟩
  case fromMembers =>
    intro text m hobject h
    obtain ⟨ms, hms⟩ := exists_objectText hobject h
    exact ⟨ms, hms, ((ofJson_eq_ok_iff_of_object hms).mp h).2⟩
  case object =>
    intro text ms m hms
    exact ofJson_eq_ok_iff_of_object hms
  case others =>
    intro text text' ms ms' hms hms' hperm m
    rw [ofJson_eq_ok_iff_of_object hms, ofJson_eq_ok_iff_of_object hms']
    exact and_congr_right fun _ => ⟨.of_perm hperm, .of_perm hperm.symm⟩
  case refused =>
    intro text ms name hms hname hfaulty
    refine error_of_forall_ne_ok fun m h => ?_
    obtain ⟨-, htaken⟩ := (ofJson_eq_ok_iff_of_object hms).mp h
    obtain ⟨s, hs⟩ := htaken.exists_sole name hname
    exact not_sole_of_faulty hfaulty hs

end Metadata

namespace Demo

open Json Metadata

/-- Metadata whose texts have to be escaped. -/
def escaped : Metadata := ⟨"s\"\\", "Ä\n", "\x01", "bus:/in"⟩

/-- Its fields in another order, with a member of another name between them. -/
def shuffled : List Member :=
  [(callbackField, quoted escaped.callback), ("id2", ['[', ']']), (kindField, quoted escaped.kind),
    (idField, quoted escaped.id), (filterField, quoted escaped.filter)]

theorem escaped_valid : escaped.Valid :=
  ⟨by decide, by decide, by decide, by decide, rfl⟩

theorem shuffled_written : ∀ m ∈ shuffled, Written .value m.2 := by
  simp only [shuffled, List.mem_cons, List.not_mem_nil, or_false]
  rintro _ (rfl | rfl | rfl | rfl | rfl)
  case inr.inl => exact .bracket (f := .list) (.empty blanks_nil)
  all_goals exact (reads_quoted _).written

end Demo

namespace Metadata

open Json Demo

/-- What has to be escaped is read back from its own text, and from that of an object in another
order.  An object that has an id only is refused. -/
theorem json_faithful_demo :
    ofJson escaped.toJson = .ok escaped ∧
    ofJson (String.ofList (braced (shuffled.map fun m => Json.member m.1 m.2))) = .ok escaped ∧
    ∃ why, ofJson (String.ofList (braced [Json.member idField (quoted "s")])) = .error why := by
  obtain ⟨survives, -, -, object, -, refused⟩ := json_faithful
  refine ⟨survives _ _ _ _ _ (create_eq_ok_iff.mpr ⟨rfl, escaped_valid⟩),
    (object _ _ _ (objectText_braced shuffled_written)).mpr ⟨escaped_valid, ?_⟩,
    refused _ [(idField, quoted "s")] kindField (objectText_braced ?_) (by decide)
      (.missing (by decide))⟩
  · exact ⟨⟨_, rfl, reads_quoted _⟩, ⟨_, rfl, reads_quoted _⟩, ⟨_, rfl, reads_quoted _⟩,
      ⟨_, rfl, reads_quoted _⟩⟩
  · intro m hm
    obtain rfl := List.mem_singleton.mp hm
    exact (reads_quoted "s").written

end Metadata
end SubscriptionRegistry
