/-
# Registrations that stand

A registration stands from the call that granted it until its name is released.  Which ones stand
can be told from the calls alone, whatever came in between: names may be released that are not
live, that were released already, or that are given only later.

A set of active registrations is told from its calls as well.  It gives its names in their order,
and so no name twice; hence no registration takes the place of another, and the set holds those
that stand and nothing else.

* `Journal.standing`, `Journal.mem_standing_iff`: the registrations that stand after some calls.
* `ActiveSet.History`: what becomes of a set that was empty.
* `ActiveSet.History.granted_eq`, `ActiveSet.History.rows_eq`: its names and its registrations.
* `ActiveSet.History.tells`: that its answers are about those.
* `ActiveSet.registrationsOf`: the registrations of one subscription, for sets that are shared.
-/
import Mathlib.Data.List.Nodup
import SubscriptionRegistry.Journal
import SubscriptionRegistry.Proofs.Naming

namespace SubscriptionRegistry

/-- Where no row passes a test, the one that is put in is the only one to pass. -/
theorem Table.filter_putRow_of_filter_eq_nil {κ α : Type} [DecidableEq κ] {p : κ × α → Bool}
    {key : κ} {a : α} {rows : List (κ × α)} (h : rows.filter p = []) (ha : p (key, a)) :
    (putRow key a rows).filter p = [(key, a)] := by
  induction rows with
  | nil => simp [putRow, ha]
  | cons row rest ih => grind [putRow]

/-! ## 1. What stands after some calls -/

section

variable {φ σ : Type}

/-- What a call to an activator was granted. -/
def Call.grant? : Call φ σ → Option (ActivationId × Registration σ)
  | .activate object properties (some a) => some (a, ⟨object, properties⟩)
  | _ => none

theorem Call.grant?_eq_some_iff {call : Call φ σ} {a : ActivationId} {g : Registration σ} :
    call.grant? = some (a, g) ↔ call = .activate g.object g.properties (some a) := by
  constructor
  · intro h
    unfold grant? at h
    split at h
    · cases h
      rfl
    · cases h
  · intro h
    rw [h]
    rfl

namespace Journal

/-- The registrations that were granted and not released since, in the order of the grants. -/
def standing : List (Call φ σ) → List (ActivationId × Registration σ)
  | [] => []
  | call :: later => (call.grant?.toList.filter fun g => g.1 ∉ released later) ++ standing later

/-- A registration stands if it was granted at some point and not released after that.  What was
released before does not matter. -/
theorem mem_standing_iff {calls : List (Call φ σ)} {a : ActivationId} {g : Registration σ} :
    (a, g) ∈ standing calls ↔ ∃ before after,
      calls = before ++ .activate g.object g.properties (some a) :: after
        ∧ a ∉ released after := by
  induction calls with
  | nil => simp [standing]
  | cons call later ih =>
    rw [standing, List.mem_append, ih]
    simp only [List.mem_filter, Option.mem_toList, Call.grant?_eq_some_iff, decide_eq_true_eq]
    constructor
    · rintro (⟨rfl, hrest⟩ | ⟨before, after, rfl, hrest⟩)
      · exact ⟨[], later, rfl, hrest⟩
      · exact ⟨call :: before, after, rfl, hrest⟩
    · rintro ⟨_ | ⟨first, before⟩, after, heq, hrest⟩
      · cases heq
        exact .inl ⟨rfl, hrest⟩
      · cases heq
        exact .inr ⟨before, after, rfl, hrest⟩

/-- More calls end what they release and add what stands after them. -/
theorem standing_append (first second : List (Call φ σ)) :
    standing (first ++ second)
      = ((standing first).filter fun g => g.1 ∉ released second) ++ standing second := by
  induction first with
  | nil => rfl
  | cons call rest ih =>
    rw [List.cons_append, standing, standing, ih, released_append, List.filter_append,
      List.filter_filter, List.append_assoc]
    congr 2
    funext g
    simp [and_comm]

/-- A new registration stands. -/
theorem standing_concat_activate (calls : List (Call φ σ)) (object : σ)
    (properties : Properties) (a : ActivationId) :
    standing (calls ++ [.activate object properties (some a)])
      = standing calls ++ [(a, ⟨object, properties⟩)] := by
  simp [standing_append, standing, Call.grant?, released]

/-- Nothing stands under a name that was released. -/
theorem standing_concat_deactivate (calls : List (Call φ σ)) (a : ActivationId) :
    standing (calls ++ [.deactivate a]) = (standing calls).filter fun g => g.1 ≠ a := by
  simp [standing_append, standing, Call.grant?, released]

/-- What stands was granted. -/
theorem keys_standing_subset (calls : List (Call φ σ)) :
    (standing calls).map Prod.fst ⊆ granted calls := by
  intro a ha
  obtain ⟨⟨_, g⟩, hg, rfl⟩ := List.mem_map.mp ha
  obtain ⟨before, after, rfl, -⟩ := mem_standing_iff.mp hg
  simp [granted]

/-- Calls that neither grant nor release anything do not matter. -/
theorem standing_append_of_isNeutral {calls : List (Call φ σ)}
    (h : ∀ call ∈ calls, isNeutral call) (first : List (Call φ σ)) :
    standing (first ++ calls) = standing first := by
  have hnil : standing calls = [] := by
    have hkeys := keys_standing_subset calls
    rw [granted_eq_nil h, List.subset_nil, List.map_eq_nil_iff] at hkeys
    exact hkeys
  simp [standing_append, released_eq_nil h, hnil]

end Journal

end

/-! ## 2. The history of a set -/

namespace ActiveSet

variable {φ σ : Type}

theorem nextId_empty : (empty : ActiveSet σ).nextId = ⟨1⟩ := rfl

/-- The next name is one more than the last, and numbers of 64 bits start again behind the
largest. -/
theorem number_nextId_activate (object : σ) (properties : Properties) (set : ActiveSet σ) :
    (set.activate object properties).2.nextId.number = set.nextId.number + 1 := by
  show UInt64.ofNat (set.issued + 1 + 1) = UInt64.ofNat (set.issued + 1) + 1
  rw [UInt64.ofNat_add]
  rfl

/-- The set after some calls to one that was empty, with what was answered.  Any name may be
released at any time. -/
inductive History : List (Call φ σ) → ActiveSet σ → Prop
  | empty : History [] .empty
  | activate {calls : List (Call φ σ)} {set : ActiveSet σ} (h : History calls set) (object : σ)
      (properties : Properties) :
      History (calls ++ [.activate object properties (some (set.activate object properties).1)])
        (set.activate object properties).2
  | deactivate {calls : List (Call φ σ)} {set : ActiveSet σ} (h : History calls set)
      (a : ActivationId) : History (calls ++ [.deactivate a]) (set.deactivate a)

namespace History

variable {calls : List (Call φ σ)} {set : ActiveSet σ}

/-- Names are given in their order, whatever is released. -/
theorem granted_eq (h : History calls set) : Journal.granted calls = upcoming 0 set.issued := by
  induction h with
  | empty => rfl
  | activate h object properties ih =>
    rw [Journal.granted_concat_activate, ih]
    exact (upcoming_zero_succ _).symm
  | deactivate h a ih =>
    rw [Journal.granted_concat_deactivate, ih]
    rfl

theorem length_granted (h : History calls set) :
    (Journal.granted calls).length = set.issued := by
  rw [h.granted_eq, upcoming, List.length_map, List.length_range']

/-- As long as names last, the next one was not given before. -/
theorem nextId_notMem_granted (h : History calls set) (hn : set.issued < UInt64.size) :
    set.nextId ∉ Journal.granted calls := by
  have hnodup := nodup_upcoming 0 (Nat.succ_le_of_lt hn)
  rw [upcoming_zero_succ, List.nodup_append] at hnodup
  intro hmem
  rw [h.granted_eq] at hmem
  exact hnodup.2.2 _ hmem _ List.mem_cons_self rfl

/-- **The set holds what stands.** -/
theorem rows_eq (h : History calls set) (hn : set.issued ≤ UInt64.size) :
    set.live.rows = Journal.standing calls := by
  induction h with
  | empty => rfl
  | @activate calls set h object properties ih =>
    have hlast : set.issued < UInt64.size := hn
    have hrows := ih (Nat.le_of_lt hlast)
    have hfree : set.live.get? set.nextId = none := by
      rw [Table.get?_eq_none_iff, Table.keys, hrows]
      intro hmem
      exact h.nextId_notMem_granted hlast (Journal.keys_standing_subset _ hmem)
    rw [Journal.standing_concat_activate, ← hrows]
    exact Table.rows_insert_of_get?_eq_none hfree
  | deactivate h a ih =>
    rw [Journal.standing_concat_deactivate, ← ih hn]
    rfl

end History

/-! ## 3. What a set tells -/

/-- What a set answers, told by the calls that were made to it. -/
structure Tells (calls : List (Call φ σ)) (set : ActiveSet σ) : Prop where
  /-- No name was given twice. -/
  distinct : (Journal.granted calls).Nodup
  /-- A new registration gets a name that was never given, and takes no other's place. -/
  fresh : (Journal.granted calls).length < UInt64.size → ∀ object properties, ∃ a set',
    Activator.activate object properties set = (some a, set') ∧ a ∉ Journal.granted calls
      ∧ set'.live.rows.Perm ((a, ⟨object, properties⟩) :: set.live.rows)
  /-- What is live was granted at some point, as it is, and not released after that. -/
  live_iff : ∀ a g, set.live.get? a = some g ↔ ∃ before after,
    calls = before ++ .activate g.object g.properties (some a) :: after
      ∧ a ∉ Journal.released after
  /-- The answers are about what stands. -/
  size : set.size = (Journal.standing calls).length
  countFor : ∀ id, set.countFor id
    = (Journal.standing calls).countP fun g => g.2.properties.id = id
  forEndpoint : ∀ endpoint, (set.forEndpoint endpoint).Perm
    (((Journal.standing calls).map Prod.snd).filter fun g => g.properties.endpoint = endpoint)
  /-- Releasing what is not live changes nothing. -/
  idle : ∀ a, set.live.get? a = none → Activator.deactivate a set = set
  /-- Nor does releasing what was never given, also if it is given later. -/
  early : ∀ a ∉ Journal.granted calls, Activator.deactivate a set = set

theorem deactivate_of_get?_eq_none {set : ActiveSet σ} {a : ActivationId}
    (h : set.live.get? a = none) : set.deactivate a = set := by
  rw [deactivate, Table.erase_of_get?_eq_none h]

/-- **A set neither loses registrations nor mixes them up**, as long as names last. -/
theorem History.tells {calls : List (Call φ σ)} {set : ActiveSet σ} (h : History calls set)
    (hn : (Journal.granted calls).length ≤ UInt64.size) : Tells calls set := by
  rw [h.length_granted] at hn
  have hrows := h.rows_eq hn
  have hvalues : set.live.values = (Journal.standing calls).map Prod.snd := by
    rw [Table.values, hrows]
  have hfree : ∀ a, a ∉ Journal.granted calls → set.live.get? a = none := by
    intro a ha
    rw [Table.get?_eq_none_iff, Table.keys, hrows]
    exact fun hmem => ha (Journal.keys_standing_subset _ hmem)
  refine ⟨?_, ?_, ?_, ?_, ?_, ?_, fun a => deactivate_of_get?_eq_none, ?_⟩
  · rw [h.granted_eq]
    exact nodup_upcoming 0 hn
  · intro hlast object properties
    rw [h.length_granted] at hlast
    have hnew := h.nextId_notMem_granted hlast
    refine ⟨set.nextId, (set.activate object properties).2, rfl, hnew, ?_⟩
    have hput : (set.activate object properties).2.live.rows
        = set.live.rows ++ [(set.nextId, ⟨object, properties⟩)] :=
      Table.rows_insert_of_get?_eq_none (hfree _ hnew)
    rw [hput]
    exact List.perm_append_singleton _ _
  · intro a g
    rw [Table.get?_eq_some_iff, hrows]
    exact Journal.mem_standing_iff
  · rw [size, Table.size, hrows]
  · intro id
    rw [countFor, hvalues, List.countP_map]
    rfl
  · intro endpoint
    rw [forEndpoint, hvalues]
  · intro a ha
    exact deactivate_of_get?_eq_none (hfree a ha)

/-- Name 1 is released before it is given, and name 2 once more after it was released. -/
theorem History.tells_demo :
    Tells ([.deactivate ⟨1⟩, .activate "g" ⟨"s", "bus:/in"⟩ (some ⟨1⟩),
        .activate "h" ⟨"t", "bus:/in"⟩ (some ⟨2⟩), .deactivate ⟨2⟩, .deactivate ⟨2⟩] :
          List (Call EchoFactory String))
      ⟨⟨[(⟨1⟩, ⟨"g", "s", "bus:/in"⟩)], by decide⟩, 2⟩ := by
  have hhistory := (((((History.empty (φ := EchoFactory) (σ := String)).deactivate ⟨1⟩).activate "g"
    ⟨"s", "bus:/in"⟩).activate "h" ⟨"t", "bus:/in"⟩).deactivate ⟨2⟩).deactivate ⟨2⟩
  exact hhistory.tells (by decide)

/-! ## 4. The registrations of one subscription -/

/-- What is live of one subscription, in a set that many may use. -/
def registrationsOf (id : String) (set : ActiveSet σ) : List (ActivationId × Registration σ) :=
  set.live.rows.filter fun g => g.2.properties.id = id

/-- A first registration is the only one, whatever others are registered as. -/
theorem registrationsOf_activate {set : ActiveSet σ} (object : σ) (properties : Properties)
    (h : set.registrationsOf properties.id = []) :
    (set.activate object properties).2.registrationsOf properties.id
      = [(set.nextId, ⟨object, properties⟩)] :=
  Table.filter_putRow_of_filter_eq_nil h (by simp)

theorem registrationsOf_deactivate (id : String) (a : ActivationId) (set : ActiveSet σ) :
    (set.deactivate a).registrationsOf id = (set.registrationsOf id).filter fun g => g.1 ≠ a := by
  unfold registrationsOf deactivate Table.erase
  rw [List.filter_filter, List.filter_filter]
  congr 1
  funext g
  exact Bool.and_comm ..

end ActiveSet
end SubscriptionRegistry
