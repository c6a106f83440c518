/-
# Names of activations do not matter

An activator that keeps a set names its registrations one after the other.  So which name a
registration gets depends on how many were made before it, and if several are made in another order
they get each other's names.  That is all that changes: there is a renaming of activations that
takes the one outcome to the other, and it moves no names but those that were given.

* `ActiveSet.activateAll`: registers one subscription after the other.
* `ActiveSet.upcoming`: the names that are given next.
* `ActiveSet.Renames`: two sets that are the same up to a renaming.
* `ActiveSet.activateAll_perm`: that the order does not matter up to a renaming.
-/
import Mathlib.Algebra.Group.End
import Mathlib.Data.List.Nodup
import Mathlib.Data.List.Range
import SubscriptionRegistry.Activation

namespace SubscriptionRegistry
namespace ActiveSet

variable {κ σ : Type}

/-! ## 1. Many registrations -/

/-- Registers some subscriptions, one after the other.  With the set come their names. -/
def activateAll : List (κ × Registration σ) → ActiveSet σ →
    List (κ × ActivationId) × ActiveSet σ
  | [], s => ([], s)
  | (key, g) :: rest, s =>
    let (names, after) := activateAll rest (s.activate g.object g.properties).2
    ((key, s.nextId) :: names, after)

/-- The names of the next `n` registrations, when so many were made. -/
def upcoming (issued n : Nat) : List ActivationId :=
  (List.range' (issued + 1) n).map fun i => ⟨UInt64.ofNat i⟩

theorem upcoming_succ (s : ActiveSet σ) (n : Nat) :
    upcoming s.issued (n + 1) = s.nextId :: upcoming (s.issued + 1) n := by
  rw [upcoming, List.range'_succ, List.map_cons, upcoming, nextId]

/-- The names that were given, and the next one. -/
theorem upcoming_zero_succ (s : ActiveSet σ) :
    upcoming 0 (s.issued + 1) = upcoming 0 s.issued ++ [s.nextId] := by
  simp [upcoming, nextId, List.range'_1_concat, Nat.add_comm]

/-- No name comes twice before all have come. -/
theorem nodup_upcoming (issued : Nat) {n : Nat} (hn : n ≤ UInt64.size) :
    (upcoming issued n).Nodup := by
  refine List.Nodup.map_on (fun i hi j hj h => ?_) List.nodup_range'
  have hmod : i % 2 ^ 64 = j % 2 ^ 64 := by
    rw [← UInt64.toNat_ofNat', ← UInt64.toNat_ofNat']
    exact congrArg (fun a : ActivationId => a.number.toNat) h
  have hsize : UInt64.size = 2 ^ 64 := rfl
  rw [List.mem_range'_1] at hi hj
  omega

/-- The names are given in their order. -/
theorem names_activateAll (grants : List (κ × Registration σ)) (s : ActiveSet σ) :
    (activateAll grants s).1.map Prod.snd = upcoming s.issued grants.length := by
  induction grants generalizing s with
  | nil => rfl
  | cons grant rest ih =>
    rw [List.length_cons, upcoming_succ]
    exact congrArg (s.nextId :: ·) (ih _)

theorem keys_activateAll (grants : List (κ × Registration σ)) (s : ActiveSet σ) :
    (activateAll grants s).1.map Prod.fst = grants.map Prod.fst := by
  induction grants generalizing s with
  | nil => rfl
  | cons grant rest ih => exact congrArg (grant.1 :: ·) (ih _)

theorem issued_activateAll (grants : List (κ × Registration σ)) (s : ActiveSet σ) :
    (activateAll grants s).2.issued = s.issued + grants.length := by
  induction grants generalizing s with
  | nil => rfl
  | cons grant rest ih =>
    rw [activateAll, List.length_cons, Nat.add_comm rest.length, ← Nat.add_assoc]
    exact ih _

/-- Names that are given next are none of those before, while there are names. -/
theorem lt_of_mem_upcoming {issued n : Nat} {a : ActivationId} (ha : a ∈ upcoming issued n)
    (hn : issued + n < UInt64.size) : issued < a.number.toNat := by
  obtain ⟨i, hi, rfl⟩ := List.mem_map.mp ha
  rw [List.mem_range'_1] at hi
  have hsize : i < UInt64.size := by omega
  rw [UInt64.toNat_ofNat_of_lt' hsize]
  omega

/-- What has another name is not touched. -/
theorem get?_activateAll_of_notMem {grants : List (κ × Registration σ)} {s : ActiveSet σ}
    {a : ActivationId} (ha : a ∉ upcoming s.issued grants.length) :
    (activateAll grants s).2.live.get? a = s.live.get? a := by
  induction grants generalizing s with
  | nil => rfl
  | cons grant rest ih =>
    rw [List.length_cons, upcoming_succ] at ha
    obtain ⟨hne, hrest⟩ := not_or.mp (mt List.mem_cons.mpr ha)
    exact (ih hrest).trans (Table.get?_insert.trans (if_neg hne))

/-- What was registered is live under its name. -/
theorem get?_activateAll {grants : List (κ × Registration σ)} {s : ActiveSet σ}
    (hn : grants.length ≤ UInt64.size) (hkeys : (grants.map Prod.fst).Nodup) {key : κ}
    {g : Registration σ} {a : ActivationId} (hg : (key, g) ∈ grants)
    (ha : (key, a) ∈ (activateAll grants s).1) :
    (activateAll grants s).2.live.get? a = some g := by
  induction grants generalizing s with
  | nil => cases hg
  | cons grant rest ih =>
    have hnames := nodup_upcoming s.issued hn
    rw [List.length_cons] at hn hnames
    rw [upcoming_succ] at hnames
    obtain ⟨hnew, -⟩ := List.nodup_cons.mp hnames
    obtain ⟨hkey, hrest⟩ := List.nodup_cons.mp hkeys
    rcases List.mem_cons.mp hg with rfl | hg
    · rcases List.mem_cons.mp ha with ha | ha
      · cases ha
        exact (get?_activateAll_of_notMem (s := (s.activate g.object g.properties).2) hnew).trans
          (Table.get?_insert.trans (if_pos rfl))
      · refine absurd ?_ hkey
        rw [← keys_activateAll rest (s.activate g.object g.properties).2]
        exact List.mem_map_of_mem (f := Prod.fst) ha
    · rcases List.mem_cons.mp ha with ha | ha
      · cases ha
        exact absurd (List.mem_map_of_mem (f := Prod.fst) hg) hkey
      · exact ih (Nat.le_of_succ_le hn) hrest hg ha

/-! ## 2. Other names -/

/-- The registrations of `s'` are those of `s` under other names. -/
structure Renames (ρ : Equiv.Perm ActivationId) (s s' : ActiveSet σ) : Prop where
  issued : s'.issued = s.issued
  live : ∀ a, s'.live.get? (ρ a) = s.live.get? a

theorem Renames.refl (s : ActiveSet σ) : Renames 1 s s := ⟨rfl, fun _ => rfl⟩

theorem Renames.trans {ρ τ : Equiv.Perm ActivationId} {s s' s'' : ActiveSet σ}
    (h : Renames ρ s s') (h' : Renames τ s' s'') : Renames (τ * ρ) s s'' :=
  ⟨h'.issued.trans h.issued, fun a => (h'.live (ρ a)).trans (h.live a)⟩

variable {ρ : Equiv.Perm ActivationId} {s s' : ActiveSet σ}

theorem Renames.nextId (h : Renames ρ s s') : s'.nextId = s.nextId := by
  rw [ActiveSet.nextId, ActiveSet.nextId, h.issued]

/-- A registration under a name that both sets give. -/
theorem Renames.activate (h : Renames ρ s s') (hnext : ρ s.nextId = s.nextId) (object : σ)
    (properties : Properties) :
    Renames ρ (s.activate object properties).2 (s'.activate object properties).2 := by
  refine ⟨congrArg (· + 1) h.issued, fun a => ?_⟩
  dsimp only [ActiveSet.activate]
  rw [Table.get?_insert, Table.get?_insert, h.nextId, h.live]
  have hiff : ρ a = s.nextId ↔ a = s.nextId := by
    rw [← ρ.apply_eq_iff_eq (x := a), hnext]
  by_cases ha : a = s.nextId
  · rw [if_pos ha, if_pos (hiff.mpr ha)]
  · rw [if_neg ha, if_neg (mt hiff.mp ha)]

/-- The same registrations under names that both sets give. -/
theorem Renames.activateAll (h : Renames ρ s s') (grants : List (κ × Registration σ))
    (hnext : ∀ a ∈ upcoming s.issued grants.length, ρ a = a) :
    (ActiveSet.activateAll grants s').1 = (ActiveSet.activateAll grants s).1
      ∧ Renames ρ (ActiveSet.activateAll grants s).2 (ActiveSet.activateAll grants s').2 := by
  induction grants generalizing s s' with
  | nil => exact ⟨rfl, h⟩
  | cons grant rest ih =>
    rw [List.length_cons, upcoming_succ] at hnext
    obtain ⟨hnames, hafter⟩ := ih
      (h.activate (hnext _ List.mem_cons_self) grant.2.object grant.2.properties)
      fun a ha => hnext a (List.mem_cons_of_mem _ ha)
    refine ⟨?_, hafter⟩
    rw [ActiveSet.activateAll, ActiveSet.activateAll, h.nextId]
    exact congrArg ((grant.1, s.nextId) :: ·) hnames

/-- Two registrations made the other way round get each other's names. -/
theorem renames_swap (s : ActiveSet σ) (g g' : Registration σ)
    (hne : s.nextId ≠ (s.activate g.object g.properties).2.nextId) :
    Renames (Equiv.swap s.nextId (s.activate g.object g.properties).2.nextId)
      ((s.activate g.object g.properties).2.activate g'.object g'.properties).2
      ((s.activate g'.object g'.properties).2.activate g.object g.properties).2 := by
  refine ⟨rfl, fun a => ?_⟩
  -- The second name depends on neither registration.
  change ((s.live.insert s.nextId g').insert (s.activate g.object g.properties).2.nextId g).get? _
    = ((s.live.insert s.nextId g).insert (s.activate g.object g.properties).2.nextId g').get? a
  generalize (s.activate g.object g.properties).2.nextId = second at hne ⊢
  simp only [Table.get?_insert]
  by_cases h₁ : a = s.nextId
  · rw [h₁, Equiv.swap_apply_left, if_pos rfl, if_neg hne, if_pos rfl]
  · by_cases h₂ : a = second
    · rw [h₂, Equiv.swap_apply_right, if_neg hne, if_pos rfl, if_pos rfl]
    · rw [Equiv.swap_apply_of_ne_of_ne h₁ h₂, if_neg h₂, if_neg h₁, if_neg h₂, if_neg h₁]

/-! ## 3. Another order -/

theorem map_names_of_fixed (grants : List (κ × Registration σ)) (s : ActiveSet σ)
    (h : ∀ a ∈ upcoming s.issued grants.length, ρ a = a) :
    (activateAll grants s).1.map (fun name => (name.1, ρ name.2)) = (activateAll grants s).1 := by
  refine (List.map_congr_left fun name hname => ?_).trans (List.map_id _)
  have hmem : name.2 ∈ upcoming s.issued grants.length :=
    names_activateAll grants s ▸ List.mem_map_of_mem hname
  exact Prod.ext rfl (h _ hmem)

/-- `grants'` gives the names of `grants` in another way. -/
def Reorders (ρ : Equiv.Perm ActivationId) (s : ActiveSet σ)
    (grants grants' : List (κ × Registration σ)) : Prop :=
  (∀ a ∉ upcoming s.issued grants.length, ρ a = a)
    ∧ Renames ρ (activateAll grants s).2 (activateAll grants' s).2
    ∧ ((activateAll grants s).1.map fun name => (name.1, ρ name.2)).Perm (activateAll grants' s).1

/-- The first two of some registrations may change places. -/
theorem reorders_swap (s : ActiveSet σ) (first second : κ × Registration σ)
    {rest : List (κ × Registration σ)} (hn : (first :: second :: rest).length ≤ UInt64.size) :
    Reorders (Equiv.swap s.nextId (s.activate first.2.object first.2.properties).2.nextId) s
      (first :: second :: rest) (second :: first :: rest) := by
  have hupcoming : upcoming s.issued (first :: second :: rest).length
      = s.nextId :: (s.activate first.2.object first.2.properties).2.nextId
        :: upcoming (s.issued + 1 + 1) rest.length :=
    (upcoming_succ s _).trans (congrArg (s.nextId :: ·)
      (upcoming_succ (s.activate first.2.object first.2.properties).2 _))
  have hnodup := nodup_upcoming s.issued hn
  rw [hupcoming] at hnodup
  obtain ⟨hfirst, hnodup⟩ := List.nodup_cons.mp hnodup
  obtain ⟨hsecond, -⟩ := List.nodup_cons.mp hnodup
  obtain ⟨hne, hfirst⟩ := not_or.mp (mt List.mem_cons.mpr hfirst)
  have hlive := renames_swap s first.2 second.2 hne
  have hrest : ∀ a ∈ upcoming (s.issued + 1 + 1) rest.length,
      Equiv.swap s.nextId (s.activate first.2.object first.2.properties).2.nextId a = a :=
    fun a ha => Equiv.swap_apply_of_ne_of_ne (fun h => hfirst (h ▸ ha)) fun h => hsecond (h ▸ ha)
  obtain ⟨hnames, hafter⟩ := hlive.activateAll rest hrest
  refine ⟨fun a ha => ?_, hafter, ?_⟩
  · rw [hupcoming] at ha
    obtain ⟨hne₁, ha⟩ := not_or.mp (mt List.mem_cons.mpr ha)
    obtain ⟨hne₂, -⟩ := not_or.mp (mt List.mem_cons.mpr ha)
    exact Equiv.swap_apply_of_ne_of_ne hne₁ hne₂
  · have hkept := map_names_of_fixed rest ((s.activate first.2.object
      first.2.properties).2.activate second.2.object second.2.properties).2 hrest
    rw [← hnames] at hkept
    rw [activateAll, activateAll, activateAll, activateAll, List.map_cons, List.map_cons, ← hnames,
      hkept, Equiv.swap_apply_left, Equiv.swap_apply_right]
    exact List.Perm.swap ..

/-- **The order of registrations does not matter**, up to a renaming that moves none but the names
that are given. -/
theorem activateAll_perm {grants grants' : List (κ × Registration σ)} (h : grants.Perm grants')
    (s : ActiveSet σ) (hn : grants.length ≤ UInt64.size) : ∃ ρ, Reorders ρ s grants grants' := by
  induction h generalizing s with
  | nil => exact ⟨1, fun _ _ => rfl, .refl s, .refl _⟩
  | @cons grant rest rest' _ ih =>
    have hnodup := nodup_upcoming s.issued hn
    rw [List.length_cons, upcoming_succ] at hnodup
    obtain ⟨hnew, -⟩ := List.nodup_cons.mp hnodup
    obtain ⟨ρ, hfixed, hlive, hnames⟩ :=
      ih (s.activate grant.2.object grant.2.properties).2 (Nat.le_of_succ_le hn)
    refine ⟨ρ, fun a ha => hfixed a fun hmem => ha ?_, hlive, ?_⟩
    · rw [List.length_cons, upcoming_succ]
      exact List.mem_cons_of_mem _ hmem
    · rw [activateAll, activateAll, List.map_cons, hfixed s.nextId hnew]
      exact hnames.cons _
  | swap second first rest => exact ⟨_, reorders_swap s first second hn⟩
  | trans h h' ih ih' =>
    obtain ⟨ρ, hfixed, hlive, hnames⟩ := ih s hn
    obtain ⟨τ, hfixed', hlive', hnames'⟩ := ih' s (h.length_eq ▸ hn)
    refine ⟨τ * ρ, fun a ha => ?_, hlive.trans hlive', ?_⟩
    · rw [Equiv.Perm.mul_apply, hfixed a ha, hfixed' a (h.length_eq ▸ ha)]
    · refine (List.Perm.trans ?_ (hnames.map fun name => (name.1, τ name.2))).trans hnames'
      rw [List.map_map]
      exact .refl _

end ActiveSet
end SubscriptionRegistry
