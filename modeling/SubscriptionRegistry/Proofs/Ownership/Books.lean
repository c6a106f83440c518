/-
# Books that balance

The journal on one side, the activator's set of registrations on the other.  They are in
balance if the set holds what the journal says is outstanding, every activation that was granted
is either released or held, and no name was given twice.

A name is a 64-bit number, so the balance is only promised while fewer than 2^64 activations
were granted.

* `Balanced.activate`, `Balanced.deactivate`, `Balanced.neutral`: one more call.
* `Balanced.disciplined`: books in balance are the journal of a proper use.
-/
import Mathlib.Data.List.Nodup
import SubscriptionRegistry.Journal

namespace SubscriptionRegistry

variable {φ σ : Type}

/-- A journal and a set of registrations that tell the same. -/
structure Balanced (calls : List (Call φ σ)) (set : ActiveSet σ) : Prop where
  outstanding : Journal.outstanding calls = set.live
  /-- What was granted was released or is held. -/
  balance : (Journal.granted calls).Perm (Journal.released calls ++ set.live.keys)
  /-- Names are given in rising order. -/
  named : ∀ a ∈ Journal.granted calls, a.number.toNat ≤ set.issued
  distinct : (Journal.granted calls).Nodup
  exclusive : ∀ {done : List (Call φ σ)}, done <+: calls →
    ((Journal.outstanding done).values.map fun g => g.properties.id).Nodup
  handedOut : ∀ {done : List (Call φ σ)} {a : ActivationId},
    done ++ [.deactivate a] <+: calls → a ∈ Journal.granted done

/-! ## 1. Names -/

/-- While names last, the next one is larger than all before. -/
theorem ActiveSet.toNat_nextId {set : ActiveSet σ} (h : set.issued + 1 < UInt64.size) :
    set.nextId.number.toNat = set.issued + 1 :=
  UInt64.toNat_ofNat_of_lt' h

namespace Balanced

variable {calls : List (Call φ σ)} {set : ActiveSet σ}

theorem mem_granted_of_live (h : Balanced calls set) {a : ActivationId}
    (ha : a ∈ set.live.keys) : a ∈ Journal.granted calls :=
  h.balance.mem_iff.mpr (List.mem_append_right _ ha)

/-- The next name was never given. -/
theorem nextId_notMem_granted (h : Balanced calls set) (hn : set.issued + 1 < UInt64.size) :
    set.nextId ∉ Journal.granted calls := by
  intro hmem
  have hle := h.named _ hmem
  rw [ActiveSet.toNat_nextId hn] at hle
  omega

theorem get?_nextId (h : Balanced calls set) (hn : set.issued + 1 < UInt64.size) :
    set.live.get? set.nextId = none :=
  Table.get?_eq_none_iff.mpr fun ha => h.nextId_notMem_granted hn (h.mem_granted_of_live ha)

/-! ## 2. Opening the books, and one more call -/

/-- Nothing was called and nothing is registered. -/
theorem nil (h : set.live.rows = []) : Balanced ([] : List (Call φ σ)) set where
  outstanding := Table.ext h.symm
  balance := by simp [Journal.granted, Journal.released, Table.keys, h]
  named := by simp [Journal.granted]
  distinct := by simp [Journal.granted]
  exclusive hd := by
    rw [List.prefix_nil.mp hd]
    exact List.nodup_nil
  handedOut hd := by simp at hd

/-- A call that is not granted anything and releases nothing. -/
theorem neutral (h : Balanced calls set) {call : Call φ σ} (hc : Journal.isNeutral call) :
    Balanced (calls ++ [call]) set where
  outstanding := by
    rw [Journal.outstanding_concat, Journal.settle_of_isNeutral hc, h.outstanding]
  balance := by
    rw [Journal.granted_append_of_isNeutral (List.forall_mem_singleton.mpr hc),
      Journal.released_append_of_isNeutral (List.forall_mem_singleton.mpr hc)]
    exact h.balance
  named := by
    rw [Journal.granted_append_of_isNeutral (List.forall_mem_singleton.mpr hc)]
    exact h.named
  distinct := by
    rw [Journal.granted_append_of_isNeutral (List.forall_mem_singleton.mpr hc)]
    exact h.distinct
  exclusive {done} hd := by
    rcases List.prefix_concat_iff.mp hd with rfl | hd
    · rw [Journal.outstanding_concat, Journal.settle_of_isNeutral hc]
      exact h.exclusive List.prefix_rfl
    · exact h.exclusive hd
  handedOut {done a} hd := by
    rcases List.prefix_concat_iff.mp hd with heq | hd
    · obtain ⟨-, hcall⟩ := List.append_inj' heq rfl
      injection hcall with hcall
      simp [← hcall, Journal.isNeutral] at hc
    · exact h.handedOut hd

/-- **A grant.**  The subscription must not have an activation already. -/
theorem activate (h : Balanced calls set) (hn : set.issued + 1 < UInt64.size) (object : σ)
    {properties : Properties} (hid : ∀ g ∈ set.live.values, g.properties.id ≠ properties.id) :
    Balanced (calls ++ [.activate object properties (some set.nextId)])
      (set.activate object properties).2 := by
  have hfree := h.get?_nextId hn
  have hrows : (set.live.insert set.nextId ⟨object, properties⟩).rows
      = set.live.rows ++ [(set.nextId, ⟨object, properties⟩)] :=
    Table.rows_insert_of_get?_eq_none hfree
  have hout : Journal.outstanding (calls ++ [.activate object properties (some set.nextId)])
      = set.live.insert set.nextId ⟨object, properties⟩ := by
    rw [Journal.outstanding_concat, h.outstanding]
    rfl
  refine ⟨hout, ?_, ?_, ?_, ?_, ?_⟩
  · rw [Journal.granted_concat_activate, Journal.released_concat_activate]
    have hkeys : (set.activate object properties).2.live.keys = set.live.keys ++ [set.nextId] := by
      show (set.live.insert _ _).keys = _
      rw [Table.keys, hrows, List.map_append]
      rfl
    rw [hkeys, ← List.append_assoc]
    exact h.balance.append_right _
  · intro a ha
    rw [Journal.granted_concat_activate, List.mem_append, List.mem_singleton] at ha
    show a.number.toNat ≤ set.issued + 1
    rcases ha with ha | rfl
    · have := h.named a ha
      omega
    · exact Nat.le_of_eq (ActiveSet.toNat_nextId hn)
  · rw [Journal.granted_concat_activate, List.nodup_append]
    refine ⟨h.distinct, List.nodup_singleton _, ?_⟩
    intro a ha b hb hab
    rw [List.mem_singleton] at hb
    exact h.nextId_notMem_granted hn (hb ▸ hab ▸ ha)
  · intro done hd
    rcases List.prefix_concat_iff.mp hd with rfl | hd
    · have hnd : (set.live.values.map fun g => g.properties.id).Nodup := by
        have := h.exclusive List.prefix_rfl
        rwa [h.outstanding] at this
      rw [hout, Table.values, hrows, List.map_append, List.map_append, List.nodup_append]
      refine ⟨hnd, List.nodup_singleton _, ?_⟩
      intro id hmem id' hmem' heq
      obtain ⟨g, hg, rfl⟩ := List.mem_map.mp hmem
      simp only [List.map_cons, List.map_nil, List.mem_singleton] at hmem'
      exact hid g hg (heq.trans hmem')
    · exact h.exclusive hd
  · intro done a hd
    rcases List.prefix_concat_iff.mp hd with heq | hd
    · obtain ⟨-, hcall⟩ := List.append_inj' heq rfl
      injection hcall with hcall
      cases hcall
    · exact h.handedOut hd

/-- **A release.**  Only what is held may be released. -/
theorem deactivate (h : Balanced calls set) {a : ActivationId} {g : Registration σ}
    (ha : set.live.get? a = some g) :
    Balanced (calls ++ [.deactivate a]) (set.deactivate a) := by
  have hout : Journal.outstanding (calls ++ [.deactivate a]) = set.live.erase a := by
    rw [Journal.outstanding_concat, h.outstanding]
    rfl
  have hkeys : set.live.keys.Perm (a :: (set.live.erase a).keys) :=
    (Table.rows_perm_erase ha).map Prod.fst
  refine ⟨hout, ?_, ?_, ?_, ?_, ?_⟩
  · rw [Journal.granted_concat_deactivate, Journal.released_concat_deactivate,
      List.append_assoc]
    exact h.balance.trans (hkeys.append_left _)
  · rw [Journal.granted_concat_deactivate]
    exact h.named
  · rw [Journal.granted_concat_deactivate]
    exact h.distinct
  · intro done hd
    rcases List.prefix_concat_iff.mp hd with rfl | hd
    · have hnd := h.exclusive List.prefix_rfl
      rw [h.outstanding] at hnd
      rw [hout]
      exact hnd.sublist (((List.filter_sublist.map Prod.snd)).map _)
    · exact h.exclusive hd
  · intro done b hd
    rcases List.prefix_concat_iff.mp hd with heq | hd
    · obtain ⟨hdone, hcall⟩ := List.append_inj' heq rfl
      injection hcall with hcall
      injection hcall with hcall
      subst hdone hcall
      exact h.mem_granted_of_live (List.mem_map_of_mem (Table.get?_eq_some_iff.mp ha))
    · exact h.handedOut hd

/-! ## 3. What balanced books say -/

/-- **Books in balance are the journal of a proper use.** -/
theorem disciplined (h : Balanced calls set) : Journal.Disciplined calls where
  exclusive := h.exclusive
  handedOut := h.handedOut
  once := (List.nodup_append.mp (h.balance.nodup_iff.mp h.distinct)).1

end Balanced
end SubscriptionRegistry
