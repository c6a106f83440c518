/-
# What a journal tells about activations

A journal lists the calls to all services in order.  From the calls to the activator alone it
can be told which activations were granted, which were released, and what is outstanding.

* `Journal.outstanding`: what is registered after some calls.
* `Journal.Disciplined`: every activation is released at most once, none that was not granted,
  and no subscription has two at a time.
-/
import SubscriptionRegistry.Services

namespace SubscriptionRegistry
namespace Journal

variable {φ σ : Type}

/-- The activations that were granted, in order. -/
def granted (calls : List (Call φ σ)) : List ActivationId :=
  calls.filterMap fun
    | .activate _ _ granted => granted
    | _ => none

/-- The activations that were released, in order. -/
def released (calls : List (Call φ σ)) : List ActivationId :=
  calls.filterMap fun
    | .deactivate activation => some activation
    | _ => none

/-- The registrations after one more call. -/
def settle (live : Table ActivationId (Registration σ)) :
    Call φ σ → Table ActivationId (Registration σ)
  | .activate object properties (some activation) => live.insert activation ⟨object, properties⟩
  | .deactivate activation => live.erase activation
  | _ => live

/-- The registrations that were granted and not released. -/
def outstanding (calls : List (Call φ σ)) : Table ActivationId (Registration σ) :=
  calls.foldl settle .empty

/-- Whether a call leaves all registrations alone. -/
def isNeutral : Call φ σ → Bool
  | .activate _ _ (some _) => false
  | .deactivate _ => false
  | _ => true

/-- The activator is used properly, at every point of the journal. -/
structure Disciplined (calls : List (Call φ σ)) : Prop where
  /-- No two activations that are outstanding are of one subscription. -/
  exclusive : ∀ {done : List (Call φ σ)}, done <+: calls →
    ((outstanding done).values.map fun g => g.properties.id).Nodup
  /-- What is released was granted before. -/
  handedOut : ∀ {done : List (Call φ σ)} {a : ActivationId},
    done ++ [.deactivate a] <+: calls → a ∈ granted done
  /-- No activation is released twice. -/
  once : (released calls).Nodup

/-! ## 1. One more call -/

theorem outstanding_concat (calls : List (Call φ σ)) (call : Call φ σ) :
    outstanding (calls ++ [call]) = settle (outstanding calls) call := by
  simp [outstanding, List.foldl_append]

theorem granted_concat_activate (calls : List (Call φ σ)) (object : σ)
    (properties : Properties) (a : ActivationId) :
    granted (calls ++ [.activate object properties (some a)]) = granted calls ++ [a] := by
  simp [granted]

theorem granted_concat_deactivate (calls : List (Call φ σ)) (a : ActivationId) :
    granted (calls ++ [.deactivate a]) = granted calls := by
  simp [granted]

theorem released_concat_activate (calls : List (Call φ σ)) (object : σ)
    (properties : Properties) (a : ActivationId) :
    released (calls ++ [.activate object properties (some a)]) = released calls := by
  simp [released]

theorem released_concat_deactivate (calls : List (Call φ σ)) (a : ActivationId) :
    released (calls ++ [.deactivate a]) = released calls ++ [a] := by
  simp [released]

theorem settle_of_isNeutral {call : Call φ σ} (h : isNeutral call)
    (live : Table ActivationId (Registration σ)) : settle live call = live := by
  cases call with
  | activate object properties granted => cases granted <;> simp_all [isNeutral, settle]
  | _ => simp_all [isNeutral, settle]

/-! ## 2. More calls -/

theorem granted_append (first second : List (Call φ σ)) :
    granted (first ++ second) = granted first ++ granted second :=
  List.filterMap_append

theorem released_append (first second : List (Call φ σ)) :
    released (first ++ second) = released first ++ released second :=
  List.filterMap_append

section Neutral

variable {calls : List (Call φ σ)}

theorem granted_eq_nil (h : ∀ call ∈ calls, isNeutral call) : granted calls = [] := by
  refine List.filterMap_eq_nil_iff.mpr ?_
  intro call hcall
  have hneutral := h call hcall
  cases call with
  | activate object properties granted => cases granted <;> simp_all [isNeutral]
  | _ => rfl

theorem released_eq_nil (h : ∀ call ∈ calls, isNeutral call) : released calls = [] := by
  refine List.filterMap_eq_nil_iff.mpr ?_
  intro call hcall
  have hneutral := h call hcall
  cases call with
  | deactivate a => simp [isNeutral] at hneutral
  | _ => rfl

theorem granted_append_of_isNeutral (h : ∀ call ∈ calls, isNeutral call)
    (first : List (Call φ σ)) : granted (first ++ calls) = granted first := by
  rw [granted_append, granted_eq_nil h, List.append_nil]

theorem released_append_of_isNeutral (h : ∀ call ∈ calls, isNeutral call)
    (first : List (Call φ σ)) : released (first ++ calls) = released first := by
  rw [released_append, released_eq_nil h, List.append_nil]

end Neutral

end Journal
end SubscriptionRegistry
