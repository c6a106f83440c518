/-
# Faults that are set from outside

When calls fail is up to the world.  Where the world can set it at will, between any two
operations and without touching what is stored or registered, a run can be repeated: with the
same faults at the same operations and something else in between.

* `AdjustableStore`: a faithful store whose faults are set.  A gate is one, and so is a file.
* `AdjustableActivator`: an activator whose refusals are set.
* `Registry.under`: a registry whose services were set.
-/
import SubscriptionRegistry.BackingStore.Faithful
import SubscriptionRegistry.Registry

namespace SubscriptionRegistry

/-! ## 1. Stores -/

/-- A faithful store whose faults are set from outside.  The last setting counts, and after it
nothing shows whether the store was listed before. -/
class AdjustableStore (π : Type) (κ : outParam Type) [BackingStore π] [FaithfulStore π] where
  adjust : κ → π → π
  adjust_adjust : ∀ (c c' : κ) (p : π), adjust c (adjust c' p) = adjust c p
  stored_adjust : ∀ (c : κ) (p : π), FaithfulStore.stored (adjust c p) = FaithfulStore.stored p
  adjust_list : ∀ (c : κ) (p : π), adjust c (BackingStore.list p).2 = adjust c p

/-- A store that is only looked at when it is listed. -/
class QuietListing (π : Type) [BackingStore π] : Prop where
  list_snd : ∀ p : π, (BackingStore.list p).2 = p

instance : QuietListing MemoryStore := ⟨fun _ => rfl⟩

instance : QuietListing Mounted := ⟨fun _ => rfl⟩

/-- What a gate in front of a store fails, and with what. -/
structure StoreFaults where
  failsInsert : String → Bool
  failsDelete : String → Bool
  failsList : Bool
  error : StoreError

namespace StoreFaults

/-- The gate with these faults. -/
def gate {π : Type} (c : StoreFaults) (inner : π) : StoreGate π :=
  ⟨inner, c.failsInsert, c.failsDelete, c.failsList, c.error⟩

end StoreFaults

instance {π : Type} [BackingStore π] [FaithfulStore π] [QuietListing π] :
    AdjustableStore (StoreGate π) StoreFaults where
  adjust c g := c.gate g.inner
  adjust_adjust _ _ _ := rfl
  stored_adjust _ _ := rfl
  adjust_list c g := by
    simp only [BackingStore.list]
    split
    · rfl
    · rw [QuietListing.list_snd]

/-- What goes wrong with the next steps on the disk is set.  Listing takes no step. -/
instance : AdjustableStore Mounted (List (Option Mishap)) where
  adjust c b := { b with device := { b.device with mishaps := c } }
  adjust_adjust _ _ _ := rfl
  stored_adjust _ _ := rfl
  adjust_list _ _ := rfl

/-! ## 2. Activators -/

/-- An activator whose refusals are set from outside.  The last setting counts. -/
class AdjustableActivator (α : Type) (ρ : outParam Type) {σ : outParam Type} [Activator α σ]
    [Tracked α σ] where
  adjust : ρ → α → α
  adjust_adjust : ∀ (c c' : ρ) (a : α), adjust c (adjust c' a) = adjust c a
  active_adjust : ∀ (c : ρ) (a : α), Tracked.active (adjust c a) = Tracked.active a

instance {α σ : Type} [Activator α σ] [Tracked α σ] :
    AdjustableActivator (Gated α) (String → Bool) where
  adjust refuses g := { g with refuses }
  adjust_adjust _ _ _ := rfl
  active_adjust _ _ := rfl

/-- An activator that never refuses. -/
instance {σ : Type} : AdjustableActivator (ActiveSet σ) Unit where
  adjust _ s := s
  adjust_adjust _ _ _ := rfl
  active_adjust _ _ := rfl

/-! ## 3. Registries -/

/-- What the services of a registry fail and refuse. -/
structure Conditions (κ ρ : Type) where
  store : κ
  activator : ρ

section

variable {π α φ σ κ ρ : Type} [BackingStore π] [FaithfulStore π] [AdjustableStore π κ]
  [Activator α σ] [Tracked α σ] [AdjustableActivator α ρ]

/-- The services under some conditions. -/
def Services.under (c : Conditions κ ρ) (s : Services π α φ σ) : Services π α φ σ :=
  { s with
    store := AdjustableStore.adjust c.store s.store
    activator := AdjustableActivator.adjust c.activator s.activator }

@[simp] theorem Services.stored_under (c : Conditions κ ρ) (s : Services π α φ σ) :
    (s.under c).stored = s.stored :=
  AdjustableStore.stored_adjust c.store s.store

@[simp] theorem Services.active_under (c : Conditions κ ρ) (s : Services π α φ σ) :
    (s.under c).active = s.active :=
  AdjustableActivator.active_adjust c.activator s.activator

namespace Registry

/-- The registry under some conditions. -/
def under (c : Conditions κ ρ) (r : Registry π α φ σ) : Registry π α φ σ :=
  { r with services := r.services.under c }

end Registry

end

end SubscriptionRegistry
