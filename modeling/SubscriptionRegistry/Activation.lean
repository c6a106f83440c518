/-
# Activations

A live subscription receives events while it is registered with an activator.  An activator
may refuse; what it grants it names by a number, and by that number it is released.

* `Activator`: what the registry needs of one.
* `ActiveSet`: an activator that keeps all its registrations and never refuses.
* `Gated`: an activator behind a gate that refuses some subscriptions.
* `Tracked`: what these two have in common.
-/
import SubscriptionRegistry.Table

namespace SubscriptionRegistry

/-! ## 1. Activators -/

/-- The name of one activation. -/
structure ActivationId where
  number : UInt64
deriving DecidableEq, Repr

/-- What a subscription is activated under. -/
structure Properties where
  /-- The subscription's id. -/
  id : String
  /-- Where its events go. -/
  endpoint : String
deriving DecidableEq, Repr

/-- A place where live subscriptions of type `σ` are registered, with its state `α`. -/
class Activator (α : Type) (σ : outParam Type) where
  /-- Registers a subscription and names the registration, or refuses. -/
  activate : σ → Properties → α → Option ActivationId × α
  /-- Ends a registration. -/
  deactivate : ActivationId → α → α

/-! ## 2. A set of active registrations -/

/-- A registered subscription. -/
structure Registration (σ : Type) where
  object : σ
  properties : Properties
deriving DecidableEq, Repr

/-- All registrations by name, and how many were ever made. -/
structure ActiveSet (σ : Type) where
  live : Table ActivationId (Registration σ)
  issued : Nat

namespace ActiveSet

variable {σ : Type}

/-- Nothing was ever registered. -/
def empty : ActiveSet σ := ⟨.empty, 0⟩

/-- The name that the next registration gets.  The first is 1; names are 64-bit numbers. -/
def nextId (s : ActiveSet σ) : ActivationId := ⟨UInt64.ofNat (s.issued + 1)⟩

/-- Registers a subscription under the next name. -/
def activate (object : σ) (properties : Properties) (s : ActiveSet σ) :
    ActivationId × ActiveSet σ :=
  (s.nextId, ⟨s.live.insert s.nextId ⟨object, properties⟩, s.issued + 1⟩)

/-- Ends a registration, if there is one of that name. -/
def deactivate (id : ActivationId) (s : ActiveSet σ) : ActiveSet σ :=
  { s with live := s.live.erase id }

/-- The number of registrations. -/
def size (s : ActiveSet σ) : Nat := s.live.size

/-- Whether there are none. -/
def isEmpty (s : ActiveSet σ) : Bool := s.live.isEmpty

/-- The number of registrations of one subscription. -/
def countFor (id : String) (s : ActiveSet σ) : Nat :=
  s.live.values.countP fun r => r.properties.id = id

/-- Whether a subscription is registered. -/
def isActive (id : String) (s : ActiveSet σ) : Bool := 0 < s.countFor id

/-- The registrations whose events go to one endpoint. -/
def forEndpoint (endpoint : String) (s : ActiveSet σ) : List (Registration σ) :=
  s.live.values.filter fun r => r.properties.endpoint = endpoint

instance : Activator (ActiveSet σ) σ where
  activate object properties s :=
    let (id, s) := s.activate object properties
    (some id, s)
  deactivate := deactivate

end ActiveSet

/-! ## 3. A gate -/

/-- An activator behind a gate.  What the gate refuses does not reach the activator. -/
structure Gated (α : Type) where
  inner : α
  refuses : String → Bool

instance {α σ : Type} [Activator α σ] : Activator (Gated α) σ where
  activate object properties g :=
    if g.refuses properties.id then (none, g)
    else
      let (id, inner) := Activator.activate object properties g.inner
      (id, { g with inner })
  deactivate id g := { g with inner := Activator.deactivate id g.inner }

/-! ## 4. Activators that keep a set -/

/-- An activator that keeps a set of active registrations of its own.  It may refuse for any
reason; what it does not refuse it passes on to the set. -/
class Tracked (α : Type) (σ : outParam Type) [Activator α σ] where
  active : α → ActiveSet σ
  active_refused : ∀ {object : σ} {properties : Properties} {a a' : α},
    Activator.activate object properties a = (none, a') → active a' = active a
  active_granted : ∀ {object : σ} {properties : Properties} {a a' : α} {id : ActivationId},
    Activator.activate object properties a = (some id, a') →
      (id, active a') = (active a).activate object properties
  active_deactivate : ∀ (id : ActivationId) (a : α),
    active (Activator.deactivate id a) = (active a).deactivate id

instance {σ : Type} : Tracked (ActiveSet σ) σ where
  active s := s
  active_refused h := by cases h
  active_granted h := by
    cases h
    rfl
  active_deactivate _ _ := rfl

instance {α σ : Type} [Activator α σ] [Tracked α σ] : Tracked (Gated α) σ where
  active g := Tracked.active g.inner
  active_refused {object properties g g'} h := by
    simp only [Activator.activate] at h
    split at h
    · cases h
      rfl
    · injection h with hid hg
      rw [← hg]
      exact Tracked.active_refused (Prod.ext hid rfl)
  active_granted {object properties g g' id} h := by
    simp only [Activator.activate] at h
    split at h
    · cases h
    · injection h with hid hg
      rw [← hg]
      exact Tracked.active_granted (Prod.ext hid rfl)
  active_deactivate id g := Tracked.active_deactivate id g.inner

end SubscriptionRegistry
