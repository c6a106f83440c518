/-
# The services that a registry uses

A registry works on a backing store, an activator and the factories that clients bind.  Every
call to one of them goes through this module, which writes it into a journal: what was asked,
and what came of it.
-/
import SubscriptionRegistry.Activation
import SubscriptionRegistry.BackingStore
import SubscriptionRegistry.Factory

namespace SubscriptionRegistry

/-! ## 1. Calls -/

/-- A call to a service. -/
inductive Call (φ σ : Type)
  /-- Metadata was to be stored; `failure` is what the store failed with. -/
  | insert (metadata : Metadata) (failure : Option StoreError)
  | delete (id : String) (failure : Option StoreError)
  | list (failure : Option StoreError)
  /-- A factory, in the state before, was to build a subscription. -/
  | build (factory : φ) (metadata : Metadata) (built : Option σ)
  /-- A subscription was to be activated; nothing is granted if the activator refuses. -/
  | activate (object : σ) (properties : Properties) (granted : Option ActivationId)
  | deactivate (activation : ActivationId)

/-- What a call failed with. -/
def failureOf {β : Type} : Except StoreError β → Option StoreError
  | .error e => some e
  | .ok _ => none

/-- A backing store, an activator, and the calls made so far, the latest last. -/
structure Services (π α φ σ : Type) where
  store : π
  activator : α
  journal : List (Call φ σ)

namespace Services

variable {π α φ σ : Type}

/-- Writes a call down. -/
def note (call : Call φ σ) (s : Services π α φ σ) : Services π α φ σ :=
  { s with journal := s.journal ++ [call] }

/-! ## 2. The backing store -/

section Store

variable [BackingStore π]

/-- Stores metadata. -/
def insert (m : Metadata) (s : Services π α φ σ) : Except StoreError Unit × Services π α φ σ :=
  let (outcome, store) := BackingStore.insert m s.store
  (outcome, { s with store }.note (.insert m (failureOf outcome)))

/-- Removes stored metadata. -/
def delete (id : String) (s : Services π α φ σ) :
    Except StoreError Unit × Services π α φ σ :=
  let (outcome, store) := BackingStore.delete id s.store
  (outcome, { s with store }.note (.delete id (failureOf outcome)))

/-- All stored metadata. -/
def list (s : Services π α φ σ) :
    Except StoreError (Table String Metadata) × Services π α φ σ :=
  let (outcome, store) := BackingStore.list s.store
  (outcome, { s with store }.note (.list (failureOf outcome)))

variable {s s' : Services π α φ σ} {outcome : Except StoreError Unit}

theorem journal_of_insert {m : Metadata} (h : s.insert m = (outcome, s')) :
    s'.journal = s.journal ++ [.insert m (failureOf outcome)] := by
  cases h
  rfl

theorem journal_of_delete {id : String} (h : s.delete id = (outcome, s')) :
    s'.journal = s.journal ++ [.delete id (failureOf outcome)] := by
  cases h
  rfl

theorem journal_of_list {outcome : Except StoreError (Table String Metadata)}
    (h : s.list = (outcome, s')) : s'.journal = s.journal ++ [.list (failureOf outcome)] := by
  cases h
  rfl

end Store

/-! ## 3. The activator -/

section Activator

variable [Activator α σ]

/-- Activates a subscription, unless the activator refuses. -/
def activate (object : σ) (properties : Properties) (s : Services π α φ σ) :
    Option ActivationId × Services π α φ σ :=
  let (granted, activator) := Activator.activate object properties s.activator
  (granted, { s with activator }.note (.activate object properties granted))

/-- Ends an activation. -/
def deactivate (activation : ActivationId) (s : Services π α φ σ) : Services π α φ σ :=
  { s with activator := Activator.deactivate activation s.activator }.note
    (.deactivate activation)

theorem journal_of_activate {object : σ} {properties : Properties}
    {granted : Option ActivationId} {s s' : Services π α φ σ}
    (h : s.activate object properties = (granted, s')) :
    s'.journal = s.journal ++ [.activate object properties granted] := by
  cases h
  rfl

@[simp] theorem journal_deactivate (activation : ActivationId) (s : Services π α φ σ) :
    (s.deactivate activation).journal = s.journal ++ [.deactivate activation] := rfl

/-! An activator that keeps a set. -/

section Tracked

variable [Tracked α σ]

/-- The registrations that the activator keeps. -/
def active (s : Services π α φ σ) : ActiveSet σ := Tracked.active s.activator

theorem active_of_refused {object : σ} {properties : Properties} {s s' : Services π α φ σ}
    (h : s.activate object properties = (none, s')) : s'.active = s.active := by
  injection h with hnone hs
  rw [← hs]
  exact Tracked.active_refused (Prod.ext hnone rfl)

theorem active_of_granted {object : σ} {properties : Properties} {a : ActivationId}
    {s s' : Services π α φ σ} (h : s.activate object properties = (some a, s')) :
    a = s.active.nextId ∧ s'.active = (s.active.activate object properties).2 := by
  injection h with hsome hs
  rw [← hs]
  exact Prod.mk.inj (Tracked.active_granted (Prod.ext hsome rfl))

@[simp] theorem active_deactivate (activation : ActivationId) (s : Services π α φ σ) :
    (s.deactivate activation).active = s.active.deactivate activation :=
  Tracked.active_deactivate activation s.activator

variable [BackingStore π] {s s' : Services π α φ σ}

theorem active_of_insert {m : Metadata} {outcome : Except StoreError Unit}
    (h : s.insert m = (outcome, s')) : s'.active = s.active := by
  cases h
  rfl

theorem active_of_delete {id : String} {outcome : Except StoreError Unit}
    (h : s.delete id = (outcome, s')) : s'.active = s.active := by
  cases h
  rfl

theorem active_of_list {outcome : Except StoreError (Table String Metadata)}
    (h : s.list = (outcome, s')) : s'.active = s.active := by
  cases h
  rfl

end Tracked

end Activator

/-! ## 4. Factories -/

/-- Has a factory build a subscription. -/
def build [Factory φ σ] (f : φ) (m : Metadata) (s : Services π α φ σ) :
    Option σ × φ × Services π α φ σ :=
  let (built, after) := Factory.build m f
  (built, after, s.note (.build f m built))

section Factory

variable [Factory φ σ] {f f' : φ} {m : Metadata} {built : Option σ} {s s' : Services π α φ σ}

theorem journal_of_build (h : s.build f m = (built, f', s')) :
    s'.journal = s.journal ++ [.build f m built] := by
  cases h
  rfl

theorem factory_of_build (h : s.build f m = (built, f', s')) : f' = (Factory.build m f).2 := by
  cases h
  rfl

end Factory

end Services
end SubscriptionRegistry
