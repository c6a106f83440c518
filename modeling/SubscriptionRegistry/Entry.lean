/-
# Entries

One subscription as a registry holds it: its metadata and, while it is registered, the live
subscription with the activation it was granted.  An entry starts dormant.

* `Entry.register`, `Entry.registerWith`: from dormant to registered, with a subscription that
  the caller holds or that a factory builds.
* `Entry.unregister`: back again; the activation is released.

An error leaves an entry as it is.  What the two ways of registering can come to is listed in
`Entry.register_cases` and `Entry.registerWith_cases`.
-/
import SubscriptionRegistry.Services
import SubscriptionRegistry.Text.Quoted

namespace SubscriptionRegistry

/-- A live subscription and its activation. -/
structure Handle (σ : Type) where
  object : σ
  activation : ActivationId
deriving DecidableEq, Repr

/-- Metadata, and the live subscription if there is one. -/
structure Entry (σ : Type) where
  metadata : Metadata
  handle : Option (Handle σ)
deriving DecidableEq, Repr

namespace Entry

variable {π α φ σ : Type}

/-- A dormant entry. -/
def dormant (m : Metadata) : Entry σ := ⟨m, none⟩

def id (e : Entry σ) : String := e.metadata.id

/-- The live subscription. -/
def object? (e : Entry σ) : Option σ := e.handle.map (·.object)

def isRegistered (e : Entry σ) : Bool := e.handle.isSome

def isDormant (e : Entry σ) : Bool := e.handle.isNone

/-- Whether the entry is of a type. -/
def isKind (e : Entry σ) (kind : String) : Bool := e.metadata.kind = kind

/-- What the subscription is activated under. -/
def properties (e : Entry σ) : Properties := ⟨e.id, e.metadata.callback⟩

/-! ## 1. Registering and releasing -/

section

variable [Activator α σ]

/-- Activates a live subscription. -/
def register (object : σ) (e : Entry σ) (s : Services π α φ σ) :
    Except StoreError Unit × Entry σ × Services π α φ σ :=
  if e.isRegistered then (.error (.registration (.alreadyRegistered e.id)), e, s)
  else
    match s.activate object e.properties with
    | (none, s) => (.error (.registration (.refused e.id)), e, s)
    | (some activation, s) => (.ok (), { e with handle := some ⟨object, activation⟩ }, s)

/-- Builds a live subscription with a factory of the entry's type and activates it. -/
def registerWith [Factory φ σ] (f : φ) (e : Entry σ) (s : Services π α φ σ) :
    Except StoreError Unit × Entry σ × φ × Services π α φ σ :=
  let kind := Factory.kind f
  if !e.isKind kind then
    (.error (.registration (.wrongKind kind e.id e.metadata.kind)), e, f, s)
  else
    match s.build f e.metadata with
    | (none, f, s) => (.error (.registration (.builtNothing kind e.id)), e, f, s)
    | (some object, f, s) =>
      match e.register object s with
      | (outcome, e, s) => (outcome, e, f, s)

/-- Releases the live subscription and hands it back. -/
def unregister (e : Entry σ) (s : Services π α φ σ) :
    Except StoreError σ × Entry σ × Services π α φ σ :=
  match e.handle with
  | none => (.error (.registration (.notRegistered e.id)), e, s)
  | some h => (.ok h.object, { e with handle := none }, s.deactivate h.activation)

/-- A dormant entry is registered if the activator grants it, and left alone if not. -/
theorem register_cases {e : Entry σ} (he : e.handle = none) (object : σ) (s : Services π α φ σ) :
    (∃ s', s.activate object e.properties = (none, s')
      ∧ e.register object s = (.error (.registration (.refused e.id)), e, s'))
    ∨ ∃ a s', s.activate object e.properties = (some a, s')
      ∧ e.register object s = (.ok (), ⟨e.metadata, some ⟨object, a⟩⟩, s') := by
  have hreg : e.isRegistered = false := by simp [isRegistered, he]
  unfold register
  rw [hreg]
  rcases hact : s.activate object e.properties with ⟨_ | a, s'⟩
  · exact Or.inl ⟨s', rfl, by simp⟩
  · exact Or.inr ⟨a, s', rfl, by simp⟩

@[simp] theorem metadata_register (e : Entry σ) (object : σ) (s : Services π α φ σ) :
    (e.register object s).2.1.metadata = e.metadata := by
  unfold register
  split
  · rfl
  · split <;> rfl

/-- With a factory there are three ways to fail, two of them before the activator is asked. -/
theorem registerWith_cases [Factory φ σ] {e : Entry σ} (he : e.handle = none) (f : φ)
    (s : Services π α φ σ) :
    (Factory.kind f ≠ e.metadata.kind ∧ e.registerWith f s
        = (.error (.registration (.wrongKind (Factory.kind f) e.id e.metadata.kind)), e, f, s))
    ∨ (∃ f' s', s.build f e.metadata = (none, f', s') ∧ e.registerWith f s
        = (.error (.registration (.builtNothing (Factory.kind f) e.id)), e, f', s'))
    ∨ (∃ object f' s' s'', s.build f e.metadata = (some object, f', s')
      ∧ s'.activate object e.properties = (none, s'')
      ∧ e.registerWith f s = (.error (.registration (.refused e.id)), e, f', s''))
    ∨ ∃ object a f' s' s'', s.build f e.metadata = (some object, f', s')
      ∧ s'.activate object e.properties = (some a, s'')
      ∧ e.registerWith f s = (.ok (), ⟨e.metadata, some ⟨object, a⟩⟩, f', s'') := by
  unfold registerWith
  dsimp only
  by_cases hk : e.metadata.kind = Factory.kind f
  · have hkind : (!e.isKind (Factory.kind f)) = false := by simp [isKind, hk]
    rw [hkind]
    rcases hb : s.build f e.metadata with ⟨_ | object, f', s'⟩
    · exact Or.inr (Or.inl ⟨f', s', rfl, rfl⟩)
    · rcases register_cases he object s' with ⟨s'', ha, hr⟩ | ⟨a, s'', ha, hr⟩
      · exact Or.inr (Or.inr (Or.inl ⟨object, f', s', s'', rfl, ha, by simp [hr]⟩))
      · exact Or.inr (Or.inr (Or.inr ⟨object, a, f', s', s'', rfl, ha, by simp [hr]⟩))
  · have hkind : (!e.isKind (Factory.kind f)) = true := by simp [isKind, hk]
    rw [hkind]
    exact Or.inl ⟨fun h => hk h.symm, rfl⟩

@[simp] theorem metadata_registerWith [Factory φ σ] (e : Entry σ) (f : φ)
    (s : Services π α φ σ) : (e.registerWith f s).2.1.metadata = e.metadata := by
  unfold registerWith
  dsimp only
  split
  · rfl
  · split
    · rfl
    · rename_i object f' s' _
      exact metadata_register e object s'

/-- A registered entry gives its subscription back and its activation up. -/
theorem unregister_of_handle {e : Entry σ} {h : Handle σ} (he : e.handle = some h)
    (s : Services π α φ σ) :
    e.unregister s = (.ok h.object, dormant e.metadata, s.deactivate h.activation) := by
  unfold unregister
  rw [he]
  rfl

@[simp] theorem metadata_unregister (e : Entry σ) (s : Services π α φ σ) :
    (e.unregister s).2.1.metadata = e.metadata := by
  unfold unregister
  split <;> rfl

end

/-! ## 2. In words -/

/-- The entry on one line, for logs. -/
def describe (object : σ → String) (e : Entry σ) : String :=
  let field := fun (name value : String) => name ++ ": " ++ Text.quote value
  let braced := fun (name inner : String) => name ++ " \x7b " ++ inner ++ " \x7d"
  let metadata := braced "SubscriptionMetadata" (", ".intercalate
    [field "id" e.metadata.id, field "type_name" e.metadata.kind,
      field "serialized_filter" e.metadata.filter,
      field "callback_address" e.metadata.callback])
  let handle := match e.handle with
    | none => "None"
    | some h =>
      "Some(" ++ braced "LiveHandle" ("subscription: " ++ object h.object
        ++ ", activation: ActivationId(" ++ toString h.activation.number.toNat ++ ")") ++ ")"
  braced "CachedSubscription" ("metadata: " ++ metadata ++ ", handle: " ++ handle)

end Entry
end SubscriptionRegistry
