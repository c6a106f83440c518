/-
# Factories

A factory builds the live subscriptions of one type from stored metadata.  At most one factory
is bound for each type.

* `Factory`: what the registry needs of one.
* `EchoFactory`: a very simple one.
* `Factories`: the bound ones, by type.
-/
import SubscriptionRegistry.Metadata
import SubscriptionRegistry.Table

namespace SubscriptionRegistry

/-- A builder of live subscriptions of type `σ`, with its state `φ`. -/
class Factory (φ : Type) (σ : outParam Type) where
  /-- The type of the subscriptions that it builds. -/
  kind : φ → String
  /-- Builds a live subscription, or nothing. -/
  build : Metadata → φ → Option σ × φ
  /-- Building does not change the type. -/
  kind_build : ∀ (m : Metadata) (f : φ), kind (build m f).2 = kind f

/-- A factory whose subscriptions are the filters themselves. -/
structure EchoFactory where
  kind : String
deriving DecidableEq, Repr

instance : Factory EchoFactory String where
  kind f := f.kind
  build m f := (some m.filter, f)
  kind_build _ _ := rfl

/-- The bound factories by type. -/
structure Factories (φ : Type) where
  bound : Table String φ

namespace Factories

variable {φ σ : Type}

/-- Nothing is bound. -/
def empty : Factories φ := ⟨.empty⟩

/-- The factory bound for a type. -/
def get? (fs : Factories φ) (kind : String) : Option φ := fs.bound.get? kind

/-- Whether a factory is bound for a type. -/
def contains (fs : Factories φ) (kind : String) : Bool := fs.bound.contains kind

/-- The number of bound factories. -/
def size (fs : Factories φ) : Nat := fs.bound.size

/-- Whether nothing is bound. -/
def isEmpty (fs : Factories φ) : Bool := fs.bound.isEmpty

/-- The types that factories are bound for, in rising order. -/
def kinds (fs : Factories φ) : List String := fs.bound.sortedKeys

/-- The factory of a type after it was used. -/
def update (fs : Factories φ) (kind : String) (f : φ) : Factories φ := ⟨fs.bound.insert kind f⟩

/-- Binds a factory for its type, for which none may be bound. -/
def bind [Factory φ σ] (fs : Factories φ) (f : φ) : Except StoreError (Factories φ) :=
  if fs.contains (Factory.kind f) then .error (.duplicateFactory (Factory.kind f))
  else .ok (fs.update (Factory.kind f) f)

/-- Takes away the factory of a type, for which one must be bound. -/
def unbind (fs : Factories φ) (kind : String) : Except StoreError (φ × Factories φ) :=
  match fs.get? kind with
  | none => .error (.factoryNotBound kind)
  | some f => .ok (f, ⟨fs.bound.erase kind⟩)

/-- Builds a subscription with the factory of a type, if one is bound. -/
def build [Factory φ σ] (fs : Factories φ) (kind : String) (m : Metadata) :
    Option (Option σ) × Factories φ :=
  match fs.get? kind with
  | none => (none, fs)
  | some f =>
    let (built, f) := Factory.build m f
    (some built, fs.update kind f)

end Factories
end SubscriptionRegistry
