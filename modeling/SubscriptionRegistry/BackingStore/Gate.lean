/-
# A backing store behind a gate

The gate fails the calls that it selects with an error of its own; a call that it fails does
not reach the store.
-/
import SubscriptionRegistry.BackingStore

namespace SubscriptionRegistry

/-- A store behind a gate. -/
structure StoreGate (π : Type) where
  inner : π
  /-- The ids whose insertion fails. -/
  failsInsert : String → Bool
  /-- The ids whose deletion fails. -/
  failsDelete : String → Bool
  /-- Whether listing fails. -/
  failsList : Bool
  /-- What a call fails with. -/
  error : StoreError

namespace StoreGate

/-- A gate that lets everything through. -/
def opened {π : Type} (inner : π) (error : StoreError) : StoreGate π :=
  ⟨inner, fun _ => false, fun _ => false, false, error⟩

instance {π : Type} [BackingStore π] : BackingStore (StoreGate π) where
  insert m g :=
    if g.failsInsert m.id then (.error g.error, g)
    else
      let (outcome, inner) := BackingStore.insert m g.inner
      (outcome, { g with inner })
  delete id g :=
    if g.failsDelete id then (.error g.error, g)
    else
      let (outcome, inner) := BackingStore.delete id g.inner
      (outcome, { g with inner })
  list g :=
    if g.failsList then (.error g.error, g)
    else
      let (outcome, inner) := BackingStore.list g.inner
      (outcome, { g with inner })

end StoreGate
end SubscriptionRegistry
