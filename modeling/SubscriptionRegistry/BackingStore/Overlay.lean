/-
# A backing store with extra rows

Rows laid over the listing of a store.  Their keys need not be the ids of their metadata, so a
listing may show what no insert could have stored.
-/
import SubscriptionRegistry.BackingStore

namespace SubscriptionRegistry

/-- A store and the rows laid over it. -/
structure Overlay (π : Type) where
  inner : π
  extra : Table String Metadata

namespace Overlay

/-- The listing with the extra rows in place of its own. -/
def merge (extra listing : Table String Metadata) : Table String Metadata :=
  extra.rows.foldl (fun t r => t.insert r.1 r.2) listing

instance {π : Type} [BackingStore π] : BackingStore (Overlay π) where
  insert m o :=
    let (outcome, inner) := BackingStore.insert m o.inner
    (outcome, { o with inner })
  delete id o :=
    let (outcome, inner) := BackingStore.delete id o.inner
    (outcome, ⟨inner, o.extra.erase id⟩)
  list o :=
    let (outcome, inner) := BackingStore.list o.inner
    (outcome.map (merge o.extra), { o with inner })

end Overlay
end SubscriptionRegistry
