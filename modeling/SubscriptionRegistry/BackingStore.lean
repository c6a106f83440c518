/-
# Backing stores

Where metadata is kept for good, keyed by subscription id.  A repeated insert and a delete of
what is not there are no faults.
-/
import SubscriptionRegistry.Metadata
import SubscriptionRegistry.Table

namespace SubscriptionRegistry

/-- A store of metadata, with its state `π`.  A failing call may still change the state. -/
class BackingStore (π : Type) where
  /-- Stores metadata under its id, in place of what is there. -/
  insert : Metadata → π → Except StoreError Unit × π
  /-- Removes what is stored under an id, if anything is. -/
  delete : String → π → Except StoreError Unit × π
  /-- All that is stored. -/
  list : π → Except StoreError (Table String Metadata) × π

end SubscriptionRegistry
