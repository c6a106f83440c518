/-
# The cache

All subscriptions that a registry knows, by id.  What is put or removed reaches the backing
store first and the cache only after that, so a store that fails leaves the cache untouched.
The local operations leave the store alone; they are for what the store has decided already.
-/
import SubscriptionRegistry.Entry
import SubscriptionRegistry.Writer

namespace SubscriptionRegistry

/-- Entries by key. -/
abbrev Cache (σ : Type) := Table String (Entry σ)

namespace Cache

variable {π α φ σ : Type}

/-- The cache with a row of the backing store in it: as a dormant entry, unless there is an
entry already. -/
def addMissing (c : Cache σ) (row : String × Metadata) : Cache σ :=
  if c.contains row.1 then c else c.insert row.1 (.dormant row.2)

/-- The cache with an entry under the id of its metadata. -/
def insertLocally (e : Entry σ) (c : Cache σ) : Cache σ := c.insert e.id e

/-- The entry under an id, and the cache without it. -/
def removeLocally (id : String) (c : Cache σ) : Option (Entry σ) × Cache σ :=
  (c.get? id, c.erase id)

section

variable [BackingStore π]

/-- Loads all that is stored and not cached.  With the outcome comes how much that was. -/
def loadAll (c : Cache σ) (s : Services π α φ σ) :
    Except StoreError Nat × Cache σ × Services π α φ σ :=
  match s.list with
  | (.error e, s) => (.error (.backend "Cache update threw an exception" e), c, s)
  | (.ok listing, s) =>
    let loaded := listing.rows.foldl addMissing c
    (.ok (loaded.size - c.size), loaded, s)

/-- Stores an entry's metadata and caches the entry.  A refusal hands the entry back. -/
def put (e : Entry σ) (c : Cache σ) (s : Services π α φ σ) :
    Except (Entry σ × StoreError) Unit × Cache σ × Services π α φ σ :=
  match Writer.write e.metadata s with
  | (.error why, s) => (.error (e, why), c, s)
  | (.ok (), s) => (.ok (), c.insertLocally e, s)

/-- Deletes from the store and then from the cache.  With the outcome comes the entry. -/
def remove (id : String) (c : Cache σ) (s : Services π α φ σ) :
    Except StoreError (Option (Entry σ)) × Cache σ × Services π α φ σ :=
  match Writer.delete id s with
  | (.error e, s) => (.error e, c, s)
  | (.ok (), s) =>
    let (entry, c) := c.removeLocally id
    (.ok entry, c, s)

/-- Stores the metadata of all entries. -/
def flush (c : Cache σ) (s : Services π α φ σ) :
    Except StoreError Unit × Services π α φ σ :=
  Writer.writeAll (c.values.map (·.metadata)) s

end

end Cache
end SubscriptionRegistry
