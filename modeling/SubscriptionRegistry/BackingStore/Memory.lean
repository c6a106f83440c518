/-
# A backing store in memory

It never fails, and counts the calls that change it.
-/
import SubscriptionRegistry.BackingStore

namespace SubscriptionRegistry

/-- Metadata in memory. -/
structure MemoryStore where
  rows : Table String Metadata
  /-- Calls of `insert` so far. -/
  inserts : Nat
  /-- Calls of `delete` so far. -/
  deletes : Nat

namespace MemoryStore

/-- A store that holds the given metadata already, without any call. -/
def ofList (ms : List Metadata) : MemoryStore :=
  ⟨.ofList (ms.map fun m => (m.id, m)), 0, 0⟩

/-- Nothing stored. -/
def empty : MemoryStore := ofList []

def insert (m : Metadata) (s : MemoryStore) : MemoryStore :=
  { s with rows := s.rows.insert m.id m, inserts := s.inserts + 1 }

def delete (id : String) (s : MemoryStore) : MemoryStore :=
  { s with rows := s.rows.erase id, deletes := s.deletes + 1 }

instance : BackingStore MemoryStore where
  insert m s := (.ok (), s.insert m)
  delete id s := (.ok (), s.delete id)
  list s := (.ok s.rows, s)

end MemoryStore
end SubscriptionRegistry
