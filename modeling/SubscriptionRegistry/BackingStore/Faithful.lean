/-
# Stores that do what they say

A store is faithful if its answers tell what became of its rows: a call that succeeds has done
its work, and one that fails has done nothing.  When and why calls fail is left open.

* `FaithfulStore`: the rows of a store and what calls do to them.
* Stores in memory and in files are faithful, and so is a gate in front of a faithful store.
-/
import SubscriptionRegistry.Services
import SubscriptionRegistry.BackingStore.File
import SubscriptionRegistry.BackingStore.Gate
import SubscriptionRegistry.BackingStore.Memory

namespace SubscriptionRegistry

/-- A store whose answers tell what became of its rows. -/
class FaithfulStore (π : Type) [BackingStore π] where
  /-- What is stored under an id. -/
  stored : π → String → Option Metadata
  stored_insert : ∀ (m : Metadata) (p : π), stored (BackingStore.insert m p).2 =
    match (BackingStore.insert m p).1 with
    | .ok _ => fun id => if id = m.id then some m else stored p id
    | .error _ => stored p
  stored_delete : ∀ (key : String) (p : π), stored (BackingStore.delete key p).2 =
    match (BackingStore.delete key p).1 with
    | .ok _ => fun id => if id = key then none else stored p id
    | .error _ => stored p
  stored_list : ∀ p : π, stored (BackingStore.list p).2 = stored p
  /-- A listing is all that is stored. -/
  get?_list : ∀ {listing : Table String Metadata} {p : π},
    (BackingStore.list p).1 = .ok listing → listing.get? = stored p

instance : FaithfulStore MemoryStore where
  stored p := p.rows.get?
  stored_insert m p := funext fun _ => Table.get?_insert
  stored_delete key p := funext fun _ => Table.get?_erase
  stored_list p := rfl
  get?_list h := by
    cases h
    rfl

instance {π : Type} [BackingStore π] [FaithfulStore π] : FaithfulStore (StoreGate π) where
  stored g := FaithfulStore.stored g.inner
  stored_insert m g := by
    simp only [BackingStore.insert]
    split
    · rfl
    · exact FaithfulStore.stored_insert m g.inner
  stored_delete key g := by
    simp only [BackingStore.delete]
    split
    · rfl
    · exact FaithfulStore.stored_delete key g.inner
  stored_list g := by
    simp only [BackingStore.list]
    split
    · rfl
    · exact FaithfulStore.stored_list g.inner
  get?_list {listing g} h := by
    simp only [BackingStore.list] at h
    split at h
    · cases h
    · exact FaithfulStore.get?_list h

/-! A store in a file undoes in memory what cannot be written. -/

namespace FileStore

/-- A change that is written stays, and one that is not is undone. -/
theorem get?_commit {id : String} {s : FileStore} {before : Table String Metadata}
    (h : ∀ key, key ≠ id → s.entries.get? key = before.get? key) (dev : Device) :
    (s.commit id (before.get? id) dev).2.1.entries.get? =
      match (s.commit id (before.get? id) dev).1 with
      | .ok _ => s.entries.get?
      | .error _ => before.get? := by
  unfold commit
  rcases writeSnapshot s.path s.entries dev with ⟨_ | _, dev'⟩
  · exact get?_restore h
  · rfl

theorem get?_insert (m : Metadata) (s : FileStore) (dev : Device) :
    (s.insert m dev).2.1.entries.get? =
      match (s.insert m dev).1 with
      | .ok _ => (s.entries.insert m.id m).get?
      | .error _ => s.entries.get? := by
  unfold insert
  split
  · rename_i hsame
    rw [Table.insert_of_get?_eq_some hsame]
  · exact get?_commit (fun key hkey => Table.get?_insert.trans (if_neg hkey)) dev

theorem get?_delete (key : String) (s : FileStore) (dev : Device) :
    (s.delete key dev).2.1.entries.get? =
      match (s.delete key dev).1 with
      | .ok _ => (s.entries.erase key).get?
      | .error _ => s.entries.get? := by
  unfold delete
  split
  · rename_i hnone
    rw [Table.erase_of_get?_eq_none hnone]
  · rename_i previous hprevious
    rw [← hprevious]
    exact get?_commit (fun other hother => Table.get?_erase.trans (if_neg hother)) dev

end FileStore

instance : FaithfulStore Mounted where
  stored b := b.store.entries.get?
  stored_insert m b := by
    have hentries := FileStore.get?_insert m b.store b.device
    simp only [BackingStore.insert]
    generalize b.store.insert m b.device = out at hentries ⊢
    rcases out with ⟨_ | _, s, dev⟩
    · exact hentries
    · exact hentries.trans (funext fun _ => Table.get?_insert)
  stored_delete key b := by
    have hentries := FileStore.get?_delete key b.store b.device
    simp only [BackingStore.delete]
    generalize b.store.delete key b.device = out at hentries ⊢
    rcases out with ⟨_ | _, s, dev⟩
    · exact hentries
    · exact hentries.trans (funext fun _ => Table.get?_erase)
  stored_list _ := rfl
  get?_list h := by
    cases h
    rfl

/-! ## Calls through the services -/

namespace Services

variable {π α φ σ : Type} [BackingStore π] [FaithfulStore π]

/-- What is stored under an id. -/
def stored (s : Services π α φ σ) : String → Option Metadata := FaithfulStore.stored s.store

theorem stored_insert (m : Metadata) (s : Services π α φ σ) : (s.insert m).2.stored =
    match (s.insert m).1 with
    | .ok _ => fun id => if id = m.id then some m else s.stored id
    | .error _ => s.stored :=
  FaithfulStore.stored_insert m s.store

theorem stored_delete (key : String) (s : Services π α φ σ) : (s.delete key).2.stored =
    match (s.delete key).1 with
    | .ok _ => fun id => if id = key then none else s.stored id
    | .error _ => s.stored :=
  FaithfulStore.stored_delete key s.store

theorem stored_insert_ok {m : Metadata} {s s' : Services π α φ σ}
    (h : s.insert m = (.ok (), s')) :
    s'.stored = fun id => if id = m.id then some m else s.stored id := by
  have hrows := stored_insert m s
  rw [h] at hrows
  exact hrows

theorem stored_insert_error {m : Metadata} {s s' : Services π α φ σ} {e : StoreError}
    (h : s.insert m = (.error e, s')) : s'.stored = s.stored := by
  have hrows := stored_insert m s
  rw [h] at hrows
  exact hrows

theorem stored_delete_ok {key : String} {s s' : Services π α φ σ}
    (h : s.delete key = (.ok (), s')) :
    s'.stored = fun id => if id = key then none else s.stored id := by
  have hrows := stored_delete key s
  rw [h] at hrows
  exact hrows

theorem stored_delete_error {key : String} {s s' : Services π α φ σ} {e : StoreError}
    (h : s.delete key = (.error e, s')) : s'.stored = s.stored := by
  have hrows := stored_delete key s
  rw [h] at hrows
  exact hrows

/-- Listing never changes what is stored. -/
theorem stored_list (s : Services π α φ σ) : s.list.2.stored = s.stored :=
  FaithfulStore.stored_list s.store

theorem get?_list {listing : Table String Metadata} {s s' : Services π α φ σ}
    (h : s.list = (.ok listing, s')) : listing.get? = s.stored :=
  FaithfulStore.get?_list (congrArg Prod.fst h)

/-! What activators and factories do leaves the store alone. -/

@[simp] theorem stored_build [Factory φ σ] (f : φ) (m : Metadata) (s : Services π α φ σ) :
    (s.build f m).2.2.stored = s.stored := rfl

section

variable [Activator α σ]

@[simp] theorem stored_activate (object : σ) (properties : Properties) (s : Services π α φ σ) :
    (s.activate object properties).2.stored = s.stored := rfl

theorem stored_of_activate {object : σ} {properties : Properties}
    {granted : Option ActivationId} {s s' : Services π α φ σ}
    (h : s.activate object properties = (granted, s')) : s'.stored = s.stored := by
  cases h
  rfl

@[simp] theorem stored_deactivate (a : ActivationId) (s : Services π α φ σ) :
    (s.deactivate a).stored = s.stored := rfl

end

end Services
end SubscriptionRegistry
