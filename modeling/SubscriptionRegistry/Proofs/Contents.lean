/-
# What is cached

The metadata in a cache, by key, and what every operation makes of it.  Rounds of activations
and releases do not touch it; loading and reconciling follow the listing of the store, and only
there does it matter whether a row stands under the id of its metadata.

* `Cache.metadata`: the cached metadata.
* `Registry.get?_metadata_load`, `Registry.get?_metadata_forget`,
  `Registry.get?_metadata_adopt`: what loading, forgetting and adopting do to a look-up.
* `Registry.storeRegistered_all`, `Registry.takeOut_all`, `Registry.init_all`: what holds of all
  metadata that comes in holds of all that is cached.
-/
import SubscriptionRegistry.Proofs.Outcomes

namespace SubscriptionRegistry

variable {π α φ σ : Type}

/-! ## 1. The metadata in a cache -/

/-- The metadata that is cached, by key. -/
def Cache.metadata (c : Cache σ) : Table String Metadata := c.map (·.metadata)

namespace Cache

@[simp] theorem get?_metadata (c : Cache σ) (id : String) :
    c.metadata.get? id = (c.get? id).map (·.metadata) :=
  Table.get?_map

theorem contains_metadata (c : Cache σ) (id : String) :
    c.metadata.contains id = c.contains id := by
  rw [Table.contains, get?_metadata, Option.isSome_map, Table.contains]

@[simp] theorem metadata_insert (c : Cache σ) (id : String) (e : Entry σ) :
    Cache.metadata (c.insert id e) = c.metadata.insert id e.metadata :=
  Table.map_insert

@[simp] theorem metadata_erase (c : Cache σ) (id : String) :
    Cache.metadata (c.erase id) = c.metadata.erase id :=
  Table.map_erase

/-- Loading a row leaves alone what is cached under its key. -/
theorem get?_addMissing (c : Cache σ) (row : String × Metadata) (id : String) :
    (c.addMissing row).get? id
      = (c.get? id).or (if row.1 = id then some (.dormant row.2) else none) := by
  unfold addMissing
  rw [Table.contains]
  cases hrow : c.get? row.1 with
  | none =>
    simp only [Option.isSome_none, Bool.false_eq_true, if_false, Table.get?_insert]
    by_cases hid : row.1 = id
    · simp [← hid, hrow]
    · simp [hid, Ne.symm hid]
  | some e =>
    by_cases hid : row.1 = id
    · simp [← hid, hrow]
    · simp [hid]

/-- Loading rows leaves alone what is cached, and adds the others dormant. -/
theorem get?_foldl_addMissing (rows : List (String × Metadata)) (c : Cache σ) (id : String) :
    (rows.foldl addMissing c).get? id
      = (c.get? id).or ((Table.findRow id rows).map .dormant) := by
  induction rows generalizing c with
  | nil => simp [Table.findRow]
  | cons row rest ih =>
    rw [List.foldl_cons, ih, get?_addMissing, Option.or_assoc]
    by_cases hid : row.1 = id <;> simp [Table.findRow, hid]

end Cache

namespace Registry

/-! ## 2. Rounds -/

section

variable [Activator α σ]

@[simp] theorem metadata_activateDormant [Factory φ σ] (test : Entry σ → Bool)
    (r : Registry π α φ σ) :
    Cache.metadata (r.activateDormant test).2.cache = r.cache.metadata :=
  Table.map_visit (metadata_activateEntry test) r.cache _

/-- A round passes by what is not there, and by what its visits pass by. -/
theorem get?_activateDormant_of_spared [Factory φ σ] {test : Entry σ → Bool}
    {r : Registry π α φ σ} {id : String}
    (h : ∀ e, r.cache.get? id = some e → e.handle ≠ none ∨ test e = false) :
    (r.activateDormant test).2.cache.get? id = r.cache.get? id := by
  cases he : r.cache.get? id with
  | none =>
    have hmetadata : (r.activateDormant test).2.cache.metadata.get? id = none := by
      rw [metadata_activateDormant, Cache.get?_metadata, he]
      rfl
    rwa [Cache.get?_metadata, Option.map_eq_none_iff] at hmetadata
  | some e =>
    exact Table.get?_visit_of_fixed (fun round => by rw [activateEntry_of_spared (h e he)]) he _

@[simp] theorem metadata_release (test : Entry σ → Bool) (c : Cache σ)
    (s : Services π α φ σ) : Cache.metadata (c.visit (releaseEntry test) s).2.1 = c.metadata :=
  Table.map_visit (metadata_releaseEntry test) c s

@[simp] theorem metadata_bind [Factory φ σ] (factory : Option φ) (r : Registry π α φ σ) :
    (r.bind factory).2.cache.metadata = r.cache.metadata := by
  rcases bind_cases factory r with ⟨-, h⟩ | ⟨f, -, -, h⟩ | ⟨f, -, -, h⟩
  · rw [h]
  · rw [h]
  · rw [h, metadata_activateDormant]

@[simp] theorem metadata_unbind [Factory φ σ] (factory : Option φ) (r : Registry π α φ σ) :
    (r.unbind factory).2.cache.metadata = r.cache.metadata := by
  rcases unbind_cases factory r with ⟨-, h⟩ | ⟨f, -, -, h⟩ | ⟨f, bound, -, -, h⟩
  · rw [h]
  · rw [h]
  · rw [h, metadata_release]

theorem get?_metadata_load (listing : Table String Metadata) (c : Cache σ) (id : String) :
    (Cache.metadata (listing.rows.foldl Cache.addMissing c)).get? id
      = (c.metadata.get? id).or (listing.get? id) := by
  rw [Cache.get?_metadata, Cache.get?_foldl_addMissing, Cache.get?_metadata]
  cases c.get? id <;> simp [Entry.dormant, Table.get?, Function.comp_def]

theorem metadata_forget (id : String) (r : Registry π α φ σ) :
    (r.forget id).cache.metadata = r.cache.metadata.erase id := by
  unfold forget
  split
  · rename_i h
    rw [Table.erase_of_get?_eq_none (by rw [Cache.get?_metadata, h]; rfl)]
  · exact Cache.metadata_erase _ _

theorem get?_metadata_forget (ids : List String) (r : Registry π α φ σ) (id : String) :
    (ids.foldl (fun r id => r.forget id) r).cache.metadata.get? id
      = if id ∈ ids then none else r.cache.metadata.get? id := by
  induction ids generalizing r with
  | nil => simp
  | cons key rest ih =>
    rw [List.foldl_cons, ih, metadata_forget, Table.get?_erase]
    by_cases hk : id = key <;> simp [hk]

/-- Adopting a row caches its metadata under the metadata's own id. -/
theorem metadata_adopt [Factory φ σ] (m : Metadata) (r : Registry π α φ σ) :
    (r.adopt m).cache.metadata = r.cache.metadata.insert m.id m := by
  rcases adopt_cases m r with ⟨-, hout⟩ | ⟨f, -, hout⟩
  · rw [hout]
    exact Cache.metadata_insert _ _ _
  · rw [hout]
    dsimp only
    rw [Cache.metadata_insert, Entry.metadata_registerWith, Entry.dormant]

theorem contains_adopt [Factory φ σ] (m : Metadata) (r : Registry π α φ σ) (id : String) :
    (r.adopt m).cache.contains id = (decide (id = m.id) || r.cache.contains id) := by
  rw [← Cache.contains_metadata, metadata_adopt, Table.contains, Table.get?_insert]
  by_cases hid : id = m.id
  · simp [hid]
  · rw [if_neg hid, ← Table.contains, Cache.contains_metadata]
    simp [hid]

/-- With a listing whose rows stand under their own ids, adopting is loading. -/
theorem get?_metadata_adopt [Factory φ σ] {rows : List (String × Metadata)}
    (hkeyed : ∀ row ∈ rows, row.2.id = row.1) (r : Registry π α φ σ) (id : String) :
    (rows.foldl (fun r row => r.adoptRow row) r).cache.metadata.get? id
      = (r.cache.metadata.get? id).or (Table.findRow id rows) := by
  induction rows generalizing r with
  | nil => simp [Table.findRow]
  | cons row rest ih =>
    rw [List.foldl_cons, ih fun row h => hkeyed row (List.mem_cons_of_mem _ h)]
    have hrow : row.2.id = row.1 := hkeyed row List.mem_cons_self
    have hhead : (r.adoptRow row).cache.metadata.get? id
        = (r.cache.metadata.get? id).or (if row.1 = id then some row.2 else none) := by
      unfold adoptRow
      rw [Table.contains]
      split
      · rename_i hc
        by_cases hid : row.1 = id
        · subst hid
          obtain ⟨e, he⟩ := Option.isSome_iff_exists.mp hc
          simp [he]
        · simp [hid]
      · rename_i hc
        rw [metadata_adopt, hrow, Table.get?_insert]
        by_cases hid : row.1 = id
        · subst hid
          simp [Option.not_isSome_iff_eq_none.mp hc]
        · simp [hid, Ne.symm hid]
    rw [hhead, Option.or_assoc]
    by_cases hid : row.1 = id <;> simp [Table.findRow, hid]

/-! ## 3. Operations -/

variable [BackingStore π]

/-- Storing a subscription caches its metadata or changes nothing. -/
theorem metadata_storeRegistered (m : Metadata) (object : σ) (r : Registry π α φ σ) :
    (r.storeRegistered m object).2.cache = r.cache
      ∨ (r.storeRegistered m object).2.cache.metadata = r.cache.metadata.insert m.id m := by
  rcases storeRegistered_cases m object r with
    ⟨s, -, h⟩ | ⟨a, s, why, s', -, -, h⟩ | ⟨a, s, s', -, -, h⟩
  · exact Or.inl (by rw [h])
  · exact Or.inl (by rw [h])
  · exact Or.inr (by rw [h]; exact Cache.metadata_insert _ _ _)

variable {Q : String → Metadata → Prop}

theorem storeRegistered_all {m : Metadata} (object : σ) {r : Registry π α φ σ} (hm : Q m.id m)
    (hr : r.cache.metadata.All Q) : (r.storeRegistered m object).2.cache.metadata.All Q := by
  rcases metadata_storeRegistered m object r with h | h
  · rw [h]
    exact hr
  · rw [h]
    exact hr.insert hm

theorem takeOut_all {r : Registry π α φ σ} {i : Identifier} {e : Entry σ} {h : Handle σ}
    (hp : r.Present i e h) (hr : r.cache.metadata.All Q) :
    (r.takeOut i.id).2.cache.metadata.All Q := by
  rcases takeOut_cases hp with ⟨why, s, -, hout⟩ | ⟨s, -, hout⟩
  · rw [hout]
    exact hr
  · rw [hout]
    exact (Cache.metadata_erase r.cache i.id).symm ▸ hr.erase

variable [Factory φ σ]

theorem init_all {r : Registry π α φ σ}
    (hlist : ∀ listing s, r.services.list = (.ok listing, s) → listing.All Q)
    (hr : r.cache.metadata.All Q) : r.init.2.cache.metadata.All Q := by
  rcases init_cases r with ⟨why, s, -, h⟩ | ⟨listing, s, hl, h⟩
  · rw [h]
    exact hr
  · rw [h, metadata_activateDormant]
    intro id m hm
    rw [get?_metadata_load] at hm
    rcases Option.or_eq_some_iff.mp hm with hm | ⟨-, hm⟩
    · exact hr id m hm
    · exact hlist listing s hl id m hm

end

end Registry
end SubscriptionRegistry
