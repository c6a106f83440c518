/-
# Live activations are owned exactly once

In every registry that a run reaches, the registrations of the activator are, up to order, what
the cached entries hold in their handles.  Nothing is registered that no entry holds, no
registration is held twice, and when the registry is closed nothing is left.

Dropping an entry does not release its activation, so this rests on every way out of every
operation: an entry that leaves the cache is released first, one that is refused by the store is
released again, and a subscription is never registered under an id that is held already.  That
is where the listing matters: a row under another key than its own id could push a live entry
out of the cache.

* `Registry.Owned`: the invariant.
* `Registry.perform_owned`: every operation keeps it.
-/
import SubscriptionRegistry.Proofs.Run
import SubscriptionRegistry.Proofs.Ownership.Handles

namespace SubscriptionRegistry
namespace Registry

variable {π α φ σ : Type} [Activator α σ] [Tracked α σ]

/-! ## 1. The invariant -/

/-- All metadata is valid and cached under its own id, and all that is registered is held by
cached entries. -/
structure Owned (r : Registry π α φ σ) : Prop where
  kept : r.cache.metadata.All fun id m => m.id = id ∧ m.Valid
  owns : Owns (heldIn r.cache.rows) r.services

theorem keyed_of_kept {c : Cache σ} (h : c.metadata.All fun id m => m.id = id ∧ m.Valid) :
    ∀ row ∈ c.rows, row.2.id = row.1 := by
  intro row hrow
  refine (h row.1 row.2.metadata ?_).1
  rw [Cache.get?_metadata, Table.get?_eq_some_iff.mpr hrow]
  rfl

/-- The keys of a cache are the ids of its entries. -/
theorem Owned.keyed {r : Registry π α φ σ} (h : r.Owned) :
    ∀ row ∈ r.cache.rows, row.2.id = row.1 :=
  keyed_of_kept h.kept

/-- What is not cached holds nothing. -/
theorem Owned.notMem_holders {r : Registry π α φ σ} (h : r.Owned) {id : String}
    (hid : r.cache.get? id = none) : id ∉ holders (heldIn r.cache.rows) := fun hmem =>
  Table.get?_eq_none_iff.mp hid (mem_keys_of_mem_holders h.keyed hmem)

/-! ## 2. Rounds -/

theorem releaseEntry_careful (test : Entry σ → Bool) :
    Careful (releaseEntry test) fun s : Services π α φ σ => s := by
  intro e s held _ h
  have hu := Owns.unregister h
  unfold releaseEntry
  split
  · split <;> simp_all
  · exact h

theorem activateEntry_careful [Factory φ σ] (test : Entry σ → Bool) :
    Careful (activateEntry test) fun round : Round π α φ σ => round.services := by
  intro e round held hid h
  unfold activateEntry
  split
  · rename_i htest
    split
    · exact h
    · rename_i f _
      have he : e.handle = none := by
        simp only [Bool.and_eq_true] at htest
        simpa [Entry.isDormant] using htest.1
      exact h.registerWith he hid f
  · exact h

/-- A round over the whole cache. -/
theorem owns_visit {ε τ : Type} {f : Entry σ → τ → Except ε Unit × Entry σ × τ}
    {services : τ → Services π α φ σ} (hf : Careful f services)
    (hm : ∀ e t, (f e t).2.1.metadata = e.metadata) {c : Cache σ}
    (hkeyed : ∀ row ∈ c.rows, row.2.id = row.1) (t : τ) (h : Owns (heldIn c.rows) (services t)) :
    Owns (heldIn (c.visit f t).2.1.rows) (services (c.visit f t).2.2) := by
  have hall := hf.visitRows hm hkeyed c.nodup [] (by simp [holders]) (by simpa using h)
  rw [List.append_nil] at hall
  exact hall

theorem owns_activateDormant [Factory φ σ] (test : Entry σ → Bool) {r : Registry π α φ σ}
    (hkeyed : ∀ row ∈ r.cache.rows, row.2.id = row.1)
    (h : Owns (heldIn r.cache.rows) r.services) :
    Owns (heldIn (r.activateDormant test).2.cache.rows) (r.activateDormant test).2.services :=
  owns_visit (activateEntry_careful test) (metadata_activateEntry test) hkeyed
    ⟨[], r.factories, r.services⟩ h

theorem owns_release (test : Entry σ → Bool) {r : Registry π α φ σ} (h : r.Owned) :
    Owns (heldIn (r.cache.visit (releaseEntry test) r.services).2.1.rows)
      (r.cache.visit (releaseEntry test) r.services).2.2 :=
  owns_visit (releaseEntry_careful test) (metadata_releaseEntry test) h.keyed r.services h.owns

/-- Loading adds dormant entries only. -/
theorem heldIn_load (rows : List (String × Metadata)) (c : Cache σ) :
    heldIn (rows.foldl Cache.addMissing c).rows = heldIn c.rows := by
  induction rows generalizing c with
  | nil => rfl
  | cons row rest ih =>
    rw [List.foldl_cons, ih, Cache.addMissing, Table.contains]
    split
    · rfl
    · rename_i hc
      rw [heldIn_insert (Option.not_isSome_iff_eq_none.mp hc), Entry.held_of_handle_none rfl,
        List.append_nil]

/-! ## 3. Entries that leave -/

/-- An entry that is forgotten is released first. -/
theorem Owned.forget {r : Registry π α φ σ} (h : r.Owned) (id : String) :
    (r.forget id).Owned := by
  refine ⟨?_, ?_⟩
  · rw [metadata_forget]
    exact h.kept.erase
  · unfold Registry.forget
    split
    · exact h.owns
    · rename_i e he
      have hu := (h.owns.perm (heldIn_perm_erase he)).unregister
      cases hh : e.handle with
      | none => simpa [Entry.unregister, hh] using hu
      | some hd => simpa [Entry.unregister_of_handle hh, Entry.dormant] using hu

/-- A live entry that is taken out is deleted from the store and then released, or kept. -/
theorem Owned.takeOut [BackingStore π] {r : Registry π α φ σ} (h : r.Owned) {i : Identifier}
    {e : Entry σ} {hd : Handle σ} (hp : r.Present i e hd) : (r.takeOut i.id).2.Owned := by
  refine ⟨takeOut_all hp h.kept, ?_⟩
  rcases takeOut_cases hp with ⟨why, s, hdel, hout⟩ | ⟨s, hdel, hout⟩
  · have hs := h.owns.stored.2.1 i.id
    rw [hdel] at hs
    rw [hout]
    exact hs
  · have hs := (h.owns.perm (heldIn_perm_erase hp.cached)).stored.2.1 i.id
    rw [hdel, Entry.held_of_handle_some hp.handle] at hs
    rw [hout]
    exact hs.deactivate

/-! ## 4. Entries that come -/

/-- A row that stands under its own id never takes the place of an entry. -/
theorem Owned.adoptRow [Factory φ σ] {r : Registry π α φ σ} (h : r.Owned)
    {row : String × Metadata} (hrow : row.2.id = row.1 ∧ row.2.Valid) :
    (r.adoptRow row).Owned := by
  unfold Registry.adoptRow
  rw [Table.contains]
  split
  · exact h
  · rename_i hc
    have hnone : r.cache.get? row.1 = none := Option.not_isSome_iff_eq_none.mp hc
    refine ⟨?_, ?_⟩
    · rw [metadata_adopt]
      exact h.kept.insert ⟨rfl, hrow.2⟩
    rcases adopt_cases row.2 r with ⟨-, hout⟩ | ⟨f, -, hout⟩
    · rw [hout]
      dsimp only
      rw [hrow.1, heldIn_insert hnone, Entry.held_of_handle_none rfl, List.append_nil]
      exact h.owns
    · have hid : (Entry.dormant row.2 : Entry σ).id ∉ holders (heldIn r.cache.rows) := by
        rw [Entry.id, Entry.dormant, hrow.1]
        exact h.notMem_holders hnone
      have hreg := Owns.registerWith (e := Entry.dormant row.2) rfl hid
        (by rw [Entry.held_of_handle_none rfl]; exact h.owns) f
      rw [hout]
      dsimp only
      rw [hrow.1, heldIn_insert hnone]
      exact hreg.perm List.perm_append_comm

/-- A new subscription is active before it is stored, and is released again if it cannot be. -/
theorem Owned.storeRegistered [BackingStore π] {r : Registry π α φ σ} (h : r.Owned)
    {m : Metadata} (hvalid : m.Valid) (hnone : r.cache.get? m.id = none) (object : σ) :
    (r.storeRegistered m object).2.Owned := by
  refine ⟨storeRegistered_all object ⟨rfl, hvalid⟩ h.kept, ?_⟩
  have hfree : (⟨m.id, m.callback⟩ : Properties).id ∉ holders (heldIn r.cache.rows) :=
    h.notMem_holders hnone
  rcases storeRegistered_cases m object r with
    ⟨s, hact, hout⟩ | ⟨a, s, why, s', hact, hins, hout⟩ | ⟨a, s, s', hact, hins, hout⟩
  · rw [hout]
    exact h.owns.refused hact
  · have hs := (h.owns.granted hact hfree).stored.1 m
    rw [hins] at hs
    rw [hout]
    exact hs.deactivate
  · have hs := (h.owns.granted hact hfree).stored.1 m
    rw [hins] at hs
    rw [hout]
    dsimp only
    rw [heldIn_insert hnone, Entry.held_of_handle_some rfl]
    exact hs.perm (List.perm_append_singleton _ _).symm

/-! ## 5. Operations -/

theorem Owned.bind [Factory φ σ] {r : Registry π α φ σ} (h : r.Owned) (factory : Option φ) :
    (r.bind factory).2.Owned := by
  refine ⟨by rw [metadata_bind]; exact h.kept, ?_⟩
  rcases bind_cases factory r with ⟨-, hout⟩ | ⟨f, -, -, hout⟩ | ⟨f, -, -, hout⟩
  · rw [hout]
    exact h.owns
  · rw [hout]
    exact h.owns
  · rw [hout]
    exact owns_activateDormant _ h.keyed h.owns

theorem Owned.unbind [Factory φ σ] {r : Registry π α φ σ} (h : r.Owned)
    (factory : Option φ) : (r.unbind factory).2.Owned := by
  refine ⟨by rw [metadata_unbind]; exact h.kept, ?_⟩
  rcases unbind_cases factory r with ⟨-, hout⟩ | ⟨f, -, -, hout⟩ | ⟨f, bound, -, -, hout⟩
  · rw [hout]
    exact h.owns
  · rw [hout]
    exact h.owns
  · rw [hout]
    exact owns_release _ h

section

variable [BackingStore π]

theorem Owned.update {r : Registry π α φ σ} (h : r.Owned) (object : σ) (request : Request)
    (i : Identifier) : (r.update object request i).2.Owned := by
  rcases update_cases object request i r with
    ⟨why, -, hout⟩ | ⟨e, hd, hp, ⟨why, s, hdel, hout⟩ | ⟨m, s, hm, hvalid, -, htake, hout⟩⟩
  · rw [hout]
    exact h
  · have hs := h.owns.stored.2.1 i.id
    rw [hdel] at hs
    rw [hout]
    exact ⟨h.kept, hs⟩
  · -- The old subscription is out, and that left nothing behind under its id.
    have htaken := h.takeOut hp
    rw [htake] at htaken
    rw [hout]
    refine htaken.storeRegistered hvalid ?_ object
    rw [hm]
    exact Table.get?_erase.trans (if_pos rfl)

theorem Owned.insert {r : Registry π α φ σ} (h : r.Owned) (object : σ) (request : Request)
    (kind : String) {random : Nat} (hfresh : r.cache.get? (Urn.ofRandom random) = none) :
    (r.insert object request kind random).2.Owned := by
  rcases insert_cases object request kind random r with ⟨why, -, hout⟩ | ⟨m, hm, hvalid, hout⟩
  · rw [hout]
    exact h
  · rw [hout]
    exact h.storeRegistered hvalid (by rw [hm]; exact hfresh) object

theorem Owned.delete {r : Registry π α φ σ} (h : r.Owned) (i : Identifier) :
    (r.delete i).2.Owned := by
  rcases delete_cases i r with ⟨why, -, hout⟩ | ⟨e, hd, hp, hout⟩
  · rw [hout]
    exact h
  · rw [hout]
    exact h.takeOut hp

theorem Owned.flush {r : Registry π α φ σ} (h : r.Owned) : r.flush.2.Owned := by
  rw [flush_snd]
  exact ⟨h.kept, Writer.write_stable (fun m _ _ hs => hs.stored.1 m) h.owns⟩

variable [Factory φ σ]

theorem Owned.init {r : Registry π α φ σ} (h : r.Owned) (hlist : r.services.Keyed) :
    r.init.2.Owned := by
  have hkept : r.init.2.cache.metadata.All fun id m => m.id = id ∧ m.Valid :=
    init_all hlist h.kept
  have hs := h.owns.stored.2.2
  refine ⟨hkept, ?_⟩
  rcases init_cases r with ⟨why, s, hl, hout⟩ | ⟨listing, s, hl, hout⟩
  · rw [hl] at hs
    rw [hout]
    exact hs
  · rw [hl] at hs
    rw [hout, metadata_activateDormant] at hkept
    rw [hout]
    refine owns_activateDormant _ (keyed_of_kept hkept) ?_
    rw [heldIn_load]
    exact hs

theorem Owned.reconcile {r : Registry π α φ σ} (h : r.Owned) (hlist : r.services.Keyed) :
    r.reconcile.2.Owned := by
  have hs := h.owns.stored.2.2
  rcases reconcile_cases r with ⟨why, s, hl, hout⟩ | ⟨listing, s, hl, added, hout⟩
  · rw [hl] at hs
    rw [hout]
    exact ⟨h.kept, hs⟩
  · rw [hl] at hs
    rw [hout]
    have hforgot : Owned ((r.stale listing).foldl (fun r id => r.forget id)
        { r with services := s }) :=
      List.foldlRecOn (motive := Owned) _ _ ⟨h.kept, hs⟩ fun _ h id _ => h.forget id
    refine List.foldlRecOn (motive := Owned) _ _ hforgot fun _ h row hrow => ?_
    exact h.adoptRow (hlist listing s hl row.1 row.2 (Table.get?_eq_some_iff.mpr hrow))

/-- **Every operation keeps account of every activation.** -/
theorem perform_owned (op : Operation φ σ) {r : Registry π α φ σ} (hlist : r.services.Keyed)
    (hfresh : op.Fresh r) (h : r.Owned) : (r.perform op).2.Owned := by
  cases op with
  | init => exact h.init hlist
  | insert object request kind random => exact h.insert object request kind hfresh
  | update object request target => exact h.update object request target
  | delete target => exact h.delete target
  | bind factory => exact h.bind factory
  | unbind factory => exact h.unbind factory
  | reconcile => exact h.reconcile hlist
  | flush => exact h.flush

end

end Registry
end SubscriptionRegistry
