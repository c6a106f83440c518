/-
# Who holds which activation

A cached entry that is registered holds its activation in a handle.  All activations of the
activator are accounted for if its registrations are, up to order, what the handles say: each
under its entry's id and callback address, with the very object in the handle.

`Owns held services` says that `held` is all there is.  The lists below are always those of
some entries, so an operation is followed by moving an entry's share in and out of the list.

* `Owns.granted`, `Owns.deactivate`: the two calls that matter.
* `Owns.register`, `Owns.registerWith`, `Owns.unregister`: the same for an entry.
* `Careful.visitRows`: a round that treats each entry well accounts for all of them.
-/
import SubscriptionRegistry.Proofs.Contents
import SubscriptionRegistry.Proofs.Ownership.Books

namespace SubscriptionRegistry

variable {π α φ σ : Type}

/-! ## 1. Handles -/

/-- The activation that an entry holds and what it is registered as, if it is. -/
def Entry.held (e : Entry σ) : List (ActivationId × Registration σ) :=
  match e.handle with
  | none => []
  | some h => [(h.activation, ⟨h.object, e.properties⟩)]

/-- What the entries of some rows hold. -/
def heldIn (rows : List (String × Entry σ)) : List (ActivationId × Registration σ) :=
  rows.flatMap fun row => row.2.held

/-- The subscriptions that hold activations. -/
def holders (held : List (ActivationId × Registration σ)) : List String :=
  held.map fun g => g.2.properties.id

@[simp] theorem Entry.held_of_handle_none {e : Entry σ} (he : e.handle = none) : e.held = [] := by
  simp [held, he]

theorem Entry.held_of_handle_some {e : Entry σ} {h : Handle σ} (he : e.handle = some h) :
    e.held = [(h.activation, ⟨h.object, e.properties⟩)] := by
  simp [held, he]

theorem Entry.id_of_mem_held {e : Entry σ} {g : ActivationId × Registration σ}
    (hg : g ∈ e.held) : g.2.properties.id = e.id := by
  cases he : e.handle with
  | none => simp [held, he] at hg
  | some h =>
    rw [held_of_handle_some he, List.mem_singleton] at hg
    subst hg
    rfl

@[simp] theorem heldIn_cons (row : String × Entry σ) (rows : List (String × Entry σ)) :
    heldIn (row :: rows) = row.2.held ++ heldIn rows :=
  List.flatMap_cons

@[simp] theorem heldIn_append (rows rows' : List (String × Entry σ)) :
    heldIn (rows ++ rows') = heldIn rows ++ heldIn rows' :=
  List.flatMap_append

/-- Under keys that are ids, only keys hold anything. -/
theorem mem_keys_of_mem_holders {rows : List (String × Entry σ)}
    (hkeyed : ∀ row ∈ rows, row.2.id = row.1) {id : String} (h : id ∈ holders (heldIn rows)) :
    id ∈ rows.map Prod.fst := by
  obtain ⟨g, hg, rfl⟩ := List.mem_map.mp h
  obtain ⟨row, hrow, hg⟩ := List.mem_flatMap.mp hg
  rw [Entry.id_of_mem_held hg, hkeyed row hrow]
  exact List.mem_map_of_mem hrow

/-- Taking a row out takes out what its entry holds. -/
theorem heldIn_perm_erase {c : Cache σ} {id : String} {e : Entry σ} (h : c.get? id = some e) :
    (heldIn c.rows).Perm (e.held ++ heldIn (c.erase id).rows) :=
  ((Table.rows_perm_erase h).flatMap_right _).trans (by simp [heldIn])

/-- A new row brings what its entry holds. -/
theorem heldIn_insert {c : Cache σ} {id : String} {e : Entry σ} (h : c.get? id = none) :
    heldIn (c.insert id e).rows = heldIn c.rows ++ e.held := by
  rw [Table.rows_insert_of_get?_eq_none h, heldIn_append]
  simp [heldIn]

/-! ## 2. Calls -/

section

variable [Activator α σ] [Tracked α σ]

/-- The journal is in balance, and all that is registered is held. -/
structure Accounted (held : List (ActivationId × Registration σ)) (s : Services π α φ σ) :
    Prop where
  books : Balanced s.journal s.active
  holds : s.active.live.rows.Perm held

/-- As long as names last, all that is registered is held. -/
def Owns (held : List (ActivationId × Registration σ)) (s : Services π α φ σ) : Prop :=
  s.active.issued < UInt64.size → Accounted held s

namespace Owns

variable {held held' : List (ActivationId × Registration σ)} {s s' : Services π α φ σ}

theorem perm (h : Owns held s) (hp : held.Perm held') : Owns held' s := fun hn =>
  ⟨(h hn).books, (h hn).holds.trans hp⟩

/-- A call that neither grants nor releases anything. -/
theorem neutral (h : Owns held s) (call : Call φ σ) (hc : Journal.isNeutral call)
    (hj : s'.journal = s.journal ++ [call]) (ha : s'.active = s.active) : Owns held s' := by
  intro hn
  rw [ha] at hn
  obtain ⟨books, holds⟩ := h hn
  refine ⟨?_, by rw [ha]; exact holds⟩
  rw [hj, ha]
  exact books.neutral hc

/-- A call to the store. -/
theorem stored [BackingStore π] (h : Owns held s) :
    (∀ m, Owns held (s.insert m).2) ∧ (∀ id, Owns held (s.delete id).2) ∧ Owns held s.list.2 :=
  ⟨fun m => h.neutral (.insert m (failureOf (BackingStore.insert m s.store).1)) rfl rfl rfl,
    fun id => h.neutral (.delete id (failureOf (BackingStore.delete id s.store).1)) rfl rfl rfl,
    h.neutral (.list (failureOf (BackingStore.list s.store).1)) rfl rfl rfl⟩

theorem refused (h : Owns held s) {object : σ} {properties : Properties}
    (hact : s.activate object properties = (none, s')) : Owns held s' := by
  exact h.neutral (.activate object properties none) rfl (Services.journal_of_activate hact)
    (Services.active_of_refused hact)

/-- A grant to a subscription that holds nothing yet. -/
theorem granted (h : Owns held s) {object : σ} {properties : Properties} {a : ActivationId}
    (hact : s.activate object properties = (some a, s')) (hid : properties.id ∉ holders held) :
    Owns ((a, ⟨object, properties⟩) :: held) s' := by
  obtain ⟨ha, hset⟩ := Services.active_of_granted hact
  have hj := Services.journal_of_activate hact
  intro hn
  have hn' : s.active.issued + 1 < UInt64.size := by
    rw [hset] at hn
    exact hn
  obtain ⟨books, holds⟩ := h (by omega)
  have hfree : ∀ g ∈ s.active.live.values, g.properties.id ≠ properties.id := by
    intro g hg heq
    obtain ⟨row, hrow, rfl⟩ := List.mem_map.mp hg
    exact hid (heq ▸ List.mem_map_of_mem (holds.mem_iff.mp hrow))
  refine ⟨?_, ?_⟩
  · rw [hj, hset, ha]
    exact books.activate hn' object hfree
  · have hrows : s'.active.live.rows
        = s.active.live.rows ++ [(a, ⟨object, properties⟩)] := by
      rw [hset, ha]
      exact Table.rows_insert_of_get?_eq_none (books.get?_nextId hn')
    rw [hrows]
    exact (List.perm_append_singleton _ _).trans (holds.cons _)

/-- A release of something that is held. -/
theorem deactivate {a : ActivationId} {g : Registration σ} (h : Owns ((a, g) :: held) s) :
    Owns held (s.deactivate a) := by
  have hset := Services.active_deactivate a s
  intro hn
  rw [hset] at hn
  obtain ⟨books, holds⟩ := h hn
  have hget : s.active.live.get? a = some g :=
    Table.get?_eq_some_iff.mpr (holds.mem_iff.mpr List.mem_cons_self)
  refine ⟨?_, ?_⟩
  · rw [hset]
    exact books.deactivate hget
  · rw [hset]
    exact ((Table.rows_perm_erase hget).symm.trans holds).cons_inv

/-! ## 3. Entries -/

theorem register {e : Entry σ} (he : e.handle = none) (hid : e.id ∉ holders held)
    (h : Owns (e.held ++ held) s) (object : σ) :
    Owns ((e.register object s).2.1.held ++ held) (e.register object s).2.2 := by
  rw [Entry.held_of_handle_none he, List.nil_append] at h
  rcases Entry.register_cases he object s with ⟨s', hact, hreg⟩ | ⟨a, s', hact, hreg⟩
  · rw [hreg, Entry.held_of_handle_none he]
    exact h.refused hact
  · rw [hreg]
    exact h.granted hact hid

theorem build [Factory φ σ] (h : Owns held s) (f : φ) (m : Metadata) :
    Owns held (s.build f m).2.2 :=
  h.neutral (.build f m (Factory.build m f).1) rfl rfl rfl

theorem registerWith [Factory φ σ] {e : Entry σ} (he : e.handle = none)
    (hid : e.id ∉ holders held) (h : Owns (e.held ++ held) s) (f : φ) :
    Owns ((e.registerWith f s).2.1.held ++ held) (e.registerWith f s).2.2.2 := by
  have hb := Owns.build h f e.metadata
  unfold Entry.registerWith
  dsimp only
  split
  · exact h
  · split
    · rename_i hbuilt
      rw [hbuilt] at hb
      exact hb
    · rename_i hbuilt
      rw [hbuilt] at hb
      exact Owns.register he hid hb _

theorem unregister {e : Entry σ} (h : Owns (e.held ++ held) s) :
    Owns ((e.unregister s).2.1.held ++ held) (e.unregister s).2.2 := by
  cases he : e.handle with
  | none =>
    have hun : e.unregister s = (.error (.registration (.notRegistered e.id)), e, s) := by
      simp [Entry.unregister, he]
    rw [hun]
    exact h
  | some hd =>
    rw [Entry.unregister_of_handle he]
    rw [Entry.held_of_handle_some he] at h
    exact Owns.deactivate h

end Owns

/-! ## 4. Rounds -/

/-- A step of a round that accounts for the entry it visits, whatever the others hold. -/
def Careful {ε τ : Type} (f : Entry σ → τ → Except ε Unit × Entry σ × τ)
    (services : τ → Services π α φ σ) : Prop :=
  ∀ (e : Entry σ) (t : τ) (held : List (ActivationId × Registration σ)), e.id ∉ holders held →
    Owns (e.held ++ held) (services t) →
      Owns ((f e t).2.1.held ++ held) (services (f e t).2.2)

/-- The step is used on row after row.  What the rows behind hold, and what was held by the
rows gone through, takes the place of the others. -/
theorem Careful.visitRows {ε τ : Type} {f : Entry σ → τ → Except ε Unit × Entry σ × τ}
    {services : τ → Services π α φ σ} (hf : Careful f services)
    (hm : ∀ e t, (f e t).2.1.metadata = e.metadata) {rows : List (String × Entry σ)}
    (hkeyed : ∀ row ∈ rows, row.2.id = row.1) (hnd : (rows.map Prod.fst).Nodup)
    (held : List (ActivationId × Registration σ))
    (hfree : ∀ key ∈ rows.map Prod.fst, key ∉ holders held) {t : τ}
    (h : Owns (heldIn rows ++ held) (services t)) :
    Owns (heldIn (Table.visitRows f rows t).2.1 ++ held)
      (services (Table.visitRows f rows t).2.2) := by
  induction rows generalizing held t with
  | nil => exact h
  | cons row rest ih =>
    obtain ⟨key, e⟩ := row
    obtain ⟨hkey, hrest⟩ := List.nodup_cons.mp hnd
    have hid : e.id = key := hkeyed (key, e) List.mem_cons_self
    have hkeyed' : ∀ row ∈ rest, row.2.id = row.1 := fun row hrow =>
      hkeyed row (List.mem_cons_of_mem _ hrow)
    have hothers : e.id ∉ holders (heldIn rest ++ held) := by
      rw [hid, holders, List.map_append, List.mem_append]
      rintro (hmem | hmem)
      · exact hkey (mem_keys_of_mem_holders hkeyed' hmem)
      · exact hfree key List.mem_cons_self hmem
    rw [heldIn_cons, List.append_assoc] at h
    have hstep := hf e t _ hothers h
    have hmeta := hm e t
    unfold Table.visitRows
    split
    · rename_i hfe
      rw [hfe] at hstep
      rw [heldIn_cons, List.append_assoc]
      exact hstep
    · rename_i e' t' hfe
      rw [hfe] at hstep hmeta
      have hid' : e'.id = key := by
        rw [← hid, Entry.id, Entry.id]
        exact congrArg Metadata.id hmeta
      have hfree' : ∀ k ∈ rest.map Prod.fst, k ∉ holders (e'.held ++ held) := by
        intro k hk hmem
        rw [holders, List.map_append, List.mem_append] at hmem
        rcases hmem with hmem | hmem
        · obtain ⟨g, hg, rfl⟩ := List.mem_map.mp hmem
          rw [Entry.id_of_mem_held hg, hid'] at hk
          exact hkey hk
        · exact hfree k (List.mem_cons_of_mem _ hk) hmem
      have hnext := ih hkeyed' hrest _ hfree' (hstep.perm (List.perm_append_comm_assoc _ _ _))
      rw [heldIn_cons, List.append_assoc]
      exact hnext.perm (List.perm_append_comm_assoc _ _ _)

end
end SubscriptionRegistry
