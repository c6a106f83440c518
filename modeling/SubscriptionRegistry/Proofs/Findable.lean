/-
# A subscription that was accepted stays findable

Once a client is told that a subscription is registered, a look-up gives the very object that was
handed in.  That stays so as long as nobody takes the subscription out or withdraws the factory of
its type, whatever else is asked for and whichever calls fail.

The store keeps its rows under their own ids and nobody else changes them.  So whatever is cached
is stored, and no reconciliation finds it stale.

* `Operation.Spares`: the operations that are not aimed at a subscription.
* `Registry.perform_present`: they leave its entry alone.
* `Registry.Run.findable`: what that means for runs.
-/
import SubscriptionRegistry.Proofs.Trace
import SubscriptionRegistry.Proofs.WriteThrough

namespace SubscriptionRegistry

variable {π α φ σ : Type}

/-- An operation on other ids, or on types as a whole, except that the factory of the type is not
withdrawn. -/
def Operation.Spares [Factory φ σ] (i : Identifier) : Operation φ σ → Prop
  | .insert _ _ _ random => Urn.ofRandom random ≠ i.id
  | .update _ _ target => target.id ≠ i.id
  | .delete target => target.id ≠ i.id
  | .unbind (some f) => Factory.kind f ≠ i.kind
  | _ => True

namespace Registry

variable {r r' : Registry π α φ σ} {i : Identifier} {e : Entry σ} {h : Handle σ}

/-! ## 1. One entry -/

/-- Only what is cached under the id matters. -/
theorem Present.of_get? (hp : r.Present i e h) (hget : r'.cache.get? i.id = some e) :
    r'.Present i e h :=
  ⟨hp.id_ne, hp.kind_ne, hget, hp.kind, hp.handle⟩

/-- There is a subscription of one type under an id, and none of any other type. -/
theorem Present.get_of_ne (hp : r.Present i e h) {kind : String} (hkind : kind ≠ "")
    (hne : kind ≠ i.kind) : r.get ⟨i.id, kind⟩ = .ok none := by
  have hvalid : (⟨i.id, kind⟩ : Identifier).validate = .ok () :=
    Identifier.validate_eq_ok_iff.mpr ⟨hp.id_ne, hkind⟩
  unfold get
  rw [hvalid]
  dsimp only
  rw [hp.cached]
  simp [Entry.isKind, hp.kind, Ne.symm hne]

section

variable [Activator α σ]

/-! ## 2. Rounds -/

/-- A round of activations passes over what is live. -/
theorem get?_activateDormant_of_handle [Factory φ σ] (test : Entry σ → Bool) {key : String}
    (he : e.handle = some h) (hget : r.cache.get? key = some e) :
    (r.activateDormant test).2.cache.get? key = some e := by
  have hspared : ∀ e', r.cache.get? key = some e' → e'.handle ≠ none ∨ test e' = false := by
    intro e' he'
    rw [hget] at he'
    cases he'
    exact .inl (by rw [he]; exact Option.some_ne_none h)
  exact (get?_activateDormant_of_spared hspared).trans hget

/-- Forgetting other keys leaves an entry alone. -/
theorem get?_forget_of_notMem {ids : List String} {key : String} (hkey : key ∉ ids)
    (r : Registry π α φ σ) :
    (ids.foldl (fun r id => r.forget id) r).cache.get? key = r.cache.get? key :=
  List.foldlRecOn (motive := fun r' : Registry π α φ σ => r'.cache.get? key = r.cache.get? key)
    _ _ rfl fun r' h id hid => by
      have hne : key ≠ id := fun heq => hkey (heq.symm ▸ hid)
      rw [get?_forget_of_ne hne, h]

/-- A row that stands under its own id does not push an entry out. -/
theorem get?_adoptRow [Factory φ σ] {row : String × Metadata} (hrow : row.2.id = row.1)
    {key : String} (hget : r.cache.get? key = some e) :
    (r.adoptRow row).cache.get? key = some e := by
  unfold adoptRow
  split
  · exact hget
  · rename_i hcached
    have hne : key ≠ row.2.id := by
      rintro rfl
      rw [hrow] at hget
      exact hcached (by rw [Table.contains, hget]; rfl)
    rcases adopt_cases row.2 r with ⟨-, hout⟩ | ⟨f, -, hout⟩
    · rw [hout]
      exact (Table.get?_insert.trans (if_neg hne)).trans hget
    · rw [hout]
      exact (Table.get?_insert.trans (if_neg hne)).trans hget

variable [BackingStore π]

/-! ## 3. Single subscriptions -/

theorem get?_storeRegistered_of_ne {m : Metadata} {key : String} (hne : key ≠ m.id) (object : σ)
    (r : Registry π α φ σ) :
    (r.storeRegistered m object).2.cache.get? key = r.cache.get? key := by
  rcases storeRegistered_cases m object r with
    ⟨s, -, hout⟩ | ⟨a, s, why, s', -, -, hout⟩ | ⟨a, s, s', -, -, hout⟩
  · rw [hout]
  · rw [hout]
  · rw [hout]
    exact Table.get?_insert.trans (if_neg hne)

theorem get?_insert_of_ne {random : Nat} {key : String} (hne : Urn.ofRandom random ≠ key)
    (object : σ) (request : Request) (kind : String) (r : Registry π α φ σ) :
    (r.insert object request kind random).2.cache.get? key = r.cache.get? key := by
  rcases insert_cases object request kind random r with ⟨why, -, hout⟩ | ⟨m, rfl, -, hout⟩
  · rw [hout]
  · rw [hout]
    exact get?_storeRegistered_of_ne hne.symm object r

theorem get?_update_of_ne {target : Identifier} {key : String} (hne : target.id ≠ key)
    (object : σ) (request : Request) (r : Registry π α φ σ) :
    (r.update object request target).2.cache.get? key = r.cache.get? key := by
  rcases update_cases object request target r with
    ⟨why, -, hout⟩ | ⟨e, hd, -, ⟨why, s, -, hout⟩ | ⟨m, s, rfl, -, -, -, hout⟩⟩
  · rw [hout]
  · rw [hout]
  · rw [hout, get?_storeRegistered_of_ne hne.symm]
    exact Table.get?_erase.trans (if_neg hne.symm)

theorem get?_delete_of_ne {target : Identifier} {key : String} (hne : target.id ≠ key)
    (r : Registry π α φ σ) : (r.delete target).2.cache.get? key = r.cache.get? key := by
  rcases delete_cases target r with ⟨why, -, hout⟩ | ⟨e, hd, hp, hout⟩
  · rw [hout]
  · rw [hout]
    rcases takeOut_cases hp with ⟨why, s, -, htake⟩ | ⟨s, -, htake⟩
    · rw [htake]
    · rw [htake]
      exact Table.get?_erase.trans (if_neg hne.symm)

/-! ## 4. Operations -/

variable [Factory φ σ]

theorem present_init (hp : r.Present i e h) : r.init.2.Present i e h := by
  rcases init_cases r with ⟨why, s, -, hout⟩ | ⟨listing, s, -, hout⟩
  · rw [hout]
    exact hp.of_get? hp.cached
  · rw [hout]
    refine hp.of_get? (get?_activateDormant_of_handle _ hp.handle ?_)
    rw [Cache.get?_foldl_addMissing, hp.cached]
    rfl

omit [BackingStore π] in
theorem present_bind (factory : Option φ) (hp : r.Present i e h) :
    (r.bind factory).2.Present i e h := by
  rcases bind_cases factory r with ⟨-, hout⟩ | ⟨f, -, -, hout⟩ | ⟨f, -, -, hout⟩
  · rw [hout]
    exact hp
  · rw [hout]
    exact hp
  · rw [hout]
    exact hp.of_get? (get?_activateDormant_of_handle _ hp.handle hp.cached)

omit [BackingStore π] in
theorem present_unbind {factory : Option φ}
    (hspares : (Operation.unbind factory : Operation φ σ).Spares i) (hp : r.Present i e h) :
    (r.unbind factory).2.Present i e h := by
  rcases unbind_cases factory r with ⟨-, hout⟩ | ⟨f, -, -, hout⟩ | ⟨f, bound, rfl, -, hout⟩
  · rw [hout]
    exact hp
  · rw [hout]
    exact hp
  · have hkind : ¬ e.isKind (Factory.kind f) = true := by
      rw [Entry.isKind, decide_eq_true_eq, hp.kind]
      exact Ne.symm hspares
    rw [hout]
    refine hp.of_get? ?_
    dsimp only
    rw [cache_release, Table.get?_map, hp.cached, Option.map_some, if_neg hkind]

variable [FaithfulStore π]

/-- What is cached is stored, so it is not stale. -/
theorem present_reconcile {lags : Prop} (hkeyed : r.services.StoredKeyed) (hf : r.Follows lags)
    (hp : r.Present i e h) : r.reconcile.2.Present i e h := by
  rcases reconcile_cases r with ⟨why, s, -, hout⟩ | ⟨listing, s, hl, added, hout⟩
  · rw [hout]
    exact hp.of_get? hp.cached
  · have hlisted : listing.get? = r.services.stored := Services.get?_list hl
    have hstored : r.services.stored i.id = some e.metadata := by
      refine hf.stored_of_cached ?_
      rw [cached, Cache.get?_metadata, hp.cached]
      rfl
    have hfresh : i.id ∉ r.stale listing := by
      intro hmem
      have hnot := (List.mem_filter.mp hmem).2
      rw [Table.contains, hlisted, hstored] at hnot
      cases hnot
    rw [hout]
    refine hp.of_get? ?_
    refine List.foldlRecOn (motive := fun r : Registry π α φ σ => r.cache.get? i.id = some e)
      _ _ ?_ fun r' hr' row hrow => ?_
    · rw [get?_forget_of_notMem hfresh]
      exact hp.cached
    · refine get?_adoptRow (hkeyed row.1 row.2 ?_) hr'
      rw [← hlisted]
      exact Table.get?_eq_some_iff.mpr hrow

/-- **Nobody else's operation touches a live subscription.** -/
theorem perform_present {lags : Prop} (hkeyed : r.services.StoredKeyed) (hf : r.Follows lags)
    {op : Operation φ σ} (hspares : op.Spares i) (hp : r.Present i e h) :
    (r.perform op).2.Present i e h := by
  cases op with
  | init => exact present_init hp
  | insert object request kind random =>
    exact hp.of_get? ((get?_insert_of_ne hspares object request kind r).trans hp.cached)
  | update object request target =>
    exact hp.of_get? ((get?_update_of_ne hspares object request r).trans hp.cached)
  | delete target => exact hp.of_get? ((get?_delete_of_ne hspares r).trans hp.cached)
  | bind factory => exact present_bind factory hp
  | unbind factory => exact present_unbind hspares hp
  | reconcile => exact present_reconcile hkeyed hf hp
  | flush => exact hp.of_get? (by rw [perform, flush_snd]; exact hp.cached)

/-! ## 5. Runs -/

omit [FaithfulStore π] in
/-- What was accepted is live. -/
theorem present_of_accepted {moment : Moment π α φ σ} {m : Metadata} {object : σ}
    (hm : moment.accepted = some (m, object)) :
    ∃ a, moment.after.Present m.identifier ⟨m, some ⟨object, a⟩⟩ ⟨object, a⟩ := by
  obtain ⟨hvalid, r, hstore, hafter⟩ := Moment.accepted_eq_some hm
  obtain ⟨a, s, s', -, hout⟩ := storeRegistered_eq_ok hstore
  refine ⟨a, hvalid.2.2.2.1, hvalid.1, ?_, rfl, rfl⟩
  rw [hafter, hout]
  exact Table.get?_insert.trans (if_pos rfl)

/-- **What was accepted stays findable**, until somebody takes it out or withdraws the factory of
its type. -/
theorem Run.findable {s : Services π α φ σ} (hkeyed : s.StoredKeyed) (hrun : Alone (new s) r)
    {op : Operation φ σ} {m : Metadata} {object : σ}
    (haccepted : (Moment.mk r op).accepted = some (m, object))
    (hlater : Run (fun s s' => s'.stored = s.stored) (fun op _ => op.Spares m.identifier)
      (r.perform op).2 r') :
    r'.get ⟨m.id, m.kind⟩ = .ok (some object) ∧ r'.contains ⟨m.id, m.kind⟩ = .ok true
      ∧ ∀ kind, kind ≠ "" → kind ≠ m.kind → r'.get ⟨m.id, kind⟩ = .ok none := by
  have hnew : (new s : Registry π α φ σ).Follows True := fun id => Or.inr ⟨trivial, rfl⟩
  obtain ⟨a, hp⟩ := present_of_accepted haccepted
  have hpresent : r'.Present m.identifier ⟨m, some ⟨object, a⟩⟩ ⟨object, a⟩
      ∧ Alone (new s) r' := by
    clear haccepted
    induction hlater with
    | refl => exact ⟨hp, .step hrun trivial⟩
    | change _ hs ih => exact ⟨ih.1.of_get? ih.1.cached, .change ih.2 hs⟩
    | step _ hspares ih =>
      obtain ⟨hrows, hfollows⟩ := Alone.keeps hkeyed hnew ih.2
      exact ⟨perform_present hrows hfollows hspares ih.1, .step ih.2 trivial⟩
  have hget : r'.get ⟨m.id, m.kind⟩ = .ok (some object) :=
    get_eq_ok_some_iff.mpr ⟨_, _, hpresent.1, rfl⟩
  refine ⟨hget, ?_, fun kind hkind hne => hpresent.1.get_of_ne hkind hne⟩
  rw [contains, hget]
  rfl

end

end Registry

namespace Demo

/-- The live subscription was replaced, and from now on the store takes no writes. -/
def settled : Registry (StoreGate MemoryStore) (Gated (ActiveSet String)) EchoFactory String :=
  let r := (live.perform (.update "g" ⟨"f", "bus:/in"⟩ ⟨"s", "A"⟩)).2
  { r with services := { r.services with store := { r.services.store with
    failsInsert := fun _ => true, failsDelete := fun _ => true } } }

end Demo

/-- A subscription that cannot be stored and a reconciliation leave the other one alone. -/
theorem Registry.Run.findable_demo :
    ((Demo.settled.perform (.insert "h" ⟨"f", "bus:/in"⟩ "A" 7)).2.perform .reconcile).2.get
      ⟨"s", "A"⟩ = .ok (some "g") := by
  have hkeyed : Demo.services.StoredKeyed := fun _ _ hm => (Demo.stored_only rfl hm).1
  have hrun : Alone (new Demo.services) Demo.live := .step (.step .refl trivial) trivial
  have haccepted : (Moment.mk Demo.live (.update "g" ⟨"f", "bus:/in"⟩ ⟨"s", "A"⟩)).accepted
      = some (Demo.stored, "g") := rfl
  have hspares : (Operation.insert "h" ⟨"f", "bus:/in"⟩ "A" 7 : Operation EchoFactory String).Spares
      Demo.stored.identifier :=
    show Urn.ofRandom 7 ≠ "s" by decide
  have hreconcile : (Operation.reconcile : Operation EchoFactory String).Spares
      Demo.stored.identifier := trivial
  exact (Run.findable hkeyed hrun haccepted
    (.step (.step (.change .refl rfl) hspares) hreconcile)).1

end SubscriptionRegistry
