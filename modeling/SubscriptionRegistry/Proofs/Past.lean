/-
# The past does not matter

Everything that a registry does is written into the journal of its services, and nothing reads
it.  So two registries that differ only in what was called before go on in the same way: they
give the same answers and make the same calls.

* `Services.after`: the same services with other calls before.
* `Registry.perform_after`: what an operation does is what it does after other calls.
-/
import SubscriptionRegistry.Operation

namespace SubscriptionRegistry

variable {π α φ σ : Type}

/-! ## 1. Calls -/

namespace Services

/-- The same services, with some calls before all that are in the journal. -/
def after (past : List (Call φ σ)) (s : Services π α φ σ) : Services π α φ σ :=
  { s with journal := past ++ s.journal }

variable (past : List (Call φ σ)) (s : Services π α φ σ)

theorem note_after (call : Call φ σ) : (s.after past).note call = (s.note call).after past := by
  simp [note, after]

section

variable [BackingStore π]

theorem insert_after (m : Metadata) :
    (s.after past).insert m = ((s.insert m).1, (s.insert m).2.after past) := by
  rw [insert, insert]
  dsimp only
  rw [← note_after]
  rfl

theorem delete_after (id : String) :
    (s.after past).delete id = ((s.delete id).1, (s.delete id).2.after past) := by
  rw [delete, delete]
  dsimp only
  rw [← note_after]
  rfl

theorem list_after : (s.after past).list = (s.list.1, s.list.2.after past) := by
  rw [list, list]
  dsimp only
  rw [← note_after]
  rfl

end

section

variable [Activator α σ]

theorem activate_after (object : σ) (properties : Properties) :
    (s.after past).activate object properties
      = ((s.activate object properties).1, (s.activate object properties).2.after past) := by
  rw [activate, activate]
  dsimp only
  rw [← note_after]
  rfl

theorem deactivate_after (activation : ActivationId) :
    (s.after past).deactivate activation = (s.deactivate activation).after past := by
  rw [deactivate, deactivate, ← note_after]
  rfl

end

theorem build_after [Factory φ σ] (f : φ) (m : Metadata) :
    (s.after past).build f m
      = ((s.build f m).1, (s.build f m).2.1, (s.build f m).2.2.after past) := by
  rw [build, build]
  dsimp only
  rw [note_after]

end Services

/-! ## 2. Entries and batches -/

section

variable (past : List (Call φ σ)) (s : Services π α φ σ)

namespace Entry

variable [Activator α σ] (e : Entry σ)

theorem register_after (object : σ) : e.register object (s.after past)
    = ((e.register object s).1, (e.register object s).2.1,
      (e.register object s).2.2.after past) := by
  unfold register
  split
  · rfl
  · rw [Services.activate_after]
    rcases s.activate object e.properties with ⟨_ | a, s'⟩ <;> rfl

theorem registerWith_after [Factory φ σ] (f : φ) : e.registerWith f (s.after past)
    = ((e.registerWith f s).1, (e.registerWith f s).2.1, (e.registerWith f s).2.2.1,
      (e.registerWith f s).2.2.2.after past) := by
  unfold registerWith
  dsimp only
  split
  · rfl
  · rw [Services.build_after]
    rcases s.build f e.metadata with ⟨_ | object, f', s'⟩
    · rfl
    · dsimp only
      rw [register_after]

theorem unregister_after : e.unregister (s.after past)
    = ((e.unregister s).1, (e.unregister s).2.1, (e.unregister s).2.2.after past) := by
  unfold unregister
  split
  · rfl
  · rw [Services.deactivate_after]

end Entry

namespace Writer

variable [BackingStore π]

theorem delete_after (id : String) :
    delete id (s.after past) = ((delete id s).1, (delete id s).2.after past) := by
  unfold delete
  split
  · rfl
  · exact Services.delete_after past s id

theorem runEach_write_after (ms : List Metadata) :
    runEach Metadata.id write ms (s.after past)
      = ((runEach Metadata.id write ms s).1, (runEach Metadata.id write ms s).2.after past) := by
  induction ms generalizing s with
  | nil => rfl
  | cons m rest ih =>
    rw [runEach, runEach, write, write, Services.insert_after]
    rcases s.insert m with ⟨_ | _, s'⟩ <;> dsimp only <;> rw [ih]

end Writer

end

namespace Registry

variable (past : List (Call φ σ)) (r : Registry π α φ σ)

/-- The same registry, with some calls before all that it made. -/
def after (past : List (Call φ σ)) (r : Registry π α φ σ) : Registry π α φ σ :=
  { r with services := r.services.after past }

/-! ## 3. Single subscriptions -/

section

variable [BackingStore π] [Activator α σ]

theorem storeRegistered_after (m : Metadata) (object : σ) :
    (r.after past).storeRegistered m object
      = ((r.storeRegistered m object).1, (r.storeRegistered m object).2.after past) := by
  unfold storeRegistered
  rw [after, Entry.register_after]
  rcases (Entry.dormant m).register object r.services with ⟨_ | _, entry, s⟩
  · rfl
  · dsimp only [Cache.put, Writer.write]
    rw [Services.insert_after]
    rcases s.insert entry.metadata with ⟨_ | _, s'⟩
    · dsimp only
      rw [Entry.unregister_after]
      rcases entry.unregister s' with ⟨_ | _, entry', s''⟩ <;> rfl
    · rfl

theorem takeOut_after (id : String) :
    (r.after past).takeOut id = ((r.takeOut id).1, (r.takeOut id).2.after past) := by
  unfold takeOut take
  dsimp only [after, Cache.remove]
  rw [Writer.delete_after]
  rcases Writer.delete id r.services with ⟨_ | _, s⟩
  · rfl
  · dsimp only [Cache.removeLocally]
    rcases r.cache.get? id with _ | e
    · rfl
    · dsimp only
      rw [Entry.unregister_after]

theorem insert_after (object : σ) (request : Request) (kind : String) (random : Nat) :
    (r.after past).insert object request kind random
      = ((r.insert object request kind random).1,
        (r.insert object request kind random).2.after past) := by
  unfold insert
  rcases request.validate with _ | _
  · rfl
  rcases requireNonEmpty kind .lookupKind with _ | _
  · rfl
  rcases Metadata.generate kind request.filter request.callback random with _ | m
  · rfl
  dsimp only
  rw [storeRegistered_after]
  rcases r.storeRegistered m object with ⟨_ | _, r'⟩ <;> rfl

theorem update_after (object : σ) (request : Request) (i : Identifier) :
    (r.after past).update object request i
      = ((r.update object request i).1, (r.update object request i).2.after past) := by
  have hpresent : (r.after past).requirePresent i = r.requirePresent i := rfl
  unfold update
  rw [hpresent]
  rcases request.validate with _ | _
  · rfl
  rcases r.requirePresent i with _ | _
  · rfl
  rcases Metadata.create i.kind request.filter request.callback i.id with _ | m
  · rfl
  dsimp only
  rw [takeOut_after]
  rcases r.takeOut i.id with ⟨_ | _, r'⟩
  · rfl
  · exact storeRegistered_after past r' m object

theorem delete_after (i : Identifier) :
    (r.after past).delete i = ((r.delete i).1, (r.delete i).2.after past) := by
  have hpresent : (r.after past).requirePresent i = r.requirePresent i := rfl
  unfold delete
  rw [hpresent]
  rcases r.requirePresent i with _ | _
  · rfl
  · exact takeOut_after past r i.id

omit [Activator α σ] in
theorem flush_after :
    (r.after past).flush = (r.flush.1, r.flush.2.after past) := by
  have hflush : r.cache.flush (r.services.after past)
      = ((r.cache.flush r.services).1, (r.cache.flush r.services).2.after past) := by
    unfold Cache.flush Writer.writeAll
    rw [Writer.runEach_write_after]
  unfold flush
  rw [after, hflush]
  rcases r.cache.flush r.services with ⟨_ | _, s⟩ <;> rfl

end

/-! ## 4. Rounds -/

section

variable [Activator α σ] [Factory φ σ]

/-- The same round, with some calls before all that were made. -/
def Round.after (past : List (Call φ σ)) (round : Round π α φ σ) : Round π α φ σ :=
  { round with services := round.services.after past }

theorem activateEntry_after (test : Entry σ → Bool) (e : Entry σ) (round : Round π α φ σ) :
    activateEntry test e (round.after past)
      = ((activateEntry test e round).1, (activateEntry test e round).2.1,
        (activateEntry test e round).2.2.after past) := by
  unfold activateEntry
  split
  · dsimp only [Round.after]
    rcases round.factories.get? e.metadata.kind with _ | f
    · rfl
    · dsimp only
      rw [Entry.registerWith_after]
  · rfl

theorem activateDormant_after (test : Entry σ → Bool) :
    (r.after past).activateDormant test
      = ((r.activateDormant test).1, (r.activateDormant test).2.after past) := by
  have hvisit := Table.visit_map_state (activateEntry_after past test) r.cache
    (⟨[], r.factories, r.services⟩ : Round π α φ σ)
  unfold activateDormant
  dsimp only [Round.after] at hvisit
  dsimp only [after]
  rw [hvisit]

theorem bind_after (factory : Option φ) :
    (r.after past).bind factory = ((r.bind factory).1, (r.bind factory).2.after past) := by
  unfold bind
  rcases factory with _ | f
  · rfl
  · dsimp only
    have hsame : (r.after past).factories.bind f = r.factories.bind f := rfl
    rw [hsame]
    rcases r.factories.bind f with _ | factories
    · rfl
    · exact activateDormant_after past { r with factories } _

omit [Factory φ σ] in
theorem releaseEntry_after (test : Entry σ → Bool) (e : Entry σ) (s : Services π α φ σ) :
    releaseEntry test e (s.after past)
      = ((releaseEntry test e s).1, (releaseEntry test e s).2.1,
        (releaseEntry test e s).2.2.after past) := by
  unfold releaseEntry
  split
  · rw [Entry.unregister_after]
    rcases e.unregister s with ⟨_ | _, e', s'⟩ <;> rfl
  · rfl

theorem unbind_after (factory : Option φ) :
    (r.after past).unbind factory = ((r.unbind factory).1, (r.unbind factory).2.after past) := by
  unfold unbind
  rcases factory with _ | f
  · rfl
  · dsimp only
    have hsame : (r.after past).factories.unbind (Factory.kind f)
        = r.factories.unbind (Factory.kind f) := rfl
    rw [hsame]
    rcases r.factories.unbind (Factory.kind f) with _ | ⟨bound, factories⟩
    · rfl
    · have hvisit := Table.visit_map_state
        (releaseEntry_after past fun e : Entry σ => e.isKind (Factory.kind f)) r.cache r.services
      dsimp only [after]
      rw [hvisit]

variable [BackingStore π]

theorem init_after : (r.after past).init = (r.init.1, r.init.2.after past) := by
  unfold init Cache.loadAll
  dsimp only [after]
  rw [Services.list_after]
  rcases r.services.list with ⟨_ | listing, s⟩
  · rfl
  · exact activateDormant_after past ⟨listing.rows.foldl Cache.addMissing r.cache, r.factories, s⟩ _

end

/-! ## 5. Following the store -/

section

variable [Activator α σ]

theorem dropStale_after (ids : List String) :
    dropStale ids (r.after past) = ((dropStale ids r).1, (dropStale ids r).2.after past) := by
  induction ids generalizing r with
  | nil => rfl
  | cons id rest ih =>
    unfold dropStale
    dsimp only [Cache.removeLocally, after]
    rcases r.cache.get? id with _ | entry
    · exact ih r
    · dsimp only
      split
      · rw [Entry.unregister_after]
        rcases entry.unregister r.services with ⟨_ | _, entry', s⟩
        · rfl
        · have hrest := ih { r with cache := r.cache.erase id, services := s }
          dsimp only [after] at hrest ⊢
          rw [hrest]
          rcases dropStale rest { r with cache := r.cache.erase id, services := s } with
            ⟨_ | _, r'⟩ <;> rfl
      · have hrest := ih { r with cache := r.cache.erase id }
        dsimp only [after] at hrest ⊢
        rw [hrest]
        rcases dropStale rest { r with cache := r.cache.erase id } with ⟨_ | _, r'⟩ <;> rfl

variable [Factory φ σ]

theorem adopt_after (m : Metadata) : (r.after past).adopt m = (r.adopt m).after past := by
  unfold adopt
  dsimp only [after]
  rcases r.factories.get? m.kind with _ | f
  · rfl
  · dsimp only
    rw [Entry.registerWith_after]

theorem adoptMissing_after (rows : List (String × Metadata)) :
    adoptMissing rows (r.after past)
      = ((adoptMissing rows r).1, (adoptMissing rows r).2.after past) := by
  induction rows generalizing r with
  | nil => rfl
  | cons row rest ih =>
    have hsame : (r.after past).cache.contains row.1 = r.cache.contains row.1 := rfl
    rw [adoptMissing, adoptMissing, hsame]
    split
    · exact ih r
    · rw [adopt_after, ih]

variable [BackingStore π]

theorem reconcile_after :
    (r.after past).reconcile = (r.reconcile.1, r.reconcile.2.after past) := by
  unfold reconcile
  have hlist := Services.list_after past r.services
  dsimp only [after]
  rw [hlist]
  rcases r.services.list with ⟨_ | listing, s⟩
  · rfl
  · have hdrop := dropStale_after past { r with services := s }
      (r.cache.keys.filter fun id => !listing.contains id)
    dsimp only [after] at hdrop ⊢
    rw [hdrop]
    rcases dropStale (r.cache.keys.filter fun id => !listing.contains id)
      { r with services := s } with ⟨_ | _, r'⟩
    · rfl
    · have hadopt := adoptMissing_after past r' listing.rows
      dsimp only [after] at hadopt ⊢
      rw [hadopt]

/-- **No operation looks at the past.** -/
theorem perform_after (op : Operation φ σ) :
    (r.after past).perform op = ((r.perform op).1, (r.perform op).2.after past) := by
  cases op with
  | init => rw [perform, perform, init_after]
  | insert object request kind random => rw [perform, perform, insert_after]
  | update object request target => rw [perform, perform, update_after]
  | delete target => rw [perform, perform, delete_after]
  | bind factory => rw [perform, perform, bind_after]
  | unbind factory => rw [perform, perform, unbind_after]
  | reconcile => rw [perform, perform, reconcile_after]
  | flush => rw [perform, perform, flush_after]

end

end Registry
end SubscriptionRegistry
