/-
# Failures that leave no trace

Most operations that fail have done nothing, or have undone it.  Cache, factories, stored rows
and live activations are then what they were, names of activations included.  What is left is
that the services were called.

Not all failures are of this kind: an update may lose what it was to replace, and activations
that fail in a round do not keep the others from succeeding.

* `Registry.Untouched`: two registries that differ in nothing but calls made.
* `Operation.LeavesNoTrace`: with which errors which operations do nothing.
* `Registry.Run.failsCleanly`: that it is so in every run.
-/
import SubscriptionRegistry.BackingStore.Faithful
import SubscriptionRegistry.Proofs.Run

namespace SubscriptionRegistry

variable {π α φ σ : Type}

/-! ## 1. What is promised -/

/-- Between `r` and `r'` nothing has changed that anyone could see later. -/
structure Registry.Untouched [BackingStore π] [FaithfulStore π] [Activator α σ] [Tracked α σ]
    (r r' : Registry π α φ σ) : Prop where
  /-- Entries, with their handles. -/
  cache : r'.cache = r.cache
  factories : r'.factories = r.factories
  stored : r'.services.stored = r.services.stored
  live : r'.services.active.live = r.services.active.live

/-- The errors with which an operation has done nothing. -/
def Operation.LeavesNoTrace : Operation φ σ → StoreError → Prop
  | .insert _ _ _ _, _ | .delete _, _ | .unbind _, _ | .reconcile, _ => True
  | .bind _, .duplicateFactory _ => True
  -- A round of activations that failed reports a fault of registration.
  | .init, .backend _ _ => True
  | _, _ => False

/-! ## 2. Names of activations -/

section

variable [Activator α σ] [Tracked α σ]

/-- No name is in use that is still to come. -/
def Services.Named (s : Services π α φ σ) : Prop :=
  s.active.live.All fun a _ => a.number.toNat ≤ s.active.issued

theorem Services.named_stable [BackingStore π] [Factory φ σ] :
    Services.Stable (Named : Services π α φ σ → Prop) where
  activate object properties s hs := by
    rcases hact : s.activate object properties with ⟨_ | a, s'⟩
    · rw [Named, active_of_refused hact]
      exact hs
    · obtain ⟨ha, hset⟩ := active_of_granted hact
      rw [Named, hset]
      have hnext : s.active.nextId.number.toNat ≤ s.active.issued + 1 := by
        rw [ActiveSet.nextId, UInt64.toNat_ofNat']
        exact Nat.mod_le _ _
      exact Table.All.insert (fun b g hb => Nat.le_succ_of_le (hs b g hb)) hnext
  deactivate a s hs := by
    rw [Named, active_deactivate]
    exact Table.All.erase hs
  build _ _ _ hs := hs
  insert _ _ hs := hs
  delete _ _ hs := hs
  list _ hs := hs

/-- The next name is free, as long as there are names. -/
theorem Services.Named.get?_nextId {s : Services π α φ σ} (hs : s.Named)
    (hn : s.active.issued + 1 < UInt64.size) : s.active.live.get? s.active.nextId = none := by
  cases hget : s.active.live.get? s.active.nextId with
  | none => rfl
  | some g =>
    have hle := hs _ g hget
    have hnext : s.active.nextId.number.toNat = s.active.issued + 1 :=
      UInt64.toNat_ofNat_of_lt' hn
    omega

/-- An activation that is given up at once leaves all others as they were. -/
theorem Services.Named.live_undo {s s' : Services π α φ σ} (hs : s.Named) {object : σ}
    {properties : Properties} {a : ActivationId}
    (hact : s.activate object properties = (some a, s')) (hn : s'.active.issued < UInt64.size) :
    s'.active.live.erase a = s.active.live := by
  obtain ⟨ha, hset⟩ := active_of_granted hact
  rw [hset] at hn
  rw [hset, ha]
  exact Table.erase_insert (hs.get?_nextId hn)

end

namespace Registry

variable [BackingStore π] [FaithfulStore π] [Activator α σ] [Tracked α σ]
  {r : Registry π α φ σ}

/-! ## 3. Single operations -/

/-- Nothing was called. -/
theorem Untouched.refl (r : Registry π α φ σ) : r.Untouched r := ⟨rfl, rfl, rfl, rfl⟩

theorem Untouched.trans {r' r'' : Registry π α φ σ} (h : r.Untouched r')
    (h' : r'.Untouched r'') : r.Untouched r'' :=
  ⟨h'.cache.trans h.cache, h'.factories.trans h.factories, h'.stored.trans h.stored,
    h'.live.trans h.live⟩

/-- Only the store was called, and did nothing. -/
theorem untouched_of_stored {s : Services π α φ σ} (hs : s.stored = r.services.stored)
    (ha : s.active = r.services.active) : r.Untouched { r with services := s } :=
  ⟨rfl, rfl, hs, congrArg ActiveSet.live ha⟩

/-- A subscription that could not be stored is not left active. -/
theorem storeRegistered_untouched (hnamed : r.services.Named) {m : Metadata} {object : σ}
    {why : StoreError} (herr : (r.storeRegistered m object).1 = .error why)
    (hn : (r.storeRegistered m object).2.services.active.issued < UInt64.size) :
    r.Untouched (r.storeRegistered m object).2 := by
  rcases storeRegistered_cases m object r with
    ⟨s, hact, hout⟩ | ⟨a, s, why, s', hact, hins, hout⟩ | ⟨a, s, s', hact, hins, hout⟩
  · rw [hout]
    exact untouched_of_stored (Services.stored_of_activate hact)
      (Services.active_of_refused hact)
  · have hsame := Services.active_of_insert hins
    rw [hout] at hn ⊢
    refine ⟨rfl, rfl, ?_, ?_⟩
    · dsimp only
      rw [Services.stored_deactivate, Services.stored_insert_error hins,
        Services.stored_of_activate hact]
    · dsimp only at hn ⊢
      rw [Services.active_deactivate, hsame] at hn ⊢
      exact hnamed.live_undo hact hn
  · rw [hout] at herr
    cases herr

omit [FaithfulStore π] [Tracked α σ] in
/-- A subscription that is refused or not taken by the store makes for an error. -/
theorem insert_fails {object : σ} {request : Request} {kind : String} {random : Nat}
    (hfail : (r.services.activate object ⟨Urn.ofRandom random, request.callback⟩).1 = none
      ∨ ∃ cause, ((r.services.activate object ⟨Urn.ofRandom random, request.callback⟩).2.insert
        ⟨Urn.ofRandom random, kind, request.filter, request.callback⟩).1 = .error cause) :
    ∃ why, (r.insert object request kind random).1 = .error why := by
  rcases insert_cases object request kind random r with ⟨why, -, hout⟩ | ⟨m, hm, -, hout⟩
  · exact ⟨why, by rw [hout]⟩
  subst hm
  rcases storeRegistered_cases
    ⟨Urn.ofRandom random, kind, request.filter, request.callback⟩ object r with
    ⟨s, -, hstore⟩ | ⟨a, s, why, s', -, -, hstore⟩ | ⟨a, s, s', hact, hins, -⟩
  · exact ⟨_, by rw [hout, hstore]; rfl⟩
  · exact ⟨_, by rw [hout, hstore]; rfl⟩
  · rw [hact] at hfail
    dsimp only at hfail
    rw [hins] at hfail
    rcases hfail with hnone | ⟨cause, hcause⟩
    · cases hnone
    · cases hcause

theorem insert_untouched (hnamed : r.services.Named) {object : σ} {request : Request}
    {kind : String} {random : Nat} {why : StoreError}
    (herr : (r.insert object request kind random).1 = .error why)
    (hn : (r.insert object request kind random).2.services.active.issued < UInt64.size) :
    r.Untouched (r.insert object request kind random).2 := by
  rcases insert_cases object request kind random r with ⟨why, -, hout⟩ | ⟨m, -, -, hout⟩
  · rw [hout]
    exact .refl r
  · rw [hout] at herr hn ⊢
    exact storeRegistered_untouched hnamed (eq_error_of_map herr) hn

omit [FaithfulStore π] [Tracked α σ] in
/-- A live subscription that the store does not delete makes for an error. -/
theorem delete_fails {i : Identifier} {e : Entry σ} {h : Handle σ} {cause : StoreError}
    (hp : r.Present i e h) (hfail : (r.services.delete i.id).1 = .error cause) :
    (r.delete i).1 = .error (.backend "Problem deleting from cache" cause) := by
  rw [delete_of_present hp]
  rcases takeOut_cases hp with ⟨why, s, hdel, htake⟩ | ⟨s, hdel, -⟩
  · rw [hdel] at hfail
    cases hfail
    rw [htake]
  · rw [hdel] at hfail
    cases hfail

theorem delete_untouched {i : Identifier} {why : StoreError} (herr : (r.delete i).1 = .error why) :
    r.Untouched (r.delete i).2 := by
  rcases delete_cases i r with ⟨why, -, hout⟩ | ⟨e, h, hp, hout⟩
  · rw [hout]
    exact .refl r
  · rw [hout] at herr ⊢
    rcases takeOut_cases hp with ⟨why, s, hdel, htake⟩ | ⟨s, hdel, htake⟩
    · rw [htake]
      exact untouched_of_stored (Services.stored_delete_error hdel) (Services.active_of_delete hdel)
    · rw [htake] at herr
      cases herr

/-- A store that could not be listed is as it was. -/
theorem untouched_of_list {s : Services π α φ σ} {why : StoreError}
    (hl : r.services.list = (.error why, s)) : r.Untouched { r with services := s } := by
  have hstored := Services.stored_list r.services
  rw [hl] at hstored
  exact untouched_of_stored hstored (Services.active_of_list hl)

/-! ## 4. All operations -/

variable [Factory φ σ]

/-- If it is the store that failed, nothing was loaded and nothing activated. -/
theorem init_untouched {context : String} {cause : StoreError}
    (herr : r.init.1 = .error (.backend context cause)) : r.Untouched r.init.2 := by
  rcases init_cases r with ⟨why, s, hl, hout⟩ | ⟨listing, s, -, hout⟩
  · rw [hout]
    exact untouched_of_list hl
  · rw [hout] at herr
    rcases activateDormant_cases (fun _ => true)
      (⟨listing.rows.foldl Cache.addMissing r.cache, r.factories, s⟩ : Registry π α φ σ) with
      hok | ⟨ids, hfail⟩
    · rw [hok] at herr
      cases herr
    · rw [hfail] at herr
      cases herr

/-- A second factory of a type is turned away. -/
theorem bind_untouched {factory : Option φ} {kind : String}
    (herr : (r.bind factory).1 = .error (.duplicateFactory kind)) :
    r.Untouched (r.bind factory).2 := by
  rcases bind_cases factory r with ⟨-, hout⟩ | ⟨f, -, -, hout⟩ | ⟨f, -, -, hout⟩
  · rw [hout]
    exact .refl r
  · rw [hout]
    exact .refl r
  · rw [hout] at herr
    rcases activateDormant_cases (fun e => e.isKind (Factory.kind f))
      { r with factories := r.factories.update (Factory.kind f) f } with hok | ⟨ids, hfail⟩
    · rw [hok] at herr
      cases herr
    · rw [hfail] at herr
      cases herr

theorem unbind_untouched {factory : Option φ} {why : StoreError}
    (herr : (r.unbind factory).1 = .error why) : r.Untouched (r.unbind factory).2 := by
  rcases unbind_cases factory r with ⟨-, hout⟩ | ⟨f, -, -, hout⟩ | ⟨f, bound, -, -, hout⟩
  · rw [hout]
    exact .refl r
  · rw [hout]
    exact .refl r
  · rw [hout] at herr
    cases herr

theorem reconcile_untouched {why : StoreError} (herr : r.reconcile.1 = .error why) :
    r.Untouched r.reconcile.2 := by
  rcases reconcile_cases r with ⟨cause, s, hl, hout⟩ | ⟨listing, s, -, added, hout⟩
  · rw [hout]
    exact untouched_of_list hl
  · rw [hout] at herr
    cases herr

/-- **A failure of these kinds leaves no trace.** -/
theorem perform_untouched (hnamed : r.services.Named) {op : Operation φ σ} {why : StoreError}
    (hop : op.LeavesNoTrace why) (herr : (r.perform op).1 = .error why)
    (hn : (r.perform op).2.services.active.issued < UInt64.size) :
    r.Untouched (r.perform op).2 := by
  cases op with
  | init =>
    cases why with
    | backend context cause => exact init_untouched (eq_error_of_map herr)
    | _ => exact hop.elim
  | insert object request kind random => exact insert_untouched hnamed (eq_error_of_map herr) hn
  | update object request target => exact hop.elim
  | delete target => exact delete_untouched (eq_error_of_map herr)
  | bind factory =>
    cases why with
    | duplicateFactory kind => exact bind_untouched (eq_error_of_map herr)
    | _ => exact hop.elim
  | unbind factory => exact unbind_untouched (eq_error_of_map herr)
  | reconcile => exact reconcile_untouched (eq_error_of_map herr)
  | flush => exact hop.elim

/-! ## 5. Runs -/

/-- In a registry failures leave no trace.  Names of activations have to last for what is
done. -/
structure FailsCleanly (r : Registry π α φ σ) : Prop where
  untouched : ∀ {op : Operation φ σ} {why : StoreError}, op.LeavesNoTrace why →
    (r.perform op).1 = .error why → (r.perform op).2.services.active.issued < UInt64.size →
    r.Untouched (r.perform op).2
  /-- A new subscription that the activator refuses or the store fails to take is not there. -/
  insert : ∀ {object : σ} {request : Request} {kind : String} {random : Nat},
    ((r.services.activate object ⟨Urn.ofRandom random, request.callback⟩).1 = none
      ∨ ∃ cause, ((r.services.activate object ⟨Urn.ofRandom random, request.callback⟩).2.insert
        ⟨Urn.ofRandom random, kind, request.filter, request.callback⟩).1 = .error cause) →
    (r.insert object request kind random).2.services.active.issued < UInt64.size →
    (∃ why, (r.insert object request kind random).1 = .error why)
      ∧ r.Untouched (r.insert object request kind random).2
  /-- A live subscription that the store fails to delete is still there, with its activation. -/
  delete : ∀ {i : Identifier} {e : Entry σ} {h : Handle σ} {cause : StoreError},
    r.Present i e h → (r.services.delete i.id).1 = .error cause →
    (r.delete i).1 = .error (.backend "Problem deleting from cache" cause)
      ∧ (r.delete i).2.Present i e h ∧ r.Untouched (r.delete i).2

theorem failsCleanly_of_named (hnamed : r.services.Named) : r.FailsCleanly where
  untouched hop herr hn := perform_untouched hnamed hop herr hn
  insert hfail hn := by
    obtain ⟨why, hwhy⟩ := insert_fails hfail
    exact ⟨⟨why, hwhy⟩, insert_untouched hnamed hwhy hn⟩
  delete hp hfail := by
    have hdelete := delete_fails hp hfail
    have hsame := delete_untouched hdelete
    refine ⟨hdelete, ⟨hp.id_ne, hp.kind_ne, ?_, hp.kind, hp.handle⟩, hsame⟩
    rw [hsame.cache]
    exact hp.cached

/-- **Failed operations leave no trace, in every run**, whatever the outside does to the store
and to what activators refuse. -/
theorem Run.failsCleanly {s : Services π α φ σ} (hlive : s.active.live.rows = [])
    (hrun : Run (fun s s' => s'.active = s.active) (fun _ _ => True) (new s) r) :
    r.FailsCleanly := by
  refine failsCleanly_of_named ?_
  induction hrun with
  | refl =>
    intro a g ha
    have hrow := Table.get?_eq_some_iff.mp ha
    rw [Registry.new, hlive] at hrow
    cases hrow
  | change _ hs ih =>
    rw [Services.Named, hs]
    exact ih
  | step _ _ ih => exact perform_stable Services.named_stable _ ih

/-- A subscription that the store does not let go of. -/
theorem Run.failsCleanly_demo :
    (Demo.jammed.delete ⟨"s", "A"⟩).1 = .error (.backend "Problem deleting from cache" .locked)
      ∧ (Demo.jammed.delete ⟨"s", "A"⟩).2.Present ⟨"s", "A"⟩
        ⟨Demo.stored, some ⟨"f", ⟨1⟩⟩⟩ ⟨"f", ⟨1⟩⟩
      ∧ Demo.jammed.Untouched (Demo.jammed.delete ⟨"s", "A"⟩).2 := by
  have hrun : Run (fun s s' => s'.active = s.active) (fun _ _ => True) (new Demo.services)
      Demo.jammed := .change (.step (.step .refl trivial) trivial) rfl
  have hp : Demo.jammed.Present ⟨"s", "A"⟩ ⟨Demo.stored, some ⟨"f", ⟨1⟩⟩⟩ ⟨"f", ⟨1⟩⟩ :=
    ⟨by decide, by decide, rfl, rfl, rfl⟩
  exact (Run.failsCleanly rfl hrun).delete hp rfl

end Registry
end SubscriptionRegistry
