/-
# What every operation can come to

One lemma for each operation of a registry, that lists its ends: the answer, the registry after
it, and the calls that led there.  What is said later about the ends of operations goes through
these lists and does not open the operations again.

* `Registry.insert_cases`, `update_cases`, `delete_cases`: single subscriptions.
* `Registry.init_cases`, `bind_cases`, `unbind_cases`, `reconcile_cases`: whole rounds.

The errors that a round could end with half-way do not occur: `releaseEntry_eq_ok` and
`dropStale_eq`.
-/
import SubscriptionRegistry.Operation

namespace SubscriptionRegistry

theorem Writer.delete_of_ne_empty {π α φ σ : Type} [BackingStore π] {id : String} (h : id ≠ "")
    (s : Services π α φ σ) : Writer.delete id s = s.delete id := by
  unfold Writer.delete
  rw [requireNonEmpty_eq_ok_iff.mpr h]

namespace Registry

variable {π α φ σ : Type}

/-! ## 1. Looking for a live subscription -/

/-- An identifier points at a live subscription. -/
structure Present (r : Registry π α φ σ) (i : Identifier) (e : Entry σ) (h : Handle σ) :
    Prop where
  id_ne : i.id ≠ ""
  kind_ne : i.kind ≠ ""
  cached : r.cache.get? i.id = some e
  kind : e.metadata.kind = i.kind
  handle : e.handle = some h

/-- A look-up finds nothing but live subscriptions, and all of them. -/
theorem get_eq_ok_some_iff {r : Registry π α φ σ} {i : Identifier} {object : σ} :
    r.get i = .ok (some object) ↔ ∃ e h, r.Present i e h ∧ h.object = object := by
  unfold get
  constructor
  · intro hget
    split at hget
    · cases hget
    · rename_i hv
      obtain ⟨hid, hkind⟩ := Identifier.validate_eq_ok_iff.mp hv
      split at hget
      · cases hget
      · rename_i e he
        split at hget
        · cases hget
        · rename_i hlive
          simp only [Bool.or_eq_true, Bool.not_eq_true', not_or, Entry.isKind,
            decide_eq_false_iff_not, Decidable.not_not] at hlive
          cases hh : e.handle with
          | none => simp [Entry.isDormant, hh] at hlive
          | some h =>
            simp only [Entry.object?, hh, Option.map_some, Except.ok.injEq,
              Option.some.injEq] at hget
            exact ⟨e, h, ⟨hid, hkind, he, hlive.1, hh⟩, hget⟩
  · rintro ⟨e, h, hp, rfl⟩
    rw [Identifier.validate_eq_ok_iff.mpr ⟨hp.id_ne, hp.kind_ne⟩]
    simp [hp.cached, hp.handle, hp.kind, Entry.isKind, Entry.isDormant, Entry.object?]

/-- What a look-up fails with is the caller's fault. -/
theorem errorClass_of_get {r : Registry π α φ σ} {i : Identifier} {why : StoreError}
    (h : r.get i = .error why) : why.errorClass = .validation := by
  unfold get at h
  split at h
  · rename_i hv
    injection h with h
    exact h ▸ Identifier.errorClass_of_validate hv
  · split at h
    · cases h
    · split at h
      · cases h
      · rename_i e _ hlive
        simp only [Bool.or_eq_true, not_or] at hlive
        cases hh : e.handle with
        | none => simp [Entry.isDormant, hh] at hlive
        | some hd => simp [Entry.object?, hh] at h

/-- What an identifier points at is not cached, or dormant, or of another type. -/
def Missing (r : Registry π α φ σ) (i : Identifier) : Prop :=
  ∀ e, r.cache.get? i.id = some e → e.handle = none ∨ e.metadata.kind ≠ i.kind

theorem missing_of_get {r : Registry π α φ σ} {i : Identifier} (h : r.get i = .ok none) :
    r.Missing i := by
  intro e he
  unfold get at h
  split at h
  · cases h
  · simp only [he] at h
    split at h
    · rename_i hlive
      simp only [Bool.or_eq_true, Bool.not_eq_true', Entry.isKind, decide_eq_false_iff_not,
        Entry.isDormant, Option.isNone_iff_eq_none] at hlive
      exact hlive.symm
    · split at h <;> cases h

/-- Either the subscription is live, or it is the caller who is wrong or too late. -/
theorem requirePresent_cases (r : Registry π α φ σ) (i : Identifier) :
    (∃ why, (why.errorClass = .validation ∨ why = .subscriptionNotFound i.id ∧ r.Missing i)
      ∧ r.requirePresent i = .error why)
    ∨ ∃ e h, r.Present i e h ∧ r.requirePresent i = .ok () := by
  unfold requirePresent
  rcases hget : r.get i with why | _ | object
  · exact Or.inl ⟨why, Or.inl (errorClass_of_get hget), rfl⟩
  · exact Or.inl ⟨_, Or.inr ⟨rfl, missing_of_get hget⟩, rfl⟩
  · obtain ⟨e, h, hp, -⟩ := get_eq_ok_some_iff.mp hget
    exact Or.inr ⟨e, h, hp, rfl⟩

/-! ## 2. Single subscriptions -/

section

variable [BackingStore π] [Activator α σ]

/-- A subscription is stored and cached once it is active, and an activation whose subscription
cannot be stored is given up. -/
theorem storeRegistered_cases (m : Metadata) (object : σ) (r : Registry π α φ σ) :
    (∃ s, r.services.activate object ⟨m.id, m.callback⟩ = (none, s)
      ∧ r.storeRegistered m object
        = (.error (.registration (.refused m.id)), { r with services := s }))
    ∨ (∃ a s why s', r.services.activate object ⟨m.id, m.callback⟩ = (some a, s)
      ∧ s.insert m = (.error why, s')
      ∧ r.storeRegistered m object = (.error (.backend "Problem writing to the cache" why),
        { r with services := s'.deactivate a }))
    ∨ ∃ a s s', r.services.activate object ⟨m.id, m.callback⟩ = (some a, s)
      ∧ s.insert m = (.ok (), s')
      ∧ r.storeRegistered m object
        = (.ok (), ⟨r.cache.insert m.id ⟨m, some ⟨object, a⟩⟩, r.factories, s'⟩) := by
  unfold storeRegistered
  rcases Entry.register_cases (e := Entry.dormant m) rfl object r.services with
    ⟨s, hact, hreg⟩ | ⟨a, s, hact, hreg⟩
  · exact Or.inl ⟨s, hact, by rw [hreg]; rfl⟩
  · rw [hreg]
    dsimp only [Entry.dormant, Cache.put, Writer.write]
    rcases hins : s.insert m with ⟨why | _, s'⟩
    · exact Or.inr (Or.inl ⟨a, s, why, s', hact, hins, rfl⟩)
    · exact Or.inr (Or.inr ⟨a, s, s', hact, hins, rfl⟩)

/-- A live subscription is taken out unless the store fails to delete it. -/
theorem takeOut_cases {r : Registry π α φ σ} {i : Identifier} {e : Entry σ} {h : Handle σ}
    (hp : r.Present i e h) :
    (∃ why s, r.services.delete i.id = (.error why, s)
      ∧ r.takeOut i.id
        = (.error (.backend "Problem deleting from cache" why), { r with services := s }))
    ∨ ∃ s, r.services.delete i.id = (.ok (), s)
      ∧ r.takeOut i.id
        = (.ok h.object, ⟨r.cache.erase i.id, r.factories, s.deactivate h.activation⟩) := by
  unfold takeOut take Cache.remove
  rw [Writer.delete_of_ne_empty hp.id_ne]
  rcases hdel : r.services.delete i.id with ⟨why | _, s⟩
  · exact Or.inl ⟨why, s, rfl, rfl⟩
  · refine Or.inr ⟨s, rfl, ?_⟩
    dsimp only [Cache.removeLocally]
    rw [hp.cached]
    dsimp only
    rw [Entry.unregister_of_handle hp.handle]

/-- What is live is taken out. -/
theorem delete_of_present {r : Registry π α φ σ} {i : Identifier} {e : Entry σ} {h : Handle σ}
    (hp : r.Present i e h) : r.delete i = r.takeOut i.id := by
  unfold delete requirePresent
  rw [get_eq_ok_some_iff.mpr ⟨e, h, hp, rfl⟩]

theorem delete_cases (i : Identifier) (r : Registry π α φ σ) :
    (∃ why, (why.errorClass = .validation ∨ why = .subscriptionNotFound i.id ∧ r.Missing i)
      ∧ r.delete i = (.error why, r))
    ∨ ∃ e h, r.Present i e h ∧ r.delete i = r.takeOut i.id := by
  rcases requirePresent_cases r i with ⟨why, hwhy, hreq⟩ | ⟨e, h, hp, -⟩
  · exact Or.inl ⟨why, hwhy, by rw [delete, hreq]⟩
  · exact Or.inr ⟨e, h, hp, delete_of_present hp⟩

/-- Whether an insert is rejected is told by what the caller brings along, before the registry is
looked at. -/
theorem insert_forms (object : σ) (request : Request) (kind : String) (random : Nat) :
    (∃ why, why.errorClass = .validation
      ∧ ∀ r : Registry π α φ σ, r.insert object request kind random = (.error why, r))
    ∨ ∃ m : Metadata, m = ⟨Urn.ofRandom random, kind, request.filter, request.callback⟩
      ∧ m.Valid
      ∧ ∀ r : Registry π α φ σ, r.insert object request kind random
        = ((r.storeRegistered m object).1.map fun _ => m.identifier,
          (r.storeRegistered m object).2) := by
  unfold insert
  rcases hreq : request.validate with why | _
  · exact Or.inl ⟨why, Request.errorClass_of_validate hreq, fun _ => rfl⟩
  rcases hkind : requireNonEmpty kind .lookupKind with why | _
  · exact Or.inl ⟨why, errorClass_of_requireNonEmpty hkind, fun _ => rfl⟩
  rcases hgen : Metadata.generate kind request.filter request.callback random with why | m
  · exact Or.inl ⟨why, Metadata.errorClass_of_create hgen, fun _ => rfl⟩
  · obtain ⟨hm, hvalid⟩ := Metadata.create_eq_ok_iff.mp hgen
    refine Or.inr ⟨m, hm, hvalid, fun r => ?_⟩
    dsimp only
    rcases r.storeRegistered m object with ⟨why | _, r'⟩ <;> rfl

theorem insert_cases (object : σ) (request : Request) (kind : String) (random : Nat)
    (r : Registry π α φ σ) :
    (∃ why, why.errorClass = .validation
      ∧ r.insert object request kind random = (.error why, r))
    ∨ ∃ m : Metadata, m = ⟨Urn.ofRandom random, kind, request.filter, request.callback⟩
      ∧ m.Valid
      ∧ r.insert object request kind random
        = ((r.storeRegistered m object).1.map fun _ => m.identifier,
          (r.storeRegistered m object).2) := by
  rcases insert_forms (π := π) (α := α) (φ := φ) object request kind random with
    ⟨why, hwhy, hout⟩ | ⟨m, hm, hvalid, hout⟩
  · exact Or.inl ⟨why, hwhy, hout r⟩
  · exact Or.inr ⟨m, hm, hvalid, hout r⟩

/-- An update fails before the old subscription is touched, or fails to delete it, or goes on
to register the new one in its place. -/
theorem update_cases (object : σ) (request : Request) (i : Identifier)
    (r : Registry π α φ σ) :
    (∃ why, (why.errorClass = .validation ∨ why = .subscriptionNotFound i.id ∧ r.Missing i)
      ∧ r.update object request i = (.error why, r))
    ∨ ∃ e h, r.Present i e h ∧
      ((∃ why s, r.services.delete i.id = (.error why, s)
        ∧ r.update object request i
          = (.error (.backend "Problem deleting from cache" why), { r with services := s }))
      ∨ ∃ (m : Metadata) (s : Services π α φ σ),
        m = ⟨i.id, i.kind, request.filter, request.callback⟩ ∧ m.Valid
        ∧ r.services.delete i.id = (.ok (), s)
        ∧ r.takeOut i.id = (.ok h.object, ⟨r.cache.erase i.id, r.factories,
          s.deactivate h.activation⟩)
        ∧ r.update object request i = storeRegistered m object
          ⟨r.cache.erase i.id, r.factories, s.deactivate h.activation⟩) := by
  unfold update
  rcases hreq : request.validate with why | _
  · exact Or.inl ⟨why, Or.inl (Request.errorClass_of_validate hreq), rfl⟩
  rcases requirePresent_cases r i with ⟨why, hwhy, hpres⟩ | ⟨e, h, hp, hpres⟩
  · exact Or.inl ⟨why, hwhy, by rw [hpres]⟩
  rw [hpres]
  rcases hcre : Metadata.create i.kind request.filter request.callback i.id with why | m
  · exact Or.inl ⟨why, Or.inl (Metadata.errorClass_of_create hcre), rfl⟩
  · obtain ⟨hm, hvalid⟩ := Metadata.create_eq_ok_iff.mp hcre
    refine Or.inr ⟨e, h, hp, ?_⟩
    rcases takeOut_cases hp with ⟨why, s, hdel, hout⟩ | ⟨s, hdel, hout⟩
    · exact Or.inl ⟨why, s, hdel, by rw [hout]⟩
    · exact Or.inr ⟨m, s, hm, hvalid, hdel, hout, by rw [hout]⟩

end

/-! ## 3. Rounds through the cache -/

section

variable [Activator α σ]

/-- Nothing that a release could fail with occurs: only registered entries are released. -/
theorem releaseEntry_eq_ok (test : Entry σ → Bool) (e : Entry σ) (s : Services π α φ σ) :
    (releaseEntry test e s).1 = .ok () := by
  unfold releaseEntry
  split
  · rename_i hreg
    simp only [Bool.and_eq_true] at hreg
    cases hh : e.handle with
    | none => simp [Entry.isRegistered, hh] at hreg
    | some h => rw [Entry.unregister_of_handle hh]
  · rfl

/-- What passes the test is dormant afterwards. -/
theorem entry_releaseEntry (test : Entry σ → Bool) (e : Entry σ) (s : Services π α φ σ) :
    (releaseEntry test e s).2.1 = if test e then .dormant e.metadata else e := by
  unfold releaseEntry
  cases hh : e.handle with
  | none =>
    have he : Entry.dormant e.metadata = e := by rw [Entry.dormant, ← hh]
    simp [Entry.isRegistered, hh, he]
  | some h =>
    rw [Entry.unregister_of_handle hh]
    cases test e <;> simp [Entry.isRegistered, hh]

/-- Releasing goes through to the end of the cache. -/
theorem cache_release (test : Entry σ → Bool) (c : Cache σ) (s : Services π α φ σ) :
    (c.visit (releaseEntry test) s).2.1
      = c.map fun e => if test e then .dormant e.metadata else e :=
  Table.visit_eq_map (releaseEntry_eq_ok test) (entry_releaseEntry test) c s

@[simp] theorem metadata_releaseEntry (test : Entry σ → Bool) (e : Entry σ)
    (s : Services π α φ σ) : (releaseEntry test e s).2.1.metadata = e.metadata := by
  have hm := Entry.metadata_unregister e s
  unfold releaseEntry
  split
  · split <;> simp_all
  · rfl

variable [Factory φ σ]

@[simp] theorem metadata_activateEntry (test : Entry σ → Bool) (e : Entry σ)
    (round : Round π α φ σ) : (activateEntry test e round).2.1.metadata = e.metadata := by
  unfold activateEntry
  split
  · split
    · rfl
    · exact Entry.metadata_registerWith e _ _
  · rfl

/-- A visit passes by what is live, and by what does not pass its test. -/
theorem activateEntry_of_spared {test : Entry σ → Bool} {e : Entry σ}
    (h : e.handle ≠ none ∨ test e = false) (round : Round π α φ σ) :
    activateEntry test e round = (.ok (), e, round) := by
  have hspared : ¬ (e.isDormant && test e) = true := by
    rw [Bool.and_eq_true, Entry.isDormant, Option.isNone_iff_eq_none]
    rintro ⟨hdormant, htest⟩
    rcases h with hlive | hfails
    · exact hlive hdormant
    · rw [htest] at hfails
      cases hfails
  unfold activateEntry
  rw [if_neg hspared]

/-- A round of activations fails, if at all, by naming what it could not activate. -/
theorem activateDormant_cases (test : Entry σ → Bool) (r : Registry π α φ σ) :
    (r.activateDormant test).1 = .ok ()
      ∨ ∃ ids, (r.activateDormant test).1 = .error (.registration (.notActivated ids)) := by
  unfold activateDormant activationOutcome
  dsimp only
  split
  · exact Or.inl rfl
  · exact Or.inr ⟨_, rfl⟩

theorem activationOutcome_eq_ok_iff {ids : List String} :
    activationOutcome ids = .ok () ↔ ids = [] := by
  unfold activationOutcome
  cases ids <;> simp

theorem eq_of_activationOutcome {ids : List String} {why : StoreError}
    (h : activationOutcome ids = .error why) : why = .registration (.notActivated ids) := by
  unfold activationOutcome at h
  split at h
  · cases h
  · cases h
    rfl

/-- Once the store is listed, what is missing is loaded and all that can be is activated. -/
theorem init_of_list [BackingStore π] {r : Registry π α φ σ} {listing : Table String Metadata}
    {s : Services π α φ σ} (hl : r.services.list = (.ok listing, s)) :
    r.init = activateDormant (fun _ => true)
      ⟨listing.rows.foldl Cache.addMissing r.cache, r.factories, s⟩ := by
  unfold init Cache.loadAll
  rw [hl]

theorem init_cases [BackingStore π] (r : Registry π α φ σ) :
    (∃ why s, r.services.list = (.error why, s)
      ∧ r.init
        = (.error (.backend "Cache update threw an exception" why), { r with services := s }))
    ∨ ∃ listing s, r.services.list = (.ok listing, s)
      ∧ r.init = activateDormant (fun _ => true)
        ⟨listing.rows.foldl Cache.addMissing r.cache, r.factories, s⟩ := by
  rcases hlist : r.services.list with ⟨why | listing, s⟩
  · refine Or.inl ⟨why, s, rfl, ?_⟩
    unfold init Cache.loadAll
    rw [hlist]
  · exact Or.inr ⟨listing, s, rfl, init_of_list hlist⟩

/-- A type that has a factory gets no other. -/
theorem bind_of_contains {f : φ} {r : Registry π α φ σ}
    (h : r.factories.contains (Factory.kind f)) :
    r.bind (some f) = (.error (.duplicateFactory (Factory.kind f)), r) := by
  have hbind : r.factories.bind f = .error (.duplicateFactory (Factory.kind f)) := by
    simp [Factories.bind, h]
  rw [bind, hbind]

/-- A type without a factory gets one, and a round. -/
theorem bind_of_not_contains {f : φ} {r : Registry π α φ σ}
    (h : r.factories.contains (Factory.kind f) = false) :
    r.bind (some f) = activateDormant (fun e => e.isKind (Factory.kind f))
      { r with factories := r.factories.update (Factory.kind f) f } := by
  have hbind : r.factories.bind f = .ok (r.factories.update (Factory.kind f) f) := by
    simp [Factories.bind, h]
  rw [bind, hbind]

theorem bind_cases (factory : Option φ) (r : Registry π α φ σ) :
    (factory = none ∧ r.bind factory = (.ok (), r))
    ∨ (∃ f, factory = some f ∧ r.factories.contains (Factory.kind f)
      ∧ r.bind factory = (.error (.duplicateFactory (Factory.kind f)), r))
    ∨ ∃ f, factory = some f ∧ r.factories.contains (Factory.kind f) = false
      ∧ r.bind factory = activateDormant (fun e => e.isKind (Factory.kind f))
        { r with factories := r.factories.update (Factory.kind f) f } := by
  cases factory with
  | none => exact Or.inl ⟨rfl, rfl⟩
  | some f =>
    cases hbound : r.factories.contains (Factory.kind f) with
    | true => exact Or.inr (Or.inl ⟨f, rfl, hbound, bind_of_contains hbound⟩)
    | false => exact Or.inr (Or.inr ⟨f, rfl, hbound, bind_of_not_contains hbound⟩)

/-- Withdrawing a factory that is bound does not fail. -/
theorem unbind_cases (factory : Option φ) (r : Registry π α φ σ) :
    (factory = none ∧ r.unbind factory = (.ok (), r))
    ∨ (∃ f, factory = some f ∧ r.factories.get? (Factory.kind f) = none
      ∧ r.unbind factory = (.error (.factoryNotBound (Factory.kind f)), r))
    ∨ ∃ f bound, factory = some f ∧ r.factories.get? (Factory.kind f) = some bound
      ∧ r.unbind factory = (.ok (),
        ⟨(r.cache.visit (releaseEntry fun e => e.isKind (Factory.kind f)) r.services).2.1,
          ⟨r.factories.bound.erase (Factory.kind f)⟩,
          (r.cache.visit (releaseEntry fun e => e.isKind (Factory.kind f)) r.services).2.2⟩) := by
  unfold unbind
  cases factory with
  | none => exact Or.inl ⟨rfl, rfl⟩
  | some f =>
    dsimp only
    cases hbound : r.factories.get? (Factory.kind f) with
    | none =>
      have hu : r.factories.unbind (Factory.kind f)
          = .error (.factoryNotBound (Factory.kind f)) := by
        simp [Factories.unbind, hbound]
      exact Or.inr (Or.inl ⟨f, rfl, hbound, by rw [hu]⟩)
    | some bound =>
      have hu : r.factories.unbind (Factory.kind f)
          = .ok (bound, ⟨r.factories.bound.erase (Factory.kind f)⟩) := by
        simp [Factories.unbind, hbound]
      refine Or.inr (Or.inr ⟨f, bound, rfl, hbound, ?_⟩)
      rw [hu, ← Table.visit_eq_ok (releaseEntry_eq_ok _) r.cache r.services]

end

/-! ## 4. Following the store -/

section

variable [Activator α σ]

/-- Drops the entry under a key, releasing it if it is live. -/
def forget (id : String) (r : Registry π α φ σ) : Registry π α φ σ :=
  match r.cache.get? id with
  | none => r
  | some e => { r with cache := r.cache.erase id, services := (e.unregister r.services).2.2 }

/-- Caches a stored row whose key is not cached. -/
def adoptRow [Factory φ σ] (row : String × Metadata) (r : Registry π α φ σ) :
    Registry π α φ σ :=
  if r.cache.contains row.1 then r else r.adopt row.2

/-- A row is cached under the id of its metadata: as it is if its type has no factory, and else as
registering leaves it. -/
theorem adopt_cases [Factory φ σ] (m : Metadata) (r : Registry π α φ σ) :
    (r.factories.get? m.kind = none
      ∧ r.adopt m = { r with cache := r.cache.insert m.id (.dormant m) })
    ∨ ∃ f, r.factories.get? m.kind = some f
      ∧ r.adopt m = ⟨r.cache.insert m.id ((Entry.dormant m).registerWith f r.services).2.1,
        r.factories.update m.kind ((Entry.dormant m).registerWith f r.services).2.2.1,
        ((Entry.dormant m).registerWith f r.services).2.2.2⟩ := by
  unfold adopt
  cases hf : r.factories.get? m.kind with
  | none => exact .inl ⟨rfl, rfl⟩
  | some f =>
    refine .inr ⟨f, rfl, ?_⟩
    dsimp only [Cache.insertLocally, Entry.id]
    rw [Entry.metadata_registerWith]
    rfl

/-- Forgetting some other key does not change what is cached under a key. -/
theorem get?_forget_of_ne {id key : String} (h : key ≠ id) (r : Registry π α φ σ) :
    (r.forget id).cache.get? key = r.cache.get? key := by
  unfold forget
  split
  · rfl
  · dsimp only
    rw [Table.get?_erase, if_neg h]

/-- Dropping stale keys does not fail, and drops one after another those that are cached. -/
theorem dropStale_eq {ids : List String} (hids : ids.Nodup) (r : Registry π α φ σ) :
    dropStale ids r
      = (.ok (ids.filter r.cache.contains), ids.foldl (fun r id => r.forget id) r) := by
  induction ids generalizing r with
  | nil => rfl
  | cons id rest ih =>
    obtain ⟨hnot, hrest⟩ := List.nodup_cons.mp hids
    have hsame : rest.filter (r.forget id).cache.contains = rest.filter r.cache.contains := by
      refine List.filter_congr fun key hkey => ?_
      have hne : key ≠ id := fun h => hnot (h ▸ hkey)
      rw [Table.contains, Table.contains, get?_forget_of_ne hne]
    have ih' := ih hrest (r.forget id)
    rw [hsame] at ih'
    unfold dropStale Cache.removeLocally
    cases he : r.cache.get? id with
    | none =>
      have hf : r.forget id = r := by simp [forget, he]
      rw [hf] at ih'
      simp [Table.contains, he, hf, ih']
    | some e =>
      cases hh : e.handle with
      | none =>
        have hf : r.forget id = { r with cache := r.cache.erase id } := by
          simp [forget, he, Entry.unregister, hh]
        rw [hf] at ih'
        simp [Entry.isRegistered, Table.contains, he, hh, hf, ih']
      | some h =>
        have hf : r.forget id = ⟨r.cache.erase id, r.factories,
            r.services.deactivate h.activation⟩ := by
          simp [forget, he, Entry.unregister_of_handle hh]
        rw [hf] at ih'
        simp [Entry.isRegistered, Table.contains, he, hh, hf, ih',
          Entry.unregister_of_handle hh]

theorem adoptMissing_snd [Factory φ σ] (rows : List (String × Metadata))
    (r : Registry π α φ σ) :
    (adoptMissing rows r).2 = rows.foldl (fun r row => r.adoptRow row) r := by
  induction rows generalizing r with
  | nil => rfl
  | cons row rest ih =>
    unfold adoptMissing
    rw [List.foldl_cons, adoptRow]
    split
    · exact ih r
    · exact ih (r.adopt row.2)

/-- The cached keys that a listing does not have. -/
def stale (r : Registry π α φ σ) (listing : Table String Metadata) : List String :=
  r.cache.keys.filter fun id => !listing.contains id

/-- A reconciliation that can read the store does not fail. -/
theorem reconcile_eq [BackingStore π] [Factory φ σ] {r : Registry π α φ σ}
    {listing : Table String Metadata} {s : Services π α φ σ}
    (hl : r.services.list = (.ok listing, s)) :
    r.reconcile = (.ok ⟨r.stale listing, (adoptMissing listing.rows
        ((r.stale listing).foldl (fun r id => r.forget id) { r with services := s })).1⟩,
      listing.rows.foldl (fun r row => r.adoptRow row)
        ((r.stale listing).foldl (fun r id => r.forget id) { r with services := s })) := by
  have hnd : (r.stale listing).Nodup := r.cache.nodup.sublist List.filter_sublist
  have hall : (r.stale listing).filter r.cache.contains = r.stale listing := by
    refine List.filter_eq_self.mpr fun id hid => ?_
    exact Table.contains_iff.mpr (List.mem_filter.mp hid).1
  have hdrop := dropStale_eq hnd { r with services := s }
  rw [hall] at hdrop
  unfold reconcile
  rw [hl]
  dsimp only
  rw [← stale, hdrop, ← adoptMissing_snd]

theorem reconcile_of_list [BackingStore π] [Factory φ σ] {r : Registry π α φ σ}
    {listing : Table String Metadata} {s : Services π α φ σ}
    (hl : r.services.list = (.ok listing, s)) :
    ∃ added, r.reconcile = (.ok ⟨r.stale listing, added⟩,
      listing.rows.foldl (fun r row => r.adoptRow row)
        ((r.stale listing).foldl (fun r id => r.forget id) { r with services := s })) :=
  ⟨_, reconcile_eq hl⟩

theorem reconcile_cases [BackingStore π] [Factory φ σ] (r : Registry π α φ σ) :
    (∃ why s, r.services.list = (.error why, s)
      ∧ r.reconcile = (.error (.backend "Could not read subscriptions from the backing store"
        why), { r with services := s }))
    ∨ ∃ listing s, r.services.list = (.ok listing, s)
      ∧ ∃ added, r.reconcile = (.ok ⟨r.stale listing, added⟩,
        listing.rows.foldl (fun r row => r.adoptRow row)
          ((r.stale listing).foldl (fun r id => r.forget id) { r with services := s })) := by
  rcases hlist : r.services.list with ⟨why | listing, s⟩
  · refine Or.inl ⟨why, s, rfl, ?_⟩
    unfold reconcile
    rw [hlist]
  · exact Or.inr ⟨listing, s, rfl, reconcile_of_list hlist⟩

end

/-- Whatever becomes of it, flushing only writes. -/
theorem flush_snd [BackingStore π] (r : Registry π α φ σ) :
    r.flush.2 = { r with services :=
      (Writer.runEach Metadata.id Writer.write (r.cache.values.map (·.metadata)) r.services).2 }
    := by
  have hs : (r.cache.flush r.services).2 = (Writer.runEach Metadata.id Writer.write
      (r.cache.values.map (·.metadata)) r.services).2 := rfl
  unfold flush
  rw [← hs]
  rcases r.cache.flush r.services with ⟨_ | _, s⟩ <;> rfl

/-- Flushing succeeds if all writes do. -/
theorem flush_eq_ok_iff [BackingStore π] {r : Registry π α φ σ} : r.flush.1 = .ok ()
    ↔ (Writer.runEach Metadata.id Writer.write (r.cache.values.map (·.metadata)) r.services).1
      = [] := by
  have houtcome : (r.cache.flush r.services).1 = Writer.batchOutcome
      (r.cache.values.map (·.metadata)).length (Writer.runEach Metadata.id Writer.write
        (r.cache.values.map (·.metadata)) r.services).1 := rfl
  unfold flush
  rcases hflush : r.cache.flush r.services with ⟨outcome, s⟩
  rw [hflush] at houtcome
  obtain rfl : outcome = _ := houtcome
  unfold Writer.batchOutcome
  cases (Writer.runEach Metadata.id Writer.write (r.cache.values.map (·.metadata)) r.services).1 <;>
    simp

end Registry
end SubscriptionRegistry
