/-
# Types that come and go

Withdrawing the factory of a type sends all subscriptions of that type to sleep, whoever
registered them, and binding another factory for it wakes them with objects of that factory.
Nothing else is touched by either: ids and metadata stay cached, the store is not asked, and the
subscriptions and factories of other types are what they were.

The factories need not be steady: what is said is that an object was built for its entry by the
factory that was bound, in whatever state the factory was by then.  The journal has that call.

* `Registry.Retired`, `Registry.retired_unbind`: a type without its factory.
* `Entry.Attempted`, `Registry.exists_attempt`: a round tries every entry that it finds asleep.
* `Registry.Staffed`, `Registry.staffed_bind`: a type with another factory.
* `Registry.restored_unbind`: binding and withdrawing a factory leaves nothing behind.
* `Registry.Run.rebinds`: all of this, in every run.
-/
import SubscriptionRegistry.Proofs.Revival
import SubscriptionRegistry.Proofs.Update

namespace SubscriptionRegistry

variable {π α φ σ : Type} [Activator α σ] [Tracked α σ] [Factory φ σ]

/-! ## 1. A type without its factory -/

namespace Entry

omit [Activator α σ] [Tracked α σ] [Factory φ σ]

/-- The entry, dormant if it is of a type. -/
def retire (kind : String) (e : Entry σ) : Entry σ :=
  if e.isKind kind then .dormant e.metadata else e

variable {kind : String} {e : Entry σ}

theorem retire_of_isKind (h : e.isKind kind) : e.retire kind = .dormant e.metadata := if_pos h

theorem retire_of_other (h : e.isKind kind = false) : e.retire kind = e :=
  if_neg (Bool.eq_false_iff.mp h)

/-- What is asleep stays as it is. -/
theorem retire_eq_self (h : e.isKind kind → e.handle = none) : e.retire kind = e := by
  cases hkind : e.isKind kind with
  | false => exact retire_of_other hkind
  | true => rw [retire_of_isKind hkind, dormant, ← h hkind]

theorem handle_retire (h : (e.retire kind).isKind kind) : (e.retire kind).handle = none := by
  cases hkind : e.isKind kind with
  | false =>
    rw [retire_of_other hkind, hkind] at h
    cases h
  | true => rw [retire_of_isKind hkind, dormant]

end Entry

namespace Registry

/-- The factory of a type was withdrawn. -/
structure Retired (kind : String) (r r' : Registry π α φ σ) : Prop where
  /-- Entries of the type are dormant, whoever registered them, and the others are what they were,
  with their handles. -/
  entries : ∀ id, r'.cache.get? id = (r.cache.get? id).map (Entry.retire kind)
  metadata : r'.cache.metadata = r.cache.metadata
  factories : ∀ key, r'.factories.get? key = if key = kind then none else r.factories.get? key
  /-- The store was not asked. -/
  store : r'.services.store = r.services.store
  /-- One call for each entry of the type that was live, and no other. -/
  calls : r'.services.journal
    = r.services.journal ++ Entry.releases (r.cache.values.filter fun e => e.isKind kind)
  /-- Nothing was ever released twice. -/
  once : (Journal.released r'.services.journal).Nodup
  inactive : ∀ id e, r.cache.get? id = some e → e.isKind kind → r'.registrations id = []
  /-- Other registrations are what they were. -/
  others : ∀ id, (∀ e, r.cache.get? id = some e → e.isKind kind = false) →
    r'.registrations id = r.registrations id
  absent : ∀ i : Identifier, i.kind = kind → i.validate = .ok () → r'.get i = .ok none
  /-- In particular that is so for all that is cached of the type. -/
  asleep : ∀ id e, r.cache.get? id = some e → e.isKind kind → r'.get ⟨id, kind⟩ = .ok none

variable {r : Registry π α φ σ}

omit [Tracked α σ] in
/-- With its factory a type can be retired. -/
theorem unbind_of_bound {f g : φ} (hbound : r.factories.get? (Factory.kind f) = some g) :
    r.unbind (some f) = (.ok (),
      ⟨(r.cache.visit (releaseEntry fun e => e.isKind (Factory.kind f)) r.services).2.1,
        ⟨r.factories.bound.erase (Factory.kind f)⟩,
        (r.cache.visit (releaseEntry fun e => e.isKind (Factory.kind f)) r.services).2.2⟩) := by
  rcases unbind_cases (some f) r with ⟨hnone, -⟩ | ⟨f', hf, hfree, -⟩ | ⟨f', g', hf, -, hout⟩
  · cases hnone
  · cases hf
    rw [hbound] at hfree
    cases hfree
  · cases hf
    exact hout

omit [Activator α σ] [Tracked α σ] [Factory φ σ] in
/-- What is asleep is not found. -/
theorem get_of_asleep {i : Identifier} (hvalid : i.validate = .ok ())
    (hasleep : ∀ e, r.cache.get? i.id = some e → e.isKind i.kind → e.handle = none) :
    r.get i = .ok none := by
  unfold get
  rw [hvalid]
  dsimp only
  cases he : r.cache.get? i.id with
  | none => rfl
  | some e =>
    refine if_pos ?_
    cases hkind : e.isKind i.kind with
    | false => rfl
    | true =>
      rw [Entry.isDormant, hasleep e he hkind]
      rfl

omit [Factory φ σ] in
/-- What is cached stands under its id and can be asked for. -/
theorem Owned.of_get? (h : r.Owned) {id : String} {e : Entry σ} (he : r.cache.get? id = some e) :
    e.id = id ∧ (⟨id, e.metadata.kind⟩ : Identifier).validate = .ok () := by
  obtain ⟨hid, hkind, -, -, hne, -⟩ := h.kept id e.metadata (by rw [Cache.get?_metadata, he]; rfl)
  exact ⟨hid, Identifier.validate_eq_ok_iff.mpr ⟨hid ▸ hne, hkind⟩⟩

section

variable {kind : String} {r' : Registry π α φ σ} (h : r.Owned)
  (hentries : ∀ id, r'.cache.get? id = (r.cache.get? id).map (Entry.retire kind))
include h hentries

omit [Factory φ σ] in
theorem registrations_of_asleep (h' : r'.Owned) (hn : r.services.active.issued < UInt64.size)
    (hn' : r'.services.active.issued < UInt64.size) (id : String) :
    (∀ e, r.cache.get? id = some e → e.isKind kind → r'.registrations id = [])
      ∧ ((∀ e, r.cache.get? id = some e → e.isKind kind = false) →
        r'.registrations id = r.registrations id) := by
  rw [h'.registrations_eq hn', h.registrations_eq hn, hentries]
  refine ⟨fun e he hkind => ?_, fun hother => ?_⟩
  · rw [he, Option.map_some, Option.map_some, Entry.retire_of_isKind hkind]
    rfl
  · cases he : r.cache.get? id with
    | none => rfl
    | some e => rw [Option.map_some, Entry.retire_of_other (hother e he)]

omit [Activator α σ] [Tracked α σ] [Factory φ σ] h in
theorem absent_of_asleep {i : Identifier} (hkind : i.kind = kind) (hvalid : i.validate = .ok ()) :
    r'.get i = .ok none := by
  subst hkind
  refine get_of_asleep hvalid fun e he htype => ?_
  rw [hentries] at he
  obtain ⟨old, -, rfl⟩ := Option.map_eq_some_iff.mp he
  exact Entry.handle_retire htype

end

/-- **Withdrawing a factory** does not fail and retires its type. -/
theorem retired_unbind (h : r.Owned) (hn : r.services.active.issued < UInt64.size) {f g : φ}
    (hbound : r.factories.get? (Factory.kind f) = some g) :
    (r.unbind (some f)).1 = .ok () ∧ r.Retired (Factory.kind f) (r.unbind (some f)).2 := by
  have howned := h.unbind (some f)
  have hmetadata := metadata_unbind (some f) r
  have hout := unbind_of_bound hbound
  have hentries : ∀ id, (r.unbind (some f)).2.cache.get? id
      = (r.cache.get? id).map (Entry.retire (Factory.kind f)) := by
    intro id
    rw [hout, ← Table.get?_map]
    exact congrArg (Table.get? · id) (cache_release _ r.cache r.services)
  have hissued : (r.unbind (some f)).2.services.active.issued = r.services.active.issued := by
    rw [hout]
    exact issued_release _ r.cache r.services
  have hn' := hissued.symm ▸ hn
  have hregistrations := registrations_of_asleep h hentries howned hn hn'
  refine ⟨by rw [hout], ?_⟩
  constructor
  case entries => exact hentries
  case metadata => exact hmetadata
  case factories =>
    intro key
    rw [hout]
    exact Table.get?_erase
  case store =>
    exact unbind_stable (Services.store_locallyStable r.services.store) (some f) rfl
  case calls =>
    rw [hout]
    exact journal_release _ r.cache r.services
  case once => exact (howned.owns hn').books.disciplined.once
  case inactive => exact fun id => (hregistrations id).1
  case others => exact fun id => (hregistrations id).2
  case absent => exact fun i => absent_of_asleep hentries
  case asleep =>
    intro id e he hkind
    have hvalid := (h.of_get? he).2
    rw [of_decide_eq_true hkind] at hvalid
    exact absent_of_asleep hentries rfl hvalid

end Registry

/-! ## 2. What a round tries -/

omit [Tracked α σ] in
/-- An activator is used by what is done locally, and by nothing else. -/
theorem Services.becomes_locallyStable (a : α) :
    Services.LocallyStable fun s : Services π α φ σ => Activator.Becomes a s.activator where
  activate object properties _ hs := hs.activate object properties
  deactivate id _ hs := hs.deactivate id
  build _ _ _ hs := hs

/-- An attempt at an entry comes to what is yielded. -/
theorem Entry.handle_attempt {refuses : String → Bool} {e : Entry σ} (he : e.handle = none)
    {f : φ} (hkind : Factory.kind f = e.metadata.kind) {s : Services π α φ σ}
    (hsteady : Activator.Steady refuses s.activator) (key : String) :
    (e.attempt key f s).handle.map (·.object) = e.yield refuses f := by
  have hwoken := (registerWith_handle he hkind key s).1.symm.trans
    (registerWith_yield he hkind hsteady).2.1
  have hhandle : (e.attempt key f s).handle = (e.wake _ _).handle := congrArg Entry.handle hwoken
  rw [hhandle]
  cases e.yield refuses f with
  | none => exact congrArg (Option.map (·.object)) he
  | some object => rfl

omit [Activator α σ] [Tracked α σ] [Factory φ σ] in
/-- What an entry holds after an attempt was built in it. -/
theorem Attempt.built_of_handle {a : Attempt φ σ} {h : Handle σ} (hh : a.handle = some h) :
    a.built = some h.object := by
  obtain ⟨object, hbuilt, hgranted⟩ := Option.bind_eq_some_iff.mp hh
  obtain ⟨_, -, rfl⟩ := Option.map_eq_some_iff.mp hgranted
  exact hbuilt

namespace Registry

variable {refuses : String → Bool} {test : Entry σ → Bool}

/-- **What a round tries** is an entry that passes its test, with what the factory of its type has
become, and comes to what is yielded. -/
theorem attempted_of_mem {rows : List (String × Entry σ)} {round : Round π α φ σ}
    (hfiled : round.factories.Filed) (hsteady : Activator.Steady refuses round.services.activator)
    {a : Attempt φ σ} (ha : a ∈ attemptsIn test rows round) :
    test a.entry ∧ (∃ f, round.factories.get? a.entry.metadata.kind = some f
      ∧ Factory.Becomes f a.factory)
      ∧ a.handle.map (·.object) = a.entry.yield refuses a.factory := by
  induction rows generalizing round with
  | nil => cases ha
  | cons row rest ih =>
    obtain ⟨key, e⟩ := row
    rw [attemptsIn, List.mem_append] at ha
    rcases ha with ha | ha
    · unfold attemptOn at ha
      split at ha
      · rename_i htest
        simp only [Bool.and_eq_true, Entry.isDormant, Option.isNone_iff_eq_none] at htest
        split at ha
        · cases ha
        · rename_i f hf
          rw [List.mem_singleton] at ha
          subst ha
          rw [Entry.entry_attempt, Entry.factory_attempt]
          exact ⟨htest.2, ⟨f, hf, .refl⟩,
            Entry.handle_attempt htest.1 (hfiled _ f hf) hsteady key⟩
      · cases ha
    · have hbecome := become_activateEntry test e hfiled
      have hused := activateEntry_stable
        (Services.becomes_locallyStable round.services.activator) test e .refl
      obtain ⟨htest, ⟨f, hf, hbecomes⟩, hhandle⟩ :=
        ih (hfiled.of_become hbecome) (hsteady.becomes hused) ha
      obtain ⟨g, hg, hgf⟩ := hbecome _ f hf
      exact ⟨htest, ⟨g, hg, hgf.trans hbecomes⟩, hhandle⟩

omit [Tracked α σ] in
/-- A round takes no factory away. -/
theorem isSome_activateEntry {kind : String} (e : Entry σ) {round : Round π α φ σ}
    (h : (round.factories.get? kind).isSome) :
    ((activateEntry test e round).2.2.factories.get? kind).isSome := by
  rcases activateEntry_cases test "" e round with ⟨-, hout, -⟩ | ⟨f, failed, -, -, -, hout⟩
  · rw [hout]
    exact h
  · rw [hout, Factories.get?_update]
    split
    · rfl
    · exact h

omit [Tracked α σ] in
theorem exists_attempt_rows {rows : List (String × Entry σ)} {round : Round π α φ σ}
    (hfiled : round.factories.Filed) {key : String} {e : Entry σ} (hrow : (key, e) ∈ rows)
    (he : e.handle = none) (htest : test e) (hbound : (round.factories.get? e.metadata.kind).isSome) :
    ∃ a ∈ attemptsIn test rows round, a.entry = e
      ∧ (key, ⟨e.metadata, a.handle⟩) ∈ (Table.visitRows (activateEntry test) rows round).2.1 := by
  induction rows generalizing round with
  | nil => cases hrow
  | cons row rest ih =>
    obtain ⟨key', e'⟩ := row
    rw [Table.visitRows_cons_of_ok (activateEntry_eq_ok test e' round), attemptsIn]
    rcases List.mem_cons.mp hrow with heq | hrow
    · cases heq
      rcases activateEntry_cases test key e round with ⟨-, -, hnone⟩ | ⟨f, failed, -, hf, hone, hout⟩
      · rw [hnone he htest] at hbound
        cases hbound
      · have hleft := (Entry.registerWith_handle he (hfiled _ f hf) key round.services).1
        rw [hone, hout]
        refine ⟨_, List.mem_append_left _ List.mem_cons_self, Entry.entry_attempt .., ?_⟩
        rw [hleft]
        exact List.mem_cons_self
    · obtain ⟨a, ha, hentry, hmem⟩ :=
        ih (hfiled.of_become (become_activateEntry test e' hfiled)) hrow
          (isSome_activateEntry e' hbound)
      exact ⟨a, List.mem_append_right _ ha, hentry, List.mem_cons_of_mem _ hmem⟩

omit [Tracked α σ] in
/-- **A round tries every entry** that passes its test and has a factory, and leaves it with what
came of that. -/
theorem exists_attempt (test : Entry σ → Bool) {r : Registry π α φ σ} (hfiled : r.factories.Filed)
    {id : String} {e : Entry σ} (he : r.cache.get? id = some e) (hd : e.handle = none)
    (htest : test e) (hbound : (r.factories.get? e.metadata.kind).isSome) :
    ∃ a ∈ r.attemptsDormant test, a.entry = e
      ∧ (r.activateDormant test).2.cache.get? id = some ⟨e.metadata, a.handle⟩ := by
  have hrow := Table.get?_eq_some_iff.mp he
  let round : Round π α φ σ := ⟨[], r.factories, r.services⟩
  have hround : round.factories.Filed := hfiled
  obtain ⟨a, ha, hentry, hmem⟩ := exists_attempt_rows hround hrow hd htest hbound
  exact ⟨a, ha, hentry, Table.get?_eq_some_iff.mpr hmem⟩

end Registry

/-! ## 3. A type with another factory -/

/-- A factory that builds whatever it is asked for of its type, however often. -/
def Factory.Generous (f : φ) : Prop :=
  ∀ g, Factory.Becomes f g → ∀ m : Metadata, m.kind = Factory.kind f → (Factory.build m g).1 ≠ none

/-- An activator that refuses nobody, however often it is asked. -/
def Activator.Willing (a : α) : Prop := Activator.Steady (fun _ => false) a

namespace Registry

variable [BackingStore π] {r : Registry π α φ σ}

/-- A factory was bound for a type, and all subscriptions of the type are live. -/
structure Staffed (f : φ) (r r' : Registry π α φ σ) : Prop where
  /-- An entry of the type holds what the factory built for it in this round, under one
  activation, and that is found. -/
  entries : ∀ id e, r.cache.get? id = some e → e.isKind (Factory.kind f) →
    ∃ g object a, Factory.Becomes f g
      ∧ .build g e.metadata (some object) ∈ r.calls (.bind (some f))
      ∧ r'.cache.get? id = some ⟨e.metadata, some ⟨object, a⟩⟩
      ∧ r'.registrations id = [(a, ⟨object, e.properties⟩)]
      ∧ r'.get ⟨id, Factory.kind f⟩ = .ok (some object)
  /-- Others are what they were, with their handles. -/
  others : ∀ id, (∀ e, r.cache.get? id = some e → e.isKind (Factory.kind f) = false) →
    r'.cache.get? id = r.cache.get? id ∧ r'.registrations id = r.registrations id
  metadata : r'.cache.metadata = r.cache.metadata
  factories : (∃ g, r'.factories.get? (Factory.kind f) = some g ∧ Factory.Becomes f g)
    ∧ ∀ key, key ≠ Factory.kind f → r'.factories.get? key = r.factories.get? key
  store : r'.services.store = r.services.store

omit [Tracked α σ] in
/-- A free type gets a factory. -/
theorem bind_of_free {f : φ} (hfree : r.factories.get? (Factory.kind f) = none) :
    r.bind (some f) = activateDormant (fun e => e.isKind (Factory.kind f))
        { r with factories := r.factories.update (Factory.kind f) f }
      ∧ r.attempts (.bind (some f)) = attemptsDormant (fun e => e.isKind (Factory.kind f))
        { r with factories := r.factories.update (Factory.kind f) f } := by
  have hcontains : r.factories.contains (Factory.kind f) = false := by
    rw [Factories.contains, Table.contains, ← Factories.get?, hfree]
    rfl
  exact ⟨bind_of_not_contains hcontains,
    by rw [attempts, if_neg (by rw [hcontains]; exact Bool.false_ne_true)]⟩

variable {f : φ}

omit [BackingStore π] in
/-- A generous factory and a willing activator leave nothing of the type asleep. -/
theorem handle_of_generous (hfiled : r.factories.Filed) (hgenerous : Factory.Generous f)
    (hwilling : Activator.Willing r.services.activator) {a : Attempt φ σ}
    (ha : a ∈ attemptsDormant (fun e => e.isKind (Factory.kind f))
      { r with factories := r.factories.update (Factory.kind f) f }) :
    Factory.Becomes f a.factory ∧ ∃ h, a.handle = some h := by
  have hsteady : Activator.Steady (fun _ => false) r.services.activator := hwilling
  obtain ⟨htest, ⟨g, hg, hbecomes⟩, hhandle⟩ := attempted_of_mem (hfiled.update f) hsteady ha
  rw [of_decide_eq_true htest, Factories.get?_update, if_pos rfl] at hg
  cases hg
  refine ⟨hbecomes, ?_⟩
  rw [Entry.yield, if_neg Bool.false_ne_true] at hhandle
  cases hbuilt : (Factory.build a.entry.metadata a.factory).1 with
  | none => exact absurd hbuilt (hgenerous _ hbecomes _ (of_decide_eq_true htest))
  | some object =>
    rw [hbuilt] at hhandle
    obtain ⟨h, hh, -⟩ := Option.map_eq_some_iff.mp hhandle
    exact ⟨h, hh⟩

omit [Tracked α σ] in
/-- The calls of a bind are those of its attempts. -/
theorem calls_bind_of_free (hfiled : r.factories.Filed)
    (hfree : r.factories.get? (Factory.kind f) = none) :
    r.calls (.bind (some f)) = (attemptsDormant (fun e => e.isKind (Factory.kind f))
      { r with factories := r.factories.update (Factory.kind f) f }).flatMap Attempt.calls := by
  refine calls_eq ?_
  rw [Registry.perform, (bind_of_free hfree).1]
  exact journal_activateDormant _ _ (hfiled.update f)

theorem bind_eq_ok (hfiled : r.factories.Filed)
    (hfree : r.factories.get? (Factory.kind f) = none) (hgenerous : Factory.Generous f)
    (hwilling : Activator.Willing r.services.activator) : (r.bind (some f)).1 = .ok () := by
  rw [(bind_of_free hfree).1, activateDormant_fst _ _ (hfiled.update f),
    activationOutcome_eq_ok_iff, Attempt.failed, List.map_eq_nil_iff, List.filter_eq_nil_iff]
  intro a ha hnone
  obtain ⟨-, h, hh⟩ := handle_of_generous hfiled hgenerous hwilling ha
  rw [hh] at hnone
  cases hnone

/-- An entry that is asleep is woken by the factory. -/
theorem woken_bind (hfiled : r.factories.Filed)
    (hfree : r.factories.get? (Factory.kind f) = none) (hgenerous : Factory.Generous f)
    (hwilling : Activator.Willing r.services.activator) {id : String} {e : Entry σ}
    (he : r.cache.get? id = some e) (hkind : e.isKind (Factory.kind f)) (hd : e.handle = none) :
    ∃ g h, Factory.Becomes f g ∧ .build g e.metadata (some h.object) ∈ r.calls (.bind (some f))
      ∧ (r.bind (some f)).2.cache.get? id = some ⟨e.metadata, some h⟩ := by
  have hbound : ((r.factories.update (Factory.kind f) f).get? e.metadata.kind).isSome := by
    rw [of_decide_eq_true hkind, Factories.get?_update, if_pos rfl]
    rfl
  obtain ⟨a, ha, rfl, hwoken⟩ := exists_attempt (fun e => e.isKind (Factory.kind f))
    (r := { r with factories := r.factories.update (Factory.kind f) f }) (hfiled.update f) he hd
    hkind hbound
  obtain ⟨hbecomes, h, hh⟩ := handle_of_generous hfiled hgenerous hwilling ha
  refine ⟨a.factory, h, hbecomes, ?_, ?_⟩
  · rw [calls_bind_of_free hfiled hfree]
    refine List.mem_flatMap_of_mem ha ?_
    rw [← Attempt.built_of_handle hh]
    exact List.mem_cons_self
  · rw [(bind_of_free hfree).1, hwoken, hh]

omit [Tracked α σ] in
/-- The factory of a type is the one that was bound, at most used. -/
theorem factories_bind (hfiled : r.factories.Filed)
    (hfree : r.factories.get? (Factory.kind f) = none) :
    (∃ g, (r.bind (some f)).2.factories.get? (Factory.kind f) = some g ∧ Factory.Becomes f g)
      ∧ ∀ key, key ≠ Factory.kind f →
        (r.bind (some f)).2.factories.get? key = r.factories.get? key := by
  rw [(bind_of_free hfree).1]
  have hstart : (r.factories.update (Factory.kind f) f).get? (Factory.kind f) = some f := by
    rw [Factories.get?_update, if_pos rfl]
  have hsome : ((activateDormant (fun e => e.isKind (Factory.kind f))
      { r with factories := r.factories.update (Factory.kind f) f }).2.factories.get?
        (Factory.kind f)).isSome :=
    Table.visit_snd (P := fun round : Round π α φ σ =>
      (round.factories.get? (Factory.kind f)).isSome)
      (fun e _ h => isSome_activateEntry e h) r.cache (by rw [hstart]; rfl)
  refine ⟨?_, fun key hne => ?_⟩
  · obtain ⟨g, hg⟩ := Option.isSome_iff_exists.mp hsome
    obtain ⟨f', hf', hbecomes⟩ := become_activateDormant _ _ (hfiled.update f) _ g hg
    rw [hstart] at hf'
    cases hf'
    exact ⟨g, hg, hbecomes⟩
  · have htest : ∀ e : Entry σ, e.isKind (Factory.kind f) = true →
        e.metadata.kind = Factory.kind f := fun e he => of_decide_eq_true he
    rw [get?_factories_activateDormant htest hne, Factories.get?_update, if_neg hne]

/-- **Binding a factory** for a type that is asleep wakes all of it. -/
theorem staffed_bind (h : r.Owned) (hfiled : r.factories.Filed)
    (hfree : r.factories.get? (Factory.kind f) = none)
    (hasleep : ∀ id e, r.cache.get? id = some e → e.isKind (Factory.kind f) → e.handle = none)
    (hgenerous : Factory.Generous f) (hwilling : Activator.Willing r.services.activator)
    (hn : (r.bind (some f)).2.services.active.issued < UInt64.size) :
    (r.bind (some f)).1 = .ok () ∧ r.Staffed f (r.bind (some f)).2 := by
  have howned := h.bind (some f)
  have hle : r.services.active.issued ≤ (r.bind (some f)).2.services.active.issued :=
    bind_stable (issued_stable _).toLocallyStable (some f) (Nat.le_refl _)
  have hheld := howned.registrations_eq hn
  refine ⟨bind_eq_ok hfiled hfree hgenerous hwilling, ?_⟩
  constructor
  case entries =>
    intro id e he hkind
    obtain ⟨g, hd, hbecomes, hcall, hget⟩ :=
      woken_bind hfiled hfree hgenerous hwilling he hkind (hasleep id e he hkind)
    refine ⟨g, hd.object, hd.activation, hbecomes, hcall, hget, ?_, ?_⟩
    · rw [hheld, hget]
      rfl
    · obtain ⟨hid_ne, hkind_ne⟩ := Identifier.validate_eq_ok_iff.mp (h.of_get? he).2
      rw [of_decide_eq_true hkind] at hkind_ne
      exact get_eq_ok_some_iff.mpr
        ⟨_, hd, ⟨hid_ne, hkind_ne, hget, of_decide_eq_true hkind, rfl⟩, rfl⟩
  case others =>
    intro id hother
    have hget : (r.bind (some f)).2.cache.get? id = r.cache.get? id := by
      rw [(bind_of_free hfree).1]
      exact get?_activateDormant_of_spared fun e he => .inr (hother e he)
    refine ⟨hget, ?_⟩
    rw [hheld, h.registrations_eq (Nat.lt_of_le_of_lt hle hn), hget]
  case metadata => exact metadata_bind (some f) r
  case factories => exact factories_bind hfiled hfree
  case store =>
    exact bind_stable (Services.store_locallyStable r.services.store) (some f) rfl

/-! ## 4. There and back -/

/-- Cache, factories and stored rows are what they were, and so are the live registrations, up to
the order in which the activator has them. -/
structure AsBefore (r r' : Registry π α φ σ) : Prop where
  cache : r'.cache = r.cache
  factories : r'.factories = r.factories
  store : r'.services.store = r.services.store
  live : r'.services.active.live.rows.Perm r.services.active.live.rows

omit [Tracked α σ] in
/-- Retiring a type undoes what a round for the type did to the cache. -/
theorem cache_bind_retire (hfree : r.factories.get? (Factory.kind f) = none)
    (hasleep : ∀ id e, r.cache.get? id = some e → e.isKind (Factory.kind f) → e.handle = none) :
    (r.bind (some f)).2.cache.map (Entry.retire (Factory.kind f)) = r.cache := by
  rw [(bind_of_free hfree).1]
  calc (activateDormant (fun e => e.isKind (Factory.kind f))
        { r with factories := r.factories.update (Factory.kind f) f }).2.cache.map
          (Entry.retire (Factory.kind f))
      = r.cache.map (Entry.retire (Factory.kind f)) := by
        refine Table.map_visit (fun e round => ?_) r.cache _
        cases hkind : e.isKind (Factory.kind f) with
        | false => rw [activateEntry_of_spared (.inr hkind)]
        | true =>
          have hmetadata := metadata_activateEntry (fun e => e.isKind (Factory.kind f)) e round
          rw [Entry.retire, Entry.isKind, hmetadata, ← Entry.isKind, hkind, if_pos rfl,
            Entry.retire_of_isKind hkind]
    _ = r.cache := by
        refine Table.ext ((List.map_congr_left fun row hrow => ?_).trans (List.map_id _))
        exact Prod.ext rfl (Entry.retire_eq_self (hasleep _ _ (Table.get?_eq_some_iff.mpr hrow)))

omit [Tracked α σ] in
/-- Of the factories a round for a type uses only that of the type. -/
theorem erase_factories_bind (hfree : r.factories.get? (Factory.kind f) = none) :
    (r.bind (some f)).2.factories.bound.erase (Factory.kind f) = r.factories.bound := by
  rw [(bind_of_free hfree).1]
  refine Table.visit_snd (P := fun round : Round π α φ σ =>
    round.factories.bound.erase (Factory.kind f) = r.factories.bound) (fun e round h => ?_) r.cache
    (Table.erase_insert hfree)
  cases hkind : e.isKind (Factory.kind f) with
  | false =>
    rw [activateEntry_of_spared (.inr hkind)]
    exact h
  | true =>
    rcases activateEntry_cases (fun e => e.isKind (Factory.kind f)) "" e round with
      ⟨-, hout, -⟩ | ⟨g, failed, -, -, -, hout⟩
    · rw [hout]
      exact h
    · rw [hout, of_decide_eq_true hkind]
      exact Table.erase_insert_self.trans h

/-- **Binding a factory and withdrawing it** leaves everything as it was, whatever became of the
binding. -/
theorem asBefore_bind_unbind (h : r.Owned) (hfiled : r.factories.Filed)
    (hfree : r.factories.get? (Factory.kind f) = none)
    (hasleep : ∀ id e, r.cache.get? id = some e → e.isKind (Factory.kind f) → e.handle = none)
    {f' : φ} (hf' : Factory.kind f' = Factory.kind f)
    (hn : (r.bind (some f)).2.services.active.issued < UInt64.size) :
    ((r.bind (some f)).2.unbind (some f')).1 = .ok ()
      ∧ r.AsBefore ((r.bind (some f)).2.unbind (some f')).2 := by
  obtain ⟨⟨g, hg, -⟩, -⟩ := factories_bind hfiled hfree
  have hout := unbind_of_bound (hf' ▸ hg)
  rw [hf'] at hout
  have hcache : ((r.bind (some f)).2.unbind (some f')).2.cache = r.cache := by
    rw [hout]
    exact (cache_release _ _ _).trans (cache_bind_retire hfree hasleep)
  have hissued : ((r.bind (some f)).2.unbind (some f')).2.services.active.issued
      = (r.bind (some f)).2.services.active.issued := by
    rw [hout]
    exact issued_release _ _ _
  have hle : r.services.active.issued ≤ (r.bind (some f)).2.services.active.issued :=
    bind_stable (issued_stable _).toLocallyStable (some f) (Nat.le_refl _)
  refine ⟨by rw [hout], hcache, ?_, ?_, ?_⟩
  · rw [hout]
    exact congrArg Factories.mk (erase_factories_bind hfree)
  · have hstable := Services.store_locallyStable (φ := φ) (σ := σ) (α := α) r.services.store
    exact unbind_stable hstable (some f') (bind_stable hstable (some f) rfl)
  · have hafter := (((h.bind (some f)).unbind (some f')).owns (hissued ▸ hn)).holds
    rw [hcache] at hafter
    exact hafter.trans (h.owns (Nat.lt_of_le_of_lt hle hn)).holds.symm

/-! ## 5. Runs -/

/-- **A type can be withdrawn and bound again, in every run.**  Withdrawing its factory sends all of
it to sleep, and another factory wakes all of it with what it builds, if it builds everything and
nobody is refused.  The other way round, a factory that is bound for a type without live
subscriptions and withdrawn again leaves everything as it was, whatever it built. -/
theorem Run.rebinds {s : Services π α φ σ} (hlive : s.active.live.rows = [])
    (hjournal : s.journal = []) (hrun : Orderly s r)
    (hn : r.services.active.issued < UInt64.size) (f : φ) :
    (∀ g, r.factories.get? (Factory.kind f) = some g →
      (r.unbind (some f)).1 = .ok () ∧ r.Retired (Factory.kind f) (r.unbind (some f)).2
      ∧ ∀ f' : φ, Factory.kind f' = Factory.kind f → Factory.Generous f' →
        Activator.Willing (r.unbind (some f)).2.services.activator →
        ((r.unbind (some f)).2.bind (some f')).2.services.active.issued < UInt64.size →
          ((r.unbind (some f)).2.bind (some f')).1 = .ok ()
            ∧ (r.unbind (some f)).2.Staffed f' ((r.unbind (some f)).2.bind (some f')).2)
    ∧ (r.factories.get? (Factory.kind f) = none →
      (∀ id e, r.cache.get? id = some e → e.isKind (Factory.kind f) → e.handle = none) →
      ∀ f' : φ, Factory.kind f' = Factory.kind f →
        (r.bind (some f)).2.services.active.issued < UInt64.size →
          ((r.bind (some f)).2.unbind (some f')).1 = .ok ()
            ∧ r.AsBefore ((r.bind (some f)).2.unbind (some f')).2) := by
  have howned := hrun.owned hlive hjournal
  have hfiled := Run.filed hrun
  refine ⟨fun g hbound => ?_, fun hfree hasleep f' hf' hn' =>
    asBefore_bind_unbind howned hfiled hfree hasleep hf' hn'⟩
  obtain ⟨hok, hretired⟩ := retired_unbind howned hn hbound
  refine ⟨hok, hretired, fun f' hf' hgenerous hwilling hn' => ?_⟩
  refine staffed_bind (howned.unbind (some f)) ?_ ?_ ?_ hgenerous hwilling hn'
  · intro kind g' hg'
    rw [hretired.factories] at hg'
    split at hg'
    · cases hg'
    · exact hfiled kind g' hg'
  · rw [hretired.factories, hf', if_pos rfl]
  · intro id e he hkind
    rw [hretired.entries] at he
    obtain ⟨old, -, rfl⟩ := Option.map_eq_some_iff.mp he
    rw [hf'] at hkind
    exact Entry.handle_retire hkind

end Registry

namespace Demo

/-- Subscriptions of two types are stored. -/
def two : Services (StoreGate MemoryStore) (Gated (ActiveSet String)) EchoFactory String :=
  ⟨.opened (.ofList [stored, ⟨"u", "B", "h", "bus:/u"⟩]) .locked, ⟨.empty, fun _ => false⟩, []⟩

/-- All of them are live, and a caller brought along one more. -/
def staffed : Registry (StoreGate MemoryStore) (Gated (ActiveSet String)) EchoFactory String :=
  ((((Registry.new two).perform (.bind (some ⟨"A"⟩))).2.perform (.bind (some ⟨"B"⟩))).2.perform
    .init).2.perform (.insert "x" ⟨"g", "bus:/out"⟩ "A" 0) |>.2

theorem two_keyed
    {s : Services (StoreGate MemoryStore) (Gated (ActiveSet String)) EchoFactory String}
    (hs : s.store.inner.rows.rows = [("s", stored), ("u", ⟨"u", "B", "h", "bus:/u"⟩)]) :
    s.Keyed := by
  refine Services.keyed_of_stored fun {id m} hm => ?_
  have hget : s.store.inner.rows.get? id = some m := hm
  rw [Table.get?_eq_some_iff, hs] at hget
  rcases List.mem_cons.mp hget with h | h
  · cases h
    exact ⟨rfl, stored_valid⟩
  · cases List.mem_singleton.mp h
    exact ⟨rfl, by decide, by decide, by decide, by decide, rfl⟩

theorem staffed_run : Registry.Orderly two staffed :=
  .step (.step (.step (.step .refl ⟨two_keyed rfl, trivial⟩) ⟨two_keyed rfl, trivial⟩)
    ⟨two_keyed rfl, trivial⟩) ⟨two_keyed rfl, by rfl⟩

theorem echo_generous (f : EchoFactory) : Factory.Generous f := fun _ _ _ _ h => by cases h

end Demo

/-- One type goes and comes again beside another, and a third comes and goes. -/
theorem Registry.Run.rebinds_demo :
    Demo.staffed.factories.get? "A" = some ⟨"A"⟩
      ∧ Demo.staffed.Retired "A" (Demo.staffed.unbind (some ⟨"A"⟩)).2
      ∧ (Demo.staffed.unbind (some ⟨"A"⟩)).2.Staffed ⟨"A"⟩
        ((Demo.staffed.unbind (some ⟨"A"⟩)).2.bind (some ⟨"A"⟩)).2
      ∧ Demo.staffed.AsBefore ((Demo.staffed.bind (some ⟨"C"⟩)).2.unbind (some ⟨"C"⟩)).2 := by
  have hbound : Demo.staffed.factories.get? "A" = some ⟨"A"⟩ := rfl
  obtain ⟨-, hretired, hrebind⟩ :=
    (Run.rebinds rfl rfl Demo.staffed_run (by decide) (⟨"A"⟩ : EchoFactory)).1 _ hbound
  have hrefuses : (Demo.staffed.unbind (some ⟨"A"⟩)).2.services.activator.refuses
      = fun _ => false := rfl
  have hwilling : Activator.Willing (Demo.staffed.unbind (some ⟨"A"⟩)).2.services.activator := by
    rw [Activator.Willing, ← hrefuses]
    exact Gated.steady _
  have hstaffed := (hrebind ⟨"A"⟩ rfl (Demo.echo_generous _) hwilling (by decide)).2
  have hother : ∀ id e, Demo.staffed.cache.get? id = some e → e.isKind "C" → e.handle = none := by
    intro id e he hkind
    have hnone : ∀ row ∈ Demo.staffed.cache.rows, row.2.isKind "C" = false := by decide
    rw [hnone _ (Table.get?_eq_some_iff.mp he)] at hkind
    cases hkind
  exact ⟨hbound, hretired, hstaffed,
    ((Run.rebinds rfl rfl Demo.staffed_run (by decide) (⟨"C"⟩ : EchoFactory)).2 rfl hother ⟨"C"⟩ rfl
      (by decide)).2⟩

end SubscriptionRegistry
