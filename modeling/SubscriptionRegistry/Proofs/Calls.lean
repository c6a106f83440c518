/-
# What operations call

An operation makes some calls, one after the other, and ends with an answer.  One relation lists
all its ends: which answer goes with which calls, and what registry is left.  Who wants to know
what an error means, or what became of an activation, reads it off there.

The relation is exact as long as every factory is bound for its own type, which is so in every
run.

* `Registry.calls`: the calls that an operation makes.
* `Attempt.handle`, `Attempt.failed`: what comes of attempts at activation.
* `Entry.releases`: the calls that release some entries.
* `Registry.Stores`, `Registry.Ends`: how an operation ends.
* `Registry.ends_perform`: that every operation ends so.
-/
import Mathlib.Data.List.Basic
import SubscriptionRegistry.Proofs.Dormancy

namespace SubscriptionRegistry

variable {π α φ σ : Type}

/-- What a call to the backing store failed with. -/
def Call.failure? : Call φ σ → Option StoreError
  | .insert _ failure | .delete _ failure | .list failure => failure
  | _ => none

/-- Whether it was a factory or the activator that was called, and not the store. -/
def Call.isLocal : Call φ σ → Bool
  | .build _ _ _ | .activate _ _ _ | .deactivate _ => true
  | _ => false

theorem Call.failure?_of_isLocal {call : Call φ σ} (h : call.isLocal) : call.failure? = none := by
  cases call <;> first | rfl | cases h

/-- The subscription that a factory or the activator was called for. -/
def Call.subject? : Call φ σ → Option String
  | .build _ m _ => some m.id
  | .activate _ properties _ => some properties.id
  | _ => none

/-! ## 1. The calls of an operation -/

namespace Registry

variable [BackingStore π] [Activator α σ] [Factory φ σ] {op : Operation φ σ}
  {r : Registry π α φ σ}

/-- The calls that an operation makes, in order. -/
def calls (op : Operation φ σ) (r : Registry π α φ σ) : List (Call φ σ) :=
  (r.perform op).2.services.journal.drop r.services.journal.length

theorem calls_eq {calls : List (Call φ σ)}
    (h : (r.perform op).2.services.journal = r.services.journal ++ calls) :
    r.calls op = calls := by
  rw [Registry.calls, h, List.drop_left]

/-- The journal grows by these calls. -/
theorem journal_perform (op : Operation φ σ) (r : Registry π α φ σ) :
    (r.perform op).2.services.journal = r.services.journal ++ r.calls op := by
  obtain ⟨calls, h⟩ :=
    perform_stable (Services.journal_stable r.services.journal) op List.prefix_rfl
  rw [calls_eq h.symm, h]

end Registry

/-! ## 2. What comes of attempts -/

namespace Attempt

/-- What the entry holds afterwards. -/
def handle (a : Attempt φ σ) : Option (Handle σ) :=
  a.built.bind fun object => a.granted.map fun activation => ⟨object, activation⟩

/-- The ids of the entries that stay dormant, one for each attempt in vain. -/
def failed (attempts : List (Attempt φ σ)) : List String :=
  (attempts.filter fun a => a.handle.isNone).map fun a => a.entry.id

theorem failed_append (first second : List (Attempt φ σ)) :
    failed (first ++ second) = failed first ++ failed second := by
  simp [failed]

theorem handle_eq_none_iff {a : Attempt φ σ} : a.handle = none ↔ a.InVain := by
  obtain ⟨key, e, f, _ | object, _ | activation⟩ := a <;>
    simp [handle, InVain, calls, Call.isInVain]

/-- What is reported belongs to an attempt in vain. -/
theorem mem_failed {attempts : List (Attempt φ σ)} {id : String} (h : id ∈ failed attempts) :
    ∃ a ∈ attempts, a.InVain ∧ a.entry.id = id := by
  obtain ⟨a, ha, rfl⟩ := List.mem_map.mp h
  obtain ⟨ha, hnone⟩ := List.mem_filter.mp ha
  exact ⟨a, ha, handle_eq_none_iff.mp (Option.isNone_iff_eq_none.mp hnone), rfl⟩

/-- All calls of an attempt are for its entry. -/
theorem subject?_of_mem_calls {a : Attempt φ σ} {call : Call φ σ} (h : call ∈ a.calls) :
    call.subject? = some a.entry.id := by
  unfold calls at h
  rcases List.mem_cons.mp h with rfl | h
  · rfl
  · split at h
    · cases h
    · rw [List.mem_singleton.mp h]
      rfl

/-- An attempt makes no call to the backing store. -/
theorem isLocal_of_mem_calls {a : Attempt φ σ} {call : Call φ σ} (h : call ∈ a.calls) :
    call.isLocal := by
  unfold calls at h
  rcases List.mem_cons.mp h with rfl | h
  · rfl
  · split at h
    · cases h
    · rw [List.mem_singleton.mp h]
      rfl

end Attempt

section

variable [Activator α σ] [Factory φ σ]

/-- What was built is what the factory builds. -/
theorem Entry.built_attempt (key : String) (e : Entry σ) (f : φ) (s : Services π α φ σ) :
    (e.attempt key f s).built = (Factory.build e.metadata f).1 := by
  unfold attempt
  split
  · rename_i hbuild
    exact (congrArg Prod.fst hbuild).symm
  · rename_i hbuild
    exact (congrArg Prod.fst hbuild).symm

/-- An attempt ends with the entry holding what came of it, and is a failure if that is
nothing. -/
theorem Entry.registerWith_handle {e : Entry σ} (he : e.handle = none) {f : φ}
    (hkind : Factory.kind f = e.metadata.kind) (key : String) (s : Services π α φ σ) :
    (e.registerWith f s).2.1 = ⟨e.metadata, (e.attempt key f s).handle⟩
      ∧ ((e.registerWith f s).1 = .ok () ↔ (e.attempt key f s).handle ≠ none) := by
  have hself : e = ⟨e.metadata, none⟩ := by rw [← he]
  unfold attempt
  rcases registerWith_cases he f s with ⟨hne, -⟩ | ⟨f', s', hbuild, hout⟩
    | ⟨object, f', s', s'', hbuild, hact, hout⟩ | ⟨object, a, f', s', s'', hbuild, hact, hout⟩
  · exact absurd hkind hne
  · rw [hout, hbuild]
    exact ⟨hself, by simp [Attempt.handle]⟩
  · rw [hout, hbuild]
    simp only [hact]
    exact ⟨hself, by simp [Attempt.handle]⟩
  · rw [hout, hbuild]
    simp only [hact]
    exact ⟨rfl, by simp [Attempt.handle]⟩

namespace Registry

theorem failed_activateEntry (test : Entry σ → Bool) (key : String) (e : Entry σ)
    {round : Round π α φ σ} (hfiled : round.factories.Filed) :
    (activateEntry test e round).2.2.failed
      = round.failed ++ Attempt.failed (attemptOn test key e round) := by
  unfold activateEntry attemptOn
  split
  · rename_i htest
    simp only [Bool.and_eq_true, Entry.isDormant, Option.isNone_iff_eq_none] at htest
    cases hf : round.factories.get? e.metadata.kind with
    | none => simp [Attempt.failed]
    | some f =>
      obtain ⟨-, hok⟩ :=
        Entry.registerWith_handle htest.1 (hfiled _ f hf) key round.services
      dsimp only
      cases houtcome : (e.registerWith f round.services).1 with
      | ok u => simp [Attempt.failed, hok.mp houtcome]
      | error why =>
        have hnone : (e.attempt key f round.services).handle = none := by
          by_contra hsome
          rw [hok.mpr hsome] at houtcome
          cases houtcome
        simp [Attempt.failed, hnone, Entry.entry_attempt]
  · simp [Attempt.failed]

theorem failed_visitRows (test : Entry σ → Bool) (rows : List (String × Entry σ))
    (round : Round π α φ σ) (hfiled : round.factories.Filed) :
    (Table.visitRows (activateEntry test) rows round).2.2.failed
      = round.failed ++ Attempt.failed (attemptsIn test rows round) := by
  induction rows generalizing round with
  | nil => simp [Table.visitRows, attemptsIn, Attempt.failed]
  | cons row rest ih =>
    obtain ⟨key, e⟩ := row
    have hfiled' := hfiled.of_become (become_activateEntry test e hfiled)
    rw [Table.visitRows_cons_of_ok (activateEntry_eq_ok test e round), attemptsIn,
      Attempt.failed_append, ← List.append_assoc, ← failed_activateEntry test key e hfiled]
    exact ih _ hfiled'

/-- **A round reports what it tried in vain**, and nothing else. -/
theorem activateDormant_fst (test : Entry σ → Bool) (r : Registry π α φ σ)
    (hfiled : r.factories.Filed) :
    (r.activateDormant test).1 = activationOutcome (Attempt.failed (r.attemptsDormant test)) := by
  have hfailed := failed_visitRows test r.cache.rows ⟨[], r.factories, r.services⟩ hfiled
  rw [List.nil_append] at hfailed
  rw [attemptsDormant, ← hfailed]
  rfl

end Registry

end

/-! ## 3. Releases -/

/-- The calls that release some entries, one for each that is live. -/
def Entry.releases (entries : List (Entry σ)) : List (Call φ σ) :=
  entries.filterMap fun e => e.handle.map fun h => .deactivate h.activation

theorem Entry.releases_append (first second : List (Entry σ)) :
    (releases (first ++ second) : List (Call φ σ)) = releases first ++ releases second :=
  List.filterMap_append

/-- A release makes no call to the backing store. -/
theorem Entry.isLocal_of_mem_releases {entries : List (Entry σ)} {call : Call φ σ}
    (h : call ∈ releases entries) : call.isLocal := by
  obtain ⟨e, -, hcall⟩ := List.mem_filterMap.mp h
  obtain ⟨a, -, rfl⟩ := Option.map_eq_some_iff.mp hcall
  rfl

namespace Registry

variable [Activator α σ]

theorem journal_releaseEntry (test : Entry σ → Bool) (e : Entry σ) (s : Services π α φ σ) :
    (releaseEntry test e s).2.2.journal
      = s.journal ++ Entry.releases (if test e then [e] else []) := by
  unfold releaseEntry
  cases hh : e.handle with
  | none => cases test e <;> simp [Entry.isRegistered, Entry.releases, hh]
  | some h =>
    rw [Entry.unregister_of_handle hh]
    cases test e <;> simp [Entry.isRegistered, Entry.releases, hh]

theorem journal_releaseRows (test : Entry σ → Bool) (rows : List (String × Entry σ))
    (s : Services π α φ σ) :
    (Table.visitRows (releaseEntry test) rows s).2.2.journal
      = s.journal ++ Entry.releases ((rows.map Prod.snd).filter test) := by
  induction rows generalizing s with
  | nil => simp [Table.visitRows, Entry.releases]
  | cons row rest ih =>
    obtain ⟨key, e⟩ := row
    have hok : releaseEntry test e s
        = (.ok (), (releaseEntry test e s).2.1, (releaseEntry test e s).2.2) := by
      rw [← releaseEntry_eq_ok test e s]
    have hfilter : (((key, e) :: rest).map Prod.snd).filter test
        = (if test e then [e] else []) ++ (rest.map Prod.snd).filter test := by
      cases htest : test e <;> simp [htest]
    rw [Table.visitRows_cons_of_ok hok, ih, journal_releaseEntry, hfilter, Entry.releases_append,
      List.append_assoc]

/-- Releasing what passes a test makes one call for each live entry that does. -/
theorem journal_release (test : Entry σ → Bool) (c : Cache σ) (s : Services π α φ σ) :
    (c.visit (releaseEntry test) s).2.2.journal
      = s.journal ++ Entry.releases (c.values.filter test) :=
  journal_releaseRows test c.rows s

theorem journal_forget (id : String) (r : Registry π α φ σ) :
    (r.forget id).services.journal
      = r.services.journal ++ Entry.releases (r.cache.get? id).toList := by
  unfold forget
  cases r.cache.get? id with
  | none => simp [Entry.releases]
  | some e =>
    cases hh : e.handle with
    | none => simp [Entry.unregister, Entry.releases, hh]
    | some h => simp [Entry.unregister_of_handle hh, Entry.releases, hh]

/-- Forgetting makes one call for each live entry that is forgotten. -/
theorem journal_forgetAll {ids : List String} (hids : ids.Nodup) (r : Registry π α φ σ) :
    (ids.foldl (fun r id => r.forget id) r).services.journal
      = r.services.journal ++ Entry.releases (ids.filterMap r.cache.get?) := by
  induction ids generalizing r with
  | nil => simp [Entry.releases]
  | cons id rest ih =>
    obtain ⟨hnot, hrest⟩ := List.nodup_cons.mp hids
    have hsame : rest.filterMap (r.forget id).cache.get? = rest.filterMap r.cache.get? := by
      refine List.filterMap_congr fun key hkey => get?_forget_of_ne ?_ r
      rintro rfl
      exact hnot hkey
    have hcons : (id :: rest).filterMap r.cache.get?
        = (r.cache.get? id).toList ++ rest.filterMap r.cache.get? := by
      cases hid : r.cache.get? id <;> simp [hid]
    rw [List.foldl_cons, ih hrest, hsame, journal_forget, hcons, Entry.releases_append,
      List.append_assoc]

end Registry

/-! ## 4. Batches -/

namespace Writer

variable [BackingStore π]

/-- The calls of a batch of writes, with what became of each. -/
def writes (written : List (Metadata × Option StoreError)) : List (Call φ σ) :=
  written.map fun w => .insert w.1 w.2

/-- What a batch of writes reports. -/
def failures (written : List (Metadata × Option StoreError)) : List (String × String) :=
  written.filterMap fun w => w.2.map fun why => (w.1.id, why.message)

/-- A batch writes everything, in order, and reports what failed with the text of the error. -/
theorem runEach_write (ms : List Metadata) (s : Services π α φ σ) :
    ∃ written, written.map Prod.fst = ms
      ∧ (runEach Metadata.id write ms s).1 = failures written
      ∧ (runEach Metadata.id write ms s).2.journal = s.journal ++ writes written := by
  induction ms generalizing s with
  | nil => exact ⟨[], rfl, rfl, (List.append_nil _).symm⟩
  | cons m rest ih =>
    rcases hins : s.insert m with ⟨why | _, s'⟩
    · obtain ⟨written, hms, hfailures, hjournal⟩ := ih s'
      refine ⟨(m, some why) :: written, by rw [List.map_cons, hms], ?_, ?_⟩
      · simp [runEach, write, hins, hfailures, failures]
      · simp [runEach, write, hins, hjournal, writes, Services.journal_of_insert hins, failureOf]
    · obtain ⟨written, hms, hfailures, hjournal⟩ := ih s'
      refine ⟨(m, none) :: written, by rw [List.map_cons, hms], ?_, ?_⟩
      · simp [runEach, write, hins, hfailures, failures]
      · simp [runEach, write, hins, hjournal, writes, Services.journal_of_insert hins, failureOf]

end Writer

/-! ## 5. How operations end -/

/-- The subscription that has to be there. -/
def Operation.target? : Operation φ σ → Option Identifier
  | .update _ _ i | .delete i => some i
  | _ => none

/-- Whether it is about one subscription, which the caller describes. -/
def Operation.isSingle : Operation φ σ → Bool
  | .insert _ _ _ _ | .update _ _ _ | .delete _ => true
  | _ => false

namespace Registry

/-- How storing a subscription ends that is activated first. -/
inductive Stores [BackingStore π] [Activator α σ] (m : Metadata) (object : σ)
    (r : Registry π α φ σ) :
    Except StoreError Unit → List (Call φ σ) → Registry π α φ σ → Prop
  | refused {s : Services π α φ σ}
      (hact : r.services.activate object ⟨m.id, m.callback⟩ = (none, s)) :
      Stores m object r (.error (.registration (.refused m.id)))
        [.activate object ⟨m.id, m.callback⟩ none] { r with services := s }
  /-- The activation is given up again. -/
  | unstored {a : ActivationId} {s s' : Services π α φ σ} {why : StoreError}
      (hact : r.services.activate object ⟨m.id, m.callback⟩ = (some a, s))
      (hins : s.insert m = (.error why, s')) :
      Stores m object r (.error (.backend "Problem writing to the cache" why))
        [.activate object ⟨m.id, m.callback⟩ (some a), .insert m (some why), .deactivate a]
        { r with services := s'.deactivate a }
  | stored {a : ActivationId} {s s' : Services π α φ σ}
      (hact : r.services.activate object ⟨m.id, m.callback⟩ = (some a, s))
      (hins : s.insert m = (.ok (), s')) :
      Stores m object r (.ok ())
        [.activate object ⟨m.id, m.callback⟩ (some a), .insert m none]
        ⟨r.cache.insert m.id ⟨m, some ⟨object, a⟩⟩, r.factories, s'⟩

theorem storeRegistered_stores [BackingStore π] [Activator α σ] (m : Metadata) (object : σ)
    (r : Registry π α φ σ) :
    ∃ calls, (r.storeRegistered m object).2.services.journal = r.services.journal ++ calls
      ∧ r.Stores m object (r.storeRegistered m object).1 calls
        (r.storeRegistered m object).2 := by
  rcases storeRegistered_cases m object r with
    ⟨s, hact, hout⟩ | ⟨a, s, why, s', hact, hins, hout⟩ | ⟨a, s, s', hact, hins, hout⟩
  · rw [hout]
    exact ⟨_, Services.journal_of_activate hact, .refused hact⟩
  · rw [hout]
    refine ⟨_, ?_, .unstored hact hins⟩
    simp [Services.journal_of_insert hins, Services.journal_of_activate hact, failureOf]
  · rw [hout]
    refine ⟨_, ?_, .stored hact hins⟩
    simp [Services.journal_of_insert hins, Services.journal_of_activate hact, failureOf]

variable [BackingStore π] [Activator α σ] [Factory φ σ]

/-- How an operation ends: with which answer, after which calls, and with which registry. -/
inductive Ends (r : Registry π α φ σ) :
    Operation φ σ → Except StoreError (Answer σ) → List (Call φ σ) → Registry π α φ σ → Prop
  | rejected {op : Operation φ σ} {why : StoreError} (hop : op.isSingle)
      (hwhy : why.errorClass = .validation) : Ends r op (.error why) [] r
  | absent {op : Operation φ σ} {i : Identifier} (hop : op.target? = some i)
      (hmissing : r.Missing i) : Ends r op (.error (.subscriptionNotFound i.id)) [] r
  | duplicate {f : φ} (hbound : r.factories.contains (Factory.kind f)) :
      Ends r (.bind (some f)) (.error (.duplicateFactory (Factory.kind f))) [] r
  | unbound {f : φ} (hfree : r.factories.get? (Factory.kind f) = none) :
      Ends r (.unbind (some f)) (.error (.factoryNotBound (Factory.kind f))) [] r
  /-- There is no factory to bind or to withdraw. -/
  | idle {op : Operation φ σ} (hop : op = .bind none ∨ op = .unbind none) :
      Ends r op (.ok .done) [] r
  | inserted {object : σ} {request : Request} {kind : String} {random : Nat} {m : Metadata}
      {outcome : Except StoreError Unit} {calls : List (Call φ σ)} {r' : Registry π α φ σ}
      (hm : m = ⟨Urn.ofRandom random, kind, request.filter, request.callback⟩)
      (hstores : r.Stores m object outcome calls r') :
      Ends r (.insert object request kind random) (outcome.map fun _ => .identifier m.identifier)
        calls r'
  | undeleted {op : Operation φ σ} {i : Identifier} {e : Entry σ} {h : Handle σ}
      {why : StoreError} {s : Services π α φ σ} (hop : op.target? = some i)
      (hpresent : r.Present i e h) (hdel : r.services.delete i.id = (.error why, s)) :
      Ends r op (.error (.backend "Problem deleting from cache" why)) [.delete i.id (some why)]
        { r with services := s }
  | deleted {i : Identifier} {e : Entry σ} {h : Handle σ} {s : Services π α φ σ}
      (hpresent : r.Present i e h) (hdel : r.services.delete i.id = (.ok (), s)) :
      Ends r (.delete i) (.ok (.object h.object)) [.delete i.id none, .deactivate h.activation]
        ⟨r.cache.erase i.id, r.factories, s.deactivate h.activation⟩
  /-- The old subscription is out, whatever becomes of the new one. -/
  | updated {object : σ} {request : Request} {i : Identifier} {e : Entry σ} {h : Handle σ}
      {s : Services π α φ σ} {m : Metadata} {outcome : Except StoreError Unit}
      {calls : List (Call φ σ)} {r' : Registry π α φ σ} (hpresent : r.Present i e h)
      (hdel : r.services.delete i.id = (.ok (), s))
      (hm : m = ⟨i.id, i.kind, request.filter, request.callback⟩)
      (hstores : Stores m object ⟨r.cache.erase i.id, r.factories, s.deactivate h.activation⟩
        outcome calls r') :
      Ends r (.update object request i) (outcome.map fun _ => .done)
        (.delete i.id none :: .deactivate h.activation :: calls) r'
  | bound {f : φ} (hfree : r.factories.contains (Factory.kind f) = false) :
      Ends r (.bind (some f))
        ((activationOutcome (Attempt.failed (r.attempts (.bind (some f))))).map fun _ => .done)
        ((r.attempts (.bind (some f))).flatMap Attempt.calls)
        (activateDormant (fun e => e.isKind (Factory.kind f))
          { r with factories := r.factories.update (Factory.kind f) f }).2
  | withdrawn {f g : φ} (hbound : r.factories.get? (Factory.kind f) = some g) :
      Ends r (.unbind (some f)) (.ok .done)
        (Entry.releases (r.cache.values.filter fun e => e.isKind (Factory.kind f)))
        ⟨(r.cache.visit (releaseEntry fun e => e.isKind (Factory.kind f)) r.services).2.1,
          ⟨r.factories.bound.erase (Factory.kind f)⟩,
          (r.cache.visit (releaseEntry fun e => e.isKind (Factory.kind f)) r.services).2.2⟩
  | unloaded {why : StoreError} {s : Services π α φ σ}
      (hlist : r.services.list = (.error why, s)) :
      Ends r .init (.error (.backend "Cache update threw an exception" why)) [.list (some why)]
        { r with services := s }
  | loaded {listing : Table String Metadata} {s : Services π α φ σ}
      (hlist : r.services.list = (.ok listing, s)) :
      Ends r .init ((activationOutcome (Attempt.failed (r.attempts .init))).map fun _ => .done)
        (.list none :: (r.attempts .init).flatMap Attempt.calls)
        (activateDormant (fun _ => true)
          ⟨listing.rows.foldl Cache.addMissing r.cache, r.factories, s⟩).2
  | unlisted {why : StoreError} {s : Services π α φ σ}
      (hlist : r.services.list = (.error why, s)) :
      Ends r .reconcile
        (.error (.backend "Could not read subscriptions from the backing store" why))
        [.list (some why)] { r with services := s }
  | followed {listing : Table String Metadata} {s : Services π α φ σ} {added : List String}
      (hlist : r.services.list = (.ok listing, s)) :
      Ends r .reconcile (.ok (.drift ⟨r.stale listing, added⟩))
        (.list none :: (Entry.releases ((r.stale listing).filterMap r.cache.get?)
          ++ (r.attempts .reconcile).flatMap Attempt.calls))
        (listing.rows.foldl (fun r row => r.adoptRow row)
          ((r.stale listing).foldl (fun r id => r.forget id) { r with services := s }))
  | flushed {written : List (Metadata × Option StoreError)}
      (hall : written.map Prod.fst = r.cache.values.map (·.metadata)) :
      Ends r .flush
        (if Writer.failures written = [] then .ok .done
          else .error (.backend "Problem writing to the cache"
            (.batchFailed r.cache.size (Writer.failures written))))
        (Writer.writes written)
        { r with services := (Writer.runEach Metadata.id Writer.write
          (r.cache.values.map (·.metadata)) r.services).2 }

variable {r r' : Registry π α φ σ} {op : Operation φ σ}
  {answer : Except StoreError (Answer σ)} {calls : List (Call φ σ)}

theorem Ends.perform (h : r.Ends op answer calls r') (hout : r.perform op = (answer, r'))
    (hjournal : r'.services.journal = r.services.journal ++ calls) :
    r.Ends op (r.perform op).1 (r.calls op) (r.perform op).2 := by
  rw [calls_eq (by rw [hout, hjournal]), hout]
  exact h

theorem ends_insert (object : σ) (request : Request) (kind : String) (random : Nat)
    (r : Registry π α φ σ) :
    r.Ends (.insert object request kind random) (r.perform (.insert object request kind random)).1
      (r.calls (.insert object request kind random))
      (r.perform (.insert object request kind random)).2 := by
  rcases insert_cases object request kind random r with ⟨why, hwhy, hout⟩ | ⟨m, hm, -, hout⟩
  · refine (Ends.rejected rfl hwhy).perform ?_ (List.append_nil _).symm
    rw [Registry.perform, hout]
    rfl
  · obtain ⟨calls, hjournal, hstores⟩ := storeRegistered_stores m object r
    refine (Ends.inserted hm hstores).perform ?_ hjournal
    rw [Registry.perform, hout]
    rcases (r.storeRegistered m object).1 with _ | _ <;> rfl

theorem ends_update (object : σ) (request : Request) (i : Identifier) (r : Registry π α φ σ) :
    r.Ends (.update object request i) (r.perform (.update object request i)).1
      (r.calls (.update object request i)) (r.perform (.update object request i)).2 := by
  rcases update_cases object request i r with
    ⟨why, hwhy, hout⟩ | ⟨e, h, hp, ⟨why, s, hdel, hout⟩ | ⟨m, s, hm, -, hdel, -, hout⟩⟩
  · have hperform : r.perform (.update object request i) = (.error why, r) := by
      rw [Registry.perform, hout]
      rfl
    rcases hwhy with hwhy | ⟨rfl, hmissing⟩
    · exact (Ends.rejected rfl hwhy).perform hperform (List.append_nil _).symm
    · exact (Ends.absent rfl hmissing).perform hperform (List.append_nil _).symm
  · refine (Ends.undeleted rfl hp hdel).perform ?_ (Services.journal_of_delete hdel)
    rw [Registry.perform, hout]
    rfl
  · obtain ⟨calls, hjournal, hstores⟩ := storeRegistered_stores m object
      ⟨r.cache.erase i.id, r.factories, s.deactivate h.activation⟩
    refine (Ends.updated hp hdel hm hstores).perform ?_ ?_
    · rw [Registry.perform, hout]
    · rw [hjournal]
      simp [Services.journal_of_delete hdel, failureOf]

theorem ends_delete (i : Identifier) (r : Registry π α φ σ) :
    r.Ends (.delete i) (r.perform (.delete i)).1 (r.calls (.delete i))
      (r.perform (.delete i)).2 := by
  rcases delete_cases i r with ⟨why, hwhy, hout⟩ | ⟨e, h, hp, hout⟩
  · have hperform : r.perform (.delete i) = (.error why, r) := by
      rw [Registry.perform, hout]
      rfl
    rcases hwhy with hwhy | ⟨rfl, hmissing⟩
    · exact (Ends.rejected rfl hwhy).perform hperform (List.append_nil _).symm
    · exact (Ends.absent rfl hmissing).perform hperform (List.append_nil _).symm
  · rcases takeOut_cases hp with ⟨why, s, hdel, htake⟩ | ⟨s, hdel, htake⟩
    · refine (Ends.undeleted rfl hp hdel).perform ?_ (Services.journal_of_delete hdel)
      rw [Registry.perform, hout, htake]
      rfl
    · refine (Ends.deleted hp hdel).perform ?_ ?_
      · rw [Registry.perform, hout, htake]
        rfl
      · simp [Services.journal_of_delete hdel, failureOf]

theorem ends_bind (factory : Option φ) (hfiled : r.factories.Filed) :
    r.Ends (.bind factory) (r.perform (.bind factory)).1 (r.calls (.bind factory))
      (r.perform (.bind factory)).2 := by
  rcases bind_cases factory r with ⟨rfl, hout⟩ | ⟨f, rfl, hbound, hout⟩ | ⟨f, rfl, hfree, hout⟩
  · refine (Ends.idle (.inl rfl)).perform ?_ (List.append_nil _).symm
    rw [Registry.perform, hout]
    rfl
  · refine (Ends.duplicate hbound).perform ?_ (List.append_nil _).symm
    rw [Registry.perform, hout]
    rfl
  · have hattempts : r.attempts (.bind (some f))
        = attemptsDormant (fun e => e.isKind (Factory.kind f))
          { r with factories := r.factories.update (Factory.kind f) f } := by
      rw [attempts, if_neg (by rw [hfree]; exact Bool.false_ne_true)]
    refine (Ends.bound hfree).perform ?_ ?_
    · rw [Registry.perform, hout, activateDormant_fst _ _ (hfiled.update f), hattempts]
    · rw [journal_activateDormant _ _ (hfiled.update f), hattempts]

theorem ends_unbind (factory : Option φ) (r : Registry π α φ σ) :
    r.Ends (.unbind factory) (r.perform (.unbind factory)).1 (r.calls (.unbind factory))
      (r.perform (.unbind factory)).2 := by
  rcases unbind_cases factory r with ⟨rfl, hout⟩ | ⟨f, rfl, hfree, hout⟩
    | ⟨f, g, rfl, hbound, hout⟩
  · refine (Ends.idle (.inr rfl)).perform ?_ (List.append_nil _).symm
    rw [Registry.perform, hout]
    rfl
  · refine (Ends.unbound hfree).perform ?_ (List.append_nil _).symm
    rw [Registry.perform, hout]
    rfl
  · refine (Ends.withdrawn hbound).perform ?_ (journal_release _ r.cache r.services)
    rw [Registry.perform, hout]
    rfl

theorem ends_init (hfiled : r.factories.Filed) :
    r.Ends .init (r.perform .init).1 (r.calls .init) (r.perform .init).2 := by
  rcases init_cases r with ⟨why, s, hlist, hout⟩ | ⟨listing, s, hlist, hout⟩
  · refine (Ends.unloaded hlist).perform ?_ (Services.journal_of_list hlist)
    rw [Registry.perform, hout]
    rfl
  · have hattempts : r.attempts .init = attemptsDormant (fun _ => true)
        ⟨listing.rows.foldl Cache.addMissing r.cache, r.factories, s⟩ := by
      rw [attempts, hlist]
    refine (Ends.loaded hlist).perform ?_ ?_
    · rw [Registry.perform, hout, activateDormant_fst _ ⟨_, r.factories, s⟩ hfiled, hattempts]
    · rw [journal_activateDormant _ ⟨_, r.factories, s⟩ hfiled, hattempts]
      simp [Services.journal_of_list hlist, failureOf]

theorem ends_reconcile (hfiled : r.factories.Filed) :
    r.Ends .reconcile (r.perform .reconcile).1 (r.calls .reconcile)
      (r.perform .reconcile).2 := by
  rcases reconcile_cases r with ⟨why, s, hlist, hout⟩ | ⟨listing, s, hlist, added, hout⟩
  · refine (Ends.unlisted hlist).perform ?_ (Services.journal_of_list hlist)
    rw [Registry.perform, hout]
    rfl
  · have hattempts : r.attempts .reconcile = attemptsAdopting listing.rows
        ((r.stale listing).foldl (fun r id => r.forget id) { r with services := s }) := by
      rw [attempts, hlist]
    have hforgot : ((r.stale listing).foldl (fun r id => forget id r)
        { r with services := s }).factories.Filed :=
      List.foldlRecOn (motive := fun r : Registry π α φ σ => r.factories.Filed) _ _ hfiled
        fun r' h id _ => ((untried_forget id r').advances h).filed
    have hstale : (r.stale listing).Nodup := r.cache.nodup.sublist List.filter_sublist
    have hanswer : r.perform .reconcile = (.ok (.drift ⟨r.stale listing, added⟩), r.reconcile.2) := by
      rw [Registry.perform, hout]
      rfl
    rw [hout] at hanswer
    refine Ends.perform (.followed hlist) hanswer ?_
    rw [journal_adoptRows _ hforgot, journal_forgetAll hstale, hattempts]
    simp [Services.journal_of_list hlist, failureOf]

theorem ends_flush (r : Registry π α φ σ) :
    r.Ends .flush (r.perform .flush).1 (r.calls .flush) (r.perform .flush).2 := by
  obtain ⟨written, hall, hfailures, hjournal⟩ :=
    Writer.runEach_write (r.cache.values.map (·.metadata)) r.services
  have hsize : (r.cache.values.map (·.metadata)).length = r.cache.size := by
    simp [Table.values, Table.size]
  have hcache : (r.cache.flush r.services).1
      = Writer.batchOutcome r.cache.size (Writer.failures written) := by
    rw [← hfailures, ← hsize]
    rfl
  have hanswer : r.flush.1 = if Writer.failures written = [] then .ok ()
      else .error (.backend "Problem writing to the cache"
        (.batchFailed r.cache.size (Writer.failures written))) := by
    unfold flush
    rcases hflush : r.cache.flush r.services with ⟨outcome, s⟩
    rw [hflush] at hcache
    obtain rfl : outcome = _ := hcache
    unfold Writer.batchOutcome
    cases Writer.failures written <;> rfl
  refine (Ends.flushed hall).perform (Prod.ext ?_ (flush_snd r)) hjournal
  rw [Registry.perform, hanswer]
  split <;> rfl

/-- **Every operation ends in one of these ways.** -/
theorem ends_perform (op : Operation φ σ) (hfiled : r.factories.Filed) :
    r.Ends op (r.perform op).1 (r.calls op) (r.perform op).2 := by
  cases op with
  | init => exact ends_init hfiled
  | insert object request kind random => exact ends_insert object request kind random r
  | update object request target => exact ends_update object request target r
  | delete target => exact ends_delete target r
  | bind factory => exact ends_bind factory hfiled
  | unbind factory => exact ends_unbind factory r
  | reconcile => exact ends_reconcile hfiled
  | flush => exact ends_flush r

end Registry
end SubscriptionRegistry
