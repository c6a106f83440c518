/-
# Nothing stops half-way

Several operations check something first and then rely on it: that a registered entry has its
subscription, that what the store has deleted was cached and live, that what is to be released is
registered.  Each of them has an exit for the case that it is not so.  None of these exits is ever
taken.  What the store has deleted is handed back or replaced, loops go through to their end, and
a write that failed is reported as that and not as a fault of the roll-back.

The listing of the store may hold rows under other keys than their ids.

* `Registry.Completes`: that no exit half-way is taken.
* `Registry.Ends.of_deleted`, `Registry.Ends.of_replaced`, `Registry.Ends.of_unstored`,
  `Registry.Ends.of_withdrawn`, `Registry.Ends.of_followed`: what is done once an operation has
  come so far.
* `Registry.Run.completes`: every registry that a run reaches is such.
-/
import SubscriptionRegistry.Proofs.Blame
import SubscriptionRegistry.Proofs.Contents

namespace SubscriptionRegistry

variable {π α φ σ : Type}

namespace Registry

variable [BackingStore π] [Activator α σ] [Factory φ σ]

/-- Operations on `r` that have come so far go through to their end. -/
structure Completes (r : Registry π α φ σ) : Prop where
  /-- A look-up that finds a registered entry finds its subscription. -/
  get : ∀ i fault, r.get i ≠ .error (.registration fault)
  /-- What the store has deleted was live, and the subscription is handed back. -/
  delete : ∀ i, .delete i.id none ∈ r.calls (.delete i) →
    ∃ e h, r.Present i e h ∧ r.get i = .ok (some h.object)
      ∧ (r.perform (.delete i)).1 = .ok (.object h.object)
  /-- What the store has deleted for the sake of another was live, is taken out, and the other is
  activated and stored as far as that can be done. -/
  update : ∀ object request i, .delete i.id none ∈ r.calls (.update object request i) →
    ∃ e h taken outcome calls, r.Present i e h ∧ r.takeOut i.id = (.ok h.object, taken)
      ∧ taken.Stores ⟨i.id, i.kind, request.filter, request.callback⟩ object outcome calls
        (r.perform (.update object request i)).2
      ∧ (r.perform (.update object request i)).1 = outcome.map (fun _ => .done)
      ∧ r.calls (.update object request i)
        = .delete i.id none :: .deactivate h.activation :: calls
  /-- A write that failed is reported, and the activation that came before it is given up. -/
  rollback : ∀ op m why, op ≠ .flush → .insert m (some why) ∈ r.calls op →
    (r.perform op).1 = .error (.backend "Problem writing to the cache" why)
      ∧ ∃ before object a, r.calls op = before
        ++ [.activate object ⟨m.id, m.callback⟩ (some a), .insert m (some why), .deactivate a]
  /-- With its factory the whole type goes dormant, each live entry by a release. -/
  unbind : ∀ f, r.factories.contains (Factory.kind f) →
    (r.perform (.unbind (some f))).1 = .ok .done
      ∧ (r.perform (.unbind (some f))).2.cache
        = r.cache.map (fun e => if e.isKind (Factory.kind f) then .dormant e.metadata else e)
      ∧ r.calls (.unbind (some f))
        = Entry.releases (r.cache.values.filter fun e => e.isKind (Factory.kind f))
  /-- All that is not listed goes, each live entry by a release, and all that is listed is looked
  at. -/
  reconcile : ∀ listing s, r.services.list = (.ok listing, s) →
    (∃ added, (r.perform .reconcile).1 = .ok (.drift ⟨r.stale listing, added⟩))
      ∧ r.calls .reconcile = .list none
        :: (Entry.releases ((r.stale listing).filterMap r.cache.get?)
          ++ (r.attempts .reconcile).flatMap Attempt.calls)
      ∧ ∀ row ∈ listing.rows, (r.perform .reconcile).2.cache.contains row.1
        ∨ (r.perform .reconcile).2.cache.contains row.2.id
  /-- All that an operation can report of registrations is a refusal or a round in vain. -/
  registration : ∀ op fault, (r.perform op).1 = .error (.registration fault) →
    (∃ id, fault = .refused id) ∨ ∃ ids, fault = .notActivated ids

variable {r r' : Registry π α φ σ} {answer : Except StoreError (Answer σ)}
  {calls : List (Call φ σ)}

/-! ## 1. Single subscriptions -/

omit [BackingStore π] [Activator α σ] [Factory φ σ] in
/-- A look-up that fails does so before it has looked. -/
theorem get_ne_registration (i : Identifier) (fault : RegistrationFault) :
    r.get i ≠ .error (.registration fault) := by
  intro h
  have hclass := errorClass_of_get h
  cases hclass

/-- What the store has deleted was live. -/
theorem Ends.of_deleted {i : Identifier} (h : r.Ends (.delete i) answer calls r')
    (hcall : .delete i.id none ∈ calls) :
    ∃ e h, r.Present i e h ∧ answer = .ok (.object h.object) := by
  cases h with
  | rejected => cases hcall
  | absent => cases hcall
  | idle hop => rcases hop with hop | hop <;> cases hop
  | undeleted hop =>
    cases hop
    cases List.mem_singleton.mp hcall
  | deleted hpresent => exact ⟨_, _, hpresent, rfl⟩

/-- What the store has deleted for an update was live, and from there the update goes on as if the
new subscription were stored for the first time. -/
theorem Ends.of_replaced {object : σ} {request : Request} {i : Identifier}
    (h : r.Ends (.update object request i) answer calls r')
    (hcall : .delete i.id none ∈ calls) :
    ∃ e h s outcome stored, r.Present i e h ∧ r.services.delete i.id = (.ok (), s)
      ∧ Stores ⟨i.id, i.kind, request.filter, request.callback⟩ object
        ⟨r.cache.erase i.id, r.factories, s.deactivate h.activation⟩ outcome stored r'
      ∧ answer = outcome.map (fun _ => .done)
      ∧ calls = .delete i.id none :: .deactivate h.activation :: stored := by
  cases h with
  | rejected => cases hcall
  | absent => cases hcall
  | idle hop => rcases hop with hop | hop <;> cases hop
  | undeleted hop =>
    cases hop
    cases List.mem_singleton.mp hcall
  | updated hpresent hdel hm hstores =>
    subst hm
    exact ⟨_, _, _, _, _, hpresent, hdel, hstores, rfl, rfl⟩

omit [BackingStore π] [Factory φ σ] in
theorem takeOut_of_deleted [BackingStore π] {i : Identifier} {e : Entry σ} {h : Handle σ}
    {s : Services π α φ σ} (hp : r.Present i e h) (hdel : r.services.delete i.id = (.ok (), s)) :
    r.takeOut i.id
      = (.ok h.object, ⟨r.cache.erase i.id, r.factories, s.deactivate h.activation⟩) := by
  rcases takeOut_cases hp with ⟨why, s', hdel', -⟩ | ⟨s', hdel', hout⟩
  · rw [hdel] at hdel'
    cases hdel'
  · rw [hdel] at hdel'
    cases hdel'
    exact hout

omit [Factory φ σ] in
/-- A write that failed was the last but one thing that was done. -/
theorem Stores.of_unstored {m m' : Metadata} {object : σ} {outcome : Except StoreError Unit}
    {why : StoreError} (h : r.Stores m object outcome calls r')
    (hcall : .insert m' (some why) ∈ calls) :
    m' = m ∧ outcome = .error (.backend "Problem writing to the cache" why)
      ∧ ∃ a, calls
        = [.activate object ⟨m.id, m.callback⟩ (some a), .insert m (some why), .deactivate a] := by
  cases h with
  | refused => simp at hcall
  | unstored hact hins =>
    simp only [List.mem_cons, reduceCtorEq, Call.insert.injEq, Option.some.injEq, false_or,
      List.not_mem_nil, or_false] at hcall
    obtain ⟨rfl, rfl⟩ := hcall
    exact ⟨rfl, rfl, _, rfl⟩
  | stored => simp at hcall

/-- Whatever was to be stored, a write that failed is reported as such. -/
theorem Ends.of_unstored {op : Operation φ σ} {m : Metadata} {why : StoreError}
    (h : r.Ends op answer calls r') (hop : op ≠ .flush) (hcall : .insert m (some why) ∈ calls) :
    answer = .error (.backend "Problem writing to the cache" why)
      ∧ ∃ before object a, calls = before
        ++ [.activate object ⟨m.id, m.callback⟩ (some a), .insert m (some why), .deactivate a] := by
  -- Attempts and releases do not write.
  have hattempts : ∀ attempts : List (Attempt φ σ),
      Call.insert m (some why) ∉ attempts.flatMap Attempt.calls := by
    intro attempts hmem
    obtain ⟨a, -, hmem⟩ := List.mem_flatMap.mp hmem
    cases Attempt.isLocal_of_mem_calls hmem
  have hreleases : ∀ entries : List (Entry σ),
      Call.insert m (some why) ∉ (Entry.releases entries : List (Call φ σ)) := by
    intro entries hmem
    cases Entry.isLocal_of_mem_releases hmem
  cases h with
  | rejected => cases hcall
  | absent => cases hcall
  | duplicate => cases hcall
  | unbound => cases hcall
  | idle => cases hcall
  | inserted hm hstores =>
    obtain ⟨rfl, houtcome, a, hcalls⟩ := hstores.of_unstored hcall
    rw [houtcome]
    exact ⟨rfl, [], _, a, hcalls⟩
  | undeleted => simp at hcall
  | deleted => simp at hcall
  | @updated object _ i _ hd _ _ _ _ _ hpresent hdel hm hstores =>
    simp only [List.mem_cons, reduceCtorEq, false_or] at hcall
    obtain ⟨rfl, houtcome, a, hcalls⟩ := hstores.of_unstored hcall
    rw [houtcome, hcalls]
    exact ⟨rfl, [.delete i.id none, .deactivate hd.activation], object, a, rfl⟩
  | bound => exact absurd hcall (hattempts _)
  | withdrawn => exact absurd hcall (hreleases _)
  | unloaded => simp at hcall
  | loaded =>
    simp only [List.mem_cons, reduceCtorEq, false_or] at hcall
    exact absurd hcall (hattempts _)
  | unlisted => simp at hcall
  | followed =>
    simp only [List.mem_cons, reduceCtorEq, false_or, List.mem_append] at hcall
    rcases hcall with hcall | hcall
    · exact absurd hcall (hreleases _)
    · exact absurd hcall (hattempts _)
  | flushed => exact absurd rfl hop

/-! ## 2. Whole types and whole listings -/

/-- Withdrawing a factory that is bound goes through the whole cache. -/
theorem Ends.of_withdrawn {f : φ} (h : r.Ends (.unbind (some f)) answer calls r')
    (hbound : r.factories.contains (Factory.kind f)) :
    answer = .ok .done
      ∧ r'.cache
        = r.cache.map (fun e => if e.isKind (Factory.kind f) then .dormant e.metadata else e)
      ∧ calls = Entry.releases (r.cache.values.filter fun e => e.isKind (Factory.kind f)) := by
  cases h with
  | rejected hop => cases hop
  | absent hop => cases hop
  | unbound hfree =>
    rw [Factories.contains, Table.contains, ← Factories.get?, hfree] at hbound
    cases hbound
  | idle hop => rcases hop with hop | hop <;> cases hop
  | undeleted hop => cases hop
  | withdrawn => exact ⟨rfl, cache_release _ r.cache r.services, rfl⟩

omit [BackingStore π] in
/-- A row that is looked at is cached, under its key or under the id of its metadata. -/
theorem contains_adoptRow (row : String × Metadata) (r : Registry π α φ σ) :
    (r.adoptRow row).cache.contains row.1 ∨ (r.adoptRow row).cache.contains row.2.id := by
  unfold adoptRow
  split
  · rename_i hcached
    exact .inl hcached
  · refine .inr ?_
    rw [contains_adopt, decide_eq_true rfl, Bool.true_or]

omit [BackingStore π] in
/-- Nothing is dropped when rows are adopted. -/
theorem contains_adoptRow_of_contains {key : String} (hkey : r.cache.contains key)
    (row : String × Metadata) : (r.adoptRow row).cache.contains key := by
  unfold adoptRow
  split
  · exact hkey
  · rw [contains_adopt, hkey, Bool.or_true]

omit [BackingStore π] in
/-- All rows are looked at. -/
theorem contains_adoptRows {rows : List (String × Metadata)} {row : String × Metadata}
    (hrow : row ∈ rows) (r : Registry π α φ σ) :
    (rows.foldl (fun r row => r.adoptRow row) r).cache.contains row.1
      ∨ (rows.foldl (fun r row => r.adoptRow row) r).cache.contains row.2.id := by
  have hkeep : ∀ {key : String} (rest : List (String × Metadata)) (r : Registry π α φ σ),
      r.cache.contains key → (rest.foldl (fun r row => r.adoptRow row) r).cache.contains key :=
    fun rest r hkey => List.foldlRecOn
      (motive := fun r : Registry π α φ σ => r.cache.contains _) _ _ hkey
      fun r h row _ => contains_adoptRow_of_contains h row
  induction rows generalizing r with
  | nil => cases hrow
  | cons head rest ih =>
    rcases List.mem_cons.mp hrow with rfl | hrow
    · rcases contains_adoptRow row r with h | h
      · exact .inl (hkeep rest _ h)
      · exact .inr (hkeep rest _ h)
    · exact ih hrow _

/-- A reconciliation that can read the store drops all that is stale and looks at all rows. -/
theorem Ends.of_followed {listing : Table String Metadata} {s : Services π α φ σ}
    (h : r.Ends .reconcile answer calls r') (hlist : r.services.list = (.ok listing, s)) :
    (∃ added, answer = .ok (.drift ⟨r.stale listing, added⟩))
      ∧ calls = .list none :: (Entry.releases ((r.stale listing).filterMap r.cache.get?)
        ++ (r.attempts .reconcile).flatMap Attempt.calls)
      ∧ ∀ row ∈ listing.rows, r'.cache.contains row.1 ∨ r'.cache.contains row.2.id := by
  cases h with
  | rejected hop => cases hop
  | absent hop => cases hop
  | idle hop => rcases hop with hop | hop <;> cases hop
  | undeleted hop => cases hop
  | unlisted hfailed =>
    rw [hlist] at hfailed
    cases hfailed
  | @followed listing' s' added hlist' =>
    rw [hlist] at hlist'
    cases hlist'
    exact ⟨⟨added, rfl⟩, rfl, fun row hrow => contains_adoptRows hrow _⟩

/-! ## 3. Runs -/

theorem completes_of_filed (hfiled : r.factories.Filed) : r.Completes where
  get := get_ne_registration
  delete i hcall := by
    obtain ⟨e, h, hpresent, hanswer⟩ := (ends_delete i r).of_deleted hcall
    exact ⟨e, h, hpresent, get_eq_ok_some_iff.mpr ⟨e, h, hpresent, rfl⟩, hanswer⟩
  update object request i hcall := by
    obtain ⟨e, h, s, outcome, stored, hpresent, hdel, hstores, hanswer, hcalls⟩ :=
      (ends_update object request i r).of_replaced hcall
    exact ⟨e, h, _, outcome, stored, hpresent, takeOut_of_deleted hpresent hdel, hstores, hanswer,
      hcalls⟩
  rollback op m why hop hcall := (ends_perform op hfiled).of_unstored hop hcall
  unbind f hbound := (ends_unbind (some f) r).of_withdrawn hbound
  reconcile listing s hlist := (ends_reconcile hfiled).of_followed hlist
  registration op fault hanswer := by
    obtain ⟨-, hunfit⟩ :=
      (ends_perform op hfiled).truthful.consistency _ hanswer rfl
    cases hunfit with
    | refused => exact .inl ⟨_, rfl⟩
    | inactive => exact .inr ⟨_, rfl⟩

/-- **Nothing stops half-way**, in no registry that a run reaches, whatever the outside does to the
services, and whatever these list, fail or refuse. -/
theorem Run.completes {outside : Services π α φ σ → Services π α φ σ → Prop}
    {allowed : Operation φ σ → Registry π α φ σ → Prop} {s : Services π α φ σ}
    (hrun : Run outside allowed (new s) r) : r.Completes :=
  completes_of_filed hrun.filed

end Registry

namespace Demo

/-- The stored subscription is live, its row has come under another key, and from now on the store
takes no new rows. -/
def misfiled : Registry (StoreGate MemoryStore) (Gated (ActiveSet String)) EchoFactory String :=
  { live with services := { live.services with store :=
      { StoreGate.opened ⟨Table.empty.insert "t" stored, 0, 0⟩ .locked with
        failsInsert := fun _ => true } } }

end Demo

/-- What is deleted is handed back, an update that cannot store says so, and a reconciliation drops
what is not listed under its id. -/
theorem Registry.Run.completes_demo :
    (Demo.misfiled.perform (.delete ⟨"s", "A"⟩)).1 = .ok (.object "f")
      ∧ (Demo.misfiled.perform (.update "g" ⟨"f", "bus:/in"⟩ ⟨"s", "A"⟩)).1
        = .error (.backend "Problem writing to the cache" .locked)
      ∧ ∃ added, (Demo.misfiled.perform .reconcile).1 = .ok (.drift ⟨["s"], added⟩) := by
  have hlive : Run (fun _ _ => True) (fun _ _ => True) (new Demo.services) Demo.live :=
    .step (.step .refl trivial) trivial
  have hrun : Run (fun _ _ => True) (fun _ _ => True) (new Demo.services) Demo.misfiled :=
    .change (s := Demo.misfiled.services) hlive trivial
  have hcompletes := Run.completes hrun
  have hdeleted : Call.delete "s" none ∈ Demo.misfiled.calls (.delete ⟨"s", "A"⟩) :=
    List.mem_cons_self
  have hunstored : Call.insert ⟨"s", "A", "f", "bus:/in"⟩ (some .locked)
      ∈ Demo.misfiled.calls (.update "g" ⟨"f", "bus:/in"⟩ ⟨"s", "A"⟩) :=
    List.mem_cons_of_mem _ (List.mem_cons_of_mem _ (List.mem_cons_of_mem _ List.mem_cons_self))
  obtain ⟨e, h, hpresent, hget, hanswer⟩ := hcompletes.delete ⟨"s", "A"⟩ hdeleted
  have hobject : some "f" = some h.object := Except.ok.inj hget
  refine ⟨?_, (hcompletes.rollback _ _ _ (by nofun) hunstored).1,
    (hcompletes.reconcile _ _ rfl).1⟩
  rw [hanswer, ← Option.some.inj hobject]

end SubscriptionRegistry
