/-
# Loading again

Loading adds to a cache what is stored and not cached yet, and tries to activate all that is
dormant.  What is cached already it takes as it is, whatever the store has come to hold under the
same key, and what is live it passes by.  So a load that reports nothing leaves nothing for the
next one to do; and where it reports failures, the next one tries these again, in the same order,
and nothing else.

* `Registry.Retained`: what a load leaves of what was cached.
* `Call.asked`: the subscriptions that some calls had factories build.
* `Registry.map_id_attemptsIn_again`: a second round tries again what the first one tried in vain.
* `Registry.Run.reloads`: what a load keeps, and what a second one comes to.
-/
import SubscriptionRegistry.Proofs.Calls
import SubscriptionRegistry.Proofs.Findable

namespace SubscriptionRegistry

variable {π α φ σ : Type}

/-! ## 1. Calls -/

namespace Call

/-- Whether a call neither stores nor deletes, and releases nothing. -/
def isAdding : Call φ σ → Bool
  | .list _ | .build _ _ _ | .activate _ _ _ => true
  | _ => false

/-- The subscriptions that factories were to build, one for each call, in order. -/
def asked (calls : List (Call φ σ)) : List String :=
  calls.filterMap fun call => match call with
    | .build _ m _ => some m.id
    | _ => none

theorem asked_append (first second : List (Call φ σ)) :
    asked (first ++ second) = asked first ++ asked second := List.filterMap_append

end Call

namespace Attempt

/-- One call to a factory belongs to an attempt. -/
theorem asked_calls (a : Attempt φ σ) : Call.asked a.calls = [a.entry.id] := by
  obtain ⟨key, e, f, _ | object, granted⟩ := a <;> rfl

theorem asked_flatMap_calls (attempts : List (Attempt φ σ)) :
    Call.asked (attempts.flatMap calls) = attempts.map fun a => a.entry.id := by
  induction attempts with
  | nil => rfl
  | cons a rest ih =>
    rw [List.flatMap_cons, Call.asked_append, asked_calls, ih]
    rfl

theorem isAdding_of_mem_calls {a : Attempt φ σ} {call : Call φ σ} (h : call ∈ a.calls) :
    call.isAdding := by
  unfold calls at h
  rcases List.mem_cons.mp h with rfl | h
  · rfl
  · split at h
    · cases h
    · rw [List.mem_singleton.mp h]
      rfl

end Attempt

theorem Factories.contains_eq (fs : Factories φ) (kind : String) :
    fs.contains kind = (fs.get? kind).isSome := rfl

/-- Rows whose keys are cached add nothing. -/
theorem Cache.foldl_addMissing_of_contains {rows : List (String × Metadata)} {c : Cache σ}
    (h : ∀ row ∈ rows, c.contains row.1) : rows.foldl addMissing c = c := by
  induction rows with
  | nil => rfl
  | cons row rest ih =>
    rw [List.foldl_cons, addMissing, if_pos (h row List.mem_cons_self)]
    exact ih fun row' hrow' => h row' (List.mem_cons_of_mem _ hrow')

namespace Registry

section

variable [Activator α σ] [Factory φ σ]

/-! ## 2. Rounds -/

/-- Using factories binds none. -/
theorem contains_activateEntry (test : Entry σ → Bool) (e : Entry σ) (round : Round π α φ σ)
    (kind : String) :
    (activateEntry test e round).2.2.factories.contains kind = round.factories.contains kind := by
  rcases activateEntry_cases test "" e round with ⟨-, hout, -⟩ | ⟨f, failed, -, hf, -, hout⟩
  · rw [hout]
  · rw [hout]
    dsimp only
    rw [Factories.contains_eq, Factories.contains_eq, Factories.get?_update]
    split
    · rename_i hkind
      rw [hkind, hf]
      rfl
    · rfl

theorem contains_visitRows (test : Entry σ → Bool) (rows : List (String × Entry σ))
    (round : Round π α φ σ) (kind : String) :
    (Table.visitRows (activateEntry test) rows round).2.2.factories.contains kind
      = round.factories.contains kind :=
  Table.visitRows_snd
    (P := fun round' : Round π α φ σ => round'.factories.contains kind = round.factories.contains kind)
    (fun e round' h => (contains_activateEntry test e round' kind).trans h) rows rfl

/-- An entry is tried again if it was tried in vain, and not otherwise: what came to life is passed
by, and what had no factory has none now. -/
theorem map_id_attemptOn_again (key : String) (e : Entry σ) {round round' : Round π α φ σ}
    (hfiled : round.factories.Filed)
    (hsame : ∀ kind, round'.factories.contains kind = round.factories.contains kind) :
    (attemptOn (fun _ => true) key (activateEntry (fun _ => true) e round).2.1 round').map
        (·.entry.id)
      = Attempt.failed (attemptOn (fun _ => true) key e round) := by
  rcases activateEntry_cases (fun _ => true) key e round with
    ⟨hnone, hout, hunbound⟩ | ⟨f, failed, he, hf, hone, hout⟩
  · rw [hout, hnone]
    cases hh : e.handle with
    | some h => simp [attemptOn, Entry.isDormant, hh, Attempt.failed]
    | none =>
      have hfree : round'.factories.get? e.metadata.kind = none := by
        rw [← Option.not_isSome_iff_eq_none, ← Factories.contains_eq, hsame,
          Factories.contains_eq, hunbound hh rfl]
        exact Bool.false_ne_true
      simp [attemptOn, hfree, Attempt.failed]
  · obtain ⟨hentry, -⟩ := Entry.registerWith_handle he (hfiled _ f hf) key round.services
    rw [hout, hone]
    dsimp only
    rw [hentry]
    cases hh : (e.attempt key f round.services).handle with
    | some h => simp [attemptOn, Entry.isDormant, Attempt.failed, hh]
    | none =>
      have hbound : (round'.factories.get? e.metadata.kind).isSome := by
        rw [← Factories.contains_eq, hsame, Factories.contains_eq, hf]
        rfl
      obtain ⟨g, hg⟩ := Option.isSome_iff_exists.mp hbound
      simp [attemptOn, Entry.isDormant, Attempt.failed, hh, hg, Entry.id]

/-- **A second round tries again what the first one tried in vain**, in the same order, and nothing
else, whatever state it finds the factories and the services in. -/
theorem map_id_attemptsIn_again (rows : List (String × Entry σ)) {round round' : Round π α φ σ}
    (hfiled : round.factories.Filed)
    (hsame : ∀ kind, round'.factories.contains kind = round.factories.contains kind) :
    (attemptsIn (fun _ => true)
        (Table.visitRows (activateEntry fun _ => true) rows round).2.1 round').map (·.entry.id)
      = Attempt.failed (attemptsIn (fun _ => true) rows round) := by
  induction rows generalizing round round' with
  | nil => rfl
  | cons row rest ih =>
    obtain ⟨key, e⟩ := row
    have hfiled' := hfiled.of_become (become_activateEntry (fun _ => true) e hfiled)
    have hsame' : ∀ kind,
        (activateEntry (fun _ => true) (activateEntry (fun _ => true) e round).2.1
          round').2.2.factories.contains kind
        = (activateEntry (fun _ => true) e round).2.2.factories.contains kind := fun kind => by
      rw [contains_activateEntry, contains_activateEntry, hsame]
    rw [Table.visitRows_cons_of_ok (activateEntry_eq_ok _ e round), attemptsIn, attemptsIn,
      Attempt.failed_append, List.map_append, map_id_attemptOn_again key e hfiled hsame,
      ih hfiled' hsame']

/-- A round that tries nothing does nothing. -/
theorem visitRows_of_attemptsIn_eq_nil {test : Entry σ → Bool} {rows : List (String × Entry σ)}
    {round : Round π α φ σ} (h : attemptsIn test rows round = []) :
    Table.visitRows (activateEntry test) rows round = (.ok (), rows, round) := by
  induction rows with
  | nil => rfl
  | cons row rest ih =>
    obtain ⟨key, e⟩ := row
    rw [attemptsIn, List.append_eq_nil_iff] at h
    rcases activateEntry_cases test key e round with ⟨-, hout, -⟩ | ⟨f, failed, -, -, hone, -⟩
    · rw [hout] at h
      rw [Table.visitRows_cons_of_ok hout, ih h.2]
    · rw [hone] at h
      cases h.1

/-- A round finds nothing to try where all that is dormant is of a type without factory. -/
theorem attemptsIn_eq_nil {test : Entry σ → Bool} {rows : List (String × Entry σ)}
    {round : Round π α φ σ}
    (h : ∀ row ∈ rows, row.2.handle = none → round.factories.get? row.2.metadata.kind = none) :
    attemptsIn test rows round = [] := by
  induction rows with
  | nil => rfl
  | cons row rest ih =>
    obtain ⟨key, e⟩ := row
    rw [attemptsIn]
    rcases activateEntry_cases test key e round with ⟨hnone, hout, -⟩ | ⟨f, failed, he, hf, -, -⟩
    · rw [hnone, hout, ih fun row hrow => h row (List.mem_cons_of_mem _ hrow)]
      rfl
    · rw [h _ List.mem_cons_self he] at hf
      cases hf

theorem activateDormant_of_attempts_eq_nil {test : Entry σ → Bool} {r : Registry π α φ σ}
    (h : r.attemptsDormant test = []) : r.activateDormant test = (.ok (), r) := by
  have hvisit := visitRows_of_attemptsIn_eq_nil h
  have hcache : (r.cache.visit (activateEntry test) ⟨[], r.factories, r.services⟩).2.1 = r.cache :=
    Table.ext (by rw [Table.rows_visit, hvisit])
  have hround : (r.cache.visit (activateEntry test) ⟨[], r.factories, r.services⟩).2.2
      = ⟨[], r.factories, r.services⟩ :=
    congrArg (fun out => out.2.2) hvisit
  unfold activateDormant
  dsimp only
  rw [hcache, hround]
  rfl

/-! ## 3. Loads -/

variable [BackingStore π] {r : Registry π α φ σ} {listing listing' : Table String Metadata}
  {s s' : Services π α φ σ}

theorem Ends.of_init {answer : Except StoreError (Answer σ)} {calls : List (Call φ σ)}
    {r' : Registry π α φ σ} (h : r.Ends .init answer calls r') :
    (∃ why s, r.services.list = (.error why, s) ∧ calls = [.list (some why)])
      ∨ ∃ listing s, r.services.list = (.ok listing, s)
        ∧ calls = .list none :: (r.attempts .init).flatMap Attempt.calls := by
  cases h with
  | rejected hop => cases hop
  | absent hop => cases hop
  | idle hop => rcases hop with hop | hop <;> cases hop
  | undeleted hop => cases hop
  | unloaded hlist => exact .inl ⟨_, _, hlist, rfl⟩
  | loaded hlist => exact .inr ⟨_, _, hlist, rfl⟩

/-- A load stores nothing, deletes nothing and releases nothing. -/
theorem isAdding_of_mem_calls_init (hfiled : r.factories.Filed) {call : Call φ σ}
    (hcall : call ∈ r.calls .init) : call.isAdding := by
  rcases (ends_init hfiled).of_init with ⟨why, s, -, hcalls⟩ | ⟨listing, s, -, hcalls⟩
  · rw [hcalls, List.mem_singleton] at hcall
    rw [hcall]
    rfl
  · rw [hcalls] at hcall
    rcases List.mem_cons.mp hcall with rfl | hcall
    · rfl
    · obtain ⟨a, -, hcall⟩ := List.mem_flatMap.mp hcall
      exact Attempt.isAdding_of_mem_calls hcall

theorem calls_init (hfiled : r.factories.Filed) (hlist : r.services.list = (.ok listing, s)) :
    r.calls .init = .list none :: (r.attempts .init).flatMap Attempt.calls := by
  rcases (ends_init hfiled).of_init with ⟨why, s, hfailed, -⟩ | ⟨listing, s, -, hcalls⟩
  · rw [hlist] at hfailed
    cases hfailed
  · exact hcalls

theorem init_fst (hfiled : r.factories.Filed) (hlist : r.services.list = (.ok listing, s)) :
    r.init.1 = activationOutcome (Attempt.failed (r.attempts .init)) := by
  rw [init_of_list hlist, activateDormant_fst _ ⟨_, r.factories, s⟩ hfiled, attempts, hlist]

/-- What is cached after a load was cached before it, or is listed. -/
theorem contains_init (hlist : r.services.list = (.ok listing, s)) (id : String) :
    r.init.2.cache.contains id = (r.cache.contains id || listing.contains id) := by
  rw [init_of_list hlist, ← Cache.contains_metadata, metadata_activateDormant, Table.contains,
    get?_metadata_load, ← Cache.contains_metadata r.cache, Table.contains, Table.contains,
    Option.isSome_or]

/-- Nothing new is listed, so all that is listed is cached. -/
theorem load_again (hlist : r.services.list = (.ok listing, s))
    (hsub : ∀ id, listing'.contains id → listing.contains id) :
    listing'.rows.foldl Cache.addMissing r.init.2.cache = r.init.2.cache := by
  refine Cache.foldl_addMissing_of_contains fun row hrow => ?_
  have hlisted : listing'.contains row.1 :=
    Table.contains_iff.mpr (List.mem_map_of_mem hrow)
  rw [contains_init hlist, hsub _ hlisted, Bool.or_true]

theorem map_id_attempts_again (hfiled : r.factories.Filed)
    (hlist : r.services.list = (.ok listing, s))
    (hlist' : r.init.2.services.list = (.ok listing', s'))
    (hsub : ∀ id, listing'.contains id → listing.contains id) :
    (r.init.2.attempts .init).map (·.entry.id) = Attempt.failed (r.attempts .init) := by
  have hattempts : r.init.2.attempts .init
      = attemptsIn (fun _ => true) r.init.2.cache.rows ⟨[], r.init.2.factories, s'⟩ := by
    rw [attempts, hlist']
    dsimp only
    rw [load_again hlist hsub]
    rfl
  rw [hattempts, attempts, hlist, init_of_list hlist]
  exact map_id_attemptsIn_again _ hfiled fun kind => contains_visitRows _ _ _ kind

/-! ## 4. Runs -/

/-- Nothing that was cached is gone or has other metadata, and what was live is as it was. -/
structure Retained (r r' : Registry π α φ σ) : Prop where
  metadata : ∀ key e, r.cache.get? key = some e →
    ∃ e', r'.cache.get? key = some e' ∧ e'.metadata = e.metadata
  registered : ∀ key e, r.cache.get? key = some e → e.isRegistered →
    r'.cache.get? key = some e

theorem retained_init (r : Registry π α φ σ) : Retained r r.init.2 := by
  rcases init_cases r with ⟨why, s, -, hout⟩ | ⟨listing, s, -, hout⟩
  · rw [hout]
    exact ⟨fun key e he => ⟨e, he, rfl⟩, fun key e he _ => he⟩
  · have hloaded : ∀ key e, r.cache.get? key = some e →
        (listing.rows.foldl Cache.addMissing r.cache).get? key = some e := fun key e he => by
      rw [Cache.get?_foldl_addMissing, he, Option.some_or]
    rw [hout]
    constructor
    case metadata =>
      intro key e he
      have hmetadata : (activateDormant (fun _ => true)
          ⟨listing.rows.foldl Cache.addMissing r.cache, r.factories, s⟩).2.cache.metadata.get? key
          = some e.metadata := by
        rw [metadata_activateDormant, Cache.get?_metadata, hloaded key e he]
        rfl
      rw [Cache.get?_metadata] at hmetadata
      exact Option.map_eq_some_iff.mp hmetadata
    case registered =>
      intro key e he hreg
      obtain ⟨h, hh⟩ := Option.isSome_iff_exists.mp hreg
      exact get?_activateDormant_of_handle _ hh (hloaded key e he)

/-- What a second load comes to that finds services `s`. -/
structure Reloads (r : Registry π α φ σ) (s : Services π α φ σ) : Prop where
  /-- Nothing is left to do: the store is asked, and that is all. -/
  ok : r.init.1 = .ok () → r.init.2.init = (.ok (), { r.init.2 with services := s })
    ∧ s.activator = r.init.2.services.activator ∧ r.init.2.calls .init = [.list none]
  /-- What failed is tried again, once for each failure, and nothing else is. -/
  retried : ∀ ids, r.init.1 = .error (.registration (.notActivated ids)) →
    Call.asked (r.init.2.calls .init) = ids
      ∧ ∀ call ∈ r.init.2.calls .init, ∀ id, call.subject? = some id → id ∈ ids

theorem reloads_of_filed (hfiled : r.factories.Filed)
    (hlist : r.services.list = (.ok listing, s))
    (hlist' : r.init.2.services.list = (.ok listing', s'))
    (hsub : ∀ id, listing'.contains id → listing.contains id) : r.Reloads s' := by
  have hfiled' : r.init.2.factories.Filed := (advances_init hfiled).filed
  have hagain := map_id_attempts_again hfiled hlist hlist' hsub
  have hfst := init_fst hfiled hlist
  have hcalls := calls_init hfiled' hlist'
  constructor
  case ok =>
    intro hok
    have hnone : r.init.2.attempts .init = [] := by
      rw [hfst, activationOutcome_eq_ok_iff] at hok
      exact List.map_eq_nil_iff.mp (hagain.trans hok)
    refine ⟨?_, congrArg (fun out => out.2.activator) hlist'.symm, by rw [hcalls, hnone]; rfl⟩
    rw [attempts, hlist'] at hnone
    rw [init_of_list hlist', activateDormant_of_attempts_eq_nil hnone, load_again hlist hsub]
  case retried =>
    intro ids herror
    have hids : Attempt.failed (r.attempts .init) = ids := by
      rw [hfst] at herror
      injection eq_of_activationOutcome herror with hfault
      injection hfault with hids
      exact hids.symm
    have hasked : Call.asked (r.init.2.calls .init) = ids := by
      rw [hcalls, ← hids, ← hagain, ← Attempt.asked_flatMap_calls]
      rfl
    refine ⟨hasked, fun call hcall id hid => ?_⟩
    rw [hcalls] at hcall
    rcases List.mem_cons.mp hcall with rfl | hcall
    · cases hid
    · obtain ⟨a, ha, hcall⟩ := List.mem_flatMap.mp hcall
      rw [Attempt.subject?_of_mem_calls hcall] at hid
      rw [← hids, ← hagain, ← Option.some.inj hid]
      exact List.mem_map_of_mem ha

/-- **Loading again is harmless.**  Whatever a run reaches and whatever is listed, a load leaves
what is cached as it is.  If it reports nothing, a second one that lists nothing new does nothing;
if it reports failures, the second one tries exactly these again. -/
theorem Run.reloads {outside : Services π α φ σ → Services π α φ σ → Prop}
    {allowed : Operation φ σ → Registry π α φ σ → Prop} {s₀ : Services π α φ σ}
    (hrun : Run outside allowed (new s₀) r) :
    Retained r r.init.2 ∧ (∀ call ∈ r.calls .init, call.isAdding)
      ∧ ∀ listing s listing' s', r.services.list = (.ok listing, s) →
        r.init.2.services.list = (.ok listing', s') →
        (∀ id, listing'.contains id → listing.contains id) → r.Reloads s' :=
  ⟨retained_init r, fun _ hcall => isAdding_of_mem_calls_init hrun.filed hcall,
    fun _ _ _ _ hlist hlist' hsub => reloads_of_filed hrun.filed hlist hlist' hsub⟩

end

end Registry

namespace Demo

/-- One subscription is live, and the store has changed what it holds of it.  Of three others that
have come one is refused, and one is of a type without factory. -/
def overtaken : Registry (StoreGate MemoryStore) (Gated (ActiveSet String)) EchoFactory String :=
  { live with services := { live.services with
    store := .opened (.ofList [⟨"s", "B", "g", "bus:/s"⟩, ⟨"t", "A", "g", "bus:/t"⟩,
      ⟨"u", "A", "g", "bus:/u"⟩, ⟨"v", "B", "g", "bus:/v"⟩]) .locked
    activator := { live.services.activator with refuses := fun id => id = "t" } } }

end Demo

/-- The live one stays what it was, and the refused one is tried again, alone.  Where nothing is
refused a second load does nothing. -/
theorem Registry.Run.reloads_demo :
    Demo.overtaken.init.2.cache.get? "s" = Demo.overtaken.cache.get? "s"
      ∧ Call.asked (Demo.overtaken.init.2.calls .init) = ["t"]
      ∧ Demo.live.init.2.calls .init = [.list none] := by
  have hlive : Run (fun _ _ => True) (fun _ _ => True) (new Demo.services) Demo.live :=
    .step (.step .refl trivial) trivial
  have hrun : Run (fun _ _ => True) (fun _ _ => True) (new Demo.services) Demo.overtaken :=
    .change (s := Demo.overtaken.services) hlive trivial
  obtain ⟨hkept, -, hagain⟩ := Run.reloads hrun
  obtain ⟨-, -, hquiet⟩ := Run.reloads hlive
  refine ⟨hkept.registered "s" ⟨Demo.stored, some ⟨"f", ⟨1⟩⟩⟩ rfl rfl, ?_, ?_⟩
  · exact ((hagain _ _ _ _ rfl rfl fun _ h => h).retried ["t"] rfl).1
  · exact ((hquiet _ _ _ _ rfl rfl fun _ h => h).ok rfl).2.2

end SubscriptionRegistry
