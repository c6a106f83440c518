/-
# Errors say who is at fault

Callers choose what to do by the class of an error, so the class has to be right.  Whatever a
backing store fails with, be it an error of any class or one that wraps another, is reported as a
fault of the store, with that very error beneath; a batch reports the text of each.  The other
way round, a fault of the caller is found before anything is done, and what does not fit the
registry does not fit it: something is missing, bound already, not bound, or was refused.

Nothing is assumed of the store, the activator and the factories.

* `Registry.Unfit`: what an error of class consistency can mean.
* `Registry.Truthful`: what is promised of an answer.
* `Registry.Ends.truthful`: every end of an operation keeps the promise.
* `Registry.Run.errors_truthful`: so every operation does, in every run.
-/
import SubscriptionRegistry.Proofs.Calls

namespace SubscriptionRegistry

variable {π α φ σ : Type}

/-! ## 1. What is promised -/

/-- What a batch reports of a write that failed. -/
def Call.report? : Call φ σ → Option (String × String)
  | .insert m (some why) => some (m.id, why.message)
  | _ => none

namespace Registry

variable [Factory φ σ]

/-- How an operation can fail to fit the registry, the factories or the activator. -/
inductive Unfit (r : Registry π α φ σ) (op : Operation φ σ) (calls : List (Call φ σ)) :
    StoreError → Prop
  | missing {i : Identifier} (hop : op.target? = some i) (hmissing : r.Missing i) :
      Unfit r op calls (.subscriptionNotFound i.id)
  | duplicate {f : φ} (hop : op = .bind (some f))
      (hbound : r.factories.contains (Factory.kind f)) :
      Unfit r op calls (.duplicateFactory (Factory.kind f))
  | unbound {f : φ} (hop : op = .unbind (some f))
      (hfree : r.factories.get? (Factory.kind f) = none) :
      Unfit r op calls (.factoryNotBound (Factory.kind f))
  | refused {object : σ} {properties : Properties}
      (hcall : .activate object properties none ∈ calls) :
      Unfit r op calls (.registration (.refused properties.id))
  /-- For each of these a factory built nothing, or the activator refused. -/
  | inactive {ids : List String} (hne : ids ≠ [])
      (hvain : ∀ id ∈ ids, ∃ call ∈ calls, call.isInVain ∧ call.subject? = some id) :
      Unfit r op calls (.registration (.notActivated ids))

/-- The answer tells the truth about an operation on `r`, about the calls that it made and the
registry that it left. -/
structure Truthful (r : Registry π α φ σ) (op : Operation φ σ)
    (answer : Except StoreError (Answer σ)) (calls : List (Call φ σ))
    (r' : Registry π α φ σ) : Prop where
  /-- What a call to the store fails with is what the answer wraps. -/
  told : op ≠ .flush → ∀ call ∈ calls, ∀ why, call.failure? = some why →
    ∃ context, answer = .error (.backend context why)
  /-- Of a batch it wraps all failures, each with its text. -/
  batch : op = .flush → (∃ call ∈ calls, call.failure? ≠ none) →
    answer = .error (.backend "Problem writing to the cache"
      (.batchFailed calls.length (calls.filterMap Call.report?)))
  validation : ∀ why, answer = .error why → why.errorClass = .validation → calls = [] ∧ r' = r
  consistency : ∀ why, answer = .error why → why.errorClass = .consistency →
    (∀ call ∈ calls, call.failure? = none) ∧ r.Unfit op calls why
  backend : ∀ why, answer = .error why → why.errorClass = .backend →
    ∃ call ∈ calls, call.failure? ≠ none

variable {r r' r₀ : Registry π α φ σ} {op : Operation φ σ}
  {answer : Except StoreError (Answer σ)} {calls : List (Call φ σ)} {why : StoreError}

theorem Unfit.errorClass (h : r.Unfit op calls why) : why.errorClass = .consistency := by
  cases h <;> rfl

/-! ## 2. The shapes that ends take -/

namespace Truthful

/-- The caller is told before anything is done. -/
theorem of_rejected (hwhy : why.errorClass = .validation) : r.Truthful op (.error why) [] r where
  told _ := List.forall_mem_nil _
  batch _ := by
    rintro ⟨call, hcall, -⟩
    cases hcall
  validation _ _ _ := ⟨rfl, rfl⟩
  consistency _ h hclass := by
    cases h
    rw [hwhy] at hclass
    cases hclass
  backend _ h hclass := by
    cases h
    rw [hwhy] at hclass
    cases hclass

/-- All went well. -/
theorem of_ok {answered : Answer σ} (hnone : ∀ call ∈ calls, call.failure? = none) :
    r.Truthful op (.ok answered) calls r' where
  told _ call hcall why hwhy := by
    rw [hnone call hcall] at hwhy
    cases hwhy
  batch _ := by
    rintro ⟨call, hcall, hfailure⟩
    exact absurd (hnone call hcall) hfailure
  validation _ h := by cases h
  consistency _ h := by cases h
  backend _ h := by cases h

/-- The store did its part, and something else does not fit. -/
theorem of_unfit (hnone : ∀ call ∈ calls, call.failure? = none) (hwhy : r.Unfit op calls why) :
    r.Truthful op (.error why) calls r' where
  told _ call hcall why hwhy := by
    rw [hnone call hcall] at hwhy
    cases hwhy
  batch _ := by
    rintro ⟨call, hcall, hfailure⟩
    exact absurd (hnone call hcall) hfailure
  validation _ h hclass := by
    cases h
    rw [hwhy.errorClass] at hclass
    cases hclass
  consistency _ h _ := by
    cases h
    exact ⟨hnone, hwhy⟩
  backend _ h hclass := by
    cases h
    rw [hwhy.errorClass] at hclass
    cases hclass

/-- One call to the store failed. -/
theorem of_failure {context : String} (call : Call φ σ) (hop : op ≠ .flush)
    (hcall : call ∈ calls) (hwhy : call.failure? = some why)
    (honly : ∀ other ∈ calls, other ≠ call → other.failure? = none) :
    r.Truthful op (.error (.backend context why)) calls r' where
  told _ other hother why' hwhy' := by
    by_cases heq : other = call
    · subst heq
      rw [hwhy] at hwhy'
      cases hwhy'
      exact ⟨context, rfl⟩
    · rw [honly other hother heq] at hwhy'
      cases hwhy'
  batch h := absurd h hop
  validation _ h hclass := by
    cases h
    cases hclass
  consistency _ h hclass := by
    cases h
    cases hclass
  backend _ _ _ := ⟨call, hcall, by rw [hwhy]; exact Option.some_ne_none why⟩

end Truthful

/-- A round of attempts does not need the store. -/
theorem truthful_round (before : List (Call φ σ)) (attempts : List (Attempt φ σ))
    (hbefore : ∀ call ∈ before, call.failure? = none) :
    r.Truthful op ((activationOutcome (Attempt.failed attempts)).map fun _ => .done)
      (before ++ attempts.flatMap Attempt.calls) r' := by
  have hnone : ∀ call ∈ before ++ attempts.flatMap Attempt.calls, call.failure? = none := by
    intro call hcall
    rcases List.mem_append.mp hcall with hcall | hcall
    · exact hbefore call hcall
    · obtain ⟨a, -, hcall⟩ := List.mem_flatMap.mp hcall
      exact Call.failure?_of_isLocal (Attempt.isLocal_of_mem_calls hcall)
  unfold activationOutcome
  split
  · exact .of_ok hnone
  · rename_i hfailed
    refine .of_unfit hnone (.inactive (fun h => hfailed (by rw [h]; rfl)) fun id hid => ?_)
    obtain ⟨a, ha, ⟨call, hcall, hvain⟩, rfl⟩ := Attempt.mem_failed hid
    have hmem := List.mem_append_right before (List.mem_flatMap_of_mem ha hcall)
    exact ⟨call, hmem, hvain, Attempt.subject?_of_mem_calls hcall⟩

/-- A batch of writes reports what failed of it. -/
theorem truthful_flush {written : List (Metadata × Option StoreError)} {size : Nat}
    (hsize : written.length = size) :
    r.Truthful .flush
      (if Writer.failures written = [] then .ok .done
        else .error (.backend "Problem writing to the cache"
          (.batchFailed size (Writer.failures written))))
      (Writer.writes written) r' := by
  have hreport : (Writer.writes written : List (Call φ σ)).filterMap Call.report?
      = Writer.failures written := by
    rw [Writer.writes, Writer.failures, List.filterMap_map]
    refine List.filterMap_congr fun w _ => ?_
    obtain ⟨m, _ | why⟩ := w <;> rfl
  have hlength : (Writer.writes written : List (Call φ σ)).length = size := by
    rw [Writer.writes, List.length_map, hsize]
  have hfailed : Writer.failures written = []
      ↔ ∀ call ∈ (Writer.writes written : List (Call φ σ)), call.failure? = none := by
    simp only [Writer.failures, Writer.writes, List.filterMap_eq_nil_iff, Option.map_eq_none_iff,
      List.forall_mem_map, Call.failure?]
  split
  · rename_i hnone
    exact .of_ok (hfailed.mp hnone)
  · rename_i hsome
    refine ⟨fun h => absurd rfl h, fun _ _ => by rw [hlength, hreport], fun _ h hclass => ?_,
      fun _ h hclass => ?_, fun _ _ _ => ?_⟩
    · cases h
      cases hclass
    · cases h
      cases hclass
    · by_contra hno
      refine hsome (hfailed.mpr fun call hcall => ?_)
      by_contra hfailure
      exact hno ⟨call, hcall, hfailure⟩

variable [BackingStore π] [Activator α σ]

/-- Storing a subscription fails with a refusal or with what the store failed with, and giving the
activation up does not hide it. -/
theorem Stores.truthful {m : Metadata} {object : σ} {outcome : Except StoreError Unit}
    (h : r₀.Stores m object outcome calls r') (hop : op ≠ .flush) (before : List (Call φ σ))
    (hbefore : ∀ call ∈ before, call.failure? = none) (f : Unit → Answer σ) :
    r.Truthful op (outcome.map f) (before ++ calls) r' := by
  cases h with
  | refused hact =>
    refine .of_unfit (fun call hcall => ?_) (.refused (List.mem_append_right _ List.mem_cons_self))
    rcases List.mem_append.mp hcall with hcall | hcall
    · exact hbefore call hcall
    · rw [List.mem_singleton.mp hcall]
      rfl
  | @unstored a s s' why hact hins =>
    refine .of_failure (.insert m (some why)) hop (by simp) rfl fun call hcall hne => ?_
    rcases List.mem_append.mp hcall with hcall | hcall
    · exact hbefore call hcall
    · simp only [List.mem_cons, List.not_mem_nil, or_false] at hcall
      rcases hcall with rfl | rfl | rfl
      · rfl
      · exact absurd rfl hne
      · rfl
  | stored hact hins =>
    refine .of_ok fun call hcall => ?_
    rcases List.mem_append.mp hcall with hcall | hcall
    · exact hbefore call hcall
    · simp only [List.mem_cons, List.not_mem_nil, or_false] at hcall
      rcases hcall with rfl | rfl <;> rfl

/-! ## 3. Every end -/

/-- **Every end keeps the promise.** -/
theorem Ends.truthful (h : r.Ends op answer calls r') : r.Truthful op answer calls r' := by
  cases h with
  | rejected _ hwhy => exact .of_rejected hwhy
  | absent hop hmissing =>
    exact .of_unfit (List.forall_mem_nil _) (.missing hop hmissing)
  | duplicate hbound =>
    exact .of_unfit (List.forall_mem_nil _) (.duplicate rfl hbound)
  | unbound hfree =>
    exact .of_unfit (List.forall_mem_nil _) (.unbound rfl hfree)
  | idle hop => exact .of_ok (List.forall_mem_nil _)
  | inserted hm hstores =>
    exact hstores.truthful (by nofun) [] (List.forall_mem_nil _) _
  | undeleted hop hpresent hdel =>
    refine .of_failure _ ?_ List.mem_cons_self rfl fun _ hcall hne =>
      absurd (List.mem_singleton.mp hcall) hne
    rintro rfl
    cases hop
  | deleted hpresent hdel =>
    refine .of_ok fun call hcall => ?_
    simp only [List.mem_cons, List.not_mem_nil, or_false] at hcall
    rcases hcall with rfl | rfl <;> rfl
  | @updated _ _ i _ h _ _ _ _ _ hpresent hdel hm hstores =>
    refine hstores.truthful (by nofun) [.delete i.id none, .deactivate h.activation]
      (fun call hcall => ?_) _
    simp only [List.mem_cons, List.not_mem_nil, or_false] at hcall
    rcases hcall with rfl | rfl <;> rfl
  | bound hfree =>
    exact truthful_round [] _ (List.forall_mem_nil _)
  | withdrawn hbound =>
    exact .of_ok fun call hcall =>
      Call.failure?_of_isLocal (Entry.isLocal_of_mem_releases hcall)
  | unloaded hlist =>
    exact .of_failure _ nofun List.mem_cons_self rfl fun _ hcall hne =>
      absurd (List.mem_singleton.mp hcall) hne
  | loaded hlist =>
    refine truthful_round [.list none] _ fun call hcall => ?_
    rw [List.mem_singleton.mp hcall]
    rfl
  | unlisted hlist =>
    exact .of_failure _ nofun List.mem_cons_self rfl fun _ hcall hne =>
      absurd (List.mem_singleton.mp hcall) hne
  | followed hlist =>
    refine .of_ok fun call hcall => ?_
    simp only [List.mem_cons, List.mem_append, List.mem_flatMap] at hcall
    rcases hcall with rfl | hcall | ⟨a, -, hcall⟩
    · rfl
    · exact Call.failure?_of_isLocal (Entry.isLocal_of_mem_releases hcall)
    · exact Call.failure?_of_isLocal (Attempt.isLocal_of_mem_calls hcall)
  | flushed hall =>
    refine truthful_flush ?_
    have hlength := congrArg List.length hall
    simpa [Table.values, Table.size] using hlength

/-! ## 4. Runs -/

omit [BackingStore π] [Activator α σ] [Factory φ σ] in
/-- A look-up asks nobody, and what it fails with is the caller's fault. -/
theorem errorClass_of_contains {i : Identifier} (h : r.contains i = .error why) :
    why.errorClass = .validation :=
  errorClass_of_get (eq_error_of_map h)

/-- **Errors tell the truth**, in every run of a registry, whatever the outside does to the
services and whatever these fail with. -/
theorem Run.errors_truthful {outside : Services π α φ σ → Services π α φ σ → Prop}
    {allowed : Operation φ σ → Registry π α φ σ → Prop} {s : Services π α φ σ}
    (hrun : Run outside allowed (new s) r) :
    (∀ op, r.Truthful op (r.perform op).1 (r.calls op) (r.perform op).2)
      ∧ ∀ i why, r.get i = .error why ∨ r.contains i = .error why →
        why.errorClass = .validation := by
  refine ⟨fun op => (ends_perform op hrun.filed).truthful, fun i why h => ?_⟩
  rcases h with h | h
  · exact errorClass_of_get h
  · exact errorClass_of_contains h

end Registry

namespace Demo

/-- The store claims that a subscription does not exist, whenever it is to write. -/
def denying : Registry (StoreGate MemoryStore) (Gated (ActiveSet String)) EchoFactory String :=
  { live with services := { live.services with store := { live.services.store with
      failsInsert := fun _ => true, failsDelete := fun _ => true,
      error := .subscriptionNotFound "s" } } }

end Demo

/-- What the store says of subscriptions is not what the registry says of them. -/
theorem Registry.Run.errors_truthful_demo :
    (∃ context, (Demo.denying.perform (.delete ⟨"s", "A"⟩)).1
        = .error (.backend context (.subscriptionNotFound "s")))
      ∧ (Demo.denying.perform .flush).1 = .error (.backend "Problem writing to the cache"
        (.batchFailed 1 [("s", "Subscription [s] does not exist")])) := by
  have hlive : Run (fun _ _ => True) (fun _ _ => True) (new Demo.services) Demo.live :=
    .step (.step .refl trivial) trivial
  have hrun : Run (fun _ _ => True) (fun _ _ => True) (new Demo.services) Demo.denying :=
    .change (s := Demo.denying.services) hlive trivial
  obtain ⟨htruthful, -⟩ := Run.errors_truthful hrun
  have hdelete : Call.delete "s" (some (.subscriptionNotFound "s"))
      ∈ Demo.denying.calls (.delete ⟨"s", "A"⟩) := List.mem_cons_self
  have hinsert : Call.insert Demo.stored (some (.subscriptionNotFound "s"))
      ∈ Demo.denying.calls .flush := List.mem_cons_self
  exact ⟨(htruthful (.delete ⟨"s", "A"⟩)).told nofun _ hdelete _ rfl,
    (htruthful .flush).batch rfl ⟨_, hinsert, nofun⟩⟩

end SubscriptionRegistry
