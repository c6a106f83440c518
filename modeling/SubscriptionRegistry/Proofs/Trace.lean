/-
# Traces

A run says which registry was reached, and not how.  A trace is a run that keeps what was done:
which operation, and on which registry, one moment after the other.  What went on in between is
in the hands of the outside and is not kept.

* `Registry.Trace`: runs with what was done on the way.
* `Registry.Run.trace`, `Registry.Trace.run`: every run leaves a trace, and nothing else does.
* `Registry.Trace.journal_prefix`: what was written into the journal at any moment stays there.
* `Moment.accepted`: the subscription that a client was told is registered.
-/
import SubscriptionRegistry.Proofs.Run

namespace SubscriptionRegistry

variable {π α φ σ : Type}

/-! ## 1. Journals only grow -/

/-- No call takes anything out of the journal. -/
theorem Services.journal_stable [BackingStore π] [Activator α σ] [Factory φ σ]
    (calls : List (Call φ σ)) :
    Services.Stable fun s : Services π α φ σ => calls <+: s.journal where
  activate _ _ _ h := h.trans (List.prefix_append _ _)
  deactivate _ _ h := h.trans (List.prefix_append _ _)
  build _ _ _ h := h.trans (List.prefix_append _ _)
  insert _ _ h := h.trans (List.prefix_append _ _)
  delete _ _ h := h.trans (List.prefix_append _ _)
  list _ h := h.trans (List.prefix_append _ _)

/-! ## 2. Moments and traces -/

/-- An operation, and the registry it was done on. -/
structure Moment (π α φ σ : Type) where
  registry : Registry π α φ σ
  operation : Operation φ σ

namespace Moment

variable [BackingStore π] [Activator α σ] [Factory φ σ]

/-- What the client was answered. -/
def answer (m : Moment π α φ σ) : Except StoreError (Answer σ) :=
  (m.registry.perform m.operation).1

/-- The registry after the operation. -/
def after (m : Moment π α φ σ) : Registry π α φ σ := (m.registry.perform m.operation).2

end Moment

namespace Registry

variable [BackingStore π] [Activator α σ] [Factory φ σ]
  {outside : Services π α φ σ → Services π α φ σ → Prop}
  {allowed : Operation φ σ → Registry π α φ σ → Prop} {start r : Registry π α φ σ}
  {moments : List (Moment π α φ σ)}

/-- The registries that can be reached from `start`, with all moments on the way, the latest
last. -/
inductive Trace (outside : Services π α φ σ → Services π α φ σ → Prop)
    (allowed : Operation φ σ → Registry π α φ σ → Prop) (start : Registry π α φ σ) :
    List (Moment π α φ σ) → Registry π α φ σ → Prop
  | refl : Trace outside allowed start [] start
  | change {moments : List (Moment π α φ σ)} {r : Registry π α φ σ} {s : Services π α φ σ} :
      Trace outside allowed start moments r → outside r.services s →
      Trace outside allowed start moments { r with services := s }
  | step {moments : List (Moment π α φ σ)} {r : Registry π α φ σ} {op : Operation φ σ} :
      Trace outside allowed start moments r → allowed op r →
      Trace outside allowed start (moments ++ [⟨r, op⟩]) (r.perform op).2

/-- A trace is one of a run. -/
theorem Trace.run (h : Trace outside allowed start moments r) : Run outside allowed start r := by
  induction h with
  | refl => exact .refl
  | change _ hs ih => exact .change ih hs
  | step _ hop ih => exact .step ih hop

/-- Every run leaves a trace. -/
theorem Run.trace (h : Run outside allowed start r) :
    ∃ moments, Trace outside allowed start moments r := by
  induction h with
  | refl => exact ⟨[], .refl⟩
  | change _ hs ih =>
    obtain ⟨moments, ih⟩ := ih
    exact ⟨moments, .change ih hs⟩
  | step _ hop ih =>
    obtain ⟨moments, ih⟩ := ih
    exact ⟨_, .step ih hop⟩

/-- What was worked on at any moment was reached by a run, and nothing was done that is not
allowed. -/
theorem Trace.run_of_mem (h : Trace outside allowed start moments r)
    {moment : Moment π α φ σ} (hm : moment ∈ moments) :
    Run outside allowed start moment.registry ∧ allowed moment.operation moment.registry := by
  induction h with
  | refl => cases hm
  | change _ _ ih => exact ih hm
  | step h hop ih =>
    rcases List.mem_append.mp hm with hm | hm
    · exact ih hm
    · rw [List.mem_singleton.mp hm]
      exact ⟨h.run, hop⟩

/-- The journal keeps what it held after any moment, unless the outside tears pages out. -/
theorem Trace.journal_prefix (houtside : ∀ s s', outside s s' → s'.journal = s.journal)
    (h : Trace outside allowed start moments r) {moment : Moment π α φ σ}
    (hm : moment ∈ moments) : moment.after.services.journal <+: r.services.journal := by
  induction h with
  | refl => cases hm
  | change _ hs ih =>
    rw [houtside _ _ hs]
    exact ih hm
  | step h hop ih =>
    rcases List.mem_append.mp hm with hm | hm
    · exact perform_stable (Services.journal_stable _) _ (ih hm)
    · rw [List.mem_singleton.mp hm]
      exact List.prefix_rfl

end Registry

/-! ## 3. What clients were told -/

/-- Storing a subscription succeeds if it is active, stored and cached. -/
theorem Registry.storeRegistered_eq_ok [BackingStore π] [Activator α σ] {m : Metadata} {object : σ}
    {r : Registry π α φ σ} (h : (r.storeRegistered m object).1 = .ok ()) :
    ∃ (a : ActivationId) (s s' : Services π α φ σ), s.insert m = (.ok (), s')
      ∧ (r.storeRegistered m object).2
        = ⟨r.cache.insert m.id ⟨m, some ⟨object, a⟩⟩, r.factories, s'⟩ := by
  rcases storeRegistered_cases m object r with
    ⟨s, -, hout⟩ | ⟨a, s, why, s', -, -, hout⟩ | ⟨a, s, s', -, hins, hout⟩
  · rw [hout] at h
    cases h
  · rw [hout] at h
    cases h
  · exact ⟨a, s, s', hins, by rw [hout]⟩

namespace Moment

variable [BackingStore π] [Activator α σ] [Factory φ σ]

/-- The subscription that a client was told is registered now: by an insert that succeeded, under
the identifier it answered, or by an update that did. -/
def accepted (moment : Moment π α φ σ) : Option (Metadata × σ) :=
  match moment.operation, moment.answer with
  | .insert object request _ _, .ok (.identifier i) =>
    some (⟨i.id, i.kind, request.filter, request.callback⟩, object)
  | .update object request i, .ok _ =>
    some (⟨i.id, i.kind, request.filter, request.callback⟩, object)
  | _, _ => none

/-- An operation that is answered so ends with storing the subscription. -/
theorem accepted_eq_some {moment : Moment π α φ σ} {m : Metadata} {object : σ}
    (h : moment.accepted = some (m, object)) :
    m.Valid ∧ ∃ r : Registry π α φ σ, (r.storeRegistered m object).1 = .ok ()
      ∧ moment.after = (r.storeRegistered m object).2 := by
  obtain ⟨r, op⟩ := moment
  unfold accepted answer at h
  unfold after
  dsimp only at h ⊢
  split at h
  · rename_i object' request kind random i hanswer
    cases h
    dsimp only [Registry.perform] at hanswer ⊢
    rcases Registry.insert_cases object request kind random r with
      ⟨why, -, hout⟩ | ⟨m, rfl, hvalid, hout⟩
    · rw [hout] at hanswer
      cases hanswer
    · rw [hout] at hanswer ⊢
      cases hstore : (r.storeRegistered _ object).1 with
      | error e =>
        rw [hstore] at hanswer
        cases hanswer
      | ok u =>
        rw [hstore] at hanswer
        cases hanswer
        exact ⟨hvalid, r, hstore, rfl⟩
  · rename_i object' request i a hanswer
    cases h
    dsimp only [Registry.perform] at hanswer ⊢
    rcases Registry.update_cases object request i r with
      ⟨why, -, hout⟩ | ⟨e, hd, -, ⟨why, s, -, hout⟩ | ⟨m, s, rfl, hvalid, -, -, hout⟩⟩
    · rw [hout] at hanswer
      cases hanswer
    · rw [hout] at hanswer
      cases hanswer
    · cases hupdate : (r.update object request i).1 with
      | error e =>
        rw [hupdate] at hanswer
        cases hanswer
      | ok u =>
        rw [hout] at hupdate ⊢
        exact ⟨hvalid, _, hupdate, rfl⟩
  · cases h

end Moment

end SubscriptionRegistry
