/-
# Operations of different clients commute

Clients that work on different subscriptions do not get into each other's way: it does not matter
whose operation comes first.  Both get the same answers, and entries, rows and live registrations
come out the same, but for the names of activations that were given out in another order.  That is
so whether they succeed, fail, or fail half-way, and in whatever order the rows of the cache are
before and after each of them.

An operation on one subscription commutes because what it comes to is told by one entry.  Binding
a factory goes through the whole cache, but a new subscription that somebody brings along is live
when it gets there: a round looks at it and passes on.  The other rows may be in another order by
then.  So the factory has to build the same in any order, and what could not be activated is named
in the order of the round.

* `Registry.SameOutcome`: outcomes that differ in the order of such names at most.
* `Registry.Joined`, `Registry.sameRound_bind`: binding with a new live subscription in the cache.
* `Operation.Apart`: operations that do not concern the same.
* `Registry.Commuted`: what two operations came to in either order is the same.
* `Registry.Unordered.operations_commute`: operations that are apart commute, in every run.
-/
import SubscriptionRegistry.Proofs.Effects
import SubscriptionRegistry.Proofs.Rearranged
import SubscriptionRegistry.Proofs.Undoing
import SubscriptionRegistry.Proofs.WriteThrough

namespace SubscriptionRegistry

variable {π α φ σ : Type}

namespace Registry

/-! ## 1. Outcomes of rounds in another order -/

/-- The same outcome, or both name the ids that could not be activated, each in the order of its
round. -/
inductive SameOutcome {β : Type} : Except StoreError β → Except StoreError β → Prop
  | same (outcome : Except StoreError β) : SameOutcome outcome outcome
  | notActivated {ids ids' : List String} (h : ids.Perm ids') :
      SameOutcome (.error (.registration (.notActivated ids)))
        (.error (.registration (.notActivated ids')))

theorem SameOutcome.map {β γ : Type} {outcome outcome' : Except StoreError β}
    (h : SameOutcome outcome outcome') (f : β → γ) :
    SameOutcome (outcome.map f) (outcome'.map f) := by
  cases h with
  | same => exact .same _
  | notActivated h => exact .notActivated h

theorem sameOutcome_of_perm {ids ids' : List String} (h : ids.Perm ids') :
    SameOutcome (activationOutcome ids) (activationOutcome ids') := by
  by_cases hids : ids = []
  · obtain rfl : ids' = [] := (hids ▸ h).symm.eq_nil
    rw [hids]
    exact .same _
  · have hids' : ids' ≠ [] := fun hnil => hids (hnil ▸ h).eq_nil
    rw [activationOutcome, activationOutcome, if_neg (by simpa using hids),
      if_neg (by simpa using hids')]
    exact .notActivated h

variable [Activator α σ] [Tracked α σ] [Factory φ σ]

/-! ## 2. Binding with a new live subscription in the cache -/

/-- The second registry has the entries of the first one.  Under a key where that has none it may
have a live one as well, and it granted `d` activations more. -/
structure Joined (refuses : String → Bool) (d : Nat) (key : String) (r r' : Registry π α φ σ) :
    Prop where
  entries : ∀ id, id ≠ key → r'.cache.get? id = r.cache.get? id
  absent : r.cache.get? key = none
  settled : ∀ e, r'.cache.get? key = some e → e.handle ≠ none
  factories : r'.factories = r.factories
  steady : Activator.Steady refuses r.services.activator
  steady' : Activator.Steady refuses r'.services.activator
  issued : r'.services.active.issued = r.services.active.issued + d

/-- Two rounds over the cache that came to the same, except under a key. -/
structure SameRound {β : Type} (n d : Nat) (key : String)
    (out out' : Except StoreError β × Registry π α φ σ) : Prop where
  outcome : SameOutcome out.1 out'.1
  factories : out.2.factories.Akin out'.2.factories
  issued : out'.2.services.active.issued = out.2.services.active.issued + d
  entries : out'.2.services.active.issued < UInt64.size →
    ∀ id, id ≠ key → Option.Rel (Entry.Twin n) (out.2.cache.get? id) (out'.2.cache.get? id)

section

variable {refuses : String → Bool} {test : Entry σ → Bool} {n d : Nat} {key id : String}
  {e : Entry σ} {object : σ} {r r' : Registry π α φ σ}

omit [Activator α σ] [Tracked α σ] [Factory φ σ] in
theorem due_of_not_dormant (he : ¬ e.isDormant) (fs : Factories φ) : e.due test fs = none := by
  rw [Entry.due, eq_false_of_ne_true he]
  rfl

section

variable {fs : Factories φ}

omit [Activator α σ] [Tracked α σ] in
/-- A round makes registrations for dormant entries only. -/
theorem grants_dormant (rows : List (String × Entry σ)) :
    grants refuses test fs (rows.filter fun row => row.2.isDormant)
      = grants refuses test fs rows := by
  rw [grants, List.filterMap_filter]
  refine List.filterMap_congr fun row _ => ?_
  split
  · rfl
  · rename_i hlive
    rw [revival_of_not_due (due_of_not_dormant hlive fs)]
    rfl

omit [Activator α σ] [Tracked α σ] in
/-- It tries dormant entries only. -/
theorem vain_dormant (rows : List (String × Entry σ)) :
    vain refuses test fs (rows.filter fun row => row.2.isDormant) = vain refuses test fs rows := by
  rw [vain, List.filter_filter]
  refine congrArg (List.map _) (List.filter_congr fun row _ => ?_)
  cases hdormant : row.2.isDormant with
  | true => rw [Bool.and_true]
  | false =>
    rw [inVain, due_of_not_dormant (ne_true_of_eq_false hdormant), Bool.and_false]
    rfl

end

omit [Factory φ σ] in
/-- The same entries are dormant. -/
theorem Joined.dormant_perm (h : Joined refuses d key r r') :
    (r.cache.rows.filter fun row => row.2.isDormant).Perm
      (r'.cache.rows.filter fun row => row.2.isDormant) := by
  have hperm := Table.perm_of_get?_eq_of_ne h.absent h.entries
  have hnone : ((r'.cache.get? key).toList.map (key, ·)).filter (fun row => row.2.isDormant)
      = [] := by
    refine List.filter_eq_nil_iff.mpr fun row hrow => ?_
    obtain ⟨e, he, rfl⟩ := List.mem_map.mp hrow
    rw [Entry.isDormant, Option.isNone_iff_eq_none]
    exact h.settled e (Option.mem_toList.mp he)
  have hfilter := (hperm.filter fun row => row.2.isDormant).symm
  rwa [List.filter_append, hnone, List.nil_append] at hfilter

/-- **A round makes the same registrations**, in another order: it passes by what is live. -/
theorem Joined.grants_perm (h : Joined refuses d key r r') (test : Entry σ → Bool) :
    (grants refuses test r.factories r.cache.rows).Perm
      (grants refuses test r'.factories r'.cache.rows) := by
  rw [h.factories, ← grants_dormant, ← grants_dormant r'.cache.rows]
  exact h.dormant_perm.filterMap _

/-- It tries the same in vain. -/
theorem Joined.vain_perm (h : Joined refuses d key r r') (test : Entry σ → Bool) :
    (vain refuses test r.factories r.cache.rows).Perm
      (vain refuses test r'.factories r'.cache.rows) := by
  rw [h.factories, ← vain_dormant, ← vain_dormant r'.cache.rows]
  exact (h.dormant_perm.filter _).map _

theorem issued_activateDormant (hready : Ready test r.factories)
    (hsteady : Activator.Steady refuses r.services.activator) :
    (r.activateDormant test).2.services.active.issued
      = r.services.active.issued + (grants refuses test r.factories r.cache.rows).length :=
  (congrArg ActiveSet.issued (wentThrough_activateDormant hready hsteady).active).trans
    (ActiveSet.issued_activateAll _ _)

/-- What comes to life gets a name that was not given before, while there are names. -/
theorem exists_new_name (hready : Ready test r.factories)
    (hsteady : Activator.Steady refuses r.services.activator)
    (hle : n ≤ r.services.active.issued)
    (hn : (r.activateDormant test).2.services.active.issued < UInt64.size)
    (he : r.cache.get? id = some e) (hrevival : revival refuses test r.factories e = some object) :
    ∃ a, Table.findRow id (r.names refuses test) = some a ∧ n < a.number.toNat := by
  obtain ⟨-, a, hname⟩ := exists_name he hrevival
  refine ⟨a, (Table.findRow_eq_some_iff nodup_names).mpr hname, Nat.lt_of_le_of_lt hle ?_⟩
  rw [issued_activateDormant hready hsteady] at hn
  refine ActiveSet.lt_of_mem_upcoming ?_ hn
  rw [← ActiveSet.names_activateAll]
  exact List.mem_map_of_mem (f := Prod.snd) hname

/-- **A round does not notice a live subscription** that was not there before. -/
theorem sameRound_activateDormant (h : Joined refuses d key r r') (hready : Ready test r.factories)
    (hle : n ≤ r.services.active.issued) :
    SameRound n d key (r.activateDormant test) (r'.activateDormant test) := by
  have hready' : Ready test r'.factories := h.factories.symm ▸ hready
  have hwent := wentThrough_activateDormant hready h.steady
  have hwent' := wentThrough_activateDormant hready' h.steady'
  have hissued : (r'.activateDormant test).2.services.active.issued
      = (r.activateDormant test).2.services.active.issued + d := by
    rw [issued_activateDormant hready h.steady, issued_activateDormant hready' h.steady',
      ← (h.grants_perm test).length_eq, h.issued, Nat.add_right_comm]
  refine ⟨?_, ⟨r.factories, hwent.factories, h.factories ▸ hwent'.factories⟩, hissued, ?_⟩
  · have houtcome : (r.activateDormant test).1 = activationOutcome _ :=
      congrArg activationOutcome hwent.failed
    have houtcome' : (r'.activateDormant test).1 = activationOutcome _ :=
      congrArg activationOutcome hwent'.failed
    rw [houtcome, houtcome']
    exact sameOutcome_of_perm (h.vain_perm test)
  · intro hn id hne
    rw [get?_activateDormant hready h.steady, get?_activateDormant hready' h.steady',
      h.entries id hne, h.factories]
    cases he : r.cache.get? id with
    | none => exact .none
    | some e =>
      rw [Option.map_some, Option.map_some, Option.rel_some_some]
      cases hrevival : revival refuses test r.factories e with
      | none => exact .same e
      | some object =>
        obtain ⟨a, hname, ha⟩ := exists_new_name hready h.steady hle
          (Nat.lt_of_le_of_lt (Nat.le.intro hissued.symm) hn) he hrevival
        obtain ⟨b, hname', hb⟩ := exists_new_name hready' h.steady'
          (Nat.le_trans hle (Nat.le.intro h.issued.symm)) hn ((h.entries id hne).trans he)
          (h.factories ▸ hrevival)
        rw [hname, hname']
        exact .renewed ha hb

/-- Without a round nothing is made of either. -/
theorem Joined.sameRound_refl (h : Joined refuses d key r r') (outcome : Except StoreError Unit) :
    SameRound n d key (outcome, r) (outcome, r') := by
  refine ⟨.same outcome, .of_eq h.factories, h.issued, fun _ id hne => ?_⟩
  rw [h.entries id hne]
  exact Entry.Twin.rel_refl _

/-- **Binding a steady factory comes to the same** with a new live subscription in the cache. -/
theorem sameRound_bind (h : Joined refuses d key r r') (hle : n ≤ r.services.active.issued)
    {factory : Option φ} (hsteady : ∀ f, factory = some f → Factory.Steady f) :
    SameRound n d key (r.bind factory) (r'.bind factory) := by
  cases factory with
  | none => exact h.sameRound_refl (.ok ())
  | some f =>
    cases hbound : r.factories.contains (Factory.kind f) with
    | true =>
      rw [bind_of_contains hbound, bind_of_contains (h.factories ▸ hbound)]
      exact h.sameRound_refl _
    | false =>
      have hjoined : Joined refuses d key
          { r with factories := r.factories.update (Factory.kind f) f }
          { r' with factories := r'.factories.update (Factory.kind f) f } :=
        { h with factories := by rw [h.factories] }
      rw [bind_of_not_contains hbound, bind_of_not_contains (h.factories ▸ hbound)]
      exact sameRound_activateDormant hjoined (ready_bind (hsteady f rfl) r.factories) hle

omit [Tracked α σ] in
/-- What is live, or not there, is passed by. -/
theorem get?_bind_of_settled (factory : Option φ)
    (hsettled : ∀ e, r.cache.get? key = some e → e.handle ≠ none) :
    (r.bind factory).2.cache.get? key = r.cache.get? key := by
  rcases bind_cases factory r with ⟨-, hout⟩ | ⟨f, -, -, hout⟩ | ⟨f, -, -, hout⟩
  · rw [hout]
  · rw [hout]
  · rw [hout]
    exact get?_activateDormant_of_spared fun e he => .inl (hsettled e he)

omit [Tracked α σ] in
/-- Factories that were bound before are not even used. -/
theorem get?_factories_bind (factory : Option φ) {kind : String} {g : φ}
    (hg : r.factories.get? kind = some g) : (r.bind factory).2.factories.get? kind = some g := by
  cases factory with
  | none => exact hg
  | some f =>
    by_cases hkind : kind = Factory.kind f
    · have hbound : r.factories.contains (Factory.kind f) := by
        rw [← hkind]
        exact Option.isSome_of_eq_some hg
      rw [bind_of_contains hbound]
      exact hg
    · rw [get?_factories_bind_of_ne hkind, hg]

end

/-! ## 3. Effects in any order -/

variable [BackingStore π] [FaithfulStore π] {p : Policy}

section

variable {β : Type} {v : Effect β σ} {key id : String} {op : Operation φ σ}
  {a a' b : Except StoreError (Answer σ)} {r r₀ r₁ r' s s₁ : Registry π α φ σ}

omit [Factory φ σ] in
/-- An effect does not depend on the order of the rows. -/
theorem Effected.rearranged {outcome : Except StoreError β} (h : Effected v key r₀ (outcome, r₁))
    (hbefore : r.Rearranged r₀) (hafter : r₁.Rearranged r') : Effected v key r (outcome, r') := by
  obtain ⟨hanswer, hcache, hstored, hfactories, hissued⟩ := h
  rw [hbefore.entries, hbefore.services] at hcache
  rw [hbefore.services] at hstored hissued
  refine ⟨hanswer, ?_, ?_, hafter.factories.trans (hfactories.trans hbefore.factories), ?_⟩
  · intro id
    dsimp only
    rw [hafter.entries]
    exact hcache id
  · intro id
    dsimp only
    rw [hafter.services]
    exact hstored id
  · dsimp only
    rw [hafter.services]
    exact hissued

namespace Performs

omit [Tracked α σ] [FaithfulStore π] in
theorem follows (h : r.Performs op a r₁) (hfollows : r.services.Follows p) :
    r₁.services.Follows p := by
  cases h with
  | mk hbefore hafter =>
    rw [hafter.services]
    refine perform_stable (Services.follows_stable p) op ?_
    rw [hbefore.services]
    exact hfollows

/-- What an operation on one subscription comes to is told by the entry under its id, wherever the
rows are. -/
theorem exists_effect (h : r.Performs op a r₁) (h' : s.Performs op a' s₁)
    (hfollows : r.services.Follows p) (hfollows' : s.services.Follows p)
    (hop : op.subject? = some key) (hsame : s.cache.get? key = r.cache.get? key) :
    ∃ v : Effect (Answer σ) σ, Effected v key r (a, r₁) ∧ Effected v key s (a', s₁) := by
  cases h with
  | mk hbefore hafter =>
    cases h' with
    | mk hbefore' hafter' =>
      obtain ⟨v, hv, hv'⟩ := Registry.exists_effect (hbefore.services ▸ hfollows)
        (hbefore'.services ▸ hfollows') hop (by rw [hbefore.entries, hbefore'.entries, hsame])
      exact ⟨v, hv.rearranged hbefore hafter, hv'.rearranged hbefore' hafter'⟩

/-- Other entries are left alone by an operation on one subscription. -/
theorem get?_of_ne (h : r.Performs op a r₁) (hfollows : r.services.Follows p)
    (hop : op.subject? = some key) (hne : id ≠ key) : r₁.cache.get? id = r.cache.get? id := by
  obtain ⟨v, hv, -⟩ := h.exists_effect h hfollows hfollows hop rfl
  exact hv.get?_of_ne hne

omit [FaithfulStore π] in
/-- Without loading, nothing is asked of the listing to keep account of every activation. -/
theorem owned (h : r.Performs op a r₁) (hinit : op ≠ .init) (hreconcile : op ≠ .reconcile)
    (hfresh : op.Fresh r) (howned : r.Owned) : r₁.Owned := by
  cases h with
  | mk hbefore hafter =>
    have howned₀ := hbefore.owned howned
    have hfresh₀ := hbefore.fresh hfresh
    refine hafter.owned ?_
    cases op with
    | init => exact absurd rfl hinit
    | reconcile => exact absurd rfl hreconcile
    | insert object request kind random => exact howned₀.insert object request kind hfresh₀
    | update object request target => exact howned₀.update object request target
    | delete target => exact howned₀.delete target
    | bind factory => exact howned₀.bind factory
    | unbind factory => exact howned₀.unbind factory
    | flush => exact howned₀.flush

end Performs

omit [Factory φ σ] in
/-- An effect under a key where nothing was leaves something live there, or nothing. -/
theorem joined_of_effected {outcome : Except StoreError β} (h : Effected v key r (outcome, r₁))
    (habsent : r.cache.get? key = none) (hfollows : r.services.Follows p)
    (hfollows' : r₁.services.Follows p) : Joined p.refuses v.activations key r r₁ where
  entries _ hne := h.get?_of_ne hne
  absent := habsent
  settled e he := by
    have hentry := h.cache key
    rw [if_pos rfl, habsent, he] at hentry
    cases hfate : v.fate with
    | keep | drop =>
      rw [hfate] at hentry
      cases hentry
    | put m object =>
      rw [hfate] at hentry
      cases hentry
      exact Option.some_ne_none _
  factories := h.factories
  steady := hfollows.activator
  steady' := hfollows'.activator
  issued := h.issued

omit [Factory φ σ] [BackingStore π] [FaithfulStore π] in
/-- The same with the rows in another order. -/
theorem Joined.rearranged {refuses : String → Bool} {d : Nat} (h : Joined refuses d key r s)
    (hr : r.Rearranged r') (hs : s.Rearranged s₁) : Joined refuses d key r' s₁ where
  entries id hne := by rw [hr.entries, hs.entries, h.entries id hne]
  absent := by rw [hr.entries, h.absent]
  settled e he := h.settled e (hs.entries ▸ he)
  factories := by rw [hr.factories, hs.factories, h.factories]
  steady := hr.services ▸ h.steady
  steady' := hs.services ▸ h.steady'
  issued := by rw [hr.services, hs.services, h.issued]

end

end Registry

/-! ## 4. Operations that are apart -/

/-- Operations that do not concern the same: two on single subscriptions with different ids, or
one that binds a steady factory and one that inserts, of whatever types. -/
inductive Operation.Apart [Factory φ σ] : Operation φ σ → Operation φ σ → Prop
  | single {op op' : Operation φ σ} {key key' : String} (hop : op.subject? = some key)
      (hop' : op'.subject? = some key') (hne : key ≠ key') : Apart op op'
  | binding {factory : Option φ} (hsteady : ∀ f, factory = some f → Factory.Steady f) (object : σ)
      (request : Request) (kind : String) (random : Nat) :
      Apart (.bind factory) (.insert object request kind random)

namespace Registry

variable [Activator α σ] [Tracked α σ] [Factory φ σ] [BackingStore π] [FaithfulStore π]
  {p : Policy} {op op' : Operation φ σ} {key key' : String}
  {a a' b b' : Except StoreError (Answer σ)} {r r₁ r₂ s₁ s₂ : Registry π α φ σ}

/-- Two operations came to the same in either order: once they were answered `a` and `b` and led
from `r` to `r₂`, and once they were answered `a'` and `b'` and led to `s₂`. -/
structure Commuted (op op' : Operation φ σ) (r : Registry π α φ σ)
    (a b : Except StoreError (Answer σ)) (r₂ : Registry π α φ σ)
    (a' b' : Except StoreError (Answer σ)) (s₂ : Registry π α φ σ) : Prop where
  first : SameOutcome a a'
  /-- Only binding answers by the order of the rows. -/
  literally : op.subject? ≠ none → a = a'
  second : b = b'
  /-- Names that were given before stay. -/
  same : ∃ ρ : Equiv.Perm ActivationId,
    (∀ name, name.number.toNat ≤ r.services.active.issued → ρ name = name) ∧ SameUpTo ρ r₂ s₂
  /-- Factories that were bound before are not used. -/
  bound : ∀ kind f, r.factories.get? kind = some f →
    r₂.factories.get? kind = some f ∧ s₂.factories.get? kind = some f
  /-- Look-ups do not show which came first. -/
  found : ∀ i, s₂.get i = r₂.get i
  /-- What a caller brought along is there in the end, though it came first. -/
  spared : ∀ {object request kind random i}, op' = .insert object request kind random →
    b' = .ok (.identifier i) → s₂.get i = .ok (some object)

omit [Tracked α σ] [FaithfulStore π] in
/-- A subscription that was inserted is found. -/
theorem get_of_insert {object : σ} {request : Request} {kind : String} {random : Nat}
    {i : Identifier}
    (h : (r.perform (.insert object request kind random)).1 = .ok (.identifier i)) :
    (r.perform (.insert object request kind random)).2.get i = .ok (some object) := by
  have hinsert : (r.insert object request kind random).1 = .ok i := by
    rw [perform] at h
    cases houtcome : (r.insert object request kind random).1 with
    | error why =>
      rw [houtcome] at h
      cases h
    | ok j =>
      rw [houtcome] at h
      cases h
      rfl
  obtain ⟨m, a, s, s', rfl, hvalid, -, -, hout⟩ := insert_eq_ok hinsert
  rw [perform, hout]
  exact get_eq_ok_some_iff.mpr ⟨_, _, present_of_insert hvalid object a s', rfl⟩

/-- Twins do not show which operation came first. -/
theorem commuted_of_twin (hfirst : SameOutcome a a') (hliterally : op.subject? ≠ none → a = a')
    (hsecond : b = b') (htwin : Twin r.services.active.issued r₂ s₂)
    (hbound : ∀ kind f, r.factories.get? kind = some f →
      r₂.factories.get? kind = some f ∧ s₂.factories.get? kind = some f)
    (howned : r₂.Owned) (howned' : s₂.Owned) (hn : r₂.services.active.issued < UInt64.size)
    (hr' : r₁.Performs op' b r₂) : Commuted op op' r a b r₂ a' b' s₂ := by
  obtain ⟨ρ, hfixed, hsame⟩ := htwin.exists_renaming howned howned' hn
  refine ⟨hfirst, hliterally, hsecond, ⟨ρ, hfixed, hsame⟩, hbound, hsame.get_eq, fun hop hok => ?_⟩
  subst hop
  rw [hsame.get_eq]
  cases hr' with
  | mk _ hafter =>
    rw [hafter.get]
    exact get_of_insert (hsecond.trans hok)

omit [Tracked α σ] [Activator α σ] [Factory φ σ] [BackingStore π] [FaithfulStore π] in
/-- Whether an id is new is told by its entry. -/
theorem fresh_congr {r' : Registry π α φ σ} (hop : op.subject? = some key)
    (hsame : r'.cache.get? key = r.cache.get? key) (hfresh : op.Fresh r) : op.Fresh r' := by
  cases op with
  | insert object request kind random =>
    cases hop
    exact hsame.trans hfresh
  | update object request target => trivial
  | delete target => trivial
  | init | bind | unbind | reconcile | flush => cases hop

omit [FaithfulStore π] in
/-- An operation on one subscription asks for no listing. -/
theorem Performs.owned_single (h : r.Performs op a r₁) (hop : op.subject? = some key)
    (hfresh : op.Fresh r) (howned : r.Owned) : r₁.Owned := by
  refine h.owned ?_ ?_ hfresh howned
  · rintro rfl
    cases hop
  · rintro rfl
    cases hop

/-- Operations on different subscriptions commute. -/
theorem commuted_single (howned : r.Owned) (hfollows : r.services.Follows p)
    (hop : op.subject? = some key) (hop' : op'.subject? = some key') (hne : key ≠ key')
    (hfresh : op.Fresh r) (hfresh' : op'.Fresh r) (hr : r.Performs op a r₁)
    (hr' : r₁.Performs op' b r₂) (hs : r.Performs op' b' s₁) (hs' : s₁.Performs op a' s₂)
    (hn : r₂.services.active.issued < UInt64.size) : Commuted op op' r a b r₂ a' b' s₂ := by
  have hsame := hr.get?_of_ne hfollows hop hne.symm
  have hsame' := hs.get?_of_ne hfollows hop' hne
  obtain ⟨v, hv, hv'⟩ := hr.exists_effect hs' hfollows (hs.follows hfollows) hop hsame'
  obtain ⟨w, hw, hw'⟩ := hs.exists_effect hr' hfollows (hr.follows hfollows) hop' hsame
  obtain ⟨hfirst, hsecond, htwin⟩ := twin_of_effects hne hv hw' hw hv' hn
  refine commuted_of_twin (hfirst ▸ .same a) (fun _ => hfirst) hsecond htwin ?_ ?_ ?_ hn hr'
  · intro kind f hf
    exact ⟨by rw [hw'.factories, hv.factories, hf], by rw [hv'.factories, hw.factories, hf]⟩
  · exact hr'.owned_single hop' (fresh_congr hop' hsame hfresh') (hr.owned_single hop hfresh howned)
  · exact hs'.owned_single hop (fresh_congr hop hsame' hfresh)
      (hs.owned_single hop' hfresh' howned)

/-! ## 5. Binding and inserting -/

section

variable {factory : Option φ} {object : σ} {request : Request} {kind : String} {random : Nat}

namespace Performs

omit [FaithfulStore π] [Tracked α σ]

/-- Binding leaves alone what is live, and what is not there. -/
theorem get?_of_bind (h : r.Performs (.bind factory) a r₁)
    (hsettled : ∀ e, r.cache.get? key = some e → e.handle ≠ none) :
    r₁.cache.get? key = r.cache.get? key := by
  cases h with
  | @mk r₀ _ hbefore hafter =>
    have hkept : (r₀.bind factory).2.cache.get? key = r₀.cache.get? key :=
      get?_bind_of_settled factory fun e he => hsettled e (hbefore.entries ▸ he)
    rw [hafter.entries, perform, hkept, hbefore.entries]

/-- Factories that were bound before are not even used. -/
theorem get?_factories_of_bind (h : r.Performs (.bind factory) a r₁) {kind : String} {f : φ}
    (hf : r.factories.get? kind = some f) : r₁.factories.get? kind = some f := by
  cases h with
  | mk hbefore hafter =>
    rw [hafter.factories]
    exact get?_factories_bind factory (hbefore.factories ▸ hf)

/-- Binding stores nothing and takes no name back. -/
theorem keeps_of_bind [FaithfulStore π] [Tracked α σ] (h : r.Performs (.bind factory) a r₁) :
    r₁.services.stored = r.services.stored
      ∧ r.services.active.issued ≤ r₁.services.active.issued := by
  cases h with
  | mk hbefore hafter =>
    rw [hafter.services, ← hbefore.services]
    exact ⟨bind_stable (Services.stored_locallyStable _) factory rfl,
      bind_stable (issued_stable _).toLocallyStable factory (Nat.le_refl _)⟩

/-- Binding comes to the same with a new live subscription in the cache, in whatever order the
other rows are. -/
theorem sameRound [Tracked α σ] {refuses : String → Bool} {n d : Nat}
    (h : r.Performs (.bind factory) a r₁) (h' : s₁.Performs (.bind factory) a' s₂)
    (hjoined : Joined refuses d key r s₁) (hle : n ≤ r.services.active.issued)
    (hsteady : ∀ f, factory = some f → Factory.Steady f) :
    SameRound n d key (a, r₁) (a', s₂) := by
  cases h with
  | mk hbefore hafter =>
    cases h' with
    | mk hbefore' hafter' =>
      have hround := sameRound_bind (hjoined.rearranged hbefore hbefore')
        (hbefore.services ▸ hle) hsteady
      constructor
      case outcome => exact hround.outcome.map _
      case factories => exact hafter.factories ▸ hafter'.factories ▸ hround.factories
      case issued => exact hafter.services ▸ hafter'.services ▸ hround.issued
      case entries =>
        intro hn id hne
        dsimp only at hn ⊢
        rw [hafter'.services] at hn
        rw [hafter.entries, hafter'.entries]
        exact hround.entries hn id hne

end Performs

/-- **Binding and inserting can change places**, also for one type. -/
theorem twin_of_bind_insert (hfollows : r.services.Follows p)
    (hsteady : ∀ f, factory = some f → Factory.Steady f)
    (hfresh : r.cache.get? (Urn.ofRandom random) = none) (hr : r.Performs (.bind factory) a r₁)
    (hr' : r₁.Performs (.insert object request kind random) b r₂)
    (hs : r.Performs (.insert object request kind random) b' s₁)
    (hs' : s₁.Performs (.bind factory) a' s₂) (hn : r₂.services.active.issued < UInt64.size) :
    SameOutcome a a' ∧ b = b' ∧ Twin r.services.active.issued r₂ s₂ := by
  obtain ⟨hstored, hissued⟩ := hr.keeps_of_bind
  obtain ⟨hstored', hissued'⟩ := hs'.keeps_of_bind
  have hsame : r₁.cache.get? (Urn.ofRandom random) = r.cache.get? (Urn.ofRandom random) :=
    hr.get?_of_bind fun e he => by
      rw [hfresh] at he
      cases he
  obtain ⟨v, hv, hv'⟩ := hs.exists_effect hr' hfollows (hr.follows hfollows) rfl hsame
  have hjoined := joined_of_effected hv hfresh hfollows (hs.follows hfollows)
  have hround := hr.sameRound hs' hjoined (Nat.le_refl _) hsteady
  have hend : s₂.services.active.issued = r₂.services.active.issued :=
    hround.issued.trans hv'.issued.symm
  refine ⟨hround.outcome, hv'.answer.trans hv.answer.symm, fun id => ?_, ?_, ?_, hend⟩
  · by_cases hid : id = Urn.ofRandom random
    · rw [hid, hs'.get?_of_bind hjoined.settled]
      exact hv'.twin hv hsame.symm hissued (Nat.le_refl _) hn
        (Nat.lt_of_le_of_lt hissued' (hend ▸ hn))
    · have hkept : r₂.cache.get? id = r₁.cache.get? id := hv'.get?_of_ne hid
      rw [hkept]
      exact hround.entries (hend ▸ hn) id hid
  · exact hv'.factories ▸ hround.factories
  · have hrow : ∀ id, r₂.services.stored id = s₁.services.stored id := fun id => by
      have hleft := hv'.stored id
      have hright := hv.stored id
      dsimp only at hleft hright
      rw [hleft, hright, hstored]
    rw [hstored']
    exact (funext hrow).symm

/-- Binding a factory commutes with inserting a subscription. -/
theorem commuted_binding (howned : r.Owned) (hfollows : r.services.Follows p)
    (hsteady : ∀ f, factory = some f → Factory.Steady f)
    (hfresh : r.cache.get? (Urn.ofRandom random) = none) (hr : r.Performs (.bind factory) a r₁)
    (hr' : r₁.Performs (.insert object request kind random) b r₂)
    (hs : r.Performs (.insert object request kind random) b' s₁)
    (hs' : s₁.Performs (.bind factory) a' s₂) (hn : r₂.services.active.issued < UInt64.size) :
    Commuted (.bind factory) (.insert object request kind random) r a b r₂ a' b' s₂ := by
  obtain ⟨hfirst, hsecond, htwin⟩ := twin_of_bind_insert hfollows hsteady hfresh hr hr' hs hs' hn
  have hfresh' : r₁.cache.get? (Urn.ofRandom random) = none :=
    (hr.get?_of_bind fun e he => by
      rw [hfresh] at he
      cases he).trans hfresh
  refine commuted_of_twin hfirst (fun hop => absurd rfl hop) hsecond htwin ?_ ?_ ?_ hn hr'
  · intro kind' f hf
    obtain ⟨v, hv, hv'⟩ := hs.exists_effect hr' hfollows (hr.follows hfollows) rfl
      (hfresh'.trans hfresh.symm)
    refine ⟨?_, hs'.get?_factories_of_bind (hv.factories ▸ hf)⟩
    rw [hv'.factories]
    exact hr.get?_factories_of_bind hf
  · exact hr'.owned_single rfl hfresh' (hr.owned (by simp) (by simp) trivial howned)
  · exact hs'.owned (by simp) (by simp) trivial (hs.owned_single rfl hfresh howned)

end

/-! ## 6. In every run -/

/-- **Operations of different clients commute, in every run**, whether they succeed or fail, and a
live object that a caller brings along is not replaced by either.  The rows of the cache may be in
another order at any time.  What the services fail and refuse is told by ids, and new ids are
fresh. -/
theorem Unordered.operations_commute {s : Services π α φ σ} (hlive : s.active.live.rows = [])
    (hjournal : s.journal = []) (hrun : Unordered s r) (hfollows : r.services.Follows p)
    (hapart : op.Apart op') (hfresh : op.Fresh r) (hfresh' : op'.Fresh r)
    (hr : r.Performs op a r₁) (hr' : r₁.Performs op' b r₂) (hs : r.Performs op' b' s₁)
    (hs' : s₁.Performs op a' s₂) (hn : r₂.services.active.issued < UInt64.size) :
    Commuted op op' r a b r₂ a' b' s₂ := by
  have howned := hrun.owned hlive hjournal
  cases hapart with
  | single hop hop' hne =>
    exact commuted_single howned hfollows hop hop' hne hfresh hfresh' hr hr' hs hs' hn
  | binding hsteady object request kind random =>
    exact commuted_binding howned hfollows hsteady hfresh' hr hr' hs hs' hn

end Registry

namespace Demo

/-- From now on the store does not take the live subscription back once it is deleted. -/
def leaky : Registry (StoreGate MemoryStore) (Gated (ActiveSet String)) EchoFactory String :=
  { live with services := { live.services with store := { live.services.store with
      failsInsert := fun id => id = "s" } } }

/-- A caller brings along a subscription of a type. -/
def adding (kind : String) : Operation EchoFactory String :=
  .insert "x" ⟨"g", "bus:/out"⟩ kind 0

/-- Another caller replaces the one that is live. -/
def replacing : Operation EchoFactory String := .update "g" ⟨"h", "bus:/out"⟩ ⟨"s", "A"⟩

theorem leaky_run : Registry.Orderly services leaky :=
  .change (.step (.step .refl ⟨Services.keyed_of_stored (stored_only rfl), trivial⟩)
    ⟨Services.keyed_of_stored (stored_only rfl), trivial⟩) ⟨rfl, rfl⟩

theorem leaky_follows : leaky.services.Follows ⟨fun _ => false,
    StoreGate.failing (fun id => id = "s") .locked, StoreGate.failing (fun _ => false) .locked⟩ :=
  ⟨Gated.steady leaky.services.activator, StoreGate.steady leaky.services.store _⟩

/-- Two subscriptions are stored, and the activator refuses both. -/
def barred : Services (StoreGate MemoryStore) (Gated (ActiveSet String)) EchoFactory String :=
  ⟨.opened (.ofList [⟨"t", "A", "g", "bus:/t"⟩, ⟨"v", "A", "g", "bus:/v"⟩]) .locked,
    ⟨.empty, fun id => id = "t" || id = "v"⟩, []⟩

/-- They are loaded, and there is no factory for them yet. -/
def asleep : Registry (StoreGate MemoryStore) (Gated (ActiveSet String)) EchoFactory String :=
  ((Registry.new barred).perform .init).2

def binding : Operation EchoFactory String := .bind (some ⟨"A"⟩)

/-- The same registry with its rows the other way round. -/
def turned {π α φ σ : Type} (r : Registry π α φ σ) : Registry π α φ σ :=
  { r with cache := ⟨r.cache.rows.reverse, by
    rw [List.map_reverse]
    exact List.nodup_reverse.mpr r.cache.nodup⟩ }

theorem rearranged_turned {π α φ σ : Type} (r : Registry π α φ σ) : r.Rearranged (turned r) :=
  ⟨Table.get?_eq_of_perm r.cache.rows.reverse_perm, rfl, rfl⟩

theorem asleep_run : Registry.Orderly barred asleep := by
  refine .step .refl ⟨Services.keyed_of_stored fun {id m} hm => ?_, trivial⟩
  have hget : barred.store.inner.rows.get? id = some m := hm
  rw [Table.get?_eq_some_iff] at hget
  rcases List.mem_cons.mp hget with h | h
  · cases h
    exact ⟨rfl, by decide, by decide, by decide, by decide, rfl⟩
  · cases List.mem_singleton.mp h
    exact ⟨rfl, by decide, by decide, by decide, by decide, rfl⟩

theorem asleep_follows : asleep.services.Follows ⟨fun id => id = "t" || id = "v",
    StoreGate.failing (fun _ => false) .locked, StoreGate.failing (fun _ => false) .locked⟩ :=
  ⟨Gated.steady asleep.services.activator, StoreGate.steady asleep.services.store _⟩

end Demo

namespace Registry

open Demo (leaky adding replacing asleep binding turned)

/-- An update that fails half-way commutes with an insert.  So does binding a factory for the type
that is inserted, when the insert has turned the rows of the cache round: what cannot be activated
is then named the other way round. -/
theorem Unordered.operations_commute_demo :
    (leaky.perform replacing).1 = .error (.backend "Problem writing to the cache" .locked)
      ∧ Commuted replacing (adding "A") leaky (leaky.perform replacing).1
        ((leaky.perform replacing).2.perform (adding "A")).1
        ((leaky.perform replacing).2.perform (adding "A")).2
        ((leaky.perform (adding "A")).2.perform replacing).1 (leaky.perform (adding "A")).1
        ((leaky.perform (adding "A")).2.perform replacing).2
      ∧ (asleep.perform binding).1 = .error (.registration (.notActivated ["t", "v"]))
      ∧ ((turned (asleep.perform (adding "A")).2).perform binding).1
        = .error (.registration (.notActivated ["v", "t"]))
      ∧ Commuted binding (adding "A") asleep (asleep.perform binding).1
        ((asleep.perform binding).2.perform (adding "A")).1
        ((asleep.perform binding).2.perform (adding "A")).2
        ((turned (asleep.perform (adding "A")).2).perform binding).1 (asleep.perform (adding "A")).1
        ((turned (asleep.perform (adding "A")).2).perform binding).2 :=
  ⟨rfl,
    Unordered.operations_commute rfl rfl Demo.leaky_run.unordered Demo.leaky_follows
      (.single rfl rfl (by decide)) trivial rfl (performs _ _) (performs _ _) (performs _ _)
      (performs _ _) (by decide),
    rfl, rfl,
    Unordered.operations_commute rfl rfl Demo.asleep_run.unordered Demo.asleep_follows
      (.binding (fun f _ => EchoFactory.steady f) _ _ _ _) trivial rfl (performs _ _)
      (performs _ _) (.mk (.refl _) (Demo.rearranged_turned _)) (performs _ _) (by decide)⟩

end Registry
end SubscriptionRegistry
