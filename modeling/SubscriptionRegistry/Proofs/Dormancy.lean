/-
# No subscription is left dormant by oversight

A cached subscription that is not live although its type has a factory was tried: the latest
attempt was made with that factory, since it is bound and since the entry is cached, and it was
in vain.  Entries come into a cache by four ways and factories come and go, so each operation has
to try what the others leave behind.

The store may list anything, also rows under other keys than their ids, and fail at any call;
factories and the activator may fail as they like.

* `Registry.attempts`: the attempts of an operation.
* `Registry.perform_advances`: an operation misses nothing, and writes down what it tries.
* `Registry.TriedInVain`: what is known about a dormant entry.
* `Registry.Trace.misses_nothing`: it is known about every one, in every trace.
-/
import SubscriptionRegistry.Proofs.Attempts

namespace SubscriptionRegistry

variable {π α φ σ : Type}

/-! ## 1. Calls to other services -/

/-- Since some calls were made, no factory was asked to build anything. -/
def Services.Unbuilt (before : List (Call φ σ)) (s : Services π α φ σ) : Prop :=
  ∃ calls, s.journal = before ++ calls ∧ ∀ f m built, Call.build f m built ∉ calls

namespace Services.Unbuilt

variable {before : List (Call φ σ)} {s s' : Services π α φ σ}

theorem refl (s : Services π α φ σ) : Unbuilt s.journal s :=
  ⟨[], (List.append_nil _).symm, fun _ _ _ => List.not_mem_nil⟩

theorem concat (h : Unbuilt before s) {call : Call φ σ} (hj : s'.journal = s.journal ++ [call])
    (hcall : ∀ f m built, Call.build f m built ≠ call) : Unbuilt before s' := by
  obtain ⟨calls, hcalls, hnone⟩ := h
  refine ⟨calls ++ [call], by rw [hj, hcalls, List.append_assoc], fun f m built hmem => ?_⟩
  rcases List.mem_append.mp hmem with hmem | hmem
  · exact hnone f m built hmem
  · exact hcall f m built (List.mem_singleton.mp hmem)

theorem trans {s'' : Services π α φ σ} (h : Unbuilt before s) (h' : Unbuilt s.journal s'') :
    Unbuilt before s'' := by
  obtain ⟨calls, hcalls, hnone⟩ := h
  obtain ⟨calls', hcalls', hnone'⟩ := h'
  refine ⟨calls ++ calls', by rw [hcalls', hcalls, List.append_assoc], fun f m built hmem => ?_⟩
  rcases List.mem_append.mp hmem with hmem | hmem
  · exact hnone f m built hmem
  · exact hnone' f m built hmem

theorem unregister [Activator α σ] (h : Unbuilt before s) (e : Entry σ) :
    Unbuilt before (e.unregister s).2.2 := by
  unfold Entry.unregister
  split
  · exact h
  · exact h.concat rfl nofun

end Services.Unbuilt

namespace Registry

variable {r r' r'' : Registry π α φ σ}

/-! ## 2. Operations that try nothing -/

/-- Between two registries nothing was tried: whatever is dormant although its type has a factory
was so before. -/
structure Untried (r r' : Registry π α φ σ) : Prop where
  factories : ∀ kind f, r'.factories.get? kind = some f → r.factories.get? kind = some f
  dormant : ∀ key e f, r'.cache.get? key = some e → e.handle = none →
    r'.factories.get? e.metadata.kind = some f → r.cache.get? key = some e
  unbuilt : Services.Unbuilt r.services.journal r'.services

/-- Only services were used. -/
theorem Untried.of_unbuilt {s : Services π α φ σ} (h : Services.Unbuilt r.services.journal s) :
    Untried r { r with services := s } :=
  ⟨fun _ _ hf => hf, fun _ _ _ he _ _ => he, h⟩

theorem Untried.trans (h : Untried r r') (h' : Untried r' r'') : Untried r r'' where
  factories kind f hf := h.factories kind f (h'.factories kind f hf)
  dormant key e f he hd hf :=
    h.dormant key e f (h'.dormant key e f he hd hf) hd (h'.factories _ f hf)
  unbuilt := h.unbuilt.trans h'.unbuilt

section

variable [Activator α σ]

theorem untried_forget (id : String) (r : Registry π α φ σ) : Untried r (r.forget id) := by
  unfold forget
  split
  · exact .of_unbuilt (.refl _)
  · refine ⟨fun _ _ hf => hf, fun key e f he _ _ => ?_, (Services.Unbuilt.refl _).unregister _⟩
    dsimp only at he
    rw [Table.get?_erase] at he
    split at he
    · cases he
    · exact he

variable [BackingStore π]

/-- A subscription that is stored comes in live. -/
theorem untried_storeRegistered (m : Metadata) (object : σ) (r : Registry π α φ σ) :
    Untried r (r.storeRegistered m object).2 := by
  have hstart := Services.Unbuilt.refl r.services
  rcases storeRegistered_cases m object r with
    ⟨s, hact, hout⟩ | ⟨a, s, why, s', hact, hins, hout⟩ | ⟨a, s, s', hact, hins, hout⟩
  · rw [hout]
    exact .of_unbuilt (hstart.concat (Services.journal_of_activate hact) nofun)
  · rw [hout]
    refine .of_unbuilt ?_
    have hs := hstart.concat (Services.journal_of_activate hact) nofun
    exact (hs.concat (Services.journal_of_insert hins) nofun).concat rfl nofun
  · have hs := hstart.concat (Services.journal_of_activate hact) nofun
    rw [hout]
    refine ⟨fun _ _ hf => hf, fun key e f he hd _ => ?_,
      hs.concat (Services.journal_of_insert hins) nofun⟩
    dsimp only at he
    rw [Table.get?_insert] at he
    split at he
    · cases he
      cases hd
    · exact he

theorem untried_takeOut {i : Identifier} {e : Entry σ} {h : Handle σ} (hp : r.Present i e h) :
    Untried r (r.takeOut i.id).2 := by
  have hstart := Services.Unbuilt.refl r.services
  rcases takeOut_cases hp with ⟨why, s, hdel, hout⟩ | ⟨s, hdel, hout⟩
  · rw [hout]
    exact .of_unbuilt (hstart.concat (Services.journal_of_delete hdel) nofun)
  · rw [hout]
    refine ⟨fun _ _ hf => hf, fun key e f he _ _ => ?_,
      (hstart.concat (Services.journal_of_delete hdel) nofun).concat rfl nofun⟩
    dsimp only at he
    rw [Table.get?_erase] at he
    split at he
    · cases he
    · exact he

theorem untried_insert (object : σ) (request : Request) (kind : String) (random : Nat)
    (r : Registry π α φ σ) : Untried r (r.insert object request kind random).2 := by
  rcases insert_cases object request kind random r with ⟨why, -, hout⟩ | ⟨m, -, -, hout⟩
  · rw [hout]
    exact .of_unbuilt (.refl _)
  · rw [hout]
    exact untried_storeRegistered m object r

theorem untried_update (object : σ) (request : Request) (i : Identifier)
    (r : Registry π α φ σ) : Untried r (r.update object request i).2 := by
  rcases update_cases object request i r with
    ⟨why, -, hout⟩ | ⟨e, h, hp, ⟨why, s, hdel, hout⟩ | ⟨m, s, -, -, -, htake, hout⟩⟩
  · rw [hout]
    exact .of_unbuilt (.refl _)
  · rw [hout]
    exact .of_unbuilt ((Services.Unbuilt.refl _).concat (Services.journal_of_delete hdel) nofun)
  · have htaken := untried_takeOut hp
    rw [htake] at htaken
    rw [hout]
    exact htaken.trans (untried_storeRegistered m object _)

theorem untried_delete (i : Identifier) (r : Registry π α φ σ) :
    Untried r (r.delete i).2 := by
  rcases delete_cases i r with ⟨why, -, hout⟩ | ⟨e, h, hp, hout⟩
  · rw [hout]
    exact .of_unbuilt (.refl _)
  · rw [hout]
    exact untried_takeOut hp

omit [Activator α σ] in
theorem untried_flush (r : Registry π α φ σ) : Untried r r.flush.2 := by
  rw [flush_snd]
  exact .of_unbuilt (Writer.write_stable
    (fun m _ s hs => hs.concat (Services.journal_of_insert (s := s) (m := m) rfl) nofun) (.refl _))

omit [BackingStore π] in
/-- What goes dormant with its type's factory is of that type. -/
theorem untried_unbind [Factory φ σ] (factory : Option φ) (r : Registry π α φ σ) :
    Untried r (r.unbind factory).2 := by
  rcases unbind_cases factory r with ⟨-, hout⟩ | ⟨f, -, -, hout⟩ | ⟨f, bound, -, -, hout⟩
  · rw [hout]
    exact .of_unbuilt (.refl _)
  · rw [hout]
    exact .of_unbuilt (.refl _)
  · have hbound : ∀ kind g, (r.unbind factory).2.factories.get? kind = some g →
        kind ≠ Factory.kind f ∧ r.factories.get? kind = some g := by
      intro kind g hg
      rw [hout] at hg
      have hg' : (r.factories.bound.erase (Factory.kind f)).get? kind = some g := hg
      rw [Table.get?_erase] at hg'
      split at hg'
      · cases hg'
      · rename_i hne
        exact ⟨hne, hg'⟩
    refine ⟨fun kind g hg => (hbound kind g hg).2, fun key e g he _ hg => ?_, ?_⟩
    · have hne := (hbound _ g hg).1
      rw [hout] at he
      dsimp only at he
      rw [cache_release, Table.get?_map, Option.map_eq_some_iff] at he
      obtain ⟨e', he', rfl⟩ := he
      by_cases hkind : e'.isKind (Factory.kind f) = true
      · rw [if_pos hkind] at hne
        simp only [Entry.isKind, decide_eq_true_eq] at hkind
        exact absurd hkind hne
      · rw [if_neg hkind]
        exact he'
    · rw [hout]
      refine Table.visit_snd (P := fun s => Services.Unbuilt r.services.journal s)
        (fun e s hs => ?_) r.cache (.refl _)
      have hu := hs.unregister e
      unfold releaseEntry
      split
      · split <;> simp_all
      · exact hs

/-! ## 3. The attempts of an operation -/

variable [Factory φ σ]

/-- The attempts that an operation makes. -/
def attempts : Operation φ σ → Registry π α φ σ → List (Attempt φ σ)
  | .init, r =>
    match r.services.list with
    | (.error _, _) => []
    | (.ok listing, s) => attemptsDormant (fun _ => true)
      ⟨listing.rows.foldl Cache.addMissing r.cache, r.factories, s⟩
  | .bind (some f), r =>
    if r.factories.contains (Factory.kind f) then []
    else attemptsDormant (fun e => e.isKind (Factory.kind f))
      { r with factories := r.factories.update (Factory.kind f) f }
  | .reconcile, r =>
    match r.services.list with
    | (.error _, _) => []
    | (.ok listing, s) => attemptsAdopting listing.rows
      ((r.stale listing).foldl (fun r id => r.forget id) { r with services := s })
  | _, _ => []

/-- Between two registries some attempts were made.  None is missed, and the journal has the calls
of each, one attempt after the other, and none to a factory besides. -/
structure Advances (r : Registry π α φ σ) (attempts : List (Attempt φ σ))
    (r' : Registry π α φ σ) : Prop where
  filed : r'.factories.Filed
  settles : Settles r attempts r'
  recorded : ∃ calls, r'.services.journal
      = r.services.journal ++ calls ++ attempts.flatMap Attempt.calls
    ∧ ∀ f m built, Call.build f m built ∉ calls

omit [Activator α σ] [BackingStore π] in
theorem Untried.advances (h : Untried r r') (hfiled : r.factories.Filed) : Advances r [] r' where
  filed kind f hf := hfiled kind f (h.factories kind f hf)
  settles := .of_nothing_new fun key e f he hd hf =>
    ⟨h.dormant key e f he hd hf, h.factories _ f hf⟩
  recorded := by
    obtain ⟨calls, hcalls, hnone⟩ := h.unbuilt
    exact ⟨calls, by simp [hcalls], hnone⟩

theorem advances_init (hfiled : r.factories.Filed) : Advances r (r.attempts .init) r.init.2 := by
  rcases init_cases r with ⟨why, s, hl, hout⟩ | ⟨listing, s, hl, hout⟩
  · rw [attempts, hl, hout]
    exact (Untried.of_unbuilt ((Services.Unbuilt.refl _).concat (Services.journal_of_list hl)
      nofun)).advances hfiled
  · rw [attempts, hl, hout]
    refine ⟨hfiled.of_become (become_activateDormant _ ⟨_, r.factories, s⟩ hfiled),
      fun key e f he hd hf => ?_, [.list none], ?_, by simp⟩
    · rcases settles_activateDormant _ ⟨_, r.factories, s⟩ hfiled he hd hf with
        htried | ⟨htest, -⟩
      · exact .inl htried
      · cases htest
    · rw [journal_activateDormant _ ⟨_, r.factories, s⟩ hfiled]
      dsimp only
      rw [Services.journal_of_list hl]
      rfl

theorem advances_bind (factory : Option φ) (hfiled : r.factories.Filed) :
    Advances r (r.attempts (.bind factory)) (r.bind factory).2 := by
  rcases bind_cases factory r with ⟨rfl, hout⟩ | ⟨f, rfl, hbound, hout⟩ | ⟨f, rfl, hfree, hout⟩
  · rw [hout]
    exact (Untried.of_unbuilt (.refl _)).advances hfiled
  · rw [attempts, if_pos hbound, hout]
    exact (Untried.of_unbuilt (.refl _)).advances hfiled
  · rw [attempts, if_neg (by rw [hfree]; exact Bool.false_ne_true), hout]
    have hfiled' := hfiled.update f
    refine ⟨hfiled'.of_become (become_activateDormant _ _ hfiled'), fun key e g he hd hg => ?_,
      [], ?_, by simp⟩
    · rcases settles_activateDormant _ _ hfiled' he hd hg with htried | ⟨hkind, hlatest, he', g', hg', hb⟩
      · exact .inl htried
      · simp only [Entry.isKind, decide_eq_false_iff_not] at hkind
        rw [Factories.get?_update, if_neg hkind] at hg'
        exact .inr ⟨hlatest, he', g', hg', hb⟩
    · rw [journal_activateDormant _ _ hfiled', List.append_nil]

theorem advances_reconcile (hfiled : r.factories.Filed) :
    Advances r (r.attempts .reconcile) r.reconcile.2 := by
  rcases reconcile_cases r with ⟨why, s, hl, hout⟩ | ⟨listing, s, hl, added, hout⟩
  · rw [attempts, hl, hout]
    exact (Untried.of_unbuilt ((Services.Unbuilt.refl _).concat (Services.journal_of_list hl)
      nofun)).advances hfiled
  · rw [attempts, hl, hout]
    dsimp only
    have hlisted : Untried r { r with services := s } :=
      .of_unbuilt ((Services.Unbuilt.refl _).concat (Services.journal_of_list hl) nofun)
    have hforgot : Untried r ((r.stale listing).foldl (fun r id => r.forget id)
        { r with services := s }) :=
      List.foldlRecOn (motive := Untried r) _ _ hlisted fun _ h id _ =>
        h.trans (untried_forget id _)
    have hfiled' := (hforgot.advances hfiled).filed
    refine ⟨hfiled'.of_become (become_adoptRows _ hfiled'), ?_, ?_⟩
    · exact (hforgot.advances hfiled).settles.trans (settles_adoptRows _ hfiled')
    · obtain ⟨calls, hcalls, hnone⟩ := hforgot.unbuilt
      exact ⟨calls, by rw [journal_adoptRows _ hfiled', hcalls], hnone⟩

/-- **No operation misses anything.** -/
theorem perform_advances (op : Operation φ σ) (hfiled : r.factories.Filed) :
    Advances r (r.attempts op) (r.perform op).2 := by
  cases op with
  | init => exact advances_init hfiled
  | insert object request kind random =>
    exact (untried_insert object request kind random r).advances hfiled
  | update object request target => exact (untried_update object request target r).advances hfiled
  | delete target => exact (untried_delete target r).advances hfiled
  | bind factory => exact advances_bind factory hfiled
  | unbind factory => exact (untried_unbind factory r).advances hfiled
  | reconcile => exact advances_reconcile hfiled
  | flush => exact (untried_flush r).advances hfiled

end

end Registry

/-! ## 4. Traces -/

section

variable [BackingStore π] [Activator α σ] [Factory φ σ]

namespace Moment

/-- The attempts that were made. -/
def attempts (m : Moment π α φ σ) : List (Attempt φ σ) := m.registry.attempts m.operation

/-- The attempts are what the operation had factories do and what became of it: the journal has
their calls at its end, and no other calls to a factory. -/
def Recorded (m : Moment π α φ σ) : Prop :=
  ∃ calls, m.after.services.journal
      = m.registry.services.journal ++ calls ++ m.attempts.flatMap Attempt.calls
    ∧ ∀ f n built, Call.build f n built ∉ calls

end Moment

namespace Registry

variable {outside : Services π α φ σ → Services π α φ σ → Prop}
  {allowed : Operation φ σ → Registry π α φ σ → Prop} {s : Services π α φ σ}
  {r : Registry π α φ σ} {moments : List (Moment π α φ σ)}

/-- At some moment an entry was tried in vain, with the factory that is `f` now.  From then on it
was always cached, that factory was always bound, and there was no other attempt. -/
def TriedInVain (moments : List (Moment π α φ σ)) (key : String) (e : Entry σ) (f : φ) : Prop :=
  ∃ earlier moment later, moments = earlier ++ moment :: later
    ∧ Tried moment.attempts key e f
    ∧ ∀ m ∈ later, m.registry.cache.get? key = some e
      ∧ (∃ g, m.registry.factories.get? e.metadata.kind = some g ∧ Factory.Becomes g f)
      ∧ Attempt.latest key m.attempts = none

/-- Factories that are bound by operations are bound for their own types. -/
theorem Run.filed (h : Run outside allowed (new s) r) : r.factories.Filed := by
  induction h with
  | refl => exact fun _ _ hf => by cases hf
  | change _ _ ih => exact ih
  | step _ _ ih => exact (perform_advances _ ih).filed

theorem Trace.triedInVain (h : Trace outside allowed (new s) moments r) {key : String}
    {e : Entry σ} {f : φ} (he : r.cache.get? key = some e) (hd : e.handle = none)
    (hf : r.factories.get? e.metadata.kind = some f) : TriedInVain moments key e f := by
  induction h generalizing f with
  | refl => cases he
  | change _ _ ih => exact ih he hf
  | @step moments r op h _ ih =>
    rcases (perform_advances op h.run.filed).settles key e f he hd hf with
      htried | ⟨hnone, hbefore, g, hg, hgf⟩
    · exact ⟨moments, ⟨r, op⟩, [], rfl, htried, fun _ hm => by cases hm⟩
    · obtain ⟨earlier, moment, later, rfl, htried, hlater⟩ := ih hbefore hg
      refine ⟨earlier, moment, later ++ [⟨r, op⟩], by simp, htried.of_becomes hgf, ?_⟩
      intro m hm
      rcases List.mem_append.mp hm with hm | hm
      · obtain ⟨hcached, ⟨g', hg', hb⟩, hlatest⟩ := hlater m hm
        exact ⟨hcached, ⟨g', hg', hb.trans hgf⟩, hlatest⟩
      · rw [List.mem_singleton.mp hm]
        exact ⟨hbefore, ⟨g, hg, hgf⟩, hnone⟩

theorem Trace.recorded (h : Trace outside allowed (new s) moments r) {moment : Moment π α φ σ}
    (hm : moment ∈ moments) : moment.Recorded :=
  (perform_advances moment.operation (h.run_of_mem hm).1.filed).recorded

/-- What was tried in vain has a call in the journal that shows it. -/
theorem Trace.exists_inVain (houtside : ∀ s s', outside s s' → s'.journal = s.journal)
    (h : Trace outside allowed (new s) moments r) {key : String} {e : Entry σ} {f : φ}
    (htried : TriedInVain moments key e f) :
    ∃ call ∈ r.services.journal, call.isInVain = true := by
  obtain ⟨earlier, moment, later, rfl, ⟨a, hlatest, -, ⟨call, hcall, hvain⟩, -⟩, -⟩ := htried
  have hm : moment ∈ earlier ++ moment :: later :=
    List.mem_append_right _ List.mem_cons_self
  obtain ⟨calls, hrecorded, -⟩ := h.recorded hm
  refine ⟨call, (h.journal_prefix houtside hm).subset ?_, hvain⟩
  rw [hrecorded]
  exact List.mem_append_right _ (List.mem_flatMap_of_mem (Attempt.mem_of_latest hlatest) hcall)

/-- **No subscription is left dormant by oversight.**  Whatever is cached and not live although
its type has a factory was tried in vain, with that factory, and has not been tried again since.
So if nothing is ever in vain, all is live that can be. -/
theorem Trace.misses_nothing
    (h : Trace (fun s s' => s'.journal = s.journal) (fun _ _ => True) (new s) moments r) :
    (∀ key e f, r.cache.get? key = some e → e.isRegistered = false →
      r.factories.get? e.metadata.kind = some f → TriedInVain moments key e f)
    ∧ ((∀ call ∈ r.services.journal, call.isInVain = false) →
      ∀ e ∈ r.cache.values, r.factories.contains e.metadata.kind → e.isRegistered = true)
    ∧ ∀ moment ∈ moments, moment.Recorded := by
  have hfirst : ∀ key e f, r.cache.get? key = some e → e.isRegistered = false →
      r.factories.get? e.metadata.kind = some f → TriedInVain moments key e f := by
    intro key e f he hd hf
    rw [Entry.isRegistered, Option.isSome_eq_false_iff, Option.isNone_iff_eq_none] at hd
    exact h.triedInVain he hd hf
  refine ⟨hfirst, fun hsmooth e he hbound => ?_, fun moment => h.recorded⟩
  obtain ⟨row, hrow, rfl⟩ := List.mem_map.mp he
  obtain ⟨f, hf⟩ := Option.isSome_iff_exists.mp hbound
  rw [← Bool.not_eq_false]
  intro hd
  obtain ⟨call, hcall, hvain⟩ := h.exists_inVain (fun _ _ hs => hs)
    (hfirst row.1 row.2 f (Table.get?_eq_some_iff.mpr hrow) hd hf)
  rw [hsmooth call hcall] at hvain
  cases hvain

end Registry

end

namespace Demo

/-- The same services, except that everybody is refused. -/
def refusing : Services (StoreGate MemoryStore) (Gated (ActiveSet String)) EchoFactory String :=
  { services with activator := ⟨.empty, fun _ => true⟩ }

/-- The stored subscription is cached, and there is no factory for it. -/
def loaded : Registry (StoreGate MemoryStore) (Gated (ActiveSet String)) EchoFactory String :=
  ((Registry.new refusing).perform .init).2

end Demo

/-- A subscription that is refused when its factory is bound stays behind, tried; where nobody is
refused all come to life. -/
theorem Registry.Trace.misses_nothing_demo :
    TriedInVain [⟨.new Demo.refusing, .init⟩, ⟨Demo.loaded, .bind (some ⟨"A"⟩)⟩] "s"
      (.dormant Demo.stored) (⟨"A"⟩ : EchoFactory)
    ∧ ∀ e ∈ Demo.live.cache.values, e.isRegistered = true := by
  have hrefused : Trace (fun s s' => s'.journal = s.journal) (fun _ _ => True)
      (.new Demo.refusing) [⟨.new Demo.refusing, .init⟩, ⟨Demo.loaded, .bind (some ⟨"A"⟩)⟩]
      (Demo.loaded.perform (.bind (some ⟨"A"⟩))).2 :=
    .step (.step .refl trivial) trivial
  have hlive : Trace (fun s s' => s'.journal = s.journal) (fun _ _ => True)
      (.new Demo.services) _ Demo.live := .step (.step .refl trivial) trivial
  refine ⟨(Trace.misses_nothing hrefused).1 "s" _ ⟨"A"⟩ rfl rfl rfl, fun e he => ?_⟩
  refine (Trace.misses_nothing hlive).2.1 ?_ e he ?_
  · decide
  · have hall : ∀ e ∈ Demo.live.cache.values, e.metadata.kind = "A" := by decide
    rw [hall e he]
    rfl

end SubscriptionRegistry
