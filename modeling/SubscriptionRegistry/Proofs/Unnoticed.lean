/-
# Reconciliations that nobody notices

As long as nobody else changes what is stored, a cache that was loaded has nothing to learn from
the store.  A reconciliation then lists the store and does nothing else.  So it does not matter
how many of them are made in the background, when, and which of them cannot read the store:
clients get the same answers, and all ends up the same.

A run with passes and the run without them are played side by side.  The two differ in the calls
made before and in faults that are over; neither is seen by what comes after.

* `Registry.reconcile_of_follows`: what a pass comes to.
* `Event`, `Registry.play`: runs as data.
* `Registry.Alike`: what the two runs have in common at every point.
* `Registry.Run.passes_unnoticed`: that passes are not noticed.
-/
import SubscriptionRegistry.Faults
import SubscriptionRegistry.Proofs.Failure
import SubscriptionRegistry.Proofs.Past
import SubscriptionRegistry.Proofs.WriteThrough
import SubscriptionRegistry.Supervised

namespace SubscriptionRegistry

variable {π α φ σ κ ρ : Type}

/-! ## 1. A single pass -/

namespace Registry

/-- Nothing is adopted where all is cached. -/
theorem adoptMissing_of_cached [Activator α σ] [Factory φ σ] {r : Registry π α φ σ}
    {rows : List (String × Metadata)} (h : ∀ row ∈ rows, r.cache.contains row.1) :
    adoptMissing rows r = ([], r) := by
  induction rows with
  | nil => rfl
  | cons row rest ih =>
    rw [adoptMissing, if_pos (h row List.mem_cons_self)]
    exact ih fun row' hrow => h row' (List.mem_cons_of_mem _ hrow)

/-- A pass finds nothing where the cached ids are those that are listed. -/
theorem reconcile_of_contains [BackingStore π] [Activator α σ] [Factory φ σ]
    {r : Registry π α φ σ} {listing : Table String Metadata} {s : Services π α φ σ}
    (h : ∀ id, listing.contains id = r.cache.contains id)
    (hl : r.services.list = (.ok listing, s)) :
    r.reconcile = (.ok ⟨[], []⟩, { r with services := s }) := by
  have hstale : (r.cache.keys.filter fun id => !listing.contains id) = [] := by
    refine List.filter_eq_nil_iff.mpr fun id hid => ?_
    rw [h, Table.contains_iff.mpr hid]
    decide
  have hcached : ∀ row ∈ listing.rows, r.cache.contains row.1 := by
    intro row hrow
    rw [← h]
    exact Table.contains_iff.mpr (List.mem_map_of_mem hrow)
  have hadopt : adoptMissing listing.rows { r with services := s }
      = ([], { r with services := s }) := adoptMissing_of_cached hcached
  unfold reconcile
  rw [hl]
  dsimp only
  rw [hstale, dropStale]
  dsimp only
  rw [hadopt]

section

variable [BackingStore π] [FaithfulStore π] {r : Registry π α φ σ}

/-- The same keys are cached and stored. -/
theorem Follows.contains_eq (h : r.Follows False) {listing : Table String Metadata}
    {s : Services π α φ σ} (hl : r.services.list = (.ok listing, s)) (id : String) :
    listing.contains id = r.cache.contains id := by
  have hrow : r.cached id = listing.get? id := by rw [h.eq, Services.get?_list hl]
  rw [cached, Cache.get?_metadata] at hrow
  rw [Table.contains, Table.contains, ← hrow, Option.isSome_map]

variable [Activator α σ] [Factory φ σ]

/-- **A pass finds nothing** in a store that the cache follows. -/
theorem reconcile_of_follows (h : r.Follows False) {listing : Table String Metadata}
    {s : Services π α φ σ} (hl : r.services.list = (.ok listing, s)) :
    r.reconcile = (.ok ⟨[], []⟩, { r with services := s }) :=
  reconcile_of_contains (h.contains_eq hl) hl

/-- Whether it can read the store or not, a pass only lists it. -/
theorem reconcile_snd_of_follows (h : r.Follows False) :
    r.reconcile.2 = { r with services := r.services.list.2 } := by
  rcases reconcile_cases r with ⟨why, s, hl, hout⟩ | ⟨listing, s, hl, -⟩
  · rw [hout, hl]
  · rw [reconcile_of_follows h hl, hl]

/-- A pass that reads the store, finds nothing, and calls nothing else. -/
def PassesIdly (r : Registry π α φ σ) : Prop :=
  r.reconcile.1 = .ok ⟨[], []⟩
    ∧ r.reconcile.2.services.journal = r.services.journal ++ [.list none]

theorem Follows.passesIdly (h : r.Follows False) {listing : Table String Metadata}
    {s : Services π α φ σ} (hl : r.services.list = (.ok listing, s)) : r.PassesIdly := by
  rw [PassesIdly, reconcile_of_follows h hl]
  exact ⟨rfl, Services.journal_of_list hl⟩

/-- A pass leaves everything as it was, ready for the next one. -/
theorem Follows.reconcile [Tracked α σ] (h : r.Follows False) :
    r.Untouched r.reconcile.2 ∧ r.reconcile.2.Follows False := by
  have hstored := Services.stored_list r.services
  rw [reconcile_snd_of_follows h]
  exact ⟨untouched_of_stored hstored rfl, h.congr rfl hstored⟩

end

end Registry

/-- A reconciler that is left alone with the registry does nothing, however long it runs. -/
theorem Supervised.elapse_untouched [BackingStore π] [FaithfulStore π] [Activator α σ]
    [Tracked α σ] [Factory φ σ] {s : Supervised π α φ σ} (h : s.registry.Follows False)
    (ms : Nat) : s.registry.Untouched (s.elapse ms).registry := by
  -- The cache follows the store from pass to pass.
  have hpasses : ∀ n, s.registry.Untouched (Nat.repeat pass n s).registry
      ∧ (Nat.repeat pass n s).registry.Follows False := by
    intro n
    induction n with
    | zero => exact ⟨Registry.Untouched.refl _, h⟩
    | succ n ih =>
      obtain ⟨hpass, hfollows⟩ := ih.2.reconcile
      exact ⟨ih.1.trans hpass, hfollows⟩
  exact (hpasses (s.passesIn ms)).1

/-! ## 2. Runs with passes -/

/-- What happens to a registry, and under which conditions: a client asks for an operation, or
a reconciler in the background makes a pass. -/
inductive Event (κ ρ φ σ : Type)
  | operation (c : Conditions κ ρ) (op : Operation φ σ)
  | pass (c : Conditions κ ρ)

/-- Whether it was a client who asked. -/
def Event.isOperation : Event κ ρ φ σ → Bool
  | operation _ _ => true
  | pass _ => false

variable [BackingStore π] [FaithfulStore π] [AdjustableStore π κ]
  [Activator α σ] [Tracked α σ] [AdjustableActivator α ρ]

namespace Registry

theorem follows_under {lags : Prop} {r : Registry π α φ σ} (h : r.Follows lags)
    (c : Conditions κ ρ) : (r.under c).Follows lags :=
  h.congr rfl (Services.stored_under c r.services)

theorem storedKeyed_under {r : Registry π α φ σ} (h : r.services.StoredKeyed)
    (c : Conditions κ ρ) : (r.under c).services.StoredKeyed := by
  intro id m hm
  rw [under, Services.stored_under] at hm
  exact h id m hm

section

variable [Factory φ σ]

/-- Has one thing happen after the other.  With the registry come the answers to the clients;
what comes of a pass nobody is told. -/
def play : List (Event κ ρ φ σ) → Registry π α φ σ →
    List (Except StoreError (Answer σ)) × Registry π α φ σ
  | [], r => ([], r)
  | .operation c op :: rest, r =>
    match (r.under c).perform op with
    | (answer, r) =>
      match play rest r with
      | (answers, r) => (answer :: answers, r)
  | .pass c :: rest, r => play rest (r.under c).reconcile.2

/-- Cache and store stay in step, whatever happens. -/
theorem play_follows (events : List (Event κ ρ φ σ)) {r : Registry π α φ σ}
    (hkeyed : r.services.StoredKeyed) (h : r.Follows False) :
    (play events r).2.Follows False := by
  induction events generalizing r with
  | nil => exact h
  | cons event rest ih =>
    have hkeyed' := fun c : Conditions κ ρ => storedKeyed_under hkeyed c
    cases event with
    | operation c op =>
      exact ih (perform_stable Services.storedKeyed_stable op (hkeyed' c))
        (perform_follows (hkeyed' c) (follows_under h c) op)
    | pass c =>
      exact ih (perform_stable Services.storedKeyed_stable .reconcile (hkeyed' c))
        (reconcile_follows (hkeyed' c) (follows_under h c))

end

/-! ## 3. Side by side -/

/-- Two registries that nobody can tell apart who sets the faults and does not ask for calls
made before. -/
structure Alike (a b : Registry π α φ σ) : Prop where
  cache : a.cache = b.cache
  factories : a.factories = b.factories
  store : ∀ c : κ, AdjustableStore.adjust c a.services.store
    = AdjustableStore.adjust c b.services.store
  activator : ∀ c : ρ, AdjustableActivator.adjust c a.services.activator
    = AdjustableActivator.adjust c b.services.activator
  stored : a.services.stored = b.services.stored
  active : a.services.active = b.services.active

variable {a b : Registry π α φ σ}

theorem Alike.refl (a : Registry π α φ σ) : a.Alike a :=
  ⟨rfl, rfl, fun _ => rfl, fun _ => rfl, rfl, rfl⟩

theorem alike_after (past past' : List (Call φ σ)) (r : Registry π α φ σ) :
    (r.after past).Alike (r.after past') :=
  ⟨rfl, rfl, fun _ => rfl, fun _ => rfl, rfl, rfl⟩

/-- Under the same conditions only the past makes a difference. -/
theorem Alike.under (h : a.Alike b) (c : Conditions κ ρ) :
    ∃ r : Registry π α φ σ, a.under c = r.after a.services.journal
      ∧ b.under c = r.after b.services.journal := by
  refine ⟨⟨a.cache, a.factories, AdjustableStore.adjust c.store a.services.store,
    AdjustableActivator.adjust c.activator a.services.activator, []⟩, ?_, ?_⟩
  · simp [Registry.under, Services.under, after, Services.after]
  · simp [Registry.under, Services.under, after, Services.after, h.cache, h.factories, h.store,
      h.activator]

variable [Factory φ σ]

/-- The same operation is answered alike and leaves them alike. -/
theorem Alike.perform (h : a.Alike b) (c : Conditions κ ρ) (op : Operation φ σ) :
    ((a.under c).perform op).1 = ((b.under c).perform op).1
      ∧ ((a.under c).perform op).2.Alike ((b.under c).perform op).2 := by
  obtain ⟨r, ha, hb⟩ := h.under c
  rw [ha, hb, perform_after, perform_after]
  exact ⟨rfl, alike_after _ _ _⟩

/-- A pass over one of them makes no difference. -/
theorem Alike.pass (h : a.Alike b) (hfull : a.Follows False) (c : Conditions κ ρ) :
    (a.under c).reconcile.2.Alike b := by
  rw [reconcile_snd_of_follows (follows_under hfull c)]
  exact {
    cache := h.cache
    factories := h.factories
    store := fun c' => by
      calc AdjustableStore.adjust c' (BackingStore.list
            (AdjustableStore.adjust c.store a.services.store)).2
        _ = AdjustableStore.adjust c' (AdjustableStore.adjust c.store a.services.store) :=
          AdjustableStore.adjust_list c' _
        _ = AdjustableStore.adjust c' a.services.store :=
          AdjustableStore.adjust_adjust c' c.store _
        _ = AdjustableStore.adjust c' b.services.store := h.store c'
    activator := fun c' =>
      (AdjustableActivator.adjust_adjust c' c.activator _).trans (h.activator c')
    stored := by
      rw [Services.stored_list, Registry.under, Services.stored_under]
      exact h.stored
    active := (Services.active_under c a.services).trans h.active }

/-- **Two runs side by side**, one with passes and one without them. -/
theorem play_alike (events : List (Event κ ρ φ σ)) (hkeyed : a.services.StoredKeyed)
    (hfull : a.Follows False) (h : a.Alike b) :
    (play events a).1 = (play (events.filter Event.isOperation) b).1
      ∧ (play events a).2.Alike (play (events.filter Event.isOperation) b).2 := by
  induction events generalizing a b with
  | nil => exact ⟨rfl, h⟩
  | cons event rest ih =>
    cases event with
    | operation c op =>
      obtain ⟨hanswer, hafter⟩ := h.perform c op
      have hkeyed' := perform_stable Services.storedKeyed_stable op (storedKeyed_under hkeyed c)
      have hfull' := perform_follows (storedKeyed_under hkeyed c) (follows_under hfull c) op
      obtain ⟨hanswers, hend⟩ := ih hkeyed' hfull' hafter
      exact ⟨List.cons_eq_cons.mpr ⟨hanswer, hanswers⟩, hend⟩
    | pass c =>
      exact ih (perform_stable Services.storedKeyed_stable .reconcile (storedKeyed_under hkeyed c))
        (reconcile_follows (storedKeyed_under hkeyed c) (follows_under hfull c))
        (h.pass hfull c)

/-! ## 4. What is not noticed -/

/-- **Passes are not noticed.**  In every run that goes on from a load of the store, with
whatever faults and refusals, all passes may be left out: the answers stay the same, and so does
all that the run ends with.  Each pass that can read the store finds nothing and makes no other
call. -/
theorem Run.passes_unnoticed {s : Services π α φ σ} (hkeyed : s.StoredKeyed)
    {r : Registry π α φ σ} (hrun : Alone (new s) r) {listing : Table String Metadata}
    {s' : Services π α φ σ} (hl : r.services.list = (.ok listing, s'))
    (events : List (Event κ ρ φ σ)) :
    let start := (r.perform .init).2
    (play events start).1 = (play (events.filter Event.isOperation) start).1
      ∧ (play (events.filter Event.isOperation) start).2.Untouched (play events start).2
      ∧ ∀ before c after, events = before ++ .pass c :: after →
        ∀ listing' s'', ((play before start).2.under c).services.list = (.ok listing', s'') →
          ((play before start).2.under c).PassesIdly := by
  intro start
  have hnew : (new s : Registry π α φ σ).Follows True := fun id => Or.inr ⟨trivial, rfl⟩
  obtain ⟨hrows, hfollows⟩ := Alone.keeps hkeyed hnew hrun
  have hrows' : start.services.StoredKeyed :=
    perform_stable Services.storedKeyed_stable .init hrows
  have hfull : start.Follows False := init_follows_of_list hfollows hl
  obtain ⟨hanswers, hend⟩ := play_alike events hrows' hfull (Alike.refl start)
  refine ⟨hanswers, ⟨hend.cache, hend.factories, hend.stored,
    congrArg ActiveSet.live hend.active⟩, ?_⟩
  intro before c after _ listing' s'' hl'
  exact (follows_under (play_follows before hrows' hfull) c).passesIdly hl'

end Registry

namespace Demo

/-- The store fails the calls of some kinds, and nobody is refused. -/
def conditions (insert delete list : Bool) : Conditions StoreFaults (String → Bool) :=
  ⟨⟨fun _ => insert, fun _ => delete, list, .locked⟩, fun _ => false⟩

/-- An update that is caught half-way, after its delete, with passes around it, one of which
cannot read the store. -/
def halfUpdate : List (Event StoreFaults (String → Bool) EchoFactory String) :=
  [.pass (conditions false false false),
    .operation (conditions true false true) (.update "new" ⟨"g", "bus:/out"⟩ ⟨"s", "A"⟩),
    .pass (conditions true true true),
    .pass (conditions true true false),
    .operation (conditions false false false) (.delete ⟨"s", "A"⟩)]

end Demo

/-- The subscription is lost, the client learns of it, and neither is the passes' doing. -/
theorem Registry.Run.passes_unnoticed_demo :
    (play Demo.halfUpdate Demo.live).1
        = [.error (.backend "Problem writing to the cache" .locked),
          .error (.subscriptionNotFound "s")]
      ∧ (play Demo.halfUpdate Demo.live).1
        = (play (Demo.halfUpdate.filter Event.isOperation) Demo.live).1
      ∧ ((play (Demo.halfUpdate.take 3) Demo.live).2.under
        (Demo.conditions true true false)).PassesIdly := by
  have hkeyed : Demo.services.StoredKeyed := fun _ _ hm => (Demo.stored_only rfl hm).1
  have hrun : Alone (new Demo.services) ((new Demo.services).perform (.bind (some ⟨"A"⟩))).2 :=
    .step .refl trivial
  obtain ⟨hanswers, -, hidle⟩ := Run.passes_unnoticed hkeyed hrun rfl Demo.halfUpdate
  exact ⟨rfl, hanswers, hidle (Demo.halfUpdate.take 3) _ (Demo.halfUpdate.drop 4) rfl _ _ rfl⟩

end SubscriptionRegistry
