/-
# What an operation does to its subscription

An insert, an update or a delete concerns one id.  If the services fail and refuse by id, what it
comes to is told by the entry under that id and by nothing else: its answer, what becomes of the
entry and of the row, and how many activations it asks for.  All the rest is left alone, and that
is why two of them with different ids can change places.

* `Services.Follows`: services that fail and refuse by id.
* `Effect`: what an operation comes to, without the name of the activation.
* `Registry.Effected`: an operation that had an effect.
* `Registry.exists_effect`: the effect depends on one entry only.
* `Registry.twin_of_effects`: effects on different ids can change places.
-/
import SubscriptionRegistry.Proofs.Twins
import SubscriptionRegistry.Proofs.Update

namespace SubscriptionRegistry

variable {π α φ σ : Type}

/-! ## 1. Services that fail and refuse by id -/

/-- What a store becomes by being used. -/
inductive BackingStore.Becomes [BackingStore π] (p : π) : π → Prop
  | refl : Becomes p p
  | insert {q : π} (h : Becomes p q) (m : Metadata) : Becomes p (BackingStore.insert m q).2
  | delete {q : π} (h : Becomes p q) (id : String) : Becomes p (BackingStore.delete id q).2
  | list {q : π} (h : Becomes p q) : Becomes p (BackingStore.list q).2

theorem BackingStore.Becomes.trans [BackingStore π] {p q q' : π} (h : BackingStore.Becomes p q)
    (h' : BackingStore.Becomes q q') : BackingStore.Becomes p q' := by
  induction h' with
  | refl => exact h
  | insert _ m ih => exact ih.insert m
  | delete _ id ih => exact ih.delete id
  | list _ ih => exact ih.list

/-- What services refuse and fail, by subscription id. -/
structure Policy where
  refuses : String → Bool
  failsInsert : String → Option StoreError
  failsDelete : String → Option StoreError

/-- A store that fails by id, and goes on failing just so. -/
def BackingStore.Steady [BackingStore π] (p : Policy) (b : π) : Prop :=
  ∀ q, BackingStore.Becomes b q →
    (∀ m, failureOf (BackingStore.insert m q).1 = p.failsInsert m.id)
      ∧ ∀ id, failureOf (BackingStore.delete id q).1 = p.failsDelete id

theorem BackingStore.Steady.becomes [BackingStore π] {p : Policy} {b c : π}
    (h : BackingStore.Steady p b) (hbc : BackingStore.Becomes b c) : BackingStore.Steady p c :=
  fun q hq => h q (hbc.trans hq)

namespace StoreGate

/-- What a gate fails, with its error. -/
def failing (fails : String → Bool) (error : StoreError) (id : String) : Option StoreError :=
  if fails id then some error else none

/-- A gate in front of a store in memory is steady. -/
theorem steady (g : StoreGate MemoryStore) (refuses : String → Bool) :
    BackingStore.Steady ⟨refuses, failing g.failsInsert g.error, failing g.failsDelete g.error⟩
      g := by
  intro b hb
  have hsame : b.failsInsert = g.failsInsert ∧ b.failsDelete = g.failsDelete
      ∧ b.error = g.error := by
    induction hb with
    | refl => exact ⟨rfl, rfl, rfl⟩
    | @insert b _ m ih =>
      simp only [BackingStore.insert]
      split <;> exact ih
    | @delete b _ id ih =>
      simp only [BackingStore.delete]
      split <;> exact ih
    | @list b _ ih =>
      simp only [BackingStore.list]
      split <;> exact ih
  obtain ⟨hinsert, hdelete, herror⟩ := hsame
  simp only [failing, ← hinsert, ← hdelete, ← herror, BackingStore.insert, BackingStore.delete]
  refine ⟨fun m => ?_, fun id => ?_⟩
  · cases b.failsInsert m.id <;> rfl
  · cases b.failsDelete id <;> rfl

end StoreGate

variable [BackingStore π] [Activator α σ]

/-- Services that fail and refuse by id. -/
structure Services.Follows (p : Policy) (s : Services π α φ σ) : Prop where
  activator : Activator.Steady p.refuses s.activator
  store : BackingStore.Steady p s.store

/-- They go on doing so. -/
theorem Services.follows_stable [Factory φ σ] (p : Policy) :
    Services.Stable fun s : Services π α φ σ => s.Follows p where
  activate object properties _ hs :=
    ⟨hs.activator.becomes (Activator.Becomes.refl.activate object properties), hs.store⟩
  deactivate a _ hs := ⟨hs.activator.becomes (Activator.Becomes.refl.deactivate a), hs.store⟩
  build _ _ _ hs := ⟨hs.activator, hs.store⟩
  insert m _ hs := ⟨hs.activator, hs.store.becomes (BackingStore.Becomes.refl.insert m)⟩
  delete id _ hs := ⟨hs.activator, hs.store.becomes (BackingStore.Becomes.refl.delete id)⟩
  list _ hs := ⟨hs.activator, hs.store.becomes BackingStore.Becomes.refl.list⟩

namespace Services.Follows

variable {p : Policy} {s s' : Services π α φ σ} {outcome : Except StoreError Unit}

theorem of_insert (h : s.Follows p) {m : Metadata} (hins : s.insert m = (outcome, s')) :
    p.failsInsert m.id = failureOf outcome := by
  cases hins
  exact ((h.store s.store .refl).1 m).symm

theorem of_delete (h : s.Follows p) {id : String} (hdel : s.delete id = (outcome, s')) :
    p.failsDelete id = failureOf outcome := by
  cases hdel
  exact ((h.store s.store .refl).2 id).symm

theorem of_activate (h : s.Follows p) {object : σ} {properties : Properties}
    {granted : Option ActivationId} (hact : s.activate object properties = (granted, s')) :
    p.refuses properties.id = granted.isNone := by
  rw [Bool.eq_iff_iff, ← h.activator _ .refl object properties, Option.isNone_iff_eq_none,
    (Services.of_activate hact).1]

/-- An activation does not change the store. -/
theorem activated (h : s.Follows p) {object : σ} {properties : Properties}
    {granted : Option ActivationId} (hact : s.activate object properties = (granted, s')) :
    s'.Follows p := by
  cases hact
  exact ⟨h.activator.becomes (Activator.Becomes.refl.activate object properties), h.store⟩

end Services.Follows

/-! ## 2. Effects -/

/-- What becomes of the subscription under an id. -/
inductive Fate (σ : Type)
  | keep
  | drop
  /-- It is stored, and live under an activation of its own. -/
  | put (m : Metadata) (object : σ)

namespace Fate

/-- The entry after it, with the name of the next activation. -/
def entry (next : ActivationId) (before : Option (Entry σ)) : Fate σ → Option (Entry σ)
  | keep => before
  | drop => none
  | put m object => some ⟨m, some ⟨object, next⟩⟩

/-- The row after it. -/
def row (before : Option Metadata) : Fate σ → Option Metadata
  | keep => before
  | drop => none
  | put m _ => some m

/-- The activations that it takes. -/
def activations : Fate σ → Nat
  | put _ _ => 1
  | _ => 0

/-- The same when the subscription was dropped before. -/
def orDrop : Fate σ → Fate σ
  | keep => drop
  | fate => fate

@[simp] theorem activations_orDrop (c : Fate σ) : c.orDrop.activations = c.activations := by
  cases c <;> rfl

/-- Names that are not among the first `n` make no difference. -/
theorem twin {n : Nat} (c : Fate σ) {a b : ActivationId} (before : Option (Entry σ))
    (ha : c.activations = 1 → n < a.number.toNat) (hb : c.activations = 1 → n < b.number.toNat) :
    Option.Rel (Entry.Twin n) (c.entry a before) (c.entry b before) := by
  cases c with
  | keep => exact Entry.Twin.rel_refl before
  | drop => exact .none
  | put m object => exact .some (.renewed (ha rfl) (hb rfl))

end Fate

/-- What an operation on one subscription comes to. -/
structure Effect (β σ : Type) where
  answer : Except StoreError β
  fate : Fate σ
  /-- The activations that were asked for and given up again. -/
  wasted : Nat

namespace Effect

variable {β γ : Type}

/-- All activations that were asked for. -/
def activations (v : Effect β σ) : Nat := v.wasted + v.fate.activations

/-- The same effect with another answer. -/
def map (f : β → γ) (v : Effect β σ) : Effect γ σ := ⟨v.answer.map f, v.fate, v.wasted⟩

/-- The same effect when the subscription was dropped before. -/
def orDrop (v : Effect β σ) : Effect β σ := { v with fate := v.fate.orDrop }

/-- Nothing happens. -/
def failed (why : StoreError) : Effect β σ := ⟨.error why, .keep, 0⟩

end Effect

namespace Policy

variable (p : Policy)

/-- What becomes of a subscription that is activated, stored and cached. -/
def storing (m : Metadata) (object : σ) : Effect Unit σ :=
  if p.refuses m.id then .failed (.registration (.refused m.id))
  else match p.failsInsert m.id with
    | some why => ⟨.error (.backend "Problem writing to the cache" why), .keep, 1⟩
    | none => ⟨.ok (), .put m object, 0⟩

/-- What becomes of a live subscription that is taken out. -/
def takingOut (id : String) (object : σ) : Effect σ σ :=
  match p.failsDelete id with
  | some why => .failed (.backend "Problem deleting from cache" why)
  | none => ⟨.ok object, .drop, 0⟩

/-- What becomes of a live subscription in whose place another one is put. -/
def replacing (m : Metadata) (object : σ) : Effect Unit σ :=
  match p.failsDelete m.id with
  | some why => .failed (.backend "Problem deleting from cache" why)
  | none => (p.storing m object).orDrop

end Policy

/-! ## 3. Operations that have an effect -/

/-- The id that an operation on one subscription concerns. -/
def Operation.subject? : Operation φ σ → Option String
  | .insert _ _ _ random => some (Urn.ofRandom random)
  | .update _ _ target | .delete target => some target.id
  | _ => none

namespace Registry

variable [FaithfulStore π] [Tracked α σ]

/-- An operation on the subscription under a key had an effect, and no other. -/
structure Effected {β : Type} (v : Effect β σ) (key : String) (r : Registry π α φ σ)
    (out : Except StoreError β × Registry π α φ σ) : Prop where
  answer : out.1 = v.answer
  cache : ∀ id, out.2.cache.get? id
    = if id = key then v.fate.entry r.services.active.nextId (r.cache.get? key)
      else r.cache.get? id
  stored : ∀ id, out.2.services.stored id
    = if id = key then v.fate.row (r.services.stored key) else r.services.stored id
  factories : out.2.factories = r.factories
  issued : out.2.services.active.issued = r.services.active.issued + v.activations

section

variable {β γ : Type} {v : Effect β σ} {key : String} {r : Registry π α φ σ}
  {out : Except StoreError β × Registry π α φ σ}

/-- The subscription stays, whatever the services were used for. -/
theorem effected_keep {answer : Except StoreError β} {wasted : Nat} {s : Services π α φ σ}
    (key : String) (hs : s.stored = r.services.stored)
    (hissued : s.active.issued = r.services.active.issued + wasted) :
    Effected ⟨answer, .keep, wasted⟩ key r (answer, { r with services := s }) where
  answer := rfl
  cache id := by
    split
    · rename_i h
      rw [h]
      rfl
    · rfl
  stored id := by
    rw [hs]
    split
    · rename_i h
      rw [h]
      rfl
    · rfl
  factories := rfl
  issued := hissued

/-- Nothing happens. -/
theorem effected_failed (why : StoreError) (key : String) (r : Registry π α φ σ) :
    Effected (Effect.failed why : Effect β σ) key r (.error why, r) :=
  effected_keep key rfl rfl

/-- Other entries are left alone. -/
theorem Effected.get?_of_ne (h : Effected v key r out) {id : String} (hne : id ≠ key) :
    out.2.cache.get? id = r.cache.get? id := by rw [h.cache, if_neg hne]

theorem Effected.map (h : Effected v key r out) (f : β → γ) :
    Effected (v.map f) key r (out.1.map f, out.2) :=
  ⟨congrArg (Except.map f) h.answer, h.cache, h.stored, h.factories, h.issued⟩

/-- An effect on what is left after a subscription was dropped. -/
theorem Effected.after_drop {taken : Registry π α φ σ} {a : Except StoreError γ}
    (hdrop : Effected ⟨a, .drop, 0⟩ key r (a, taken)) (h : Effected v key taken out) :
    Effected v.orDrop key r out where
  answer := h.answer
  cache id := by
    have hnext : taken.services.active.nextId = r.services.active.nextId := by
      rw [ActiveSet.nextId, hdrop.issued]
      rfl
    rw [h.cache, hdrop.cache, hdrop.cache, hnext, if_pos rfl]
    split
    · change Fate.entry _ none v.fate = Fate.entry _ _ v.fate.orDrop
      cases v.fate <;> rfl
    · rfl
  stored id := by
    rw [h.stored, hdrop.stored, hdrop.stored, if_pos rfl]
    split
    · change Fate.row none v.fate = Fate.row _ v.fate.orDrop
      cases v.fate <;> rfl
    · rfl
  factories := h.factories.trans hdrop.factories
  issued := by
    have hsame : v.orDrop.activations = v.activations :=
      congrArg (v.wasted + ·) (Fate.activations_orDrop v.fate)
    rw [h.issued, hdrop.issued, hsame]
    rfl

end

section

variable {p : Policy} {r r' : Registry π α φ σ}

/-- **A subscription that is stored** replaces what is under its id, or nothing happens. -/
theorem effected_storeRegistered (h : r.services.Follows p) (m : Metadata) (object : σ) :
    Effected (p.storing m object) m.id r (r.storeRegistered m object) := by
  rcases storeRegistered_cases m object r with
    ⟨s, hact, hout⟩ | ⟨a, s, why, s', hact, hins, hout⟩ | ⟨a, s, s', hact, hins, hout⟩
  · have hrefuses : p.refuses m.id = true := h.of_activate hact
    rw [hout, Policy.storing, if_pos hrefuses]
    exact effected_keep _ (Services.stored_of_activate hact)
      (congrArg ActiveSet.issued (Services.active_of_refused hact))
  · have hrefuses : p.refuses m.id = false := h.of_activate hact
    have hfails : p.failsInsert m.id = some why := (h.activated hact).of_insert hins
    rw [hout, Policy.storing, if_neg (Bool.eq_false_iff.mp hrefuses), hfails]
    refine effected_keep _ ?_ ?_
    · rw [Services.stored_deactivate, Services.stored_insert_error hins,
        Services.stored_of_activate hact]
    · rw [Services.active_deactivate, Services.active_of_insert hins,
        (Services.active_of_granted hact).2]
      rfl
  · have hrefuses : p.refuses m.id = false := h.of_activate hact
    have hfails : p.failsInsert m.id = none := (h.activated hact).of_insert hins
    obtain ⟨rfl, hactive⟩ := Services.active_of_granted hact
    rw [hout, Policy.storing, if_neg (Bool.eq_false_iff.mp hrefuses), hfails]
    constructor
    case answer => rfl
    case cache => exact fun id => Table.get?_insert
    case stored =>
      intro id
      rw [Services.stored_insert_ok hins, Services.stored_of_activate hact]
      rfl
    case factories => rfl
    case issued =>
      rw [Services.active_of_insert hins, hactive]
      rfl

/-- **A subscription that is taken out** is gone, or nothing happens. -/
theorem effected_takeOut (h : r.services.Follows p) {i : Identifier} {e : Entry σ} {hd : Handle σ}
    (hp : r.Present i e hd) : Effected (p.takingOut i.id hd.object) i.id r (r.takeOut i.id) := by
  rcases takeOut_cases hp with ⟨why, s, hdel, hout⟩ | ⟨s, hdel, hout⟩
  · have hfails : p.failsDelete i.id = some why := h.of_delete hdel
    rw [hout, Policy.takingOut, hfails]
    exact effected_keep _ (Services.stored_delete_error hdel)
      (congrArg ActiveSet.issued (Services.active_of_delete hdel))
  · have hfails : p.failsDelete i.id = none := h.of_delete hdel
    rw [hout, Policy.takingOut, hfails]
    constructor
    case answer => rfl
    case cache => exact fun id => Table.get?_erase
    case stored =>
      intro id
      rw [Services.stored_deactivate, Services.stored_delete_ok hdel]
      rfl
    case factories => rfl
    case issued =>
      rw [Services.active_deactivate, Services.active_of_delete hdel]
      rfl

/-- **A subscription that replaces a live one** is in its place, or the old one was kept, or there
is neither. -/
theorem effected_replace [Factory φ σ] (h : r.services.Follows p) {i : Identifier} {e : Entry σ}
    {hd : Handle σ} (hp : r.Present i e hd) {m : Metadata} (hm : m.id = i.id) (object : σ) :
    Effected (p.replacing m object) i.id r (match r.takeOut i.id with
      | (.error why, r) => (.error why, r)
      | (.ok _, r) => r.storeRegistered m object) := by
  have htaken := effected_takeOut h hp
  have hfollows := takeOut_stable (Services.follows_stable p) hp h
  rw [Policy.takingOut] at htaken
  rw [Policy.replacing, hm]
  rcases takeOut_cases hp with ⟨why, s, hdel, hout⟩ | ⟨s, hdel, hout⟩
  · rw [h.of_delete hdel, hout] at htaken
    rw [h.of_delete hdel, hout]
    exact ⟨rfl, htaken.cache, htaken.stored, htaken.factories, htaken.issued⟩
  · rw [h.of_delete hdel, hout] at htaken
    rw [hout] at hfollows
    have hstored := effected_storeRegistered hfollows m object
    rw [hm] at hstored
    rw [h.of_delete hdel, hout]
    exact htaken.after_drop hstored

/-! ## 4. What an effect depends on -/

omit [BackingStore π] [Activator α σ] [FaithfulStore π] [Tracked α σ] in
theorem requirePresent_congr {i : Identifier} (h : r'.cache.get? i.id = r.cache.get? i.id) :
    r'.requirePresent i = r.requirePresent i := by
  unfold requirePresent get
  rw [h]

omit [BackingStore π] [Activator α σ] [FaithfulStore π] [Tracked α σ] in
theorem Present.congr {i : Identifier} {e : Entry σ} {hd : Handle σ} (hp : r.Present i e hd)
    (h : r'.cache.get? i.id = r.cache.get? i.id) : r'.Present i e hd :=
  { hp with cached := h.trans hp.cached }

section

variable (h : r.services.Follows p) (h' : r'.services.Follows p)
include h h'

theorem exists_effect_insert (object : σ) (request : Request) (kind : String) (random : Nat) :
    ∃ v : Effect Identifier σ,
      Effected v (Urn.ofRandom random) r (r.insert object request kind random)
      ∧ Effected v (Urn.ofRandom random) r' (r'.insert object request kind random) := by
  rcases insert_forms (π := π) (α := α) (φ := φ) object request kind random with
    ⟨why, -, hout⟩ | ⟨m, hm, -, hout⟩
  · rw [hout, hout]
    exact ⟨_, effected_failed why _ r, effected_failed why _ r'⟩
  · have hid : Urn.ofRandom random = m.id := congrArg Metadata.id hm.symm
    rw [hout, hout, hid]
    exact ⟨_, (effected_storeRegistered h m object).map _,
      (effected_storeRegistered h' m object).map _⟩

theorem exists_effect_update [Factory φ σ] (object : σ) (request : Request) {i : Identifier}
    (hsame : r'.cache.get? i.id = r.cache.get? i.id) :
    ∃ v : Effect Unit σ, Effected v i.id r (r.update object request i)
      ∧ Effected v i.id r' (r'.update object request i) := by
  unfold update
  rw [requirePresent_congr hsame]
  rcases request.validate with why | _
  · exact ⟨_, effected_failed why _ r, effected_failed why _ r'⟩
  rcases requirePresent_cases r i with ⟨why, -, hpres⟩ | ⟨e, hd, hp, hpres⟩
  · rw [hpres]
    exact ⟨_, effected_failed why _ r, effected_failed why _ r'⟩
  rw [hpres]
  rcases hcre : Metadata.create i.kind request.filter request.callback i.id with why | m
  · exact ⟨_, effected_failed why _ r, effected_failed why _ r'⟩
  · have hm : m.id = i.id := congrArg Metadata.id (Metadata.create_eq_ok_iff.mp hcre).1
    exact ⟨_, effected_replace h hp hm object, effected_replace h' (hp.congr hsame) hm object⟩

theorem exists_effect_delete {i : Identifier} (hsame : r'.cache.get? i.id = r.cache.get? i.id) :
    ∃ v : Effect σ σ, Effected v i.id r (r.delete i) ∧ Effected v i.id r' (r'.delete i) := by
  unfold delete
  rw [requirePresent_congr hsame]
  rcases requirePresent_cases r i with ⟨why, -, hpres⟩ | ⟨e, hd, hp, hpres⟩
  · rw [hpres]
    exact ⟨_, effected_failed why _ r, effected_failed why _ r'⟩
  · rw [hpres]
    exact ⟨_, effected_takeOut h hp, effected_takeOut h' (hp.congr hsame)⟩

/-- **What an operation on one subscription comes to** is told by the entry under its id. -/
theorem exists_effect [Factory φ σ] {op : Operation φ σ} {key : String}
    (hop : op.subject? = some key) (hsame : r'.cache.get? key = r.cache.get? key) :
    ∃ v : Effect (Answer σ) σ, Effected v key r (r.perform op)
      ∧ Effected v key r' (r'.perform op) := by
  cases op with
  | insert object request kind random =>
    cases hop
    obtain ⟨v, hv, hv'⟩ := exists_effect_insert h h' object request kind random
    exact ⟨_, hv.map _, hv'.map _⟩
  | update object request i =>
    cases hop
    obtain ⟨v, hv, hv'⟩ := exists_effect_update h h' object request hsame
    exact ⟨_, hv.map _, hv'.map _⟩
  | delete i =>
    cases hop
    obtain ⟨v, hv, hv'⟩ := exists_effect_delete h h' hsame
    exact ⟨_, hv.map _, hv'.map _⟩
  | init | bind | unbind | reconcile | flush => cases hop

end

end

/-! ## 5. Changing places -/

section

variable {β γ : Type} {v : Effect β σ} {w : Effect γ σ} {key key' : String}
  {r r₁ r₂ s₁ s₂ : Registry π α φ σ} {a a' : Except StoreError β} {b b' : Except StoreError γ}

/-- The next name was not given before, while there are names. -/
theorem lt_nextId {n : Nat} {set : ActiveSet σ} (hle : n ≤ set.issued)
    (hn : set.issued + 1 < UInt64.size) : n < set.nextId.number.toNat := by
  rw [ActiveSet.toNat_nextId hn]
  exact Nat.lt_succ_of_le hle

/-- What an effect leaves under its key differs in the name at most, wherever it is had. -/
theorem Effected.twin {n : Nat} (h : Effected v key r (a, r₁)) (h' : Effected v key s₁ (a', s₂))
    (hsame : s₁.cache.get? key = r.cache.get? key) (hle : n ≤ r.services.active.issued)
    (hle' : n ≤ s₁.services.active.issued) (hn : r₁.services.active.issued < UInt64.size)
    (hn' : s₂.services.active.issued < UInt64.size) :
    Option.Rel (Entry.Twin n) (r₁.cache.get? key) (s₂.cache.get? key) := by
  rw [h.cache, h'.cache, if_pos rfl, if_pos rfl, hsame]
  have hissued := h.issued
  have hissued' := h'.issued
  refine v.fate.twin _ (fun hone => lt_nextId hle ?_) fun hone => lt_nextId hle' ?_
  · rw [Effect.activations] at hissued
    dsimp only at hissued
    omega
  · rw [Effect.activations] at hissued'
    dsimp only at hissued'
    omega

/-- **Effects on different ids can change places.** -/
theorem twin_of_effects [Factory φ σ] (hne : key ≠ key') (hr : Effected v key r (a, r₁))
    (hr' : Effected w key' r₁ (b, r₂)) (hs : Effected w key' r (b', s₁))
    (hs' : Effected v key s₁ (a', s₂)) (hn : r₂.services.active.issued < UInt64.size) :
    a = a' ∧ b = b' ∧ Twin r.services.active.issued r₂ s₂ := by
  have hissued : s₂.services.active.issued = r₂.services.active.issued := by
    rw [hs'.issued, hs.issued, hr'.issued, hr.issued, Nat.add_right_comm]
  have hle : r.services.active.issued ≤ r₁.services.active.issued :=
    Nat.le.intro hr.issued.symm
  have hle' : r.services.active.issued ≤ s₁.services.active.issued := Nat.le.intro hs.issued.symm
  have hn₁ : r₁.services.active.issued < UInt64.size :=
    Nat.lt_of_le_of_lt (Nat.le.intro hr'.issued.symm) hn
  have hn₂ : s₁.services.active.issued < UInt64.size :=
    Nat.lt_of_le_of_lt (Nat.le.intro hs'.issued.symm) (hissued ▸ hn)
  refine ⟨hr.answer.trans hs'.answer.symm, hr'.answer.trans hs.answer.symm, ?_, ?_, ?_, hissued⟩
  · intro id
    by_cases hkey : id = key
    · have hkept : r₂.cache.get? key = r₁.cache.get? key := hr'.get?_of_ne hne
      rw [hkey, hkept]
      exact hr.twin hs' (hs.get?_of_ne hne) (Nat.le_refl _) hle' hn₁ (hissued ▸ hn)
    by_cases hkey' : id = key'
    · have hkept : s₂.cache.get? key' = s₁.cache.get? key' := hs'.get?_of_ne hne.symm
      rw [hkey', hkept]
      exact hr'.twin hs (hr.get?_of_ne hne.symm).symm hle (Nat.le_refl _) hn hn₂
    · have hkept : r₂.cache.get? id = r.cache.get? id :=
        (hr'.get?_of_ne hkey').trans (hr.get?_of_ne hkey)
      have hkept' : s₂.cache.get? id = r.cache.get? id :=
        (hs'.get?_of_ne hkey).trans (hs.get?_of_ne hkey')
      rw [hkept, hkept']
      exact Entry.Twin.rel_refl _
  · exact .of_eq (by rw [hs'.factories, hs.factories, hr'.factories, hr.factories])
  · funext id
    rw [hs'.stored, hs.stored, hs.stored, hr'.stored, hr.stored, hr.stored, if_neg hne,
      if_neg hne.symm]
    split
    · rename_i h
      rw [if_neg (h ▸ hne)]
    · rfl

end

end Registry
end SubscriptionRegistry
