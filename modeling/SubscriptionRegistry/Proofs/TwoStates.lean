/-
# An entry has two states

An entry is dormant or registered, and whatever is asked of it, in whatever order, it goes from the
one state to the other by exactly one activation granted, and back by the release of that very
activation.  There are five ways to fail on the way, some before and some behind a call to a factory
or to the activator, and none of them moves anything.

What is outstanding of an entry is told from the calls that its own turns made, so the activator
may be any, and others may use it, and change it, between two turns.

* `Entry.Order`, `Entry.perform`: what can be asked of an entry.
* `Entry.Ends`, `Entry.ends_perform`: how that ends.
* `Entry.Course`: an entry from its making, with all that was asked of it.
* `Entry.Accords`, `Entry.Accords.turn`: what is kept by a turn.
* `Entry.Course.alternates`: what holds of every turn of every course.
-/
import SubscriptionRegistry.Operation
import SubscriptionRegistry.Proofs.Ownership.Handles
import SubscriptionRegistry.Proofs.Registrations
import SubscriptionRegistry.Proofs.Trace

namespace SubscriptionRegistry

variable {π α φ σ : Type}

/-! ## 1. Calls that move nothing -/

section

variable [Activator α σ] [Factory φ σ]

/-- The services after calls that granted and released nothing: factories were asked to build, and
the activator refused. -/
inductive Services.Unmoved (s : Services π α φ σ) : Services π α φ σ → Prop
  | refl : Unmoved s s
  | build {s' s'' : Services π α φ σ} {f f' : φ} {m : Metadata} {built : Option σ}
      (h : Unmoved s s') (hbuild : s'.build f m = (built, f', s'')) : Unmoved s s''
  | refused {s' s'' : Services π α φ σ} {object : σ} {properties : Properties}
      (h : Unmoved s s') (hact : s'.activate object properties = (none, s'')) : Unmoved s s''

variable {s s' : Services π α φ σ}

theorem Services.Unmoved.journal (h : s.Unmoved s') :
    ∃ calls, s'.journal = s.journal ++ calls ∧ ∀ call ∈ calls, Journal.isNeutral call := by
  induction h with
  | refl => exact ⟨[], by simp⟩
  | @build _ _ f _ m built h hbuild ih =>
    obtain ⟨calls, hjournal, hneutral⟩ := ih
    refine ⟨calls ++ [.build f m built], ?_, ?_⟩
    · rw [journal_of_build hbuild, hjournal, List.append_assoc]
    · exact List.forall_mem_append.mpr ⟨hneutral, by simp [Journal.isNeutral]⟩
  | @refused _ _ object properties h hact ih =>
    obtain ⟨calls, hjournal, hneutral⟩ := ih
    refine ⟨calls ++ [.activate object properties none], ?_, ?_⟩
    · rw [journal_of_activate hact, hjournal, List.append_assoc]
    · exact List.forall_mem_append.mpr ⟨hneutral, by simp [Journal.isNeutral]⟩

theorem Services.Unmoved.active_eq [Tracked α σ] (h : s.Unmoved s') : s'.active = s.active := by
  induction h with
  | refl => rfl
  | build h hbuild ih =>
    cases hbuild
    exact ih
  | refused h hact ih => rw [active_of_refused hact, ih]

end

namespace Entry

/-! ## 2. Orders -/

/-- What can be asked of an entry. -/
inductive Order (φ σ : Type)
  | register (object : σ)
  | registerWith (factory : φ)
  | unregister

namespace Order

/-- Whether a registration is asked for. -/
def isRegistration : Order φ σ → Bool
  | .unregister => false
  | _ => true

/-- The subscription that is to be registered, if one is brought along or can be built. -/
def object? [Factory φ σ] (m : Metadata) : Order φ σ → Option σ
  | .register object => some object
  | .registerWith f => (Factory.build m f).1
  | .unregister => none

end Order

section

variable [Activator α σ] [Factory φ σ]

/-- Does what is asked.  A factory is used up: what it is afterwards is for the next order to say. -/
def perform : Order φ σ → Entry σ → Services π α φ σ →
    Except StoreError (Answer σ) × Entry σ × Services π α φ σ
  | .register object, e, s =>
    ((e.register object s).1.map fun _ => .done, (e.register object s).2)
  | .registerWith f, e, s =>
    ((e.registerWith f s).1.map fun _ => .done, (e.registerWith f s).2.1,
      (e.registerWith f s).2.2.2)
  | .unregister, e, s => ((e.unregister s).1.map .object, (e.unregister s).2)

/-- How it ends. -/
inductive Ends (e : Entry σ) (s : Services π α φ σ) :
    Order φ σ → Except StoreError (Answer σ) × Entry σ × Services π α φ σ → Prop
  | failed {order : Order φ σ} {why : StoreError} {s' : Services π α φ σ} (hs : s.Unmoved s') :
      Ends e s order (.error why, e, s')
  | registered {order : Order φ σ} {object : σ} {a : ActivationId} {s' s'' : Services π α φ σ}
      (he : e.handle = none) (horder : order.isRegistration)
      (hobject : order.object? e.metadata = some object) (hs : s.Unmoved s')
      (hact : s'.activate object e.properties = (some a, s'')) :
      Ends e s order (.ok .done, ⟨e.metadata, some ⟨object, a⟩⟩, s'')
  | released {h : Handle σ} (he : e.handle = some h) :
      Ends e s .unregister
        (.ok (.object h.object), dormant e.metadata, s.deactivate h.activation)

variable {e : Entry σ} {s : Services π α φ σ}

omit [Factory φ σ] in
/-- A registered entry is not registered again. -/
theorem register_of_handle {h : Handle σ} (he : e.handle = some h) (object : σ)
    (s : Services π α φ σ) :
    e.register object s = (.error (.registration (.alreadyRegistered e.id)), e, s) := by
  simp [register, isRegistered, he]

theorem ends_register (object : σ) (e : Entry σ) (s : Services π α φ σ) :
    e.Ends s (.register object) (e.perform (.register object) s) := by
  rw [perform]
  cases he : e.handle with
  | some h =>
    rw [register_of_handle he]
    exact .failed .refl
  | none =>
    rcases register_cases he object s with ⟨s', hact, hreg⟩ | ⟨a, s', hact, hreg⟩
    · rw [hreg]
      exact .failed (.refused .refl hact)
    · rw [hreg]
      exact .registered he rfl rfl .refl hact

theorem ends_registerWith (f : φ) (e : Entry σ) (s : Services π α φ σ) :
    e.Ends s (.registerWith f) (e.perform (.registerWith f) s) := by
  rw [perform]
  cases he : e.handle with
  | some h =>
    -- Whether the types go together and something is built is found out first, to no effect.
    unfold registerWith
    dsimp only
    split
    · exact .failed .refl
    · split
      · rename_i hbuild
        exact .failed (.build .refl hbuild)
      · rename_i hbuild
        rw [register_of_handle he]
        exact .failed (.build .refl hbuild)
  | none =>
    rcases registerWith_cases he f s with ⟨-, hreg⟩ | ⟨f', s', hbuild, hreg⟩
      | ⟨object, f', s', s'', hbuild, hact, hreg⟩ | ⟨object, a, f', s', s'', hbuild, hact, hreg⟩
    · rw [hreg]
      exact .failed .refl
    · rw [hreg]
      exact .failed (.build .refl hbuild)
    · rw [hreg]
      exact .failed (.refused (.build .refl hbuild) hact)
    · have hobject : (Factory.build e.metadata f).1 = some object := congrArg Prod.fst hbuild
      rw [hreg]
      exact .registered he rfl hobject (.build .refl hbuild) hact

theorem ends_unregister (e : Entry σ) (s : Services π α φ σ) :
    e.Ends s .unregister (e.perform .unregister s) := by
  rw [perform]
  cases he : e.handle with
  | none =>
    have hun : e.unregister s = (.error (.registration (.notRegistered e.id)), e, s) := by
      simp [unregister, he]
    rw [hun]
    exact .failed .refl
  | some h =>
    rw [unregister_of_handle he]
    exact .released he

/-- **All ends of all orders.** -/
theorem ends_perform (order : Order φ σ) (e : Entry σ) (s : Services π α φ σ) :
    e.Ends s order (e.perform order s) := by
  cases order with
  | register object => exact ends_register object e s
  | registerWith f => exact ends_registerWith f e s
  | unregister => exact ends_unregister e s

end

/-! ## 3. Turns -/

/-- An order, with the entry that it was given to and the services there were. -/
structure Turn (π α φ σ : Type) where
  entry : Entry σ
  services : Services π α φ σ
  order : Order φ σ

section

variable [Activator α σ] [Factory φ σ]

namespace Turn

/-- What was answered. -/
def answer (t : Turn π α φ σ) : Except StoreError (Answer σ) :=
  (t.entry.perform t.order t.services).1

/-- The calls that were made. -/
def calls (t : Turn π α φ σ) : List (Call φ σ) :=
  (t.entry.perform t.order t.services).2.2.journal.drop t.services.journal.length

/-- Whether it is a registration that succeeded. -/
def registers (t : Turn π α φ σ) : Bool := t.order.isRegistration && t.answer.isOk

/-- Whether it is a release that succeeded. -/
def releases (t : Turn π α φ σ) : Bool := !t.order.isRegistration && t.answer.isOk

theorem calls_eq {t : Turn π α φ σ} {calls : List (Call φ σ)}
    (h : (t.entry.perform t.order t.services).2.2.journal = t.services.journal ++ calls) :
    t.calls = calls := by
  rw [Turn.calls, h, List.drop_left]

end Turn

/-- The calls that were made in some turns. -/
def ledger (turns : List (Turn π α φ σ)) : List (Call φ σ) := turns.flatMap Turn.calls

/-- The activations of an entry that are outstanding after some turns: granted in one of them, and
not released since. -/
def outstanding (turns : List (Turn π α φ σ)) : List (ActivationId × Registration σ) :=
  Journal.standing (ledger turns)

/-- The subscription of the last registration that succeeded. -/
def latest (m : Metadata) (turns : List (Turn π α φ σ)) : Option σ :=
  (turns.findRev? Turn.registers).bind fun t => t.order.object? m

/-- An entry from its making on, with all its turns, the latest last.  Between two turns the
outside may do with the services what it is given to do. -/
inductive Course (outside : Services π α φ σ → Services π α φ σ → Prop) (m : Metadata)
    (start : Services π α φ σ) :
    List (Turn π α φ σ) → Entry σ → Services π α φ σ → Prop
  | new : Course outside m start [] (dormant m) start
  | change {turns : List (Turn π α φ σ)} {e : Entry σ} {s s' : Services π α φ σ} :
      Course outside m start turns e s → outside s s' → Course outside m start turns e s'
  | turn {turns : List (Turn π α φ σ)} {e : Entry σ} {s : Services π α φ σ}
      (order : Order φ σ) : Course outside m start turns e s →
      Course outside m start (turns ++ [⟨e, s, order⟩]) (e.perform order s).2.1
        (e.perform order s).2.2

/-! ## 4. What a turn keeps -/

/-- An entry and its turns tell the same. -/
structure Accords (m : Metadata) (turns : List (Turn π α φ σ)) (e : Entry σ) : Prop where
  metadata : e.metadata = m
  held : outstanding turns = e.held
  once : Journal.granted (ledger turns)
    = Journal.released (ledger turns) ++ (outstanding turns).map Prod.fst
  latest : ∀ h, e.handle = some h → latest m turns = some h.object
  balance : turns.countP Turn.registers
    = turns.countP Turn.releases + if e.isRegistered then 1 else 0

variable {m : Metadata} {turns : List (Turn π α φ σ)} {e : Entry σ} {s : Services π α φ σ}
  {order : Order φ σ}

theorem ledger_concat (turns : List (Turn π α φ σ)) (t : Turn π α φ σ) :
    ledger (turns ++ [t]) = ledger turns ++ t.calls := by
  simp [ledger]

/-- Turns that leave the services unmoved. -/
theorem Turn.isNeutral_of_unmoved {t : Turn π α φ σ}
    (h : t.services.Unmoved (t.entry.perform t.order t.services).2.2) :
    ∀ call ∈ t.calls, Journal.isNeutral call := by
  obtain ⟨calls, hjournal, hneutral⟩ := h.journal
  rw [Turn.calls_eq hjournal]
  exact hneutral

/-- Turns that are granted an activation, behind neutral calls. -/
theorem Turn.calls_of_granted {t : Turn π α φ σ} {s : Services π α φ σ} {object : σ}
    {properties : Properties} {a : ActivationId} (hs : t.services.Unmoved s)
    (hact : s.activate object properties
      = (some a, (t.entry.perform t.order t.services).2.2)) :
    ∃ calls, t.calls = calls ++ [.activate object properties (some a)]
      ∧ ∀ call ∈ calls, Journal.isNeutral call := by
  obtain ⟨calls, hjournal, hneutral⟩ := hs.journal
  refine ⟨calls, Turn.calls_eq ?_, hneutral⟩
  rw [Services.journal_of_activate hact, hjournal, List.append_assoc]

/-- Neutral calls leave what is outstanding alone. -/
theorem outstanding_of_isNeutral {t : Turn π α φ σ}
    (h : ∀ call ∈ t.calls, Journal.isNeutral call) :
    outstanding (turns ++ [t]) = outstanding turns := by
  rw [outstanding, ledger_concat, Journal.standing_append_of_isNeutral h, outstanding]

theorem latest_concat (m : Metadata) (turns : List (Turn π α φ σ)) (t : Turn π α φ σ) :
    latest m (turns ++ [t])
      = if t.registers then t.order.object? m else latest m turns := by
  unfold latest
  rw [List.findRev?_eq_find?_reverse, List.findRev?_eq_find?_reverse, List.reverse_append,
    List.find?_append]
  cases hreg : t.registers <;> simp [hreg]

namespace Accords

theorem of_failed (h : Accords m turns e) {why : StoreError} {s' : Services π α φ σ}
    (hresult : e.perform order s = (.error why, e, s')) (hs : s.Unmoved s') :
    Accords m (turns ++ [⟨e, s, order⟩]) e := by
  have hneutral : ∀ call ∈ (Turn.mk e s order).calls, Journal.isNeutral call :=
    Turn.isNeutral_of_unmoved (by rw [hresult]; exact hs)
  have hout : outstanding (turns ++ [⟨e, s, order⟩]) = outstanding turns :=
    outstanding_of_isNeutral hneutral
  have hregisters : (Turn.mk e s order).registers = false := by
    simp [Turn.registers, Turn.answer, hresult]
  have hreleases : (Turn.mk e s order).releases = false := by
    simp [Turn.releases, Turn.answer, hresult]
  refine ⟨h.metadata, hout.trans h.held, ?_, ?_, ?_⟩
  · rw [hout, ledger_concat, Journal.granted_append_of_isNeutral hneutral,
      Journal.released_append_of_isNeutral hneutral, h.once]
  · intro hd he
    rw [latest_concat, hregisters]
    exact h.latest hd he
  · simp [List.countP_append, hregisters, hreleases, h.balance]

/-- Nothing was outstanding, and the grant is. -/
theorem of_registered (h : Accords m turns e) {object : σ} {a : ActivationId}
    {s' s'' : Services π α φ σ}
    (hresult : e.perform order s = (.ok .done, ⟨e.metadata, some ⟨object, a⟩⟩, s''))
    (he : e.handle = none) (horder : order.isRegistration)
    (hobject : order.object? e.metadata = some object) (hs : s.Unmoved s')
    (hact : s'.activate object e.properties = (some a, s'')) :
    Accords m (turns ++ [⟨e, s, order⟩]) ⟨e.metadata, some ⟨object, a⟩⟩ := by
  obtain ⟨calls, hcalls, hneutral⟩ :=
    (Turn.mk e s order).calls_of_granted hs (by rw [hresult]; exact hact)
  have hnone : outstanding turns = [] := by rw [h.held, held_of_handle_none he]
  have hout : outstanding (turns ++ [⟨e, s, order⟩]) = [(a, ⟨object, e.properties⟩)] := by
    rw [outstanding, ledger_concat, hcalls, ← List.append_assoc,
      Journal.standing_concat_activate, Journal.standing_append_of_isNeutral hneutral,
      ← outstanding, hnone, List.nil_append]
  have hregisters : (Turn.mk e s order).registers = true := by
    simp [Turn.registers, Turn.answer, hresult, horder]
  have hreleases : (Turn.mk e s order).releases = false := by simp [Turn.releases, horder]
  refine ⟨h.metadata, hout, ?_, ?_, ?_⟩
  · have honce := h.once
    rw [hnone, List.map_nil, List.append_nil] at honce
    rw [hout, ledger_concat, hcalls, ← List.append_assoc, Journal.granted_concat_activate,
      Journal.released_concat_activate, Journal.granted_append_of_isNeutral hneutral,
      Journal.released_append_of_isNeutral hneutral, honce]
    rfl
  · intro hd hhd
    cases hhd
    rw [latest_concat, hregisters, ← h.metadata]
    exact hobject
  · simp [List.countP_append, hregisters, hreleases, h.balance, isRegistered, he]

/-- What was outstanding is released, and nothing is any more. -/
theorem of_released (h : Accords m turns e) {hd : Handle σ}
    (hresult : e.perform .unregister s
      = (.ok (.object hd.object), dormant e.metadata, s.deactivate hd.activation))
    (he : e.handle = some hd) :
    Accords m (turns ++ [⟨e, s, .unregister⟩]) (dormant e.metadata) := by
  have hcalls : (Turn.mk e s .unregister).calls = [.deactivate hd.activation] :=
    Turn.calls_eq (by rw [hresult]; rfl)
  have hone : outstanding turns = [(hd.activation, ⟨hd.object, e.properties⟩)] := by
    rw [h.held, held_of_handle_some he]
  have hout : outstanding (turns ++ [⟨e, s, .unregister⟩]) = [] := by
    rw [outstanding, ledger_concat, hcalls, Journal.standing_concat_deactivate, ← outstanding,
      hone]
    simp
  have hregisters : (Turn.mk e s .unregister).registers = false := rfl
  have hreleases : (Turn.mk e s .unregister).releases = true := by
    simp [Turn.releases, Turn.answer, hresult, Order.isRegistration]
  refine ⟨h.metadata, hout, ?_, ?_, ?_⟩
  · rw [hout, ledger_concat, hcalls, Journal.granted_concat_deactivate,
      Journal.released_concat_deactivate, h.once, hone]
    simp
  · intro hd hhd
    cases hhd
  · simp [List.countP_append, hregisters, hreleases, h.balance, isRegistered, he, dormant]

/-- **A turn keeps entry and turns in accord**, however it ends. -/
theorem turn (h : Accords m turns e) (order : Order φ σ) (s : Services π α φ σ) :
    Accords m (turns ++ [⟨e, s, order⟩]) (e.perform order s).2.1 := by
  have hends := ends_perform order e s
  generalize hresult : e.perform order s = result at hends ⊢
  cases hends with
  | failed hs => exact h.of_failed hresult hs
  | registered he horder hobject hs hact =>
    exact h.of_registered hresult he horder hobject hs hact
  | released he => exact h.of_released hresult he

end Accords

/-- The turns of every course are in accord with the entry. -/
theorem Course.accords {outside : Services π α φ σ → Services π α φ σ → Prop}
    {start : Services π α φ σ} (h : Course outside m start turns e s) : Accords m turns e := by
  induction h with
  | new =>
    refine ⟨rfl, rfl, rfl, ?_, rfl⟩
    intro hd hhd
    cases hhd
  | change _ _ ih => exact ih
  | turn order _ ih => exact ih.turn order _

/-! ## 5. When an order is carried out -/

theorem isOk_register_iff (object : σ) (e : Entry σ) (s : Services π α φ σ) :
    (e.perform (.register object) s).1.isOk
      ↔ e.isDormant ∧ (s.activate object e.properties).1.isSome := by
  rw [perform]
  cases he : e.handle with
  | some h =>
    rw [register_of_handle he]
    simp [isDormant, he]
  | none =>
    rcases register_cases he object s with ⟨s', hact, hreg⟩ | ⟨a, s', hact, hreg⟩
    · rw [hreg, hact]
      simp
    · rw [hreg, hact]
      simp [isDormant, he]

theorem isOk_registerWith_iff (f : φ) (e : Entry σ) (s : Services π α φ σ) :
    (e.perform (.registerWith f) s).1.isOk
      ↔ e.isDormant ∧ Factory.kind f = e.metadata.kind
        ∧ ∃ object, (s.build f e.metadata).1 = some object
          ∧ ((s.build f e.metadata).2.2.activate object e.properties).1.isSome := by
  rw [perform]
  unfold registerWith
  dsimp only
  by_cases hkind : Factory.kind f = e.metadata.kind
  · rw [if_neg (by simp [isKind, hkind])]
    rcases hbuild : s.build f e.metadata with ⟨_ | object, f', s'⟩
    · simp
    · have hregister := isOk_register_iff (φ := φ) object e s'
      rw [perform] at hregister
      simpa [hkind] using hregister
  · rw [if_pos (by simpa [isKind] using fun h => hkind h.symm)]
    simp [hkind]

theorem isOk_unregister_iff (e : Entry σ) (s : Services π α φ σ) :
    (e.perform .unregister s).1.isOk ↔ e.isRegistered := by
  rw [perform]
  cases he : e.handle with
  | none => simp [unregister, isRegistered, he]
  | some h => simp [unregister, isRegistered, he]

/-! ## 6. Two states -/

/-- What is so of an entry with metadata `m` after any turns, and of any order that is given
next. -/
structure TwoStates (m : Metadata) (turns : List (Turn π α φ σ)) (e : Entry σ)
    (s : Services π α φ σ) : Prop where
  metadata : e.metadata = m
  /-- A registered entry has one activation outstanding, under its own id and callback address. -/
  registered_iff : e.isRegistered
    ↔ ∃ a object, outstanding turns = [(a, ⟨object, ⟨m.id, m.callback⟩⟩)]
  /-- A dormant one has none. -/
  dormant_iff : e.isDormant ↔ outstanding turns = []
  /-- What fails changes neither the entry nor what is outstanding. -/
  failed : ∀ order why, (e.perform order s).1 = .error why →
    (e.perform order s).2.1 = e
      ∧ outstanding (turns ++ [⟨e, s, order⟩]) = outstanding turns
  /-- Only a dormant entry can be registered, and only the activator can refuse that. -/
  register : ∀ object, (e.perform (.register object) s).1.isOk
    ↔ e.isDormant ∧ (s.activate object ⟨m.id, m.callback⟩).1.isSome
  /-- A factory has to be of the type of the entry, and to build something. -/
  registerWith : ∀ f, (e.perform (.registerWith f) s).1.isOk
    ↔ e.isDormant ∧ Factory.kind f = m.kind ∧ ∃ object, (s.build f m).1 = some object
      ∧ ((s.build f m).2.2.activate object ⟨m.id, m.callback⟩).1.isSome
  /-- Only a registered entry can be released. -/
  unregister : (e.perform .unregister s).1.isOk ↔ e.isRegistered
  /-- What is released is the one activation that is outstanding, and what is handed back is what
  was registered last. -/
  released : ∀ answer, (e.perform .unregister s).1 = .ok answer → ∃ a object,
    outstanding turns = [(a, ⟨object, ⟨m.id, m.callback⟩⟩)]
      ∧ (Turn.mk e s .unregister).calls = [.deactivate a]
      ∧ outstanding (turns ++ [⟨e, s, .unregister⟩]) = []
      ∧ answer = .object object ∧ latest m turns = some object
  /-- All that was granted was released, in the same order and once, but for what is
  outstanding. -/
  once : Journal.granted (ledger turns)
    = Journal.released (ledger turns) ++ (outstanding turns).map Prod.fst
  /-- There was one registration for each release, and one more if the entry is registered. -/
  balance : turns.countP Turn.registers
    = turns.countP Turn.releases + if e.isRegistered then 1 else 0

theorem properties_eq (h : e.metadata = m) : e.properties = ⟨m.id, m.callback⟩ := by
  rw [properties, id, h]

/-- Where entry and turns are in accord, the entry has two states. -/
theorem Accords.twoStates (h : Accords m turns e) (s : Services π α φ σ) :
    TwoStates m turns e s := by
  have hproperties := properties_eq h.metadata
  refine ⟨h.metadata, ?_, ?_, ?_, ?_, ?_, isOk_unregister_iff e s, ?_, h.once, h.balance⟩
  · rw [h.held, ← hproperties]
    cases he : e.handle with
    | none => simp [isRegistered, he]
    | some hd => simp [isRegistered, he, held_of_handle_some he]
  · rw [h.held]
    cases he : e.handle with
    | none => simp [isDormant, he]
    | some hd => simp [isDormant, he, held_of_handle_some he]
  · intro order why herror
    have hends := ends_perform order e s
    generalize hresult : e.perform order s = result at hends herror ⊢
    cases hends with
    | failed hs =>
      have hneutral : ∀ call ∈ (Turn.mk e s order).calls, Journal.isNeutral call :=
        Turn.isNeutral_of_unmoved (by rw [hresult]; exact hs)
      exact ⟨rfl, outstanding_of_isNeutral hneutral⟩
    | registered => cases herror
    | released => cases herror
  · intro object
    rw [← hproperties]
    exact isOk_register_iff object e s
  · intro f
    rw [← hproperties, ← h.metadata]
    exact isOk_registerWith_iff f e s
  · intro answer hok
    have hnext := h.turn .unregister s
    have hends := ends_perform .unregister e s
    generalize hresult : e.perform .unregister s = result at hends hok hnext
    cases hends with
    | failed => cases hok
    | registered _ horder => cases horder
    | @released hd he =>
      cases hok
      refine ⟨hd.activation, hd.object, ?_, Turn.calls_eq (by rw [hresult]; rfl), hnext.held, rfl,
        h.latest hd he⟩
      rw [h.held, held_of_handle_some he, hproperties]

end

/-! ## 7. What an activator with a set shows of it -/

section

variable [Activator α σ] [Factory φ σ] [Tracked α σ] {m : Metadata} {turns : List (Turn π α φ σ)}
  {e : Entry σ} {s : Services π α φ σ}

/-- An order that fails leaves the activator's set alone, whoever uses it. -/
theorem active_of_failed {order : Order φ σ} {why : StoreError}
    (h : (e.perform order s).1 = .error why) : (e.perform order s).2.2.active = s.active := by
  have hends := ends_perform order e s
  generalize e.perform order s = result at hends h ⊢
  cases hends with
  | failed hs => exact hs.active_eq
  | registered => cases h
  | released => cases h

/-- If the set held of this subscription what the entry holds, a turn leaves it so. -/
theorem registrationsOf_perform (h : s.active.registrationsOf e.id = e.held) (order : Order φ σ) :
    (e.perform order s).2.2.active.registrationsOf e.id = (e.perform order s).2.1.held := by
  have hends := ends_perform order e s
  generalize e.perform order s = result at hends ⊢
  cases hends with
  | failed hs =>
    rw [hs.active_eq]
    exact h
  | @registered _ object a s' s'' he _ _ hs hact =>
    obtain ⟨ha, hset⟩ := Services.active_of_granted hact
    rw [held_of_handle_none he, ← hs.active_eq] at h
    rw [hset, ha]
    exact ActiveSet.registrationsOf_activate object e.properties h
  | released he =>
    rw [Services.active_deactivate, ActiveSet.registrationsOf_deactivate, h, held_of_handle_some he]
    simp [dormant]

/-- In a set that others use too, what is live of this subscription is what its turns left
outstanding, as long as the others leave its registrations to the entry. -/
theorem Course.registrationsOf_eq {outside : Services π α φ σ → Services π α φ σ → Prop}
    {start : Services π α φ σ} (h : Course outside m start turns e s)
    (houtside : ∀ s s', outside s s' →
      s'.active.registrationsOf m.id = s.active.registrationsOf m.id)
    (hstart : start.active.registrationsOf m.id = []) :
    s.active.registrationsOf m.id = outstanding turns := by
  rw [h.accords.held]
  induction h with
  | new => exact hstart
  | change _ hs ih => rw [houtside _ _ hs, ih]
  | turn order h ih =>
    have hid : m.id = Entry.id _ := congrArg Metadata.id h.accords.metadata.symm
    rw [hid] at ih ⊢
    exact registrationsOf_perform ih order

/-- What is so in an activator that keeps a set. -/
structure Shown (outside : Services π α φ σ → Services π α φ σ → Prop) (m : Metadata)
    (start : Services π α φ σ) (turns : List (Turn π α φ σ)) (e : Entry σ)
    (s : Services π α φ σ) : Prop where
  /-- What fails leaves the whole set as it is. -/
  failed : ∀ order why, (e.perform order s).1 = .error why →
    (e.perform order s).2.2.active = s.active
  /-- What is live of this subscription is what is outstanding, if nobody else registers or
  releases it. -/
  registrations : (∀ s s', outside s s' →
      s'.active.registrationsOf m.id = s.active.registrationsOf m.id) →
    start.active.registrationsOf m.id = [] → s.active.registrationsOf m.id = outstanding turns

end

section

variable [Activator α σ] [Factory φ σ] {m : Metadata} {turns : List (Turn π α φ σ)}
  {e : Entry σ} {s : Services π α φ σ}

/-- **An entry has two states**, and goes from one to the other by an activation and by its release,
whatever is asked of it. -/
theorem Course.alternates {outside : Services π α φ σ → Services π α φ σ → Prop}
    {start : Services π α φ σ} (h : Course outside m start turns e s) :
    TwoStates m turns e s ∧ ∀ [Tracked α σ], Shown outside m start turns e s :=
  ⟨h.accords.twoStates s, ⟨fun _ _ => active_of_failed, h.registrationsOf_eq⟩⟩

end

namespace Demo

/-- Another subscription is registered with the same activator. -/
def Joins (s s' : Services (StoreGate MemoryStore) (Gated (ActiveSet String)) EchoFactory String) :
    Prop :=
  s' = (s.activate "x" ⟨"t", "bus:/in"⟩).2
    ∧ s'.active.registrationsOf "s" = s.active.registrationsOf "s"

end Demo

/-- A factory of another type, a registration, a second one that is refused, a release and a new
registration; in between, another subscription joins. -/
theorem Course.alternates_demo :
    ∃ turns e s, Course Demo.Joins Demo.stored Demo.services turns e s
      ∧ turns.map (fun t => t.answer.isOk) = [false, true, false, true, true]
      ∧ s.active.size = 2 ∧ e.isRegistered ∧ TwoStates Demo.stored turns e s
      ∧ s.active.registrationsOf "s" = outstanding turns := by
  have hstart : Course Demo.Joins Demo.stored Demo.services [] _ _ := .new
  have hbuilt := (hstart.turn (.registerWith ⟨"B"⟩)).turn (.registerWith ⟨"A"⟩)
  have hjoined := hbuilt.change ⟨rfl, by decide⟩
  have hcourse := ((hjoined.turn (.register "h")).turn .unregister).turn (.register "g")
  exact ⟨_, _, _, hcourse, by decide, by decide, by decide, hcourse.alternates.1,
    hcourse.alternates.2.registrations (fun _ _ hs => hs.2) rfl⟩

end Entry
end SubscriptionRegistry
