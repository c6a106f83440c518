/-
# A round activates all that it can, in any order

Binding a factory and loading go through the cache and activate what is dormant and has a factory.
Nothing stops such a round: an entry for which nothing is built, or that the activator refuses, is
noted, and the round goes on.  If factories look at metadata alone, and the activator refuses by id
alone, then what becomes of an entry depends on the entry and not on what came before it.  So the
order in which a round goes through the cache does not matter, except for the names of activations.

* `Factory.Steady`, `Activator.Steady`: what factories and activators are asked for.
* `Entry.due`, `Entry.yield`: what a round tries, and what comes of it.
* `Registry.Visited`, `Registry.visited_activateEntry`: one visit of a round.
* `Registry.Revived`: what a round comes to, id by id.
* `Registry.Renamed`: rounds that differ in names alone.
* `Registry.revives_in_any_order`: that binding and loading are such rounds.
-/
import SubscriptionRegistry.Proofs.Calls
import SubscriptionRegistry.Proofs.Contents
import SubscriptionRegistry.Proofs.Naming

namespace SubscriptionRegistry

variable {π α φ σ : Type}

/-! ## 1. Steady factories and activators -/

/-- A factory whose subscriptions depend on the metadata, and not on what it built before. -/
def Factory.Steady [Factory φ σ] (f : φ) : Prop :=
  ∀ g, Factory.Becomes f g → ∀ m, (Factory.build m g).1 = (Factory.build m f).1

theorem Factory.Steady.becomes [Factory φ σ] {f g : φ} (h : Factory.Steady f)
    (hfg : Factory.Becomes f g) : Factory.Steady g := fun g' hg m =>
  (h g' (hfg.trans hg) m).trans (h g hfg m).symm

/-- What an activator becomes by being used. -/
inductive Activator.Becomes [Activator α σ] (a : α) : α → Prop
  | refl : Becomes a a
  | activate {b : α} (h : Becomes a b) (object : σ) (properties : Properties) :
      Becomes a (Activator.activate object properties b).2
  | deactivate {b : α} (h : Becomes a b) (id : ActivationId) :
      Becomes a (Activator.deactivate id b)

theorem Activator.Becomes.trans [Activator α σ] {a b c : α} (hab : Activator.Becomes a b)
    (hbc : Activator.Becomes b c) : Activator.Becomes a c := by
  induction hbc with
  | refl => exact hab
  | activate _ object properties ih => exact ih.activate object properties
  | deactivate _ id ih => exact ih.deactivate id

/-- An activator that refuses some ids, and goes on refusing just these. -/
def Activator.Steady [Activator α σ] (refuses : String → Bool) (a : α) : Prop :=
  ∀ b, Activator.Becomes a b → ∀ (object : σ) (properties : Properties),
    (Activator.activate object properties b).1 = none ↔ refuses properties.id

theorem Activator.Steady.becomes [Activator α σ] {refuses : String → Bool} {a b : α}
    (h : Activator.Steady refuses a) (hab : Activator.Becomes a b) :
    Activator.Steady refuses b := fun c hbc => h c (hab.trans hbc)

theorem Services.of_build [Factory φ σ] {f f' : φ} {m : Metadata} {built : Option σ}
    {s s' : Services π α φ σ} (h : s.build f m = (built, f', s')) :
    built = (Factory.build m f).1 ∧ s'.activator = s.activator := by
  cases h
  exact ⟨rfl, rfl⟩

theorem Services.of_activate [Activator α σ] {object : σ} {properties : Properties}
    {granted : Option ActivationId} {s s' : Services π α φ σ}
    (h : s.activate object properties = (granted, s')) :
    granted = (Activator.activate object properties s.activator).1
      ∧ Activator.Becomes s.activator s'.activator := by
  cases h
  exact ⟨rfl, Activator.Becomes.refl.activate object properties⟩

/-- A gate in front of a set is steady. -/
theorem Gated.steady (g : Gated (ActiveSet σ)) : Activator.Steady g.refuses g := by
  intro b hb object properties
  have hsame : b.refuses = g.refuses := by
    induction hb with
    | refl => rfl
    | @activate b _ object properties ih =>
      rw [← ih]
      simp only [Activator.activate]
      split <;> rfl
    | deactivate _ _ ih => exact ih
  simp only [Activator.activate, ← hsame]
  cases b.refuses properties.id <;> simp

/-- A factory that looks at metadata only. -/
theorem EchoFactory.steady (f : EchoFactory) : Factory.Steady f := fun _ _ _ => rfl

/-! ## 2. What a round tries -/

namespace Factories

variable [Factory φ σ] {fs fs' fs'' : Factories φ}

/-- The same types have factories, which were at most used. -/
def Used (fs fs' : Factories φ) : Prop :=
  ∀ kind, (fs.get? kind = none ∧ fs'.get? kind = none)
    ∨ ∃ f g, fs.get? kind = some f ∧ fs'.get? kind = some g ∧ Factory.Becomes f g

theorem Used.refl (fs : Factories φ) : fs.Used fs := by
  intro kind
  cases hf : fs.get? kind with
  | none => exact .inl ⟨rfl, rfl⟩
  | some f => exact .inr ⟨f, f, rfl, rfl, .refl⟩

theorem Used.trans (h : fs.Used fs') (h' : fs'.Used fs'') : fs.Used fs'' := by
  intro kind
  rcases h kind with ⟨hnone, hnone'⟩ | ⟨f, g, hf, hg, hfg⟩
  · rcases h' kind with ⟨-, hnone''⟩ | ⟨g, _, hg, -, -⟩
    · exact .inl ⟨hnone, hnone''⟩
    · rw [hnone'] at hg
      cases hg
  · rcases h' kind with ⟨hnone, -⟩ | ⟨g', g'', hg', hg'', hgg⟩
    · rw [hg] at hnone
      cases hnone
    · rw [hg] at hg'
      cases hg'
      exact .inr ⟨f, g'', hf, hg'', hfg.trans hgg⟩

/-- One of the factories builds something. -/
theorem used_update {kind : String} {f : φ} (hf : fs.get? kind = some f) (m : Metadata) :
    fs.Used (fs.update kind (Factory.build m f).2) := by
  intro key
  rw [get?_update]
  by_cases hkey : key = kind
  · rw [if_pos hkey, hkey]
    exact .inr ⟨f, _, hf, rfl, Factory.Becomes.refl.build m⟩
  · rw [if_neg hkey]
    exact Used.refl fs key

/-- The same types have factories, which come from the same ones by use. -/
def Akin (fs fs' : Factories φ) : Prop := ∃ origin : Factories φ, origin.Used fs ∧ origin.Used fs'

theorem Akin.of_eq (h : fs' = fs) : fs.Akin fs' := ⟨fs, .refl fs, h ▸ .refl fs⟩

end Factories

/-- One more registration, if there is something to register. -/
def ActiveSet.admit (object : Option σ) (properties : Properties) (s : ActiveSet σ) : ActiveSet σ :=
  match object with
  | none => s
  | some object => (s.activate object properties).2

namespace Entry

/-- The factory that a round tries an entry with: if the entry is dormant and passes the test, the
one of its type. -/
def due (test : Entry σ → Bool) (fs : Factories φ) (e : Entry σ) : Option φ :=
  if e.isDormant && test e then fs.get? e.metadata.kind else none

/-- What comes to life: what the factory builds, unless the activator refuses. -/
def yield [Factory φ σ] (refuses : String → Bool) (f : φ) (e : Entry σ) : Option σ :=
  if refuses e.id then none else (Factory.build e.metadata f).1

/-- The entry with a live subscription and the name of its activation, if there are both. -/
def wake (object : Option σ) (name : Option ActivationId) (e : Entry σ) : Entry σ :=
  match object, name with
  | some object, some a => ⟨e.metadata, some ⟨object, a⟩⟩
  | _, _ => e

/-- The entry with another name for its activation. -/
def rename (ρ : ActivationId → ActivationId) (e : Entry σ) : Entry σ :=
  { e with handle := e.handle.map fun h => { h with activation := ρ h.activation } }

@[simp] theorem wake_none (name : Option ActivationId) (e : Entry σ) : e.wake none name = e := rfl

theorem handle_of_due {test : Entry σ → Bool} {fs : Factories φ} {e : Entry σ} {f : φ}
    (h : e.due test fs = some f) : e.handle = none := by
  unfold due at h
  split at h
  · rename_i htest
    simp only [Bool.and_eq_true, isDormant, Option.isNone_iff_eq_none] at htest
    exact htest.1
  · cases h

/-- With a factory of its type an entry comes to what is yielded. -/
theorem registerWith_yield [Activator α σ] [Tracked α σ] [Factory φ σ] {refuses : String → Bool}
    {e : Entry σ} {f : φ} (he : e.handle = none) (hkind : Factory.kind f = e.metadata.kind)
    {s : Services π α φ σ} (hsteady : Activator.Steady refuses s.activator) :
    ((e.registerWith f s).1 = .ok () ↔ e.yield refuses f ≠ none)
      ∧ (e.registerWith f s).2.1 = e.wake (e.yield refuses f) (some s.active.nextId)
      ∧ (e.registerWith f s).2.2.1 = (Factory.build e.metadata f).2
      ∧ (e.registerWith f s).2.2.2.active = s.active.admit (e.yield refuses f) e.properties
      ∧ Activator.Becomes s.activator (e.registerWith f s).2.2.2.activator := by
  rcases registerWith_cases he f s with ⟨hne, -⟩ | ⟨f', s', hbuild, hout⟩
    | ⟨object, f', s', s'', hbuild, hact, hout⟩ | ⟨object, a, f', s', s'', hbuild, hact, hout⟩
  · exact absurd hkind hne
  · obtain ⟨hbuilt, hactivator⟩ := Services.of_build hbuild
    have hyield : e.yield refuses f = none := by rw [yield, ← hbuilt, ite_self]
    rw [hout, hyield]
    refine ⟨by simp, rfl, Services.factory_of_build hbuild, ?_, hactivator ▸ .refl⟩
    exact congrArg Tracked.active hactivator
  · obtain ⟨-, hactivator⟩ := Services.of_build hbuild
    obtain ⟨hnone, hbecomes⟩ := Services.of_activate hact
    rw [hactivator] at hnone hbecomes
    have hrefuses : refuses e.id = true := (hsteady _ .refl object e.properties).mp hnone.symm
    have hyield : e.yield refuses f = none := by rw [yield, if_pos hrefuses]
    rw [hout, hyield]
    refine ⟨by simp, rfl, Services.factory_of_build hbuild, ?_, hbecomes⟩
    exact (Services.active_of_refused hact).trans (congrArg Tracked.active hactivator)
  · obtain ⟨hbuilt, hactivator⟩ := Services.of_build hbuild
    obtain ⟨hsome, hbecomes⟩ := Services.of_activate hact
    rw [hactivator] at hsome hbecomes
    have haccepts : ¬ refuses e.id = true := by
      intro hrefuses
      rw [(hsteady _ .refl object e.properties).mpr hrefuses] at hsome
      cases hsome
    have hyield : e.yield refuses f = some object := by rw [yield, if_neg haccepts, hbuilt]
    have hsame : s'.active = s.active := congrArg Tracked.active hactivator
    obtain ⟨rfl, hactive⟩ := Services.active_of_granted hact
    rw [hsame] at hactive
    rw [hout, hyield, hsame]
    exact ⟨by simp, rfl, Services.factory_of_build hbuild, hactive, hbecomes⟩

end Entry

namespace Registry

variable [Activator α σ] [Tracked α σ] [Factory φ σ] {refuses : String → Bool}
  {test : Entry σ → Bool} {fs fs' : Factories φ}

/-- What comes to life of an entry in a round. -/
def revival (refuses : String → Bool) (test : Entry σ → Bool) (fs : Factories φ) (e : Entry σ) :
    Option σ :=
  (e.due test fs).bind fun f => e.yield refuses f

/-- Whether an entry is tried in vain. -/
def inVain (refuses : String → Bool) (test : Entry σ → Bool) (fs : Factories φ) (e : Entry σ) :
    Bool :=
  (e.due test fs).isSome && (revival refuses test fs e).isNone

/-- Every factory that a round uses is steady, and is bound for its own type. -/
def Ready (test : Entry σ → Bool) (fs : Factories φ) : Prop :=
  ∀ e f, Entry.due test fs e = some f → Factory.kind f = e.metadata.kind ∧ Factory.Steady f

/-- Use changes none of this. -/
theorem due_of_used (h : fs.Used fs') (test : Entry σ → Bool) (e : Entry σ) :
    (e.due test fs = none ∧ e.due test fs' = none)
      ∨ ∃ f g, e.due test fs = some f ∧ e.due test fs' = some g ∧ Factory.Becomes f g := by
  unfold Entry.due
  split
  · exact h e.metadata.kind
  · exact .inl ⟨rfl, rfl⟩

theorem revival_of_used (hready : Ready test fs) (h : fs.Used fs') (e : Entry σ) :
    revival refuses test fs' e = revival refuses test fs e := by
  unfold revival
  rcases due_of_used h test e with ⟨hnone, hnone'⟩ | ⟨f, g, hf, hg, hfg⟩
  · rw [hnone, hnone']
  · rw [hf, hg, Option.bind_some, Option.bind_some, Entry.yield, Entry.yield,
      (hready e f hf).2 g hfg e.metadata]

theorem inVain_of_used (hready : Ready test fs) (h : fs.Used fs') (e : Entry σ) :
    inVain refuses test fs' e = inVain refuses test fs e := by
  unfold inVain
  rw [revival_of_used hready h]
  rcases due_of_used h test e with ⟨hnone, hnone'⟩ | ⟨f, g, hf, hg, -⟩
  · rw [hnone, hnone']
  · rw [hf, hg]
    rfl

theorem Ready.of_used (hready : Ready test fs) (h : fs.Used fs') : Ready test fs' := by
  intro e g hg
  rcases due_of_used h test e with ⟨-, hnone⟩ | ⟨f, g', hf, hg', hfg⟩
  · rw [hg] at hnone
    cases hnone
  · rw [hg] at hg'
    cases hg'
    obtain ⟨hkind, hsteady⟩ := hready e f hf
    exact ⟨hfg.kind_eq.trans hkind, hsteady.becomes hfg⟩

/-! ## 3. A visit -/

/-- What a visit of a round comes to, for the entry and for those behind it. -/
structure Visited (refuses : String → Bool) (test : Entry σ → Bool) (e : Entry σ)
    (round : Round π α φ σ) (e' : Entry σ) (round' : Round π α φ σ) : Prop where
  entry : e' = e.wake (revival refuses test round.factories e) (some round.services.active.nextId)
  active : round'.services.active
    = round.services.active.admit (revival refuses test round.factories e) e.properties
  failed : round'.failed
    = round.failed ++ if inVain refuses test round.factories e then [e.id] else []
  activator : Activator.Becomes round.services.activator round'.services.activator
  factories : round.factories.Used round'.factories

/-- A visit leaves alone what is not due. -/
theorem visited_of_not_due {e : Entry σ} {round : Round π α φ σ}
    (hdue : e.due test round.factories = none) :
    Visited refuses test e round (activateEntry test e round).2.1
      (activateEntry test e round).2.2 := by
  have hrevival : revival refuses test round.factories e = none := by rw [revival, hdue]; rfl
  have hvain : inVain refuses test round.factories e = false := by rw [inVain, hdue]; rfl
  have hout : activateEntry test e round = (.ok (), e, round) := by
    unfold Entry.due at hdue
    unfold activateEntry
    split
    · rw [if_pos ‹_›] at hdue
      rw [hdue]
    · rfl
  rw [hout]
  constructor
  case entry => rw [hrevival, Entry.wake_none]
  case active => rw [hrevival]; rfl
  case failed => rw [hvain]; exact (List.append_nil _).symm
  case activator => exact .refl
  case factories => exact .refl _

/-- A visit tries what is due. -/
theorem visited_of_due {e : Entry σ} {f : φ} {round : Round π α φ σ}
    (hdue : e.due test round.factories = some f) (hkind : Factory.kind f = e.metadata.kind)
    (hsteady : Activator.Steady refuses round.services.activator) :
    Visited refuses test e round (activateEntry test e round).2.1
      (activateEntry test e round).2.2 := by
  have hrevival : revival refuses test round.factories e = e.yield refuses f := by
    rw [revival, hdue]
    rfl
  have hvain : inVain refuses test round.factories e = (e.yield refuses f).isNone := by
    rw [inVain, hrevival, hdue]
    rfl
  obtain ⟨hok, hentry, hfactory, hactive, hactivator⟩ :=
    Entry.registerWith_yield (Entry.handle_of_due hdue) hkind hsteady
  unfold Entry.due at hdue
  unfold activateEntry
  split at hdue
  · rw [if_pos ‹_›, hdue]
    constructor
    case entry => rw [hrevival]; exact hentry
    case active => rw [hrevival]; exact hactive
    case failed =>
      rw [hvain]
      dsimp only
      cases houtcome : (e.registerWith f round.services).1 with
      | ok u => simp [hok.mp houtcome]
      | error why =>
        have hnone : e.yield refuses f = none := by
          by_contra hsome
          rw [hok.mpr hsome] at houtcome
          cases houtcome
        simp [hnone]
    case activator => exact hactivator
    case factories =>
      dsimp only
      rw [hfactory]
      exact Factories.used_update hdue e.metadata
  · cases hdue

/-- **A visit tries what is due**, and leaves everything else alone. -/
theorem visited_activateEntry (e : Entry σ) {round : Round π α φ σ}
    (hready : Ready test round.factories)
    (hsteady : Activator.Steady refuses round.services.activator) :
    Visited refuses test e round (activateEntry test e round).2.1
      (activateEntry test e round).2.2 := by
  cases hdue : e.due test round.factories with
  | none => exact visited_of_not_due hdue
  | some f => exact visited_of_due hdue (hready e f hdue).1 hsteady

/-! ## 4. A round -/

/-- The registrations that a round makes, under the keys of the entries. -/
def grants (refuses : String → Bool) (test : Entry σ → Bool) (fs : Factories φ)
    (rows : List (String × Entry σ)) : List (String × Registration σ) :=
  rows.filterMap fun row =>
    (revival refuses test fs row.2).map fun object => (row.1, ⟨object, row.2.properties⟩)

/-- The ids of the entries that a round tries in vain. -/
def vain (refuses : String → Bool) (test : Entry σ → Bool) (fs : Factories φ)
    (rows : List (String × Entry σ)) : List String :=
  (rows.filter fun row => inVain refuses test fs row.2).map fun row => row.2.id

section

variable {key : String} {e : Entry σ} {rows : List (String × Entry σ)}

omit [Activator α σ] [Tracked α σ]

theorem grants_cons_of_none (h : revival refuses test fs e = none) :
    grants refuses test fs ((key, e) :: rows) = grants refuses test fs rows :=
  List.filterMap_cons_none (by rw [h]; rfl)

theorem grants_cons_of_some {object : σ} (h : revival refuses test fs e = some object) :
    grants refuses test fs ((key, e) :: rows)
      = (key, ⟨object, e.properties⟩) :: grants refuses test fs rows :=
  List.filterMap_cons_some (by rw [h]; rfl)

theorem vain_cons : vain refuses test fs ((key, e) :: rows)
    = (if inVain refuses test fs e then [e.id] else []) ++ vain refuses test fs rows := by
  cases hvain : inVain refuses test fs e <;> simp [vain, hvain]

/-- Not more than one registration is made for an entry. -/
theorem keys_grants (rows : List (String × Entry σ)) :
    ((grants refuses test fs rows).map Prod.fst).Sublist (rows.map Prod.fst) := by
  induction rows with
  | nil => exact .refl _
  | cons row rest ih =>
    obtain ⟨key, e⟩ := row
    cases hrow : revival refuses test fs e with
    | none =>
      rw [grants_cons_of_none hrow]
      exact ih.cons key
    | some object =>
      rw [grants_cons_of_some hrow]
      exact ih.cons_cons key

theorem mem_grants {g : Registration σ} :
    (key, g) ∈ grants refuses test fs rows ↔ ∃ e, (key, e) ∈ rows
      ∧ revival refuses test fs e = some g.object ∧ g.properties = e.properties := by
  simp only [grants, List.mem_filterMap, Option.map_eq_some_iff]
  constructor
  · rintro ⟨⟨_, e⟩, hrow, object, hobject, heq⟩
    cases heq
    exact ⟨e, hrow, hobject, rfl⟩
  · rintro ⟨e, hrow, hobject, hproperties⟩
    exact ⟨(key, e), hrow, g.object, hobject, by rw [← hproperties]⟩

end

/-- What a round comes to, row by row. -/
structure WentThrough (refuses : String → Bool) (test : Entry σ → Bool) (fs : Factories φ)
    (rows : List (String × Entry σ)) (round : Round π α φ σ) (rows' : List (String × Entry σ))
    (round' : Round π α φ σ) : Prop where
  entries : rows' = rows.map fun row => (row.1, row.2.wake (revival refuses test fs row.2)
    (Table.findRow row.1 (round.services.active.activateAll (grants refuses test fs rows)).1))
  active : round'.services.active
    = (round.services.active.activateAll (grants refuses test fs rows)).2
  failed : round'.failed = round.failed ++ vain refuses test fs rows
  factories : fs.Used round'.factories

/-- **A round tries all that is due**, whatever becomes of the entries before. -/
theorem wentThrough_visitRows (hready : Ready test fs) {rows : List (String × Entry σ)}
    (hnd : (rows.map Prod.fst).Nodup) {round : Round π α φ σ} (hused : fs.Used round.factories)
    (hsteady : Activator.Steady refuses round.services.activator) :
    WentThrough refuses test fs rows round (Table.visitRows (activateEntry test) rows round).2.1
      (Table.visitRows (activateEntry test) rows round).2.2 := by
  induction rows generalizing round with
  | nil => exact ⟨rfl, rfl, (List.append_nil _).symm, hused⟩
  | cons row rest ih =>
    obtain ⟨key, e⟩ := row
    obtain ⟨hnot, hrest⟩ := List.nodup_cons.mp hnd
    have hvisited := visited_activateEntry e (hready.of_used hused) hsteady
    have hlater := ih hrest (hused.trans hvisited.factories) (hsteady.becomes hvisited.activator)
    have hentry := hvisited.entry
    have hactive := hvisited.active
    have hfailed := hvisited.failed
    rw [revival_of_used hready hused] at hentry hactive
    rw [inVain_of_used hready hused] at hfailed
    have hentries := hlater.entries
    have hset := hlater.active
    have hreported := hlater.failed
    rw [hactive] at hentries hset
    rw [hfailed, List.append_assoc, ← vain_cons] at hreported
    rw [Table.visitRows_cons_of_ok (activateEntry_eq_ok test e round)]
    cases hrevival : revival refuses test fs e with
    | none =>
      rw [hrevival] at hentry hentries hset
      refine ⟨?_, ?_, hreported, hlater.factories⟩
      · rw [List.map_cons, hentry, hentries, hrevival, grants_cons_of_none hrevival]
        rfl
      · rw [grants_cons_of_none hrevival]
        exact hset
    | some object =>
      rw [hrevival] at hentry hentries hset
      refine ⟨?_, ?_, hreported, hlater.factories⟩
      · rw [List.map_cons, hentry, hentries, hrevival, grants_cons_of_some hrevival,
          ActiveSet.activateAll]
        dsimp only [Table.findRow]
        rw [if_pos rfl]
        refine congrArg _ (List.map_congr_left fun row hrow => ?_)
        have hne : key ≠ row.1 := by
          rintro rfl
          exact hnot (List.mem_map.mpr ⟨row, hrow, rfl⟩)
        rw [if_neg hne]
        rfl
      · rw [grants_cons_of_some hrevival]
        exact hset

/-! ## 5. What a round comes to -/

/-- Whether a name was given to an activation of an entry that was dormant before. -/
def Given (before : String → Option (Entry σ)) (r' : Registry π α φ σ) (a : ActivationId) : Prop :=
  ∃ id e e' h, before id = some e ∧ e.handle = none ∧ r'.cache.get? id = some e'
    ∧ e'.handle = some h ∧ h.activation = a

/-- What a round comes to that starts with some entries, id by id: how it ends, and the registry
that it leaves. -/
structure Revived (refuses : String → Bool) (test : Entry σ → Bool) (fs : Factories φ)
    (before : String → Option (Entry σ)) (s : Services π α φ σ) (answer : Except StoreError Unit)
    (r' : Registry π α φ σ) : Prop where
  /-- What is due and yields something is live, under a name of its own. -/
  revived : ∀ id e f object, before id = some e → e.due test fs = some f →
    e.yield refuses f = some object →
    ∃ a, r'.cache.get? id = some ⟨e.metadata, some ⟨object, a⟩⟩
      ∧ r'.services.active.live.get? a = some ⟨object, e.properties⟩
  dormant : ∀ id e f, before id = some e → e.due test fs = some f → e.yield refuses f = none →
    r'.cache.get? id = some e
  spared : ∀ id e, before id = some e → e.due test fs = none → r'.cache.get? id = some e
  /-- Nothing is cached that was not before. -/
  absent : ∀ id, before id = none → r'.cache.get? id = none
  /-- No other registration is touched. -/
  live : ∀ a, ¬ Given before r' a → r'.services.active.live.get? a = s.active.live.get? a
  factories : fs.Used r'.factories
  store : r'.services.store = s.store
  ok_iff : answer = .ok () ↔ ∀ id e f, before id = some e → e.due test fs = some f →
    e.yield refuses f ≠ none
  /-- What was tried in vain is named, each id once. -/
  reported : ∀ why, answer = .error why → ∃ ids, why = .registration (.notActivated ids)
    ∧ ids.Nodup ∧ ∀ id, id ∈ ids ↔ ∃ e f, before id = some e ∧ e.due test fs = some f
      ∧ e.yield refuses f = none

/-- Two rounds that start with the same entries come to the same, up to a renaming of the
activations that they made. -/
structure Renamed (ρ : Equiv.Perm ActivationId) (before : String → Option (Entry σ))
    (out out' : Except StoreError Unit × Registry π α φ σ) : Prop where
  fixed : ∀ a, ¬ Given before out.2 a → ρ a = a
  entries : ∀ id, out'.2.cache.get? id = match before id with
    | none => none
    | some e => if e.isDormant then (out.2.cache.get? id).map (Entry.rename ρ)
      else out.2.cache.get? id
  live : ActiveSet.Renames ρ out.2.services.active out'.2.services.active
  reported : ∃ ids ids', out.1 = activationOutcome ids ∧ out'.1 = activationOutcome ids'
    ∧ ids.Perm ids'

variable {r : Registry π α φ σ} {id : String}

section

omit [Activator α σ] [Tracked α σ]

theorem revival_of_due {e : Entry σ} {f : φ} (h : e.due test fs = some f) :
    revival refuses test fs e = e.yield refuses f := by
  rw [revival, h]
  rfl

theorem revival_of_not_due {e : Entry σ} (h : e.due test fs = none) :
    revival refuses test fs e = none := by
  rw [revival, h]
  rfl

/-- What comes to life was due. -/
theorem exists_due_of_revival {e : Entry σ} {object : σ}
    (h : revival refuses test fs e = some object) :
    ∃ f, e.due test fs = some f ∧ e.yield refuses f = some object :=
  Option.bind_eq_some_iff.mp h

theorem inVain_iff {e : Entry σ} :
    inVain refuses test fs e ↔ ∃ f, e.due test fs = some f ∧ e.yield refuses f = none := by
  rw [inVain, Bool.and_eq_true, Option.isSome_iff_exists, Option.isNone_iff_eq_none]
  constructor
  · rintro ⟨⟨f, hf⟩, hnone⟩
    exact ⟨f, hf, revival_of_due hf ▸ hnone⟩
  · rintro ⟨f, hf, hnone⟩
    exact ⟨⟨f, hf⟩, (revival_of_due hf).trans hnone⟩

variable {c : Cache σ}

theorem mem_vain (hkeyed : ∀ id e, c.get? id = some e → e.id = id) :
    id ∈ vain refuses test fs c.rows ↔ ∃ e f, c.get? id = some e ∧ e.due test fs = some f
      ∧ e.yield refuses f = none := by
  simp only [vain, List.mem_map, List.mem_filter, inVain_iff]
  constructor
  · rintro ⟨row, ⟨hrow, f, hf, hnone⟩, rfl⟩
    have he := Table.get?_eq_some_iff.mpr hrow
    rw [← hkeyed _ _ he] at he
    exact ⟨row.2, f, he, hf, hnone⟩
  · rintro ⟨e, f, he, hf, hnone⟩
    exact ⟨(id, e), ⟨Table.get?_eq_some_iff.mp he, f, hf, hnone⟩, hkeyed id e he⟩

theorem nodup_vain (hkeyed : ∀ id e, c.get? id = some e → e.id = id) :
    (vain refuses test fs c.rows).Nodup := by
  refine List.Nodup.sublist (List.filter_sublist.map _) ?_
  have hids : c.rows.map (fun row => row.2.id) = c.keys := List.map_congr_left fun row hrow =>
    hkeyed _ _ (Table.get?_eq_some_iff.mpr hrow)
  rw [hids]
  exact c.nodup

end

/-- The names of the activations that a round makes, under the keys of the entries. -/
def names (refuses : String → Bool) (test : Entry σ → Bool) (r : Registry π α φ σ) :
    List (String × ActivationId) :=
  (r.services.active.activateAll (grants refuses test r.factories r.cache.rows)).1

theorem wentThrough_activateDormant (hready : Ready test r.factories)
    (hsteady : Activator.Steady refuses r.services.activator) :
    WentThrough refuses test r.factories r.cache.rows ⟨[], r.factories, r.services⟩
      (r.activateDormant test).2.cache.rows
      (Table.visitRows (activateEntry test) r.cache.rows ⟨[], r.factories, r.services⟩).2.2 :=
  wentThrough_visitRows hready r.cache.nodup (.refl _) hsteady

/-- What is cached after a round. -/
theorem get?_activateDormant (hready : Ready test r.factories)
    (hsteady : Activator.Steady refuses r.services.activator) (id : String) :
    (r.activateDormant test).2.cache.get? id = (r.cache.get? id).map fun e =>
      e.wake (revival refuses test r.factories e) (Table.findRow id (r.names refuses test)) := by
  rw [Table.get?, (wentThrough_activateDormant hready hsteady).entries]
  exact Table.findRow_map_rows (fun key (e : Entry σ) =>
    e.wake (revival refuses test r.factories e) (Table.findRow key (r.names refuses test))) id _

theorem nodup_grants (c : Cache σ) :
    ((grants refuses test fs c.rows).map Prod.fst).Nodup :=
  c.nodup.sublist (keys_grants c.rows)

theorem length_grants (c : Cache σ) : (grants refuses test fs c.rows).length ≤ c.size := by
  have hlength : ((grants refuses test fs c.rows).map Prod.fst).length ≤ _ :=
    (keys_grants c.rows).length_le
  rwa [List.length_map, List.length_map] at hlength

theorem nodup_names : ((r.names refuses test).map Prod.fst).Nodup := by
  rw [names, ActiveSet.keys_activateAll]
  exact nodup_grants r.cache

/-- Everything that comes to life has a name. -/
theorem exists_name {e : Entry σ} {object : σ} (he : r.cache.get? id = some e)
    (hrevival : revival refuses test r.factories e = some object) :
    (id, ⟨object, e.properties⟩) ∈ grants refuses test r.factories r.cache.rows
      ∧ ∃ a, (id, a) ∈ r.names refuses test := by
  have hgrant : (id, ⟨object, e.properties⟩) ∈ grants refuses test r.factories r.cache.rows :=
    mem_grants.mpr ⟨e, Table.get?_eq_some_iff.mp he, hrevival, rfl⟩
  have hkey : id ∈ (r.names refuses test).map Prod.fst := by
    rw [names, ActiveSet.keys_activateAll]
    exact List.mem_map_of_mem hgrant
  obtain ⟨⟨_, a⟩, hname, rfl⟩ := List.mem_map.mp hkey
  exact ⟨hgrant, a, hname⟩

/-- A name that is given belongs to an entry that comes to life. -/
theorem given_of_mem_upcoming (hready : Ready test r.factories)
    (hsteady : Activator.Steady refuses r.services.activator) {a : ActivationId}
    (ha : a ∈ ActiveSet.upcoming r.services.active.issued
      (grants refuses test r.factories r.cache.rows).length) :
    Given r.cache.get? (r.activateDormant test).2 a := by
  rw [← ActiveSet.names_activateAll] at ha
  obtain ⟨⟨id, a⟩, hname, rfl⟩ := List.mem_map.mp ha
  have hkey : id ∈ (grants refuses test r.factories r.cache.rows).map Prod.fst := by
    rw [← ActiveSet.keys_activateAll]
    exact List.mem_map_of_mem hname
  obtain ⟨⟨id, g⟩, hgrant, rfl⟩ := List.mem_map.mp hkey
  obtain ⟨e, hrow, hrevival, -⟩ := mem_grants.mp hgrant
  have he := Table.get?_eq_some_iff.mpr hrow
  obtain ⟨f, hdue, -⟩ := exists_due_of_revival hrevival
  refine ⟨id, e, ⟨e.metadata, some ⟨g.object, a⟩⟩, ⟨g.object, a⟩, he, Entry.handle_of_due hdue, ?_,
    rfl, rfl⟩
  rw [get?_activateDormant hready hsteady, he, Option.map_some, hrevival,
    (Table.findRow_eq_some_iff nodup_names).mpr hname]
  rfl

/-- A round, id by id. -/
theorem revived_activateDormant (hkeyed : ∀ id e, r.cache.get? id = some e → e.id = id)
    (hready : Ready test r.factories) (hsteady : Activator.Steady refuses r.services.activator)
    (hsize : r.cache.size ≤ UInt64.size) :
    Revived refuses test r.factories r.cache.get? r.services (r.activateDormant test).1
      (r.activateDormant test).2 := by
  have hwent := wentThrough_activateDormant hready hsteady
  have hget := get?_activateDormant hready hsteady
  have hanswer : (r.activateDormant test).1
      = activationOutcome (vain refuses test r.factories r.cache.rows) :=
    congrArg activationOutcome hwent.failed
  constructor
  case revived =>
    intro id e f object he hdue hyield
    have hrevival := (revival_of_due hdue).trans hyield
    obtain ⟨hgrant, a, hname⟩ := exists_name he hrevival
    refine ⟨a, ?_, ?_⟩
    · rw [hget, he, Option.map_some, hrevival,
        (Table.findRow_eq_some_iff nodup_names).mpr hname]
      rfl
    · refine (congrArg (fun s : ActiveSet σ => s.live.get? a) hwent.active).trans ?_
      exact ActiveSet.get?_activateAll ((length_grants r.cache).trans hsize)
        (nodup_grants r.cache) hgrant hname
  case dormant =>
    intro id e f he hdue hnone
    rw [hget, he, Option.map_some, revival_of_due hdue, hnone, Entry.wake_none]
  case spared =>
    intro id e he hdue
    rw [hget, he, Option.map_some, revival_of_not_due hdue, Entry.wake_none]
  case absent =>
    intro id hnone
    rw [hget, hnone]
    rfl
  case live =>
    intro a ha
    refine (congrArg (fun s : ActiveSet σ => s.live.get? a) hwent.active).trans ?_
    exact ActiveSet.get?_activateAll_of_notMem fun hmem =>
      ha (given_of_mem_upcoming hready hsteady hmem)
  case factories => exact hwent.factories
  case store =>
    exact activateDormant_stable (Services.store_locallyStable r.services.store) test rfl
  case ok_iff =>
    rw [hanswer, activationOutcome_eq_ok_iff, List.eq_nil_iff_forall_not_mem]
    simp only [mem_vain hkeyed, not_exists, not_and]
  case reported =>
    intro why hwhy
    rw [hanswer] at hwhy
    exact ⟨_, eq_of_activationOutcome hwhy, nodup_vain hkeyed, fun id => mem_vain hkeyed⟩

/-! ## 6. Another order -/

omit [Activator α σ] [Tracked α σ] [Factory φ σ] in
theorem rename_wake {e : Entry σ} (he : e.handle = none) (ρ : ActivationId → ActivationId)
    (object : Option σ) (name : Option ActivationId) :
    (e.wake object name).rename ρ = e.wake object (name.map ρ) := by
  have hself : e.rename ρ = e := by
    rw [Entry.rename, he, Option.map_none, ← he]
  cases object with
  | none => exact hself
  | some object =>
    cases name with
    | none => exact hself
    | some a => rfl

/-- **The order of a round does not matter**, up to the names of activations. -/
theorem alike_activateDormant {c c' : Cache σ} {s s' : Services π α φ σ} (hsame : c'.get? = c.get?)
    (hactivator : s'.activator = s.activator) (hready : Ready test fs)
    (hsteady : Activator.Steady refuses s.activator) (hsize : c.size ≤ UInt64.size) :
    ∃ ρ, Renamed ρ c.get? (activateDormant test ⟨c, fs, s⟩) (activateDormant test ⟨c', fs, s'⟩) := by
  have hactive : s'.active = s.active := congrArg Tracked.active hactivator
  have hsteady' : Activator.Steady refuses s'.activator := by rwa [hactivator]
  have hperm : c.rows.Perm c'.rows := Table.perm_of_get?_eq hsame.symm
  have hgrants : (grants refuses test fs c.rows).Perm (grants refuses test fs c'.rows) :=
    hperm.filterMap _
  obtain ⟨ρ, hfixed, hrenames, hnames⟩ :=
    ActiveSet.activateAll_perm hgrants s.active ((length_grants c).trans hsize)
  have hwent := wentThrough_activateDormant (r := ⟨c, fs, s⟩) hready hsteady
  have hwent' := wentThrough_activateDormant (r := ⟨c', fs, s'⟩) hready hsteady'
  refine ⟨ρ, ?_, ?_, ?_, ?_⟩
  · intro a ha
    exact hfixed a fun hmem => ha (given_of_mem_upcoming (r := ⟨c, fs, s⟩) hready hsteady hmem)
  · intro id
    rw [get?_activateDormant (r := ⟨c', fs, s'⟩) hready hsteady',
      get?_activateDormant (r := ⟨c, fs, s⟩) hready hsteady]
    dsimp only
    rw [hsame]
    cases he : c.get? id with
    | none => rfl
    | some e =>
      dsimp only [Option.map_some]
      split
      · rename_i hdormant
        have hname : Table.findRow id (names refuses test ⟨c', fs, s'⟩)
            = (Table.findRow id (names refuses test ⟨c, fs, s⟩)).map ρ := by
          rw [← Table.findRow_map, names, hactive]
          refine Table.findRow_perm hnames ?_ id
          rw [List.map_map]
          exact nodup_names (r := ⟨c, fs, s⟩)
        rw [rename_wake (Option.isNone_iff_eq_none.mp hdormant), hname]
      · rename_i hlive
        have hdue : e.due test fs = none := by
          rw [Entry.due, Bool.eq_false_iff.mpr hlive]
          rfl
        rw [revival_of_not_due hdue, Entry.wake_none, Entry.wake_none]
  · have hset : (activateDormant test ⟨c, fs, s⟩).2.services.active = _ := hwent.active
    have hset' : (activateDormant test ⟨c', fs, s'⟩).2.services.active = _ := hwent'.active
    rw [hset, hset', hactive]
    exact hrenames
  · exact ⟨_, _, congrArg activationOutcome hwent.failed, congrArg activationOutcome hwent'.failed,
      (hperm.filter _).map _⟩

/-- Rounds through some entries, in whatever order the cache has them: each comes to what is due,
and all come to the same. -/
def InAnyOrder (refuses : String → Bool) (test : Entry σ → Bool) (fs : Factories φ)
    (before : String → Option (Entry σ)) (s : Services π α φ σ)
    (round : Cache σ → Except StoreError Unit × Registry π α φ σ) : Prop :=
  ∀ c : Cache σ, c.get? = before → Revived refuses test fs before s (round c).1 (round c).2
    ∧ ∀ c' : Cache σ, c'.get? = before → ∃ ρ, Renamed ρ before (round c) (round c')

theorem activateDormant_inAnyOrder {before : Cache σ} {s : Services π α φ σ}
    (hkeyed : ∀ id e, before.get? id = some e → e.id = id) (hready : Ready test fs)
    (hsteady : Activator.Steady refuses s.activator) (hsize : before.size ≤ UInt64.size) :
    InAnyOrder refuses test fs before.get? s fun c => activateDormant test ⟨c, fs, s⟩ := by
  intro c hc
  have hlength : c.size = before.size := Table.size_congr hc
  rw [← hlength] at hsize
  rw [← hc] at hkeyed ⊢
  exact ⟨revived_activateDormant (r := ⟨c, fs, s⟩) hkeyed hready hsteady hsize, fun c' hc' =>
    alike_activateDormant hc' rfl hready hsteady hsize⟩

/-! ## 7. Binding and loading -/

omit [Activator α σ] [Tracked α σ] in
/-- A test for a type admits the factory of that type only. -/
theorem ready_bind {f : φ} (hf : Factory.Steady f) (fs : Factories φ) :
    Ready (fun e => e.isKind (Factory.kind f)) (fs.update (Factory.kind f) f) := by
  intro e g hg
  unfold Entry.due at hg
  split at hg
  · rename_i htest
    simp only [Bool.and_eq_true, Entry.isKind, decide_eq_true_eq] at htest
    rw [htest.2, Factories.get?_update, if_pos rfl] at hg
    cases hg
    exact ⟨htest.2.symm, hf⟩
  · cases hg

omit [Activator α σ] [Tracked α σ] in
theorem ready_init (hfiled : fs.Filed)
    (hsteady : ∀ kind f, fs.get? kind = some f → Factory.Steady f) :
    Ready (fun _ => true) fs := by
  intro e f hf
  unfold Entry.due at hf
  split at hf
  · exact ⟨hfiled _ f hf, hsteady _ f hf⟩
  · cases hf

omit [Tracked α σ] in
/-- A round for one type uses no factory of another. -/
theorem get?_factories_activateDormant {kind : String}
    (htest : ∀ e, test e = true → e.metadata.kind = kind) {other : String} (hne : other ≠ kind)
    (r : Registry π α φ σ) :
    (r.activateDormant test).2.factories.get? other = r.factories.get? other := by
  refine Table.visit_snd (P := fun round : Round π α φ σ =>
    round.factories.get? other = r.factories.get? other) (fun e round h => ?_) r.cache rfl
  unfold activateEntry
  split
  · rename_i hdue
    simp only [Bool.and_eq_true] at hdue
    split
    · exact h
    · dsimp only
      rw [Factories.get?_update, htest e hdue.2, if_neg hne, h]
  · exact h

omit [Tracked α σ] in
/-- Neither does binding, be it refused or not. -/
theorem get?_factories_bind_of_ne {f : φ} {kind : String} (hne : kind ≠ Factory.kind f)
    (r : Registry π α φ σ) :
    (r.bind (some f)).2.factories.get? kind = r.factories.get? kind := by
  cases hbound : r.factories.contains (Factory.kind f) with
  | true => rw [bind_of_contains hbound]
  | false =>
    have htest : ∀ e : Entry σ, e.isKind (Factory.kind f) = true →
        e.metadata.kind = Factory.kind f := fun e he => of_decide_eq_true he
    rw [bind_of_not_contains hbound, get?_factories_activateDormant htest hne,
      Factories.get?_update, if_neg hne]

/-- Binding a factory is such a round, with the factory in place already. -/
theorem bind_inAnyOrder (hkeyed : ∀ id e, r.cache.get? id = some e → e.id = id)
    (hsteady : Activator.Steady refuses r.services.activator) {f : φ}
    (hfree : r.factories.contains (Factory.kind f) = false) (hf : Factory.Steady f)
    (hsize : r.cache.size ≤ UInt64.size) :
    (∃ g, (r.bind (some f)).2.factories.get? (Factory.kind f) = some g ∧ Factory.Becomes f g)
      ∧ (∀ kind, kind ≠ Factory.kind f →
        (r.bind (some f)).2.factories.get? kind = r.factories.get? kind)
      ∧ InAnyOrder refuses (fun e => e.isKind (Factory.kind f))
        (r.factories.update (Factory.kind f) f) r.cache.get? r.services
        fun c => bind (some f) { r with cache := c } := by
  have hbind : ∀ c, bind (some f) { r with cache := c }
      = activateDormant (fun e => e.isKind (Factory.kind f))
        ⟨c, r.factories.update (Factory.kind f) f, r.services⟩ := by
    intro c
    exact bind_of_not_contains hfree
  have hrounds : InAnyOrder refuses (fun e => e.isKind (Factory.kind f))
      (r.factories.update (Factory.kind f) f) r.cache.get? r.services
      fun c => bind (some f) { r with cache := c } := by
    simp only [hbind]
    exact activateDormant_inAnyOrder hkeyed (ready_bind hf r.factories) hsteady hsize
  refine ⟨?_, fun kind hne => get?_factories_bind_of_ne hne r, hrounds⟩
  rcases (hrounds r.cache rfl).1.factories (Factory.kind f) with
    ⟨hnone, -⟩ | ⟨f', g, hf', hg, hfg⟩
  · rw [Factories.get?_update, if_pos rfl] at hnone
    cases hnone
  · rw [Factories.get?_update, if_pos rfl] at hf'
    cases hf'
    exact ⟨g, hg, hfg⟩

variable [BackingStore π]

/-- Loading is such a round, with what is missing in the cache already. -/
theorem init_inAnyOrder (hkeyed : ∀ id e, r.cache.get? id = some e → e.id = id)
    (hsteady : Activator.Steady refuses r.services.activator) {listing : Table String Metadata}
    {s : Services π α φ σ} (hlist : r.services.list = (.ok listing, s))
    (hrows : listing.All fun id m => m.id = id) (hfiled : r.factories.Filed)
    (hfactories : ∀ kind f, r.factories.get? kind = some f → Factory.Steady f) {loaded : Cache σ}
    (hloaded : loaded = listing.rows.foldl Cache.addMissing r.cache)
    (hsize : loaded.size ≤ UInt64.size) :
    (∀ id, loaded.get? id = (r.cache.get? id).or ((listing.get? id).map .dormant))
      ∧ r.init = activateDormant (fun _ => true) ⟨loaded, r.factories, s⟩
      ∧ InAnyOrder refuses (fun _ => true) r.factories loaded.get? s
        fun c => activateDormant (fun _ => true) ⟨c, r.factories, s⟩ := by
  subst hloaded
  have hget := Cache.get?_foldl_addMissing listing.rows r.cache
  refine ⟨hget, init_of_list hlist, ?_⟩
  refine activateDormant_inAnyOrder (fun id e he => ?_) (ready_init hfiled hfactories) ?_ hsize
  · rw [hget] at he
    rcases Option.or_eq_some_iff.mp he with he | ⟨-, he⟩
    · exact hkeyed id e he
    · obtain ⟨m, hm, rfl⟩ := Option.map_eq_some_iff.mp he
      exact hrows id m hm
  · have hsame : r.services.activator = s.activator :=
      congrArg (fun out => Services.activator out.2) hlist
    rw [← hsame]
    exact hsteady

/-- **Binding and loading activate all that they can, in any order.** -/
theorem revives_in_any_order (hkeyed : ∀ id e, r.cache.get? id = some e → e.id = id)
    (hsteady : Activator.Steady refuses r.services.activator) :
    (∀ f, r.factories.contains (Factory.kind f) = false → Factory.Steady f →
      r.cache.size ≤ UInt64.size →
      (∃ g, (r.bind (some f)).2.factories.get? (Factory.kind f) = some g ∧ Factory.Becomes f g)
        ∧ (∀ kind, kind ≠ Factory.kind f →
          (r.bind (some f)).2.factories.get? kind = r.factories.get? kind)
        ∧ InAnyOrder refuses (fun e => e.isKind (Factory.kind f))
          (r.factories.update (Factory.kind f) f) r.cache.get? r.services
          fun c => bind (some f) { r with cache := c })
    ∧ ∀ listing s, r.services.list = (.ok listing, s) → listing.All (fun id m => m.id = id) →
      r.factories.Filed → (∀ kind f, r.factories.get? kind = some f → Factory.Steady f) →
      ∀ loaded : Cache σ, loaded = listing.rows.foldl Cache.addMissing r.cache →
      loaded.size ≤ UInt64.size →
      (∀ id, loaded.get? id = (r.cache.get? id).or ((listing.get? id).map .dormant))
        ∧ r.init = activateDormant (fun _ => true) ⟨loaded, r.factories, s⟩
        ∧ InAnyOrder refuses (fun _ => true) r.factories loaded.get? s
          fun c => activateDormant (fun _ => true) ⟨c, r.factories, s⟩ :=
  ⟨fun _ hfree hf hsize => bind_inAnyOrder hkeyed hsteady hfree hf hsize,
    fun _ _ hlist hrows hfiled hfactories _ hloaded hsize =>
      init_inAnyOrder hkeyed hsteady hlist hrows hfiled hfactories hloaded hsize⟩

end Registry

namespace Demo

/-- Two dormant subscriptions of a type without factory, one of which the activator refuses.  Two
more are stored, and for one of them there is a factory. -/
def mixed : Registry MemoryStore (Gated (ActiveSet String)) EchoFactory String where
  cache := ⟨[("t", .dormant ⟨"t", "A", "g", "bus:/t"⟩), ("v", .dormant ⟨"v", "A", "g", "bus:/v"⟩)],
    by decide⟩
  factories := Factories.empty.update "B" ⟨"B"⟩
  services := ⟨.ofList [⟨"u", "B", "h", "bus:/u"⟩, ⟨"w", "C", "h", "bus:/w"⟩],
    ⟨.empty, fun id => id = "v"⟩, []⟩

end Demo

/-- Binding brings the one to life and reports the other; loading activates what has a factory. -/
theorem Registry.revives_in_any_order_demo :
    (∃ a, (Demo.mixed.bind (some ⟨"A"⟩)).2.cache.get? "t"
        = some ⟨⟨"t", "A", "g", "bus:/t"⟩, some ⟨"g", a⟩⟩)
      ∧ (Demo.mixed.bind (some ⟨"A"⟩)).2.cache.get? "v"
        = some (.dormant ⟨"v", "A", "g", "bus:/v"⟩)
      ∧ (∃ a, Demo.mixed.init.2.cache.get? "u"
        = some ⟨⟨"u", "B", "h", "bus:/u"⟩, some ⟨"h", a⟩⟩)
      ∧ Demo.mixed.init.2.cache.get? "w" = some (.dormant ⟨"w", "C", "h", "bus:/w"⟩) := by
  have hkeyed : ∀ id e, Demo.mixed.cache.get? id = some e → e.id = id := by
    intro id e he
    rw [Table.get?_eq_some_iff] at he
    rcases List.mem_cons.mp he with h | h
    · cases h
      rfl
    · cases List.mem_singleton.mp h
      rfl
  have hrows : Demo.mixed.services.store.rows.All fun id m => m.id = id := by
    intro id m hm
    rw [Table.get?_eq_some_iff] at hm
    rcases List.mem_cons.mp hm with h | h
    · cases h
      rfl
    · cases List.mem_singleton.mp h
      rfl
  have hfiled : Demo.mixed.factories.Filed :=
    Factories.Filed.update (fun _ _ hnone => by cases hnone) (⟨"B"⟩ : EchoFactory)
  obtain ⟨hbind, hinit⟩ := revives_in_any_order hkeyed (Gated.steady Demo.mixed.services.activator)
  obtain ⟨-, -, hbind⟩ := hbind ⟨"A"⟩ rfl (EchoFactory.steady _) (by decide)
  obtain ⟨hloaded, hout, hinit⟩ :=
    hinit _ _ rfl hrows hfiled (fun _ f _ => EchoFactory.steady f) _ rfl (by decide)
  have hbound := (hbind Demo.mixed.cache rfl).1
  have hround := (hinit _ rfl).1
  obtain ⟨a, ht, -⟩ := hbound.revived "t" _ ⟨"A"⟩ "g" rfl rfl rfl
  obtain ⟨b, hu, -⟩ := hround.revived "u" _ ⟨"B"⟩ "h" (hloaded "u") rfl rfl
  rw [hout]
  exact ⟨⟨a, ht⟩, hbound.dormant "v" _ ⟨"A"⟩ rfl rfl rfl, ⟨b, hu⟩,
    hround.spared "w" _ (hloaded "w") rfl⟩

end SubscriptionRegistry
