/-
# Runs

A run of a registry is any number of operations in any order.  Between two of them the outside
may change the services: rows of the store come and go, an activator or a store changes its mind
about what it refuses.  What the outside may do, and what clients may ask for and when, are
parameters, so each theorem about runs says how much of the world it takes.

* `Registry.Run`: the registries that a run reaches.
* `Operation.Fresh`, `Services.Keyed`: what is mostly asked of clients and of the store.
* `Services.Stable`: what holds of the services and is kept by every single call.
* `Registry.perform_stable`: such a property is kept by every operation.
* `Demo`: a small registry to start runs from.
-/
import SubscriptionRegistry.BackingStore.Faithful
import SubscriptionRegistry.Proofs.Outcomes

namespace SubscriptionRegistry

variable {π α φ σ : Type}

/-! ## 1. Runs -/

/-- The registries that can be reached from `start`. -/
inductive Registry.Run [BackingStore π] [Activator α σ] [Factory φ σ]
    (outside : Services π α φ σ → Services π α φ σ → Prop)
    (allowed : Operation φ σ → Registry π α φ σ → Prop) (start : Registry π α φ σ) :
    Registry π α φ σ → Prop
  | refl : Run outside allowed start start
  | change {r : Registry π α φ σ} {s : Services π α φ σ} :
      Run outside allowed start r → outside r.services s →
      Run outside allowed start { r with services := s }
  | step {r : Registry π α φ σ} {op : Operation φ σ} :
      Run outside allowed start r → allowed op r →
      Run outside allowed start (r.perform op).2

/-- New subscriptions get ids that are not cached: random ids do not collide. -/
def Operation.Fresh : Operation φ σ → Registry π α φ σ → Prop
  | .insert _ _ _ random, r => r.cache.get? (Urn.ofRandom random) = none
  | _, _ => True

/-- Whatever the store lists stands under its own id.  It is valid as all metadata is, because
`Metadata.create` is the only way in. -/
def Services.Keyed [BackingStore π] (s : Services π α φ σ) : Prop :=
  ∀ (listing : Table String Metadata) (s' : Services π α φ σ), s.list = (.ok listing, s') →
    listing.All fun id m => m.id = id ∧ m.Valid

theorem Services.keyed_of_stored [BackingStore π] [FaithfulStore π] {s : Services π α φ σ}
    (h : ∀ {id : String} {m : Metadata}, s.stored id = some m → m.id = id ∧ m.Valid) :
    s.Keyed := by
  intro listing s' hlist id m hm
  rw [get?_list hlist] at hm
  exact h hm

/-! ## 2. What single calls keep -/

/-- Kept by every call except those to the store. -/
structure Services.LocallyStable [Activator α σ] [Factory φ σ] (P : Services π α φ σ → Prop) :
    Prop where
  activate : ∀ object properties s, P s → P (s.activate object properties).2
  deactivate : ∀ a s, P s → P (s.deactivate a)
  build : ∀ f m s, P s → P (s.build f m).2.2

/-- Neither activators nor factories reach the store. -/
theorem Services.store_locallyStable [Activator α σ] [Factory φ σ] (p : π) :
    Services.LocallyStable fun s : Services π α φ σ => s.store = p where
  activate _ _ _ hs := hs
  deactivate _ _ hs := hs
  build _ _ _ hs := hs

/-- Kept by every call. -/
structure Services.Stable [BackingStore π] [Activator α σ] [Factory φ σ]
    (P : Services π α φ σ → Prop) : Prop extends Services.LocallyStable P where
  insert : ∀ m s, P s → P (s.insert m).2
  delete : ∀ id s, P s → P (s.delete id).2
  list : ∀ s, P s → P s.list.2

section

variable [Activator α σ] [Factory φ σ] {P : Services π α φ σ → Prop}

theorem Entry.register_stable (hP : Services.LocallyStable P) (object : σ) (e : Entry σ)
    {s : Services π α φ σ} (hs : P s) : P (e.register object s).2.2 := by
  have ha := hP.activate object e.properties s hs
  unfold register
  split
  · exact hs
  · split <;> simp_all

theorem Entry.registerWith_stable (hP : Services.LocallyStable P) (f : φ) (e : Entry σ)
    {s : Services π α φ σ} (hs : P s) : P (e.registerWith f s).2.2.2 := by
  have hb := hP.build f e.metadata s hs
  unfold registerWith
  dsimp only
  split
  · exact hs
  · split
    · rename_i h
      rw [h] at hb
      exact hb
    · rename_i h
      rw [h] at hb
      exact Entry.register_stable hP _ _ hb

theorem Entry.unregister_stable (hP : Services.LocallyStable P) (e : Entry σ)
    {s : Services π α φ σ} (hs : P s) : P (e.unregister s).2.2 := by
  unfold unregister
  split
  · exact hs
  · exact hP.deactivate _ _ hs

namespace Registry

theorem activateEntry_stable (hP : Services.LocallyStable P) (test : Entry σ → Bool)
    (e : Entry σ) {round : Round π α φ σ} (hs : P round.services) :
    P (activateEntry test e round).2.2.services := by
  unfold activateEntry
  split
  · split
    · exact hs
    · exact Entry.registerWith_stable hP _ e hs
  · exact hs

theorem activateDormant_stable (hP : Services.LocallyStable P) (test : Entry σ → Bool)
    {r : Registry π α φ σ} (hs : P r.services) : P (r.activateDormant test).2.services :=
  Table.visit_snd (P := fun round : Round π α φ σ => P round.services)
    (fun e _ h => activateEntry_stable hP test e h) r.cache hs

theorem releaseEntry_stable (hP : Services.LocallyStable P) (test : Entry σ → Bool)
    (e : Entry σ) {s : Services π α φ σ} (hs : P s) : P (releaseEntry test e s).2.2 := by
  have hu := Entry.unregister_stable hP e hs
  unfold releaseEntry
  split
  · split <;> simp_all
  · exact hs

theorem bind_stable (hP : Services.LocallyStable P) (factory : Option φ)
    {r : Registry π α φ σ} (hs : P r.services) : P (r.bind factory).2.services := by
  rcases bind_cases factory r with ⟨-, h⟩ | ⟨f, -, -, h⟩ | ⟨f, -, -, h⟩
  · rw [h]
    exact hs
  · rw [h]
    exact hs
  · rw [h]
    exact activateDormant_stable hP _ hs

theorem unbind_stable (hP : Services.LocallyStable P) (factory : Option φ)
    {r : Registry π α φ σ} (hs : P r.services) : P (r.unbind factory).2.services := by
  rcases unbind_cases factory r with ⟨-, h⟩ | ⟨f, -, -, h⟩ | ⟨f, bound, -, -, h⟩
  · rw [h]
    exact hs
  · rw [h]
    exact hs
  · rw [h]
    exact Table.visit_snd (fun e s he => releaseEntry_stable hP _ e he) r.cache hs

theorem forget_stable (hP : Services.LocallyStable P) (id : String) {r : Registry π α φ σ}
    (hs : P r.services) : P (r.forget id).services := by
  unfold forget
  split
  · exact hs
  · exact Entry.unregister_stable hP _ hs

theorem adoptRow_stable (hP : Services.LocallyStable P) (row : String × Metadata)
    {r : Registry π α φ σ} (hs : P r.services) : P (r.adoptRow row).services := by
  unfold adoptRow
  split
  · exact hs
  · rcases adopt_cases row.2 r with ⟨-, hout⟩ | ⟨f, -, hout⟩
    · rw [hout]
      exact hs
    · rw [hout]
      exact Entry.registerWith_stable hP _ _ hs

end Registry

end

/-! ## 3. What operations keep -/

section

variable [BackingStore π]

theorem Writer.write_stable {P : Services π α φ σ → Prop} {ms : List Metadata}
    (hP : ∀ m ∈ ms, ∀ s, P s → P (s.insert m).2) {s : Services π α φ σ} (hs : P s) :
    P (runEach Metadata.id write ms s).2 := by
  induction ms generalizing s with
  | nil => exact hs
  | cons m rest ih =>
    have hm := hP m List.mem_cons_self s hs
    have hrest : ∀ m ∈ rest, ∀ s, P s → P (s.insert m).2 := fun m h =>
      hP m (List.mem_cons_of_mem _ h)
    unfold runEach
    split
    · rename_i h
      rw [write] at h
      rw [h] at hm
      exact ih hrest hm
    · rename_i h
      rw [write] at h
      rw [h] at hm
      exact ih hrest hm

variable [Activator α σ] [Factory φ σ] {P : Services π α φ σ → Prop}

namespace Registry

theorem storeRegistered_stable (hP : Services.Stable P) (m : Metadata) (object : σ)
    {r : Registry π α φ σ} (hs : P r.services) :
    P (r.storeRegistered m object).2.services := by
  have ha := hP.activate object ⟨m.id, m.callback⟩ r.services hs
  rcases storeRegistered_cases m object r with
    ⟨s, hact, h⟩ | ⟨a, s, why, s', hact, hins, h⟩ | ⟨a, s, s', hact, hins, h⟩
  · rw [hact] at ha
    rw [h]
    exact ha
  · have hi := hP.insert m s (by rw [hact] at ha; exact ha)
    rw [hins] at hi
    rw [h]
    exact hP.deactivate a s' hi
  · have hi := hP.insert m s (by rw [hact] at ha; exact ha)
    rw [hins] at hi
    rw [h]
    exact hi

theorem takeOut_stable (hP : Services.Stable P) {r : Registry π α φ σ} {i : Identifier}
    {e : Entry σ} {h : Handle σ} (hp : r.Present i e h) (hs : P r.services) :
    P (r.takeOut i.id).2.services := by
  have hd := hP.delete i.id r.services hs
  rcases takeOut_cases hp with ⟨why, s, hdel, hout⟩ | ⟨s, hdel, hout⟩
  · rw [hdel] at hd
    rw [hout]
    exact hd
  · rw [hdel] at hd
    rw [hout]
    exact hP.deactivate h.activation s hd

theorem update_stable (hP : Services.Stable P) (object : σ) (request : Request)
    (i : Identifier) {r : Registry π α φ σ} (hs : P r.services) :
    P (r.update object request i).2.services := by
  have hd := hP.delete i.id r.services hs
  rcases update_cases object request i r with
    ⟨why, -, h⟩ | ⟨e, hd', -, ⟨why, s, hdel, h⟩ | ⟨m, s, -, -, hdel, -, h⟩⟩
  · rw [h]
    exact hs
  · rw [hdel] at hd
    rw [h]
    exact hd
  · rw [hdel] at hd
    rw [h]
    exact storeRegistered_stable hP m object (hP.deactivate hd'.activation s hd)

/-- A reconciliation asks the store for nothing but a listing. -/
theorem reconcile_stable (hP : Services.LocallyStable P) (hlist : ∀ s, P s → P s.list.2)
    {r : Registry π α φ σ} (hs : P r.services) : P r.reconcile.2.services := by
  have hl := hlist r.services hs
  rcases reconcile_cases r with ⟨why, s, hout, h⟩ | ⟨listing, s, hout, added, h⟩
  · rw [hout] at hl
    rw [h]
    exact hl
  · rw [hout] at hl
    rw [h]
    refine List.foldlRecOn (motive := fun r : Registry π α φ σ => P r.services) _ _ ?_
      fun r hr row _ => adoptRow_stable hP row hr
    exact List.foldlRecOn (motive := fun r : Registry π α φ σ => P r.services) _ _ hl
      fun r hr id _ => forget_stable hP id hr

/-- So does loading. -/
theorem init_stable (hP : Services.LocallyStable P) (hlist : ∀ s, P s → P s.list.2)
    {r : Registry π α φ σ} (hs : P r.services) : P r.init.2.services := by
  have hl := hlist r.services hs
  rcases init_cases r with ⟨why, s, hout, h⟩ | ⟨listing, s, hout, h⟩
  · rw [hout] at hl
    rw [h]
    exact hl
  · rw [hout] at hl
    rw [h]
    exact activateDormant_stable hP _ hl

theorem insert_stable (hP : Services.Stable P) (object : σ) (request : Request) (kind : String)
    (random : Nat) {r : Registry π α φ σ} (hs : P r.services) :
    P (r.insert object request kind random).2.services := by
  rcases insert_cases object request kind random r with ⟨why, -, h⟩ | ⟨m, -, -, h⟩
  · rw [h]
    exact hs
  · rw [h]
    exact storeRegistered_stable hP m object hs

theorem delete_stable (hP : Services.Stable P) (i : Identifier) {r : Registry π α φ σ}
    (hs : P r.services) : P (r.delete i).2.services := by
  rcases delete_cases i r with ⟨why, -, h⟩ | ⟨e, hd, hp, h⟩
  · rw [h]
    exact hs
  · rw [h]
    exact takeOut_stable hP hp hs

theorem flush_stable (hP : Services.Stable P) {r : Registry π α φ σ} (hs : P r.services) :
    P r.flush.2.services := by
  rw [flush_snd]
  exact Writer.write_stable (fun m _ => hP.insert m) hs

/-- **What every call keeps, every operation keeps.** -/
theorem perform_stable (hP : Services.Stable P) (op : Operation φ σ) {r : Registry π α φ σ}
    (hs : P r.services) : P (r.perform op).2.services := by
  cases op with
  | init => exact init_stable hP.toLocallyStable hP.list hs
  | insert object request kind random => exact insert_stable hP object request kind random hs
  | update object request target => exact update_stable hP object request target hs
  | delete target => exact delete_stable hP target hs
  | bind factory => exact bind_stable hP.toLocallyStable factory hs
  | unbind factory => exact unbind_stable hP.toLocallyStable factory hs
  | reconcile => exact reconcile_stable hP.toLocallyStable hP.list hs
  | flush => exact flush_stable hP hs

end Registry

end

/-! ## 4. A small registry -/

namespace Demo

/-- A stored subscription. -/
def stored : Metadata := ⟨"s", "A", "f", "bus:/in"⟩

/-- One subscription is stored, nobody is refused, no call fails, and none was made yet. -/
def services : Services (StoreGate MemoryStore) (Gated (ActiveSet String)) EchoFactory String :=
  ⟨.opened (.ofList [stored]) .locked, ⟨.empty, fun _ => false⟩, []⟩

/-- With a factory for it, the stored subscription comes to life. -/
def live : Registry (StoreGate MemoryStore) (Gated (ActiveSet String)) EchoFactory String :=
  (((Registry.new services).perform (.bind (some ⟨"A"⟩))).2.perform .init).2

/-- From now on the store takes no writes. -/
def jammed : Registry (StoreGate MemoryStore) (Gated (ActiveSet String)) EchoFactory String :=
  { live with services := { live.services with store := { live.services.store with
      failsInsert := fun _ => true, failsDelete := fun _ => true } } }

theorem stored_valid : stored.Valid :=
  ⟨by decide, by decide, by decide, by decide, rfl⟩

theorem stored_only
    {s : Services (StoreGate MemoryStore) (Gated (ActiveSet String)) EchoFactory String}
    (hs : s.store.inner.rows.rows = [("s", stored)]) {id : String} {m : Metadata}
    (hm : s.stored id = some m) : m.id = id ∧ m.Valid := by
  have hget : s.store.inner.rows.get? id = some m := hm
  rw [Table.get?_eq_some_iff, hs, List.mem_singleton] at hget
  cases hget
  exact ⟨rfl, stored_valid⟩

end Demo
end SubscriptionRegistry
