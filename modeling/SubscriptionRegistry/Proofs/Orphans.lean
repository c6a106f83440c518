/-
# Registrations that a reconciliation orphans

A reconciliation caches a listed row whose key is not cached, and caches it under the id of its
metadata.  If the two differ, another entry may stand there already.  It is dropped with its handle,
and what it held stays registered with nobody to release it.

The books below keep such registrations apart.  Everything that is registered is held by a cached
entry or by one that was displaced so, and nothing is lost or counted twice, however many passes
are made and whatever they find listed.  So ownership lasts exactly as long as no live entry is
displaced, and only rows under foreign keys displace any.

* `Holds`: all that is registered is held, by whomever.
* `Registry.displaced`: the entries that a pass drops without a release.
* `Registry.holds_reconcile`: the books after a pass.
* `Registry.Trace.passes_orphan`: the books after any number of passes.
* `Registry.reconcile_orphans`: a pass that leaves a registration behind.
-/
import SubscriptionRegistry.BackingStore.Overlay
import SubscriptionRegistry.Proofs.Ownership.Handles
import SubscriptionRegistry.Proofs.Repair

namespace SubscriptionRegistry

variable {π α φ σ : Type}

/-! ## 1. All that is registered is held -/

/-- What some entries hold, cached or not. -/
def heldBy (entries : List (Entry σ)) : List (ActivationId × Registration σ) :=
  entries.flatMap Entry.held

theorem heldBy_append (first second : List (Entry σ)) :
    heldBy (first ++ second) = heldBy first ++ heldBy second :=
  List.flatMap_append

theorem heldBy_eq_nil_iff {entries : List (Entry σ)} :
    heldBy entries = [] ↔ ∀ e ∈ entries, e.handle = none := by
  rw [heldBy, List.flatMap_eq_nil_iff]
  refine forall₂_congr fun e _ => ?_
  cases he : e.handle <;> simp [Entry.held, he]

/-- What is put under a key displaces what stood there. -/
theorem heldIn_perm_insert (c : Cache σ) (id : String) (e : Entry σ) :
    (heldIn (c.insert id e).rows ++ heldBy (c.get? id).toList).Perm (e.held ++ heldIn c.rows) := by
  cases hold : c.get? id with
  | none =>
    rw [heldIn_insert hold]
    simpa [heldBy] using List.perm_append_comm
  | some old =>
    have hsame : (c.insert id e).erase id = c.erase id := Table.erase_insert_self
    have hnew : (c.insert id e).get? id = some e := Table.get?_insert.trans (if_pos rfl)
    have hafter := heldIn_perm_erase hnew
    rw [hsame] at hafter
    have hbefore : (heldIn (c.erase id).rows ++ old.held).Perm (heldIn c.rows) :=
      List.perm_append_comm.trans (heldIn_perm_erase hold).symm
    have hold' : heldBy (some old).toList = old.held := List.append_nil _
    rw [hold']
    refine (hafter.append_right _).trans ?_
    rw [List.append_assoc]
    exact hbefore.append_left _

section

variable [Activator α σ] [Tracked α σ]

theorem Services.active_of_build [Factory φ σ] {f f' : φ} {m : Metadata} {built : Option σ}
    {s s' : Services π α φ σ} (h : s.build f m = (built, f', s')) : s'.active = s.active :=
  (congrArg (fun out => out.2.2.active) h).symm

/-- As long as names last, none is in use that is still to come, and what is registered is, up to
order, what is held. -/
def Holds (held : List (ActivationId × Registration σ)) (s : Services π α φ σ) : Prop :=
  s.active.issued < UInt64.size → s.Named ∧ s.active.live.rows.Perm held

namespace Holds

variable {held held' : List (ActivationId × Registration σ)} {s s' : Services π α φ σ}

theorem perm (h : Holds held s) (hp : held.Perm held') : Holds held' s := fun hn =>
  ⟨(h hn).1, (h hn).2.trans hp⟩

/-- Only the activator matters. -/
theorem of_active (h : Holds held s) (ha : s'.active = s.active) : Holds held s' := by
  intro hn
  rw [ha] at hn
  rw [Services.Named, ha]
  exact h hn

theorem granted [BackingStore π] [Factory φ σ] (h : Holds held s) {object : σ}
    {properties : Properties} {a : ActivationId}
    (hact : s.activate object properties = (some a, s')) :
    Holds ((a, ⟨object, properties⟩) :: held) s' := by
  obtain ⟨rfl, hset⟩ := Services.active_of_granted hact
  intro hn
  have hn' : s.active.issued + 1 < UInt64.size := by
    rw [hset] at hn
    exact hn
  obtain ⟨hnamed, hheld⟩ := h (Nat.lt_of_succ_lt hn')
  have hnamed' : s'.Named := by
    have := Services.named_stable.activate object properties s hnamed
    rwa [hact] at this
  refine ⟨hnamed', ?_⟩
  have hrows : s'.active.live.rows
      = s.active.live.rows ++ [(s.active.nextId, ⟨object, properties⟩)] := by
    rw [hset]
    exact Table.rows_insert_of_get?_eq_none (hnamed.get?_nextId hn')
  rw [hrows]
  exact (List.perm_append_singleton _ _).trans (hheld.cons _)

/-- A release of something that is held. -/
theorem deactivate {a : ActivationId} {g : Registration σ} (h : Holds ((a, g) :: held) s) :
    Holds held (s.deactivate a) := by
  have hset := Services.active_deactivate a s
  intro hn
  rw [hset] at hn
  obtain ⟨hnamed, hheld⟩ := h hn
  have hget : s.active.live.get? a = some g :=
    Table.get?_eq_some_iff.mpr (hheld.mem_iff.mpr List.mem_cons_self)
  rw [Services.Named, hset]
  exact ⟨hnamed.erase, ((Table.rows_perm_erase hget).symm.trans hheld).cons_inv⟩

theorem registerWith [BackingStore π] [Factory φ σ] {e : Entry σ} (he : e.handle = none)
    (h : Holds held s) (f : φ) :
    Holds ((e.registerWith f s).2.1.held ++ held) (e.registerWith f s).2.2.2 := by
  have hheld := Entry.held_of_handle_none he
  rcases Entry.registerWith_cases he f s with ⟨-, hout⟩ | ⟨f', s', hbuild, hout⟩
    | ⟨object, f', s', s'', hbuild, hact, hout⟩ | ⟨object, a, f', s', s'', hbuild, hact, hout⟩
  · rw [hout, hheld]
    exact h
  · rw [hout, hheld]
    exact h.of_active (Services.active_of_build hbuild)
  · rw [hout, hheld]
    exact (h.of_active (Services.active_of_build hbuild)).of_active
      (Services.active_of_refused hact)
  · rw [hout, Entry.held_of_handle_some rfl]
    exact (h.of_active (Services.active_of_build hbuild)).granted hact

theorem unregister {e : Entry σ} (h : Holds (e.held ++ held) s) :
    Holds held (e.unregister s).2.2 := by
  cases he : e.handle with
  | none =>
    rw [Entry.held_of_handle_none he] at h
    rw [Entry.unregister, he]
    exact h
  | some handle =>
    rw [Entry.held_of_handle_some he] at h
    rw [Entry.unregister_of_handle he]
    exact h.deactivate

end Holds

end

/-! ## 2. What a pass displaces -/

namespace Registry

variable {r : Registry π α φ σ} {row : String × Metadata} {rows : List (String × Metadata)}
  {id : String} {e : Entry σ}

/-- The entry that adopting a row drops, if it drops one. -/
def displacedBy (row : String × Metadata) (r : Registry π α φ σ) : List (Entry σ) :=
  if r.cache.contains row.1 then [] else (r.cache.get? row.2.id).toList

/-- The entries that adopting some rows drops. -/
def displacedByAll [Activator α σ] [Factory φ σ] :
    List (String × Metadata) → Registry π α φ σ → List (Entry σ)
  | [], _ => []
  | row :: rest, r => displacedBy row r ++ displacedByAll rest (r.adoptRow row)

/-- The entries that a reconciliation drops without a release. -/
def displaced [BackingStore π] [Activator α σ] [Factory φ σ] (r : Registry π α φ σ) :
    List (Entry σ) :=
  match r.services.list with
  | (.error _, _) => []
  | (.ok listing, s) => displacedByAll listing.rows (r.pruned listing s)

theorem mem_displacedBy : e ∈ displacedBy row r ↔
    r.cache.contains row.1 = false ∧ r.cache.get? row.2.id = some e := by
  unfold displacedBy
  cases r.cache.contains row.1 <;> simp

section

variable [Activator α σ] [Factory φ σ]

/-- A row that is not adopted, or has another id, leaves an entry as it is. -/
theorem get?_adoptRow_of_spared (h : r.cache.contains row.1 = false → row.2.id ≠ id) :
    (r.adoptRow row).cache.get? id = r.cache.get? id := by
  unfold adoptRow
  split
  · rfl
  · rename_i hnew
    have hne : ¬ id = row.2.id := fun heq => h (Bool.eq_false_iff.mpr hnew) heq.symm
    rcases adopt_cases row.2 r with ⟨-, hout⟩ | ⟨f, -, hout⟩ <;>
      rw [hout] <;> exact Table.get?_insert.trans (if_neg hne)

/-- Only a row under a foreign key that is not cached displaces anything. -/
theorem exists_row_of_mem_displaced (h : e ∈ displacedByAll rows r) :
    ∃ row ∈ rows, row.1 ≠ row.2.id ∧ r.cache.contains row.1 = false := by
  induction rows generalizing r with
  | nil => cases h
  | cons row rest ih =>
    rcases List.mem_append.mp h with h | h
    · obtain ⟨hnew, he⟩ := mem_displacedBy.mp h
      refine ⟨row, List.mem_cons_self, fun heq => ?_, hnew⟩
      rw [heq, Table.contains, he] at hnew
      cases hnew
    · obtain ⟨row', hrow', hne, hnew⟩ := ih h
      refine ⟨row', List.mem_cons_of_mem _ hrow', hne, ?_⟩
      rw [Bool.eq_false_iff] at hnew ⊢
      exact fun hcached => hnew (contains_adoptRow_of_contains hcached row)

/-- An entry is displaced if a row has its id, under a key that is neither cached nor an id. -/
theorem mem_displaced_of_foreign (hrow : row ∈ rows) (hnew : r.cache.contains row.1 = false)
    (hforeign : ∀ other ∈ rows, other.2.id ≠ row.1) (he : r.cache.get? row.2.id = some e) :
    e ∈ displacedByAll rows r := by
  induction rows generalizing r with
  | nil => cases hrow
  | cons head rest ih =>
    rw [displacedByAll, List.mem_append]
    by_cases hhead : r.cache.contains head.1 = false ∧ head.2.id = row.2.id
    · exact .inl (mem_displacedBy.mpr ⟨hhead.1, hhead.2 ▸ he⟩)
    · -- The head leaves the entry alone, and so it is not the row.
      rcases List.mem_cons.mp hrow with rfl | hrow
      · exact absurd ⟨hnew, rfl⟩ hhead
      · refine .inr (ih hrow ?_ (fun other hother =>
          hforeign other (List.mem_cons_of_mem _ hother)) ?_)
        · rw [contains_adoptRow_of_ne (hforeign head List.mem_cons_self).symm]
          exact hnew
        · rw [get?_adoptRow_of_spared fun hadopted hid => hhead ⟨hadopted, hid⟩]
          exact he

end

/-! ## 3. The books -/

variable [Activator α σ] [Tracked α σ] [BackingStore π] [Factory φ σ]
  {lost : List (ActivationId × Registration σ)}

omit [BackingStore π] [Factory φ σ] in
/-- What is forgotten is released. -/
theorem holds_forget (h : Holds (heldIn r.cache.rows ++ lost) r.services) (id : String) :
    Holds (heldIn (r.forget id).cache.rows ++ lost) (r.forget id).services := by
  unfold forget
  cases he : r.cache.get? id with
  | none => exact h
  | some e =>
    have hrows := (heldIn_perm_erase he).append_right lost
    rw [List.append_assoc] at hrows
    exact (h.perm hrows).unregister

/-- What is adopted brings what it holds, and what it displaces keeps what it held. -/
theorem holds_adoptRow (h : Holds (heldIn r.cache.rows ++ lost) r.services)
    (row : String × Metadata) :
    Holds (heldIn (r.adoptRow row).cache.rows ++ (lost ++ heldBy (displacedBy row r)))
      (r.adoptRow row).services := by
  unfold adoptRow displacedBy
  split
  · simpa [heldBy] using h
  · -- What comes in holds what it was granted, and the entry under its id is displaced.
    have hput (e : Entry σ) : ((e.held ++ heldIn r.cache.rows) ++ lost).Perm
        (heldIn (r.cache.insert row.2.id e).rows
          ++ (lost ++ heldBy (r.cache.get? row.2.id).toList)) := by
      refine ((heldIn_perm_insert r.cache row.2.id e).symm.append_right lost).trans ?_
      rw [List.append_assoc]
      exact List.perm_append_comm.append_left _
    rcases adopt_cases row.2 r with ⟨-, hout⟩ | ⟨f, -, hout⟩
    · rw [hout]
      exact h.perm (hput (.dormant row.2))
    · rw [hout]
      refine (h.registerWith rfl f).perm ?_
      rw [← List.append_assoc]
      exact hput _

theorem holds_adoptAll (rows : List (String × Metadata))
    (h : Holds (heldIn r.cache.rows ++ lost) r.services) :
    Holds (heldIn (rows.foldl (fun r row => adoptRow row r) r).cache.rows
        ++ (lost ++ heldBy (displacedByAll rows r)))
      (rows.foldl (fun r row => adoptRow row r) r).services := by
  induction rows generalizing r lost with
  | nil => simpa [displacedByAll, heldBy] using h
  | cons row rest ih =>
    rw [List.foldl_cons, displacedByAll, heldBy_append, ← List.append_assoc lost]
    exact ih (holds_adoptRow h row)

/-- After a pass, what was displaced is lost as well, and nothing else. -/
theorem holds_reconcile (h : Holds (heldIn r.cache.rows ++ lost) r.services) :
    Holds (heldIn r.reconcile.2.cache.rows ++ (lost ++ heldBy r.displaced))
      r.reconcile.2.services := by
  rcases hlist : r.services.list with ⟨why | listing, s⟩
  · have hactive : s.active = r.services.active :=
      (congrArg (fun out => out.2.active) hlist).symm
    rw [reconcile, displaced, hlist]
    simpa [heldBy] using h.of_active hactive
  · have hactive : s.active = r.services.active :=
      (congrArg (fun out => out.2.active) hlist).symm
    rw [reconcile_eq hlist, displaced, hlist]
    exact holds_adoptAll listing.rows (List.foldlRecOn
      (motive := fun r' : Registry π α φ σ => Holds (heldIn r'.cache.rows ++ lost) r'.services)
      _ _ (h.of_active hactive) fun _ h id _ => holds_forget h id)

/-! ## 4. Any number of passes -/

variable {start : Registry π α φ σ} {moments : List (Moment π α φ σ)}

omit [Tracked α σ] in
/-- What a pass displaces, it displaces for a row under a foreign key that was not cached. -/
theorem foreign_of_displaced {listing : Table String Metadata} {s : Services π α φ σ}
    (hlist : r.services.list = (.ok listing, s)) (h : e ∈ r.displaced) :
    ∃ row ∈ listing.rows, row.1 ≠ row.2.id ∧ r.cache.contains row.1 = false := by
  rw [displaced, hlist] at h
  obtain ⟨row, hrow, hne, hnew⟩ := exists_row_of_mem_displaced h
  refine ⟨row, hrow, hne, ?_⟩
  have hlisted : listing.contains row.1 := Table.contains_iff.mpr (List.mem_map_of_mem hrow)
  rwa [contains_pruned, hlisted, Bool.and_true] at hnew

omit [Tracked α σ] in
/-- A row under a foreign key that was not cached displaces what stands under its id, unless that
goes anyway or another row brings its key. -/
theorem displaced_of_foreign {listing : Table String Metadata} {s : Services π α φ σ}
    (hlist : r.services.list = (.ok listing, s)) (hrow : row ∈ listing.rows)
    (hnew : r.cache.contains row.1 = false) (hforeign : ∀ other ∈ listing.rows, other.2.id ≠ row.1)
    (hstays : listing.contains row.2.id) (he : r.cache.get? row.2.id = some e) :
    e ∈ r.displaced := by
  rw [displaced, hlist]
  refine mem_displaced_of_foreign hrow ?_ hforeign ?_
  · rw [contains_pruned, hnew, Bool.false_and]
  · have hkept : row.2.id ∉ r.stale listing := fun hstale => by
      rw [(mem_stale.mp hstale).2] at hstays
      cases hstays
    exact (get?_forget_of_notMem hkept _).trans he

/-- Pass by pass, what was displaced adds up. -/
theorem Trace.holds_passes (hnamed : start.services.Named)
    (hheld : start.services.active.live.rows.Perm (heldIn start.cache.rows))
    (htrace : Trace (fun s s' => s'.active = s.active) (fun op _ => op = .reconcile) start
      moments r) :
    Holds (heldIn r.cache.rows ++ moments.flatMap fun m => heldBy m.registry.displaced)
      r.services := by
  induction htrace with
  | refl => exact fun _ => ⟨hnamed, by simpa using hheld⟩
  | change _ hs ih => exact ih.of_active hs
  | step _ hop ih =>
    rw [List.flatMap_append, List.flatMap_singleton, hop]
    exact holds_reconcile ih

/-- **What passes orphan.**  Start with every live registration held by one entry, and reconcile
any number of times, whatever is listed: what is live is what the entries hold and what the
displaced ones held, one for one.  So every live registration is still held by one entry exactly if
none of the displaced ones was live.  An entry is displaced only for a row under a foreign key that
was not cached, and such a row displaces what stands under its id, unless that is not listed itself
or another row brings the row's key. -/
theorem Trace.passes_orphan (hnamed : start.services.Named)
    (hheld : start.services.active.live.rows.Perm (heldIn start.cache.rows))
    (htrace : Trace (fun s s' => s'.active = s.active) (fun op _ => op = .reconcile) start
      moments r)
    (hn : r.services.active.issued < UInt64.size) :
    r.services.active.live.rows.Perm
        (heldIn r.cache.rows ++ moments.flatMap fun m => heldBy m.registry.displaced)
      ∧ (r.services.active.live.rows.Perm (heldIn r.cache.rows)
        ↔ ∀ m ∈ moments, ∀ e ∈ m.registry.displaced, e.handle = none)
      ∧ ∀ m ∈ moments, ∀ listing s, m.registry.services.list = (.ok listing, s) →
        (∀ e ∈ m.registry.displaced,
          ∃ row ∈ listing.rows, row.1 ≠ row.2.id ∧ m.registry.cache.contains row.1 = false)
        ∧ ∀ row ∈ listing.rows, m.registry.cache.contains row.1 = false →
          (∀ other ∈ listing.rows, other.2.id ≠ row.1) → listing.contains row.2.id →
          ∀ e, m.registry.cache.get? row.2.id = some e → e ∈ m.registry.displaced := by
  obtain ⟨-, hlive⟩ := Trace.holds_passes hnamed hheld htrace hn
  refine ⟨hlive, ?_, fun m _ listing s hlist =>
    ⟨fun e => foreign_of_displaced hlist, fun row hrow hnew hforeign hstays e =>
      displaced_of_foreign hlist hrow hnew hforeign hstays⟩⟩
  constructor
  · intro hall m hm
    have hlen := (hlive.symm.trans hall).length_eq
    rw [List.length_append] at hlen
    have hnone : (moments.flatMap fun m => heldBy m.registry.displaced) = [] :=
      List.eq_nil_of_length_eq_zero (by omega)
    exact heldBy_eq_nil_iff.mp (List.flatMap_eq_nil_iff.mp hnone m hm)
  · intro hnone
    rw [List.flatMap_eq_nil_iff.mpr fun m hm => heldBy_eq_nil_iff.mpr (hnone m hm),
      List.append_nil] at hlive
    exact hlive

end Registry

namespace Demo

/-- The stored subscription, in a store that may show other rows. -/
def overlaid : Services (Overlay MemoryStore) (Gated (ActiveSet String)) EchoFactory String :=
  ⟨⟨.ofList [stored], .empty⟩, ⟨.empty, fun _ => false⟩, []⟩

/-- The stored subscription came to life. -/
def shown : Registry (Overlay MemoryStore) (Gated (ActiveSet String)) EchoFactory String :=
  (((Registry.new overlaid).perform (.bind (some ⟨"A"⟩))).2.perform .init).2

/-- Now a row under another key shows it once more. -/
def aliased : Registry (Overlay MemoryStore) (Gated (ActiveSet String)) EchoFactory String :=
  { shown with services := { shown.services with store := { shown.services.store with
      extra := .ofList [("x", stored)] } } }

theorem aliased_named : aliased.services.Named := by
  have hstart : overlaid.Named := fun _ _ h => by cases h
  exact Registry.perform_stable Services.named_stable .init
    (Registry.perform_stable Services.named_stable (.bind (some ⟨"A"⟩))
      (r := Registry.new overlaid) hstart)

end Demo

/-- Two passes over one listing leave two registrations of the subscription behind. -/
theorem Registry.Trace.passes_orphan_demo :
    ∃ moments r, Trace (fun s s' => s'.active = s.active) (fun op _ => op = .reconcile)
        Demo.aliased moments r
      ∧ r.services.active.live.size = 3 ∧ (heldIn r.cache.rows).length = 1
      ∧ ¬ r.services.active.live.rows.Perm (heldIn r.cache.rows) := by
  have htrace : Trace (fun s s' => s'.active = s.active) (fun op _ => op = .reconcile) Demo.aliased
      _ _ := .step (.step .refl rfl) rfl
  obtain ⟨-, horphans, hforeign⟩ := passes_orphan Demo.aliased_named
    (List.Perm.of_eq rfl) htrace (by decide)
  have hfirst := (hforeign _ List.mem_cons_self _ _ rfl).2 ("x", Demo.stored) (by decide) rfl
    (by decide) rfl _ rfl
  refine ⟨_, _, htrace, rfl, rfl, fun hall => ?_⟩
  cases horphans.mp hall _ List.mem_cons_self _ hfirst

/-- **A pass that orphans.**  The subscription was registered once, and is afterwards twice. -/
theorem Registry.reconcile_orphans :
    ¬ ∀ r : Registry (Overlay MemoryStore) (Gated (ActiveSet String)) EchoFactory String,
      r.services.active.live.rows.Perm (heldIn r.cache.rows) →
      r.reconcile.2.services.active.live.rows.Perm (heldIn r.reconcile.2.cache.rows) := by
  intro hkept
  have hlen := (hkept Demo.aliased (List.Perm.of_eq rfl)).length_eq
  exact absurd hlen (by decide)

end SubscriptionRegistry
