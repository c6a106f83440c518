/-
# Two ways to fill a cache

An empty cache can be filled by a load, which caches all that is stored and then goes through the
cache to activate, or by a reconciliation, which activates row by row before it caches.  In one
order the two come to the same registry, down to the journal.  The rows of a listing and the entries
of a cache come in orders of their own, though; so in general they come to the same up to the names
of activations, and either one finds nothing to do behind the other, unless it was a load that has
something left to try.

* `Registry.adoptRows_eq_visitRows`: adopting rows is a round through them as dormant entries.
* `Registry.reconcile_eq_init`: the two ways in one order.
* `Registry.Alike`: the same but for the names of activations.
* `Registry.loading_paths_agree`: the two ways in any orders.
-/
import SubscriptionRegistry.Proofs.Reloading
import SubscriptionRegistry.Proofs.Repair
import SubscriptionRegistry.Proofs.Twins

namespace SubscriptionRegistry

variable {π α φ σ : Type}

/-- Rows that are new are added at the end. -/
theorem Cache.rows_foldl_addMissing {rows : List (String × Metadata)}
    (hnd : (rows.map Prod.fst).Nodup) {c : Cache σ} (hnew : ∀ row ∈ rows, c.get? row.1 = none) :
    (rows.foldl addMissing c).rows
      = c.rows ++ rows.map fun row => (row.1, Entry.dormant row.2) := by
  induction rows generalizing c with
  | nil => exact (List.append_nil _).symm
  | cons row rest ih =>
    obtain ⟨hnot, hrest⟩ := List.nodup_cons.mp hnd
    have hrow := hnew row List.mem_cons_self
    have hadd : c.addMissing row = c.insert row.1 (.dormant row.2) := by
      rw [addMissing, Table.contains, hrow]
      rfl
    have hnew' : ∀ row' ∈ rest, (c.addMissing row).get? row'.1 = none := fun row' hrow' => by
      have hne : row'.1 ≠ row.1 := fun h => hnot (h ▸ List.mem_map_of_mem hrow')
      rw [hadd, Table.get?_insert, if_neg hne]
      exact hnew row' (List.mem_cons_of_mem _ hrow')
    rw [List.foldl_cons, ih hrest hnew', hadd, Table.rows_insert_of_get?_eq_none hrow,
      List.append_assoc]
    rfl

/-- What an empty cache loads. -/
def Cache.ofListing (listing : Table String Metadata) : Cache σ :=
  listing.rows.foldl addMissing .empty

namespace Cache

variable {listing : Table String Metadata} {id : String} {e : Entry σ}

theorem rows_ofListing (listing : Table String Metadata) :
    (ofListing listing : Cache σ).rows
      = listing.rows.map fun row => (row.1, Entry.dormant row.2) :=
  rows_foldl_addMissing listing.nodup fun _ _ => rfl

theorem get?_ofListing (listing : Table String Metadata) (id : String) :
    (ofListing listing : Cache σ).get? id = (listing.get? id).map .dormant :=
  (get?_foldl_addMissing listing.rows .empty id).trans (Option.none_or ..)

theorem size_ofListing (listing : Table String Metadata) :
    (ofListing listing : Cache σ).size = listing.size := by
  rw [Table.size, rows_ofListing, List.length_map, Table.size]

theorem dormant_of_ofListing (h : (ofListing listing).get? id = some e) : e.handle = none := by
  rw [get?_ofListing] at h
  obtain ⟨m, -, rfl⟩ := Option.map_eq_some_iff.mp h
  rfl

theorem id_of_ofListing (hkeyed : listing.All fun id m => m.id = id)
    (h : (ofListing listing).get? id = some e) : e.id = id := by
  rw [get?_ofListing] at h
  obtain ⟨m, hm, rfl⟩ := Option.map_eq_some_iff.mp h
  exact hkeyed id m hm

end Cache

namespace Registry

section

variable [Activator α σ] [Factory φ σ] {r : Registry π α φ σ}
  {rows : List (String × Metadata)} {row : String × Metadata} {round : Round π α φ σ}

/-! ## 1. Row by row -/

/-- A new row is adopted as a visit of a round would leave it if it were cached already. -/
theorem adoptRow_eq_activateEntry (hkeyed : row.2.id = row.1)
    (hnew : r.cache.get? row.1 = none) (hfactories : round.factories = r.factories)
    (hservices : round.services = r.services) :
    r.adoptRow row
      = ⟨r.cache.insert row.1 (activateEntry (fun _ => true) (.dormant row.2) round).2.1,
        (activateEntry (fun _ => true) (.dormant row.2) round).2.2.factories,
        (activateEntry (fun _ => true) (.dormant row.2) round).2.2.services⟩ := by
  have hadopt : r.adoptRow row = r.adopt row.2 := by
    rw [adoptRow, Table.contains, hnew]
    rfl
  rw [hadopt, ← hkeyed]
  rcases activateEntry_cases (fun _ => true) "" (.dormant row.2) round with
    ⟨-, hout, hunbound⟩ | ⟨f, failed, -, hf, -, hout⟩
  · have hnone : r.factories.get? row.2.kind = none := hfactories ▸ hunbound rfl rfl
    rcases adopt_cases row.2 r with ⟨-, hadopted⟩ | ⟨f, hf, -⟩
    · rw [hout, hadopted, hfactories, hservices]
    · rw [hnone] at hf
      cases hf
  · have hf : r.factories.get? row.2.kind = some f := hfactories ▸ hf
    rcases adopt_cases row.2 r with ⟨hnone, -⟩ | ⟨g, hg, hadopted⟩
    · rw [hnone] at hf
      cases hf
    · obtain rfl : f = g := Option.some.inj (hf.symm.trans hg)
      rw [hout, hadopted, hfactories, hservices]
      rfl

/-- **Adopting new rows is a round through them as dormant entries.** -/
theorem adoptRows_eq_visitRows (hkeyed : ∀ row ∈ rows, row.2.id = row.1)
    (hnd : (rows.map Prod.fst).Nodup) (hnew : ∀ row ∈ rows, r.cache.get? row.1 = none)
    (hfactories : round.factories = r.factories) (hservices : round.services = r.services)
    {out : Except StoreError Unit × List (String × Entry σ) × Round π α φ σ}
    (hout : Table.visitRows (activateEntry fun _ => true)
      (rows.map fun row => (row.1, .dormant row.2)) round = out) :
    (rows.foldl (fun r row => r.adoptRow row) r).cache.rows = r.cache.rows ++ out.2.1
      ∧ (rows.foldl (fun r row => r.adoptRow row) r).factories = out.2.2.factories
      ∧ (rows.foldl (fun r row => r.adoptRow row) r).services = out.2.2.services := by
  subst hout
  induction rows generalizing r round with
  | nil => exact ⟨(List.append_nil _).symm, hfactories.symm, hservices.symm⟩
  | cons row rest ih =>
    obtain ⟨hnot, hrest⟩ := List.nodup_cons.mp hnd
    have hrow := hnew row List.mem_cons_self
    have hadopted := adoptRow_eq_activateEntry (hkeyed row List.mem_cons_self) hrow hfactories
      hservices
    have hnew' : ∀ row' ∈ rest, (r.adoptRow row).cache.get? row'.1 = none := fun row' hrow' => by
      have hne : row'.1 ≠ row.1 := fun h => hnot (h ▸ List.mem_map_of_mem hrow')
      rw [hadopted]
      exact (Table.get?_insert.trans (if_neg hne)).trans (hnew row' (List.mem_cons_of_mem _ hrow'))
    have hround : (activateEntry (fun _ => true) (.dormant row.2) round).2.2.factories
          = (r.adoptRow row).factories
        ∧ (activateEntry (fun _ => true) (.dormant row.2) round).2.2.services
          = (r.adoptRow row).services := by
      rw [hadopted]
      exact ⟨rfl, rfl⟩
    obtain ⟨hcache, hfactories', hservices'⟩ :=
      ih (fun row' hrow' => hkeyed row' (List.mem_cons_of_mem _ hrow')) hrest hnew' hround.1 hround.2
    rw [List.foldl_cons, List.map_cons, Table.visitRows_cons_of_ok (activateEntry_eq_ok _ _ round)]
    refine ⟨?_, hfactories', hservices'⟩
    rw [hcache, hadopted]
    dsimp only
    rw [Table.rows_insert_of_get?_eq_none hrow, List.append_assoc]
    rfl

/-! ## 2. In one order -/

omit [Activator α σ] [Factory φ σ] in
theorem eq_of_rows {r' : Registry π α φ σ} (hrows : r.cache.rows = r'.cache.rows)
    (hfactories : r.factories = r'.factories) (hservices : r.services = r'.services) : r = r' := by
  obtain ⟨c, fs, s⟩ := r
  obtain ⟨c', fs', s'⟩ := r'
  obtain rfl : c = c' := Table.ext hrows
  obtain rfl : fs = fs' := hfactories
  obtain rfl : s = s' := hservices
  rfl

variable {listing listing' : Table String Metadata} {s s' : Services π α φ σ}

/-- What a reconciliation makes of an empty cache is what a load makes of it. -/
theorem followed_of_empty (hempty : r.cache = .empty)
    (hkeyed : ∀ row ∈ listing.rows, row.2.id = row.1) :
    r.followed listing s
      = (activateDormant (fun _ => true) ⟨.ofListing listing, r.factories, s⟩).2 := by
  have hpruned : r.pruned listing s = ⟨.empty, r.factories, s⟩ := by
    have hstale : r.stale listing = [] := by rw [stale, hempty]; rfl
    rw [pruned, hstale, ← hempty]
    rfl
  have hround : Table.visitRows (activateEntry fun _ => true)
      (listing.rows.map fun row => (row.1, .dormant row.2)) ⟨[], r.factories, s⟩ = _ := rfl
  obtain ⟨hcache, hfactories, hservices⟩ := adoptRows_eq_visitRows (r := ⟨.empty, r.factories, s⟩)
    hkeyed listing.nodup (fun _ _ => rfl) rfl rfl hround
  rw [← Cache.rows_ofListing] at hcache hfactories hservices
  rw [followed, hpruned]
  exact eq_of_rows hcache hfactories hservices

variable [BackingStore π]

theorem init_of_empty (hempty : r.cache = .empty) (hlist : r.services.list = (.ok listing, s)) :
    r.init = activateDormant (fun _ => true) ⟨.ofListing listing, r.factories, s⟩ := by
  rw [init_of_list hlist, hempty, Cache.ofListing]

theorem reconcile_of_empty (hempty : r.cache = .empty)
    (hkeyed : listing.All fun id m => m.id = id) (hlist : r.services.list = (.ok listing, s)) :
    r.reconcile.2 = (activateDormant (fun _ => true) ⟨.ofListing listing, r.factories, s⟩).2 := by
  rw [reconcile_eq hlist]
  exact followed_of_empty hempty fun row hrow => hkeyed _ _ (Table.get?_eq_some_iff.mpr hrow)

/-- **In one order the two ways are the same**, down to the calls.  What a reconciliation does not
tell is which entries it tried in vain. -/
theorem reconcile_eq_init (hempty : r.cache = .empty) (hkeyed : listing.All fun id m => m.id = id)
    (hlist : r.services.list = (.ok listing, s)) : r.reconcile.2 = r.init.2 := by
  rw [reconcile_of_empty hempty hkeyed hlist, init_of_empty hempty hlist]

/-! ## 3. One behind the other -/

/-- A load does nothing where all that is listed is cached, and all that is dormant is of a type
without factory. -/
theorem init_of_settled (hlist : r.services.list = (.ok listing, s))
    (hcached : ∀ id, listing.contains id → r.cache.contains id)
    (hsettled : ∀ id e, r.cache.get? id = some e → e.handle = none →
      r.factories.get? e.metadata.kind = none) :
    r.init = (.ok (), { r with services := s }) := by
  have hload : listing.rows.foldl Cache.addMissing r.cache = r.cache :=
    Cache.foldl_addMissing_of_contains fun row hrow =>
      hcached _ (Table.contains_iff.mpr (List.mem_map_of_mem hrow))
  rw [init_of_list hlist, hload]
  exact activateDormant_of_attempts_eq_nil (attemptsIn_eq_nil fun row hrow =>
    hsettled row.1 row.2 (Table.get?_eq_some_iff.mpr hrow))

end

/-! ## 4. In any orders -/

section

variable [BackingStore π] [Activator α σ] [Tracked α σ] [Factory φ σ]

/-- The same entries and registrations, but for the names of activations. -/
structure SameButNames (ρ : Equiv.Perm ActivationId) (r r' : Registry π α φ σ) : Prop where
  entries : ∀ id, r'.cache.get? id = (r.cache.get? id).map (Entry.rename ρ)
  live : ActiveSet.Renames ρ r.services.active r'.services.active
  /-- What is found under an identifier is the same object. -/
  get_eq : ∀ i, r'.get i = r.get i

/-- A load of `r` and a reconciliation of `r'`, which find what a listing has. -/
structure PathsAgree (listing : Table String Metadata) (r r' : Registry π α φ σ) : Prop where
  same : ∃ ρ, SameButNames ρ r.init.2 r'.reconcile.2
  loaded : ∀ id, r.init.2.cache.metadata.get? id = listing.get? id
  /-- The load reports what the reconciliation leaves dormant although there is a factory. -/
  reported : ∃ failed, r.init.1 = activationOutcome failed ∧ failed.Nodup
    ∧ ∀ id, id ∈ failed ↔ ∃ e, r'.reconcile.2.cache.get? id = some e ∧ e.handle = none
      ∧ r'.factories.contains e.metadata.kind
  added : ∃ drift, r'.reconcile.1 = .ok drift ∧ drift.removed = [] ∧ drift.added.Nodup
    ∧ ∀ id, id ∈ drift.added ↔ listing.contains id
  reconcile_init : ∀ again s, r.init.2.services.list = (.ok again, s) →
    (∀ id, again.contains id = listing.contains id) →
    r.init.2.reconcile = (.ok ⟨[], []⟩, { r.init.2 with services := s })
  /-- A load behind a reconciliation must have nothing left to try. -/
  init_reconcile : ∀ again s, r'.reconcile.2.services.list = (.ok again, s) →
    (∀ id, again.contains id = listing.contains id) →
    (∀ id e, r'.reconcile.2.cache.get? id = some e → e.handle = none →
      r'.reconcile.2.factories.get? e.metadata.kind = none) →
    r'.reconcile.2.init = (.ok (), { r'.reconcile.2 with services := s })

variable {refuses : String → Bool} {fs : Factories φ} {r r' : Registry π α φ σ}
  {listing listing' : Table String Metadata} {s s' : Services π α φ σ}

omit [BackingStore π] in
/-- Rounds through the same listing differ in names alone. -/
theorem sameButNames_ofListing {ρ : Equiv.Perm ActivationId}
    (h : Renamed ρ (Cache.ofListing listing).get?
      (activateDormant (fun _ => true) ⟨.ofListing listing, fs, s⟩)
      (activateDormant (fun _ => true) ⟨.ofListing listing', fs, s'⟩)) :
    SameButNames ρ (activateDormant (fun _ => true) ⟨.ofListing listing, fs, s⟩).2
      (activateDormant (fun _ => true) ⟨.ofListing listing', fs, s'⟩).2 := by
  have hentries : ∀ id,
      (activateDormant (fun _ => true) ⟨.ofListing listing', fs, s'⟩).2.cache.get? id
      = ((activateDormant (fun _ => true) ⟨.ofListing listing, fs, s⟩).2.cache.get? id).map
        (Entry.rename ρ) := by
    intro id
    rw [h.entries]
    cases he : (Cache.ofListing listing : Cache σ).get? id with
    | none =>
      have hnone : (activateDormant (fun _ => true) ⟨.ofListing listing, fs, s⟩).2.cache.get? id
          = none :=
        (get?_activateDormant_of_spared (r := ⟨.ofListing listing, fs, s⟩) fun e he' => by
          rw [he] at he'
          cases he').trans he
      rw [hnone]
      rfl
    | some e =>
      have hd : e.isDormant = true := by
        rw [Entry.isDormant, Cache.dormant_of_ofListing he]
        rfl
      exact if_pos hd
  exact ⟨hentries, h.live, get_eq_of_entries hentries⟩

omit [BackingStore π] [Activator α σ] [Tracked α σ] [Factory φ σ] in
theorem due_of_dormant {e : Entry σ} (he : e.handle = none) :
    e.due (fun _ => true) fs = fs.get? e.metadata.kind := by
  rw [Entry.due, Entry.isDormant, he]
  rfl

omit [BackingStore π] in
/-- What is dormant after a round although there is a factory was tried in vain. -/
theorem Revived.dormant_iff {answer : Except StoreError Unit}
    (h : Revived refuses (fun _ => true) fs (Cache.ofListing listing).get? s answer r') (id : String) :
    (∃ e f, (Cache.ofListing listing).get? id = some e ∧ e.due (fun _ => true) fs = some f
        ∧ e.yield refuses f = none)
      ↔ ∃ e, r'.cache.get? id = some e ∧ e.handle = none ∧ fs.contains e.metadata.kind := by
  constructor
  · rintro ⟨e, f, he, hdue, hnone⟩
    have hd := Cache.dormant_of_ofListing he
    refine ⟨e, h.dormant id e f he hdue hnone, hd, ?_⟩
    rw [due_of_dormant hd] at hdue
    rw [Factories.contains_eq, hdue]
    rfl
  · rintro ⟨e', he', hd', hbound⟩
    cases he : (Cache.ofListing listing : Cache σ).get? id with
    | none =>
      rw [h.absent id he] at he'
      cases he'
    | some e =>
      cases hdue : e.due (fun _ => true) fs with
      | none =>
        rw [h.spared id e he hdue] at he'
        cases he'
        rw [due_of_dormant hd'] at hdue
        rw [Factories.contains_eq, hdue] at hbound
        cases hbound
      | some f =>
        cases hyield : e.yield refuses f with
        | none => exact ⟨e, f, rfl, hdue, hyield⟩
        | some object =>
          obtain ⟨a, hlive, -⟩ := h.revived id e f object he hdue hyield
          rw [hlive] at he'
          cases he'
          cases hd'

omit [BackingStore π] in
/-- What a round reports is what is dormant after another one through the same listing, although
there is a factory. -/
theorem reported_ofListing (hloaded : (Cache.ofListing listing' : Cache σ).get?
      = (Cache.ofListing listing).get?) (hkeyed : listing.All fun id m => m.id = id)
    (hready : Ready (fun _ : Entry σ => true) fs) (hsteady : Activator.Steady refuses s.activator)
    (hactivator : s'.activator = s.activator) (hsize : listing.size ≤ UInt64.size) :
    ∃ failed, (activateDormant (fun _ => true) ⟨.ofListing listing, fs, s⟩).1
        = activationOutcome failed
      ∧ failed.Nodup
      ∧ ∀ id, id ∈ failed ↔ ∃ e,
        (activateDormant (fun _ => true) ⟨.ofListing listing', fs, s'⟩).2.cache.get? id = some e
          ∧ e.handle = none ∧ fs.contains e.metadata.kind := by
  have hids : ∀ id e, (Cache.ofListing listing : Cache σ).get? id = some e → e.id = id :=
    fun _ _ => Cache.id_of_ofListing hkeyed
  have hsize' : (Cache.ofListing listing' : Cache σ).size ≤ UInt64.size :=
    ((Table.size_congr hloaded).trans (Cache.size_ofListing listing)).trans_le hsize
  have hsteady' : Activator.Steady refuses s'.activator := by rwa [hactivator]
  have hwent := wentThrough_activateDormant (r := ⟨.ofListing listing, fs, s⟩) hready hsteady
  have hround : Revived refuses (fun _ => true) fs (Cache.ofListing listing').get? s' _
      (activateDormant (fun _ => true) ⟨.ofListing listing', fs, s'⟩).2 :=
    revived_activateDormant (r := ⟨.ofListing listing', fs, s'⟩)
      (fun id e he => hids id e (hloaded ▸ he)) hready hsteady' hsize'
  refine ⟨_, congrArg activationOutcome hwent.failed, nodup_vain hids, fun id => ?_⟩
  rw [← hround.dormant_iff, hloaded]
  exact mem_vain hids

omit [Tracked α σ] in
/-- All that a reconciliation of an empty cache reports is what it adds. -/
theorem added_of_empty (hempty : r.cache = .empty) (hfiled : r.factories.Filed)
    (hkeyed : listing.All fun id m => m.id = id) (hlist : r.services.list = (.ok listing, s)) :
    ∃ drift, r.reconcile.1 = .ok drift ∧ drift.removed = [] ∧ drift.added.Nodup
      ∧ (∀ id, id ∈ drift.added ↔ listing.contains id)
      ∧ ∀ id, r.reconcile.2.cache.contains id = listing.contains id := by
  obtain ⟨drift, hdrift, hrepaired, -⟩ := reconcile_repairs hfiled hkeyed hlist
  have hnone : ∀ id, r.cache.contains id = false := fun id => by rw [hempty]; rfl
  refine ⟨drift, hdrift, List.eq_nil_iff_forall_not_mem.mpr fun id hid => ?_,
    hrepaired.nodup_added, fun id => ?_, hrepaired.ids⟩
  · have hcached := ((hrepaired.mem_removed id).mp hid).1
    rw [hnone] at hcached
    cases hcached
  · rw [hrepaired.mem_added, hnone]
    exact and_iff_left rfl

/-- **The two ways to fill a cache agree.**  They may go through what is listed in different orders;
the factories look at metadata alone, and the activator refuses by id. -/
theorem loading_paths_agree (hempty : r.cache = .empty) (hempty' : r'.cache = .empty)
    (hfactories : r'.factories = r.factories)
    (hactivator : r'.services.activator = r.services.activator) (hfiled : r.factories.Filed)
    (hbuild : ∀ kind f, r.factories.get? kind = some f → Factory.Steady f)
    (hsteady : Activator.Steady refuses r.services.activator)
    (hlist : r.services.list = (.ok listing, s)) (hlist' : r'.services.list = (.ok listing', s'))
    (hsame : listing'.get? = listing.get?) (hkeyed : listing.All fun id m => m.id = id)
    (hsize : listing.size ≤ UInt64.size) : PathsAgree listing r r' := by
  have hkeyed' : listing'.All fun id m => m.id = id := fun id m hm => hkeyed id m (hsame ▸ hm)
  have hloaded : (Cache.ofListing listing' : Cache σ).get? = (Cache.ofListing listing).get? :=
    funext fun id => by rw [Cache.get?_ofListing, Cache.get?_ofListing, hsame]
  -- Listing a store does not touch the activator.
  have hs : s.activator = r.services.activator :=
    congrArg (fun out => Services.activator out.2) hlist.symm
  have hs' : s'.activator = s.activator := by
    rw [hs, ← hactivator]
    exact congrArg (fun out => Services.activator out.2) hlist'.symm
  have hready : Ready (fun _ => true) r.factories := ready_init hfiled hbuild
  have hinit := init_of_empty hempty hlist
  have hreconcile := reconcile_of_empty hempty' hkeyed' hlist'
  rw [hfactories] at hreconcile
  obtain ⟨drift, hdrift, hremoved, hnodup, hadded, hcached⟩ :=
    added_of_empty hempty' (hfactories ▸ hfiled) hkeyed' hlist'
  have hlisted : ∀ id, listing'.contains id = listing.contains id := fun id => by
    rw [Table.contains, hsame, Table.contains]
  simp only [hlisted] at hadded hcached
  constructor
  case same =>
    obtain ⟨ρ, hrenamed⟩ := alike_activateDormant hloaded hs' hready (hs ▸ hsteady)
      ((Cache.size_ofListing listing).trans_le hsize)
    rw [hinit, hreconcile]
    exact ⟨ρ, sameButNames_ofListing hrenamed⟩
  case loaded =>
    intro id
    rw [hinit, metadata_activateDormant, Cache.get?_metadata, Cache.get?_ofListing, Option.map_map]
    exact congrFun Option.map_id _
  case reported =>
    rw [hinit, hreconcile, hfactories]
    exact reported_ofListing hloaded hkeyed hready (hs ▸ hsteady) hs' hsize
  case added => exact ⟨drift, hdrift, hremoved, hnodup, hadded⟩
  case reconcile_init =>
    intro again s₁ hagain hids
    refine reconcile_of_contains (fun id => ?_) hagain
    rw [hids, contains_init hlist, hempty]
    rfl
  case init_reconcile =>
    intro again s₁ hagain hids hsettled
    refine init_of_settled hagain (fun id hid => ?_) hsettled
    rw [hcached, ← hids, hid]

end

end Registry

namespace Demo

/-- Nothing is cached, and there is a factory for one of two stored types.  The activator refuses
one of the subscriptions that it is for. -/
def unfilled (ms : List Metadata) :
    Registry MemoryStore (Gated (ActiveSet String)) EchoFactory String where
  cache := .empty
  factories := Factories.empty.update "A" ⟨"A"⟩
  services := ⟨.ofList ms, ⟨.empty, fun id => id = "v"⟩, []⟩

/-- What is stored. -/
def three : List Metadata :=
  [⟨"t", "A", "g", "bus:/t"⟩, ⟨"v", "A", "g", "bus:/v"⟩, ⟨"w", "C", "h", "bus:/w"⟩]

end Demo

/-- A reconciliation that goes through the same rows backwards leaves dormant what the load reports,
and behind the load it finds nothing to do. -/
theorem Registry.loading_paths_agree_demo :
    (∃ ρ, SameButNames ρ (Demo.unfilled Demo.three).init.2
        (Demo.unfilled Demo.three.reverse).reconcile.2)
      ∧ (∃ failed, (Demo.unfilled Demo.three).init.1 = activationOutcome failed ∧ "v" ∈ failed)
      ∧ (Demo.unfilled Demo.three).init.2.reconcile.1 = .ok ⟨[], []⟩ := by
  have hfiled : (Demo.unfilled Demo.three).factories.Filed :=
    Factories.Filed.update (fun _ _ hnone => by cases hnone) (⟨"A"⟩ : EchoFactory)
  have hrows : ∀ row ∈ (MemoryStore.ofList Demo.three).rows.rows, row.2.id = row.1 := by decide
  have hperm : (MemoryStore.ofList Demo.three.reverse).rows.rows.Perm
      (MemoryStore.ofList Demo.three).rows.rows := by decide
  have hagree : PathsAgree (MemoryStore.ofList Demo.three).rows (Demo.unfilled Demo.three)
      (Demo.unfilled Demo.three.reverse) :=
    loading_paths_agree rfl rfl rfl rfl hfiled (fun _ f _ => EchoFactory.steady f)
      (Gated.steady _) rfl rfl (Table.get?_eq_of_perm hperm)
      (fun id m hm => hrows (id, m) (Table.get?_eq_some_iff.mp hm)) (by decide)
  obtain ⟨failed, hanswer, -, hfailed⟩ := hagree.reported
  refine ⟨hagree.same, ⟨failed, hanswer, (hfailed "v").mpr ?_⟩, ?_⟩
  · exact ⟨.dormant ⟨"v", "A", "g", "bus:/v"⟩, rfl, rfl, rfl⟩
  · rw [hagree.reconcile_init _ _ rfl fun _ => rfl]

end SubscriptionRegistry
