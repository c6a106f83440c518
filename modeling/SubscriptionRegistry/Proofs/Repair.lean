/-
# A reconciliation repairs drift, and nothing else

The cache and the store may have drifted apart in any way: rows have gone, rows have come, payloads
have changed.  If the store can be listed, and lists its rows under their own ids, a reconciliation
makes the cached ids the listed ones.  What is not listed goes, what was not cached comes in, as far
as possible live, and what is in both stays as it is, its activation included.  The store is not
written to, and the next reconciliation has nothing to do.

* `Registry.Adopted`: how a row comes in.
* `Registry.adopted_of_mem`: that every row does that was not cached.
* `Registry.Repaired`: what a reconciliation comes to, id by id.
* `Registry.reconcile_repairs`: that it comes to this.
-/
import Mathlib.Data.List.Nodup
import SubscriptionRegistry.Proofs.Completion
import SubscriptionRegistry.Proofs.Findable
import SubscriptionRegistry.Proofs.Unnoticed

namespace SubscriptionRegistry

variable {π α φ σ : Type}

theorem Attempt.key_of_latest {key : String} {attempts : List (Attempt φ σ)} {a : Attempt φ σ}
    (h : latest key attempts = some a) : a.key = key := by
  rw [latest, List.findRev?_eq_find?_reverse] at h
  have hkey := List.find?_some h
  exact of_decide_eq_true hkey

namespace Registry

variable {r r' : Registry π α φ σ} {listing : Table String Metadata} {id : String}

/-! ## 1. Which ids are cached -/

theorem mem_stale : id ∈ r.stale listing ↔ r.cache.contains id ∧ listing.contains id = false := by
  rw [stale, List.mem_filter, ← Table.contains_iff, Bool.not_eq_true']

section

variable [Activator α σ]

variable [Factory φ σ] {rows : List (String × Metadata)} {row : String × Metadata}
  {attempts : List (Attempt φ σ)}

theorem contains_adoptRow_of_ne (hne : id ≠ row.2.id) :
    (r.adoptRow row).cache.contains id = r.cache.contains id := by
  unfold adoptRow
  split
  · rfl
  · rw [contains_adopt]
    simp [hne]

/-- What there is when all rows are adopted. -/
theorem contains_adoptAll (hkeyed : ∀ row ∈ rows, row.2.id = row.1) (r : Registry π α φ σ) :
    (rows.foldl (fun r row => r.adoptRow row) r).cache.contains id
      = (r.cache.contains id || (Table.findRow id rows).isSome) := by
  rw [← Cache.contains_metadata, Table.contains, get?_metadata_adopt hkeyed, Option.isSome_or,
    ← Table.contains, Cache.contains_metadata]

/-- The rows that come in are those whose keys are not cached. -/
theorem adoptMissing_fst (hkeyed : ∀ row ∈ rows, row.2.id = row.1)
    (hnd : (rows.map Prod.fst).Nodup) (r : Registry π α φ σ) :
    (adoptMissing rows r).1 = (rows.map Prod.fst).filter fun id => !r.cache.contains id := by
  induction rows generalizing r with
  | nil => rfl
  | cons row rest ih =>
    obtain ⟨key, m⟩ := row
    obtain ⟨hnot, hrest⟩ := List.nodup_cons.mp hnd
    have hkeyed' := fun row hrow => hkeyed row (List.mem_cons_of_mem _ hrow)
    rw [adoptMissing, List.map_cons, List.filter_cons]
    cases hcached : r.cache.contains key with
    | true => simpa using ih hkeyed' hrest r
    | false =>
      have hsame : (rest.map Prod.fst).filter (fun id => !(r.adopt m).cache.contains id)
          = (rest.map Prod.fst).filter fun id => !r.cache.contains id := by
        refine List.filter_congr fun id hid => ?_
        have hne : id ≠ m.id := by
          rw [hkeyed (key, m) List.mem_cons_self]
          exact fun h => hnot (h ▸ hid)
        rw [contains_adopt, decide_eq_false hne, Bool.false_or]
      simpa [← hsame] using ih hkeyed' hrest (r.adopt m)

/-! ## 2. How a row comes in -/

/-- A row that was not cached is cached now: dormant if its type has no factory, and else with what
came of one attempt, which was made with the factory of its type. -/
structure Adopted (r : Registry π α φ σ) (attempts : List (Attempt φ σ)) (row : String × Metadata)
    (r' : Registry π α φ σ) : Prop where
  unbound : r.factories.get? row.2.kind = none →
    Attempt.latest row.1 attempts = none ∧ r'.cache.get? row.1 = some (.dormant row.2)
  bound : ∀ f, r.factories.get? row.2.kind = some f →
    ∃ a, Attempt.latest row.1 attempts = some a ∧ a.entry = .dormant row.2
      ∧ Factory.Becomes f a.factory ∧ a.built = (Factory.build row.2 a.factory).1
      ∧ r'.cache.get? row.1 = some ⟨row.2, a.handle⟩

theorem adopted_adoptRow (hfiled : r.factories.Filed) (hkeyed : row.2.id = row.1)
    (hnew : r.cache.contains row.1 = false) :
    Adopted r (r.attemptsOnRow row) row (r.adoptRow row) := by
  have hcached : ¬ r.cache.contains row.1 = true := by
    rw [hnew]
    exact Bool.false_ne_true
  have hadopt : r.adoptRow row = r.adopt row.2 := if_neg hcached
  rw [hadopt]
  constructor
  · intro hnone
    have hattempts : r.attemptsOnRow row = [] := by rw [attemptsOnRow, if_neg hcached, hnone]
    rcases adopt_cases row.2 r with ⟨-, hout⟩ | ⟨f, hf, -⟩
    · rw [hattempts, hout]
      exact ⟨rfl, Table.get?_insert.trans (if_pos hkeyed.symm)⟩
    · rw [hnone] at hf
      cases hf
  · intro f hf
    have hattempts : r.attemptsOnRow row
        = [(Entry.dormant row.2).attempt row.2.id f r.services] := by
      rw [attemptsOnRow, if_neg hcached, hf]
    rcases adopt_cases row.2 r with ⟨hnone, -⟩ | ⟨g, hg, hout⟩
    · rw [hf] at hnone
      cases hnone
    · rw [hf] at hg
      cases hg
      have hhandle := (Entry.registerWith_handle (e := .dormant row.2) rfl (hfiled _ f hf)
        row.2.id r.services).1
      rw [hattempts, hout]
      refine ⟨_, ?_, Entry.entry_attempt .., ?_, ?_,
        Table.get?_insert.trans ((if_pos hkeyed.symm).trans (congrArg some hhandle))⟩
      · rw [Attempt.latest_singleton, Entry.key_attempt, if_pos hkeyed]
      · rw [Entry.factory_attempt]
        exact .refl
      · rw [Entry.built_attempt, Entry.factory_attempt]
        rfl

omit [Activator α σ] in
/-- Of the registry before, the factories matter. -/
theorem Adopted.congr {r₀ : Registry π α φ σ} (h : Adopted r attempts row r')
    (hfactories : r.factories = r₀.factories) : Adopted r₀ attempts row r' where
  unbound hnone := h.unbound (by rw [hfactories, hnone])
  bound f hf := h.bound f (by rw [hfactories, hf])

omit [Activator α σ] in
/-- What is tried and cached under other keys does not matter. -/
theorem Adopted.later {later : List (Attempt φ σ)} {r'' : Registry π α φ σ}
    (h : Adopted r attempts row r') (hlater : Attempt.latest row.1 later = none)
    (hkeep : ∀ e, r'.cache.get? row.1 = some e → r''.cache.get? row.1 = some e) :
    Adopted r (attempts ++ later) row r'' where
  unbound hnone := by
    obtain ⟨hlatest, he⟩ := h.unbound hnone
    exact ⟨by rw [Attempt.latest_append, hlater, hlatest, Option.or_self], hkeep _ he⟩
  bound f hf := by
    obtain ⟨a, hlatest, hentry, hbecomes, hbuilt, he⟩ := h.bound f hf
    exact ⟨a, by rw [Attempt.latest_append, hlater, hlatest, Option.none_or], hentry, hbecomes,
      hbuilt, hkeep _ he⟩

omit [Activator α σ] in
/-- Rows that came in before may have used the factory. -/
theorem Adopted.earlier {earlier : List (Attempt φ σ)} {r₀ : Registry π α φ σ}
    (h : Adopted r attempts row r') (hearlier : Attempt.latest row.1 earlier = none)
    (hunbound : r₀.factories.get? row.2.kind = none → r.factories.get? row.2.kind = none)
    (hbound : ∀ f, r₀.factories.get? row.2.kind = some f →
      ∃ g, r.factories.get? row.2.kind = some g ∧ Factory.Becomes f g) :
    Adopted r₀ (earlier ++ attempts) row r' where
  unbound hnone := by
    obtain ⟨hlatest, he⟩ := h.unbound (hunbound hnone)
    exact ⟨by rw [Attempt.latest_append, hlatest, hearlier, Option.or_self], he⟩
  bound f hf := by
    obtain ⟨g, hg, hfg⟩ := hbound f hf
    obtain ⟨a, hlatest, hentry, hbecomes, hbuilt, he⟩ := h.bound g hg
    exact ⟨a, by rw [Attempt.latest_append, hlatest, Option.some_or], hentry,
      hfg.trans hbecomes, hbuilt, he⟩

omit [Activator α σ] in
/-- The entry is live if its type has a factory and the one attempt was not in vain. -/
theorem Adopted.isRegistered_iff (h : Adopted r attempts row r')
    (honce : (attempts.map Attempt.key).Nodup) :
    r'.isRegistered row.1 ↔ (∃ f, r.factories.get? row.2.kind = some f)
      ∧ ∃ a ∈ attempts, a.key = row.1 ∧ a.built ≠ none ∧ a.granted ≠ none := by
  cases hf : r.factories.get? row.2.kind with
  | none =>
    rw [isRegistered, (h.unbound hf).2]
    simp [Entry.isRegistered, Entry.dormant]
  | some f =>
    obtain ⟨a, hlatest, -, -, -, he⟩ := h.bound f hf
    have hhandle : a.handle.isSome ↔ a.built ≠ none ∧ a.granted ≠ none := by
      obtain ⟨key, e, f, _ | object, _ | activation⟩ := a <;> simp [Attempt.handle]
    rw [isRegistered, he]
    change a.handle.isSome = true ↔ _
    rw [hhandle]
    constructor
    · intro hlive
      exact ⟨⟨f, rfl⟩, a, Attempt.mem_of_latest hlatest, Attempt.key_of_latest hlatest, hlive⟩
    · rintro ⟨-, a', ha', hkey, hlive⟩
      have hsame : a'.key = a.key := hkey.trans (Attempt.key_of_latest hlatest).symm
      rwa [List.inj_on_of_nodup_map honce ha' (Attempt.mem_of_latest hlatest) hsame] at hlive

/-- A factory stays bound when a row is adopted. -/
theorem becomes_adoptRow (hfiled : r.factories.Filed) (row : String × Metadata) {kind : String}
    {f : φ} (hf : r.factories.get? kind = some f) :
    ∃ g, (r.adoptRow row).factories.get? kind = some g ∧ Factory.Becomes f g := by
  rcases adoptRow_cases row r with ⟨-, hout⟩ | ⟨-, -, hout⟩ | ⟨g, hg, -, hout⟩
  · rw [hout]
    exact ⟨f, hf, .refl⟩
  · rw [hout]
    exact ⟨f, hf, .refl⟩
  · have hused := (Entry.registerWith_attempt (e := .dormant row.2) rfl (hfiled _ g hg) ""
      r.services).1
    rw [hout]
    dsimp only
    rw [Factories.get?_update, hused]
    split
    · rename_i hkind
      subst hkind
      rw [hf] at hg
      cases hg
      exact ⟨_, rfl, Factory.Becomes.refl.build _⟩
    · exact ⟨f, hf, .refl⟩

/-- There is at most one attempt for each row, under the id of its metadata. -/
theorem keys_attemptsAdopting (rows : List (String × Metadata)) (r : Registry π α φ σ) :
    ((attemptsAdopting rows r).map Attempt.key).Sublist (rows.map fun row => row.2.id) := by
  induction rows generalizing r with
  | nil => exact .refl _
  | cons row rest ih =>
    have hrow : ((r.attemptsOnRow row).map Attempt.key).Sublist [row.2.id] := by
      unfold attemptsOnRow
      split
      · exact List.nil_sublist _
      · split
        · exact List.nil_sublist _
        · rw [List.map_singleton, Entry.key_attempt]
    rw [attemptsAdopting, List.map_append]
    exact hrow.append (ih (r.adoptRow row))

theorem latest_attemptsAdopting_of_notMem (hkeyed : ∀ row ∈ rows, row.2.id = row.1)
    (hid : id ∉ rows.map Prod.fst) (r : Registry π α φ σ) :
    Attempt.latest id (attemptsAdopting rows r) = none := by
  refine Attempt.latest_eq_none_iff.mpr fun a ha hkey => hid ?_
  have hmem := (keys_attemptsAdopting rows r).subset (List.mem_map_of_mem ha)
  rwa [hkey, List.map_congr_left hkeyed] at hmem

/-- **Every row comes in** that was not cached. -/
theorem adopted_of_mem (hfiled : r.factories.Filed) (hkeyed : ∀ row ∈ rows, row.2.id = row.1)
    (hnd : (rows.map Prod.fst).Nodup) (hrow : row ∈ rows)
    (hnew : r.cache.contains row.1 = false) :
    Adopted r (attemptsAdopting rows r) row (rows.foldl (fun r row => r.adoptRow row) r) := by
  induction rows generalizing r with
  | nil => cases hrow
  | cons head rest ih =>
    obtain ⟨hnot, hrest⟩ := List.nodup_cons.mp hnd
    have hkeyed' := fun row hrow => hkeyed row (List.mem_cons_of_mem _ hrow)
    rw [attemptsAdopting, List.foldl_cons]
    rcases List.mem_cons.mp hrow with rfl | hrow
    · -- The rest has other keys, and leaves the entry alone.
      refine (adopted_adoptRow hfiled (hkeyed row List.mem_cons_self) hnew).later
        (latest_attemptsAdopting_of_notMem hkeyed' hnot _) fun e he => ?_
      exact List.foldlRecOn
        (motive := fun r : Registry π α φ σ => r.cache.get? row.1 = some e) _ _ he
        fun r h row hrow => get?_adoptRow (hkeyed' row hrow) h
    · have hne : row.1 ≠ head.2.id := by
        rw [hkeyed head List.mem_cons_self]
        exact fun h => hnot (h ▸ List.mem_map_of_mem hrow)
      have hfiled' := hfiled.of_become (become_adoptRow head hfiled)
      have hnew' : (r.adoptRow head).cache.contains row.1 = false := by
        rw [contains_adoptRow_of_ne hne, hnew]
      refine (ih hfiled' hkeyed' hrest hrow hnew').earlier ?_ (fun hnone => ?_)
        fun f hf => becomes_adoptRow hfiled head hf
      · refine Attempt.latest_eq_none_iff.mpr fun a ha hkey => hne ?_
        have hmem := (keys_attemptsAdopting [head] r).subset
          (List.mem_map_of_mem (List.mem_append_left _ ha))
        rw [← hkey]
        exact List.mem_singleton.mp hmem
      · cases hafter : (r.adoptRow head).factories.get? row.2.kind with
        | none => rfl
        | some g =>
          obtain ⟨f, hf, -⟩ := become_adoptRow head hfiled _ g hafter
          rw [hnone] at hf
          cases hf

/-! ## 3. A reconciliation -/

/-- What is left when all that is not listed is forgotten. -/
def pruned (r : Registry π α φ σ) (listing : Table String Metadata) (s : Services π α φ σ) :
    Registry π α φ σ :=
  (r.stale listing).foldl (fun r id => forget id r) { r with services := s }

/-- What is left when all that is listed has come in as well. -/
def followed (r : Registry π α φ σ) (listing : Table String Metadata) (s : Services π α φ σ) :
    Registry π α φ σ :=
  listing.rows.foldl (fun r row => adoptRow row r) (r.pruned listing s)

variable {s : Services π α φ σ}

omit [Factory φ σ] in
theorem contains_pruned : (r.pruned listing s).cache.contains id
    = (r.cache.contains id && listing.contains id) := by
  rw [← Cache.contains_metadata, Table.contains, pruned, get?_metadata_forget]
  by_cases hstale : id ∈ r.stale listing
  · rw [if_pos hstale, (mem_stale.mp hstale).2, Bool.and_false]
    rfl
  · rw [if_neg hstale, Cache.get?_metadata, Option.isSome_map, ← Table.contains]
    cases hcached : r.cache.contains id with
    | false => rfl
    | true =>
      cases hlisted : listing.contains id with
      | false => exact absurd (mem_stale.mpr ⟨hcached, hlisted⟩) hstale
      | true => rfl

omit [Factory φ σ] in
theorem factories_pruned : (r.pruned listing s).factories = r.factories :=
  List.foldlRecOn (motive := fun r' : Registry π α φ σ => r'.factories = r.factories) _ _ rfl
    fun r' h id _ => by
      rw [← h]
      unfold forget
      split <;> rfl

theorem contains_followed (hkeyed : ∀ row ∈ listing.rows, row.2.id = row.1) (id : String) :
    (r.followed listing s).cache.contains id = listing.contains id := by
  rw [followed, contains_adoptAll hkeyed, contains_pruned, ← Table.get?, ← Table.contains]
  cases r.cache.contains id <;> cases listing.contains id <;> rfl

/-- What is both cached and listed stays as it is. -/
theorem get?_followed (hkeyed : ∀ row ∈ listing.rows, row.2.id = row.1)
    (hcached : r.cache.contains id) (hlisted : listing.contains id) :
    (r.followed listing s).cache.get? id = r.cache.get? id := by
  have hstale : id ∉ r.stale listing := by
    intro hstale
    rw [(mem_stale.mp hstale).2] at hlisted
    cases hlisted
  obtain ⟨e, he⟩ := Option.isSome_iff_exists.mp hcached
  rw [he]
  exact List.foldlRecOn (motive := fun r : Registry π α φ σ => r.cache.get? id = some e) _ _
    ((get?_forget_of_notMem hstale _).trans he)
    fun r h row hrow => get?_adoptRow (hkeyed row hrow) h

/-- What is listed and was not cached comes in. -/
theorem adopted_followed (hfiled : r.factories.Filed)
    (hkeyed : ∀ row ∈ listing.rows, row.2.id = row.1) {m : Metadata}
    (hm : listing.get? id = some m) (hnew : r.cache.contains id = false) :
    Adopted r (attemptsAdopting listing.rows (r.pruned listing s)) (id, m)
      (r.followed listing s) := by
  refine Adopted.congr (adopted_of_mem ?_ hkeyed listing.nodup (Table.get?_eq_some_iff.mp hm) ?_)
    factories_pruned
  · rw [factories_pruned]
    exact hfiled
  · rw [contains_pruned, hnew, Bool.false_and]

variable [BackingStore π]

/-- A reconciliation only lists the store. -/
theorem unwritten_reconcile (hfiled : r.factories.Filed)
    (hlist : r.services.list = (.ok listing, s)) {call : Call φ σ}
    (hcall : call ∈ r.calls .reconcile) : call = .list none ∨ call.isLocal := by
  rw [((ends_reconcile hfiled).of_followed hlist).2.1, List.mem_cons, List.mem_append] at hcall
  rcases hcall with rfl | hcall | hcall
  · exact .inl rfl
  · exact .inr (Entry.isLocal_of_mem_releases hcall)
  · obtain ⟨a, -, hcall⟩ := List.mem_flatMap.mp hcall
    exact .inr (Attempt.isLocal_of_mem_calls hcall)

/-- What a reconciliation comes to that finds a listing: the drift that it reports, and the registry
that it leaves. -/
structure Repaired (r : Registry π α φ σ) (listing : Table String Metadata) (drift : Drift)
    (r' : Registry π α φ σ) : Prop where
  /-- What is cached is what is listed. -/
  ids : ∀ id, r'.cache.contains id = listing.contains id
  nodup_removed : drift.removed.Nodup
  mem_removed : ∀ id, id ∈ drift.removed ↔ r.cache.contains id ∧ listing.contains id = false
  nodup_added : drift.added.Nodup
  mem_added : ∀ id, id ∈ drift.added ↔ listing.contains id ∧ r.cache.contains id = false
  /-- After the listing come a release for each entry that was removed and live, and the attempts
  at those that were added. -/
  calls : r.calls .reconcile = .list none
    :: (Entry.releases (drift.removed.filterMap r.cache.get?)
      ++ (r.attempts .reconcile).flatMap Attempt.calls)
  /-- The store is not written to. -/
  unwritten : ∀ call ∈ r.calls .reconcile,
    (∀ m failure, call ≠ .insert m failure) ∧ ∀ id failure, call ≠ .delete id failure
  /-- Nothing is tried twice. -/
  tried_once : ((r.attempts .reconcile).map Attempt.key).Nodup
  /-- What is both cached and listed stays as it is. -/
  kept : ∀ id, r.cache.contains id → listing.contains id →
    r'.cache.get? id = r.cache.get? id
  /-- What is added comes with the listed metadata, and is live if there is a factory for it that
  builds and the activator accepts what was built. -/
  added : ∀ id m, listing.get? id = some m → r.cache.contains id = false →
    Adopted r (r.attempts .reconcile) (id, m) r'
      ∧ (r'.isRegistered id ↔ (∃ f, r.factories.get? m.kind = some f)
        ∧ ∃ a ∈ r.attempts .reconcile, a.key = id ∧ a.built ≠ none ∧ a.granted ≠ none)

theorem repaired_followed (hfiled : r.factories.Filed)
    (hkeyed : ∀ row ∈ listing.rows, row.2.id = row.1)
    (hlist : r.services.list = (.ok listing, s)) :
    r.Repaired listing
      ⟨r.stale listing, listing.keys.filter fun id => !(r.pruned listing s).cache.contains id⟩
      (r.followed listing s) := by
  have hattempts : r.attempts .reconcile
      = attemptsAdopting listing.rows (r.pruned listing s) := by
    rw [attempts, hlist]
    rfl
  have honce : ((r.attempts .reconcile).map Attempt.key).Nodup := by
    refine List.Nodup.sublist ?_ listing.nodup
    rw [hattempts, ← List.map_congr_left hkeyed]
    exact keys_attemptsAdopting _ _
  constructor
  case ids => exact contains_followed hkeyed
  case nodup_removed => exact r.cache.nodup.sublist List.filter_sublist
  case mem_removed => exact fun id => mem_stale
  case nodup_added => exact listing.nodup.filter _
  case mem_added =>
    intro id
    rw [List.mem_filter, ← Table.contains_iff, contains_pruned]
    cases listing.contains id <;> simp
  case calls => exact ((ends_reconcile hfiled).of_followed hlist).2.1
  case unwritten =>
    intro call hcall
    have hlocal := unwritten_reconcile hfiled hlist hcall
    constructor
    · rintro m failure rfl
      rcases hlocal with h | h <;> cases h
    · rintro id failure rfl
      rcases hlocal with h | h <;> cases h
  case tried_once => exact honce
  case kept => exact fun id => get?_followed hkeyed
  case added =>
    intro id m hm hnew
    have hadopted : Adopted r (r.attempts .reconcile) (id, m) (r.followed listing s) := by
      rw [hattempts]
      exact adopted_followed hfiled hkeyed hm hnew
    exact ⟨hadopted, hadopted.isRegistered_iff honce⟩

/-- **A reconciliation repairs drift, and nothing else.**  If it is repeated and the same ids are
listed, it finds nothing and changes nothing. -/
theorem reconcile_repairs (hfiled : r.factories.Filed)
    (hkeyed : listing.All fun id m => m.id = id)
    (hlist : r.services.list = (.ok listing, s)) :
    ∃ drift, r.reconcile.1 = .ok drift ∧ r.Repaired listing drift r.reconcile.2
      ∧ ∀ listing' s', r.reconcile.2.services.list = (.ok listing', s') →
        (∀ id, listing'.contains id = listing.contains id) →
        r.reconcile.2.reconcile = (.ok ⟨[], []⟩, { r.reconcile.2 with services := s' }) := by
  have hrows : ∀ row ∈ listing.rows, row.2.id = row.1 := fun row hrow =>
    hkeyed _ _ (Table.get?_eq_some_iff.mpr hrow)
  have heq : r.reconcile = (.ok ⟨r.stale listing,
      (adoptMissing listing.rows (r.pruned listing s)).1⟩, r.followed listing s) :=
    reconcile_eq hlist
  rw [adoptMissing_fst hrows listing.nodup] at heq
  rw [heq]
  refine ⟨_, rfl, repaired_followed hfiled hrows hlist, fun listing' s' hlist' hsame => ?_⟩
  refine reconcile_of_contains (fun id => ?_) hlist'
  rw [contains_followed hrows, hsame]

end

end Registry

namespace Demo

/-- Two subscriptions, of a type with a factory and of one without. -/
def others : MemoryStore := .ofList [⟨"t", "A", "g", "bus:/t"⟩, ⟨"u", "B", "h", "bus:/u"⟩]

/-- Of the stored subscription nothing is left but its cached entry, which is live, and two others
have come. -/
def drifted : Registry (StoreGate MemoryStore) (Gated (ActiveSet String)) EchoFactory String :=
  { live with services := { live.services with store := .opened others .locked } }

end Demo

/-- The one goes and is released, and of the others one comes to life. -/
theorem Registry.reconcile_repairs_demo :
    ∃ drift, Demo.drifted.reconcile.1 = .ok drift
      ∧ "s" ∈ drift.removed ∧ "t" ∈ drift.added ∧ "u" ∈ drift.added
      ∧ Demo.drifted.reconcile.2.cache.contains "s" = false
      ∧ Demo.drifted.reconcile.2.cache.get? "u" = some (.dormant ⟨"u", "B", "h", "bus:/u"⟩)
      ∧ ∃ a, Attempt.latest "t" (Demo.drifted.attempts .reconcile) = some a
        ∧ Demo.drifted.reconcile.2.cache.get? "t" = some ⟨⟨"t", "A", "g", "bus:/t"⟩, a.handle⟩ := by
  have hlive : Run (fun _ _ => True) (fun _ _ => True) (new Demo.services) Demo.live :=
    .step (.step .refl trivial) trivial
  have hkeyed : Demo.drifted.services.store.inner.rows.All fun id m => m.id = id := by
    intro id m hm
    rw [Table.get?_eq_some_iff] at hm
    rcases List.mem_cons.mp hm with h | h
    · cases h
      rfl
    · cases List.mem_singleton.mp h
      rfl
  obtain ⟨drift, hanswer, hrepaired, -⟩ :=
    reconcile_repairs (r := Demo.drifted) hlive.filed hkeyed rfl
  refine ⟨drift, hanswer, (hrepaired.mem_removed "s").mpr ⟨rfl, rfl⟩,
    (hrepaired.mem_added "t").mpr ⟨rfl, rfl⟩, (hrepaired.mem_added "u").mpr ⟨rfl, rfl⟩,
    hrepaired.ids "s", ((hrepaired.added "u" _ rfl rfl).1.unbound rfl).2, ?_⟩
  obtain ⟨a, hlatest, -, -, -, he⟩ := (hrepaired.added "t" _ rfl rfl).1.bound ⟨"A"⟩ rfl
  exact ⟨a, hlatest, he⟩

end SubscriptionRegistry
