/-
# A flush protects what is cached

A store may have lost rows, come by others, or changed some, and it may refuse part of what is
written to it.  A flush writes the metadata of every cached entry once and goes on behind a write
that failed.  So each entry is stored again unless its own write failed, nothing else is touched,
and a reconciliation that follows drops no more than what was lost and could not be written.

* `Writer.settle`, `Writer.stored_runEach`: what a batch of writes leaves stored, whichever fail.
* `Registry.Ends.of_flush`: how a flush ends.
* `Registry.Refilled`: what a flush comes to, id by id.
* `Registry.flush_refills`: that it comes to this.
-/
import SubscriptionRegistry.Proofs.Repair

namespace SubscriptionRegistry

variable {π α φ σ : Type}

/-! ## 1. What a batch of writes leaves stored -/

namespace Writer

variable {written : List (Metadata × Option StoreError)} {rows : String → Option Metadata}

/-- What is stored after some writes, one after the other; those that failed did nothing. -/
def settle : List (Metadata × Option StoreError) → (String → Option Metadata) →
    String → Option Metadata
  | [], rows => rows
  | (_, some _) :: rest, rows => settle rest rows
  | (m, none) :: rest, rows => settle rest fun id => if id = m.id then some m else rows id

theorem writes_injective :
    Function.Injective (writes : List (Metadata × Option StoreError) → List (Call φ σ)) := by
  refine List.map_injective_iff.mpr fun w w' h => ?_
  injection h with hm hfailure
  exact Prod.ext hm hfailure

/-- The journal says which writes failed, and so what is stored. -/
theorem stored_runEach [BackingStore π] [FaithfulStore π] {ms : List Metadata}
    {s : Services π α φ σ}
    (h : (runEach Metadata.id write ms s).2.journal = s.journal ++ writes written) :
    (runEach Metadata.id write ms s).2.stored = settle written s.stored := by
  induction ms generalizing s written with
  | nil =>
    have hnone : (writes [] : List (Call φ σ)) = writes written :=
      List.append_cancel_left ((List.append_nil _).trans h)
    rw [← writes_injective hnone]
    rfl
  | cons m rest ih =>
    rcases hins : s.insert m with ⟨outcome, s'⟩
    obtain ⟨later, -, -, hlater⟩ := runEach_write rest s'
    have hrun : (runEach Metadata.id write (m :: rest) s).2
        = (runEach Metadata.id write rest s').2 := by
      rcases outcome with why | _ <;> simp [runEach, write, hins]
    rw [hrun] at h ⊢
    have hwritten : (m, failureOf outcome) :: later = written := by
      rw [hlater, Services.journal_of_insert hins, List.append_assoc] at h
      exact writes_injective (List.append_cancel_left h)
    rw [← hwritten, ih hlater]
    rcases outcome with why | _
    · rw [failureOf, settle, Services.stored_insert_error hins]
    · rw [failureOf, settle, Services.stored_insert_ok hins]

/-- Ids that are not written keep their rows. -/
theorem settle_of_notMem {id : String} (h : id ∉ written.map fun w => w.1.id) :
    settle written rows id = rows id := by
  induction written generalizing rows with
  | nil => rfl
  | cons w rest ih =>
    obtain ⟨m, failure⟩ := w
    obtain ⟨hne, hrest⟩ := not_or.mp (mt List.mem_cons.mpr h)
    rcases failure with _ | why
    · rw [settle, ih hrest, if_neg hne]
    · rw [settle, ih hrest]

/-- An id that is written once is stored as it is written, unless that fails. -/
theorem settle_of_mem (hnd : (written.map fun w => w.1.id).Nodup) {m : Metadata}
    {failure : Option StoreError} (hw : (m, failure) ∈ written) :
    settle written rows m.id = if failure.isSome then rows m.id else some m := by
  induction written generalizing rows with
  | nil => cases hw
  | cons w rest ih =>
    obtain ⟨m', failure'⟩ := w
    obtain ⟨hnot, hrest⟩ := List.nodup_cons.mp hnd
    rcases List.mem_cons.mp hw with heq | hmem
    · cases heq
      rcases failure with _ | why
      · rw [settle, settle_of_notMem hnot, if_pos rfl]
        rfl
      · rw [settle, settle_of_notMem hnot]
        rfl
    · have hne : m.id ≠ m'.id := fun h => hnot (List.mem_map.mpr ⟨_, hmem, h⟩)
      rcases failure' with _ | why
      · rw [settle, ih hrest hmem, if_neg hne]
      · rw [settle, ih hrest hmem]

/-- What is reported are the ids whose writes failed. -/
theorem fst_failures (written : List (Metadata × Option StoreError)) :
    (failures written).map Prod.fst
      = (written.filter fun w => w.2.isSome).map fun w => w.1.id := by
  induction written with
  | nil => rfl
  | cons w rest ih =>
    obtain ⟨m, _ | why⟩ := w
    · simpa [failures] using ih
    · simpa [failures] using ih

theorem failures_eq_nil_iff : failures written = [] ↔ ∀ w ∈ written, w.2 = none := by
  simp [failures, List.filterMap_eq_nil_iff]

end Writer

namespace Registry

/-! ## 2. A flush -/

section

variable [BackingStore π] [Activator α σ] [Factory φ σ] {r r' : Registry π α φ σ}
  {answer : Except StoreError (Answer σ)} {calls : List (Call φ σ)}

/-- A flush writes all that is cached, and reports what failed. -/
theorem Ends.of_flush (h : r.Ends .flush answer calls r') :
    ∃ written, written.map Prod.fst = r.cache.values.map (·.metadata)
      ∧ answer = (if Writer.failures written = [] then .ok .done
        else .error (.backend "Problem writing to the cache"
          (.batchFailed r.cache.size (Writer.failures written))))
      ∧ calls = Writer.writes written
      ∧ r' = { r with services := (Writer.runEach Metadata.id Writer.write
          (r.cache.values.map (·.metadata)) r.services).2 } := by
  cases h with
  | rejected hop => cases hop
  | absent hop => cases hop
  | idle hop => rcases hop with hop | hop <;> cases hop
  | undeleted hop => cases hop
  | flushed hall => exact ⟨_, hall, rfl, rfl, rfl⟩

end

variable [BackingStore π] [FaithfulStore π] [Activator α σ] [Factory φ σ]
  {r : Registry π α φ σ} {fails : String → Prop}

/-- What a flush comes to in which the writes of some ids fail: how it ends, and the registry that
it leaves. -/
structure Refilled (fails : String → Prop) (r : Registry π α φ σ)
    (answer : Except StoreError Unit) (r' : Registry π α φ σ) : Prop where
  /-- Entries stay as they are, with their handles. -/
  cache : r'.cache = r.cache
  factories : r'.factories = r.factories
  activator : r'.services.activator = r.services.activator
  /-- The store is asked for nothing but writes. -/
  writes : ∀ call ∈ r.calls .flush, ∃ m failure, call = .insert m failure
  restored : ∀ id e, r.cache.get? id = some e → ¬ fails id →
    r'.services.stored id = some e.metadata
  spared : ∀ id, r.cache.get? id = none ∨ fails id →
    r'.services.stored id = r.services.stored id
  ok_iff : answer = .ok () ↔ ∀ id, r.cache.contains id → ¬ fails id
  /-- There is one failure for each cached id whose write fails. -/
  reported : ∀ why, answer = .error why → ∃ failures,
    why = .backend "Problem writing to the cache" (.batchFailed r.cache.size failures)
      ∧ (failures.map Prod.fst).Nodup
      ∧ ∀ id, id ∈ failures.map Prod.fst ↔ r.cache.contains id ∧ fails id

/-- The writes of a flush, with what is cached under the ids of its metadata. -/
structure Written (r : Registry π α φ σ) (written : List (Metadata × Option StoreError)) :
    Prop where
  ids : written.map (fun w => w.1.id) = r.cache.keys
  entry : ∀ w ∈ written, ∃ e, r.cache.get? w.1.id = some e ∧ e.metadata = w.1
  of_cached : ∀ id e, r.cache.get? id = some e → ∃ failure, (e.metadata, failure) ∈ written

omit [BackingStore π] [FaithfulStore π] [Activator α σ] [Factory φ σ] in
theorem written_of_all {written : List (Metadata × Option StoreError)}
    (hcache : r.cache.metadata.All fun id m => m.id = id)
    (hall : written.map Prod.fst = r.cache.values.map (·.metadata)) : r.Written written where
  ids := by
    have hrows : ∀ row ∈ r.cache.rows, row.2.metadata.id = row.1 := fun row hrow =>
      hcache row.1 row.2.metadata
        (by rw [Cache.get?_metadata, Table.get?_eq_some_iff.mpr hrow]; rfl)
    calc written.map (fun w => w.1.id)
        = (written.map Prod.fst).map Metadata.id := by rw [List.map_map]; rfl
      _ = r.cache.rows.map fun row => row.2.metadata.id := by
          rw [hall, Table.values, List.map_map, List.map_map]; rfl
      _ = r.cache.keys := List.map_congr_left hrows
  entry w hw := by
    have hmem : w.1 ∈ r.cache.values.map (·.metadata) := hall ▸ List.mem_map_of_mem hw
    obtain ⟨e, he, hm⟩ := List.mem_map.mp hmem
    obtain ⟨row, hrow, rfl⟩ := List.mem_map.mp he
    have hget := Table.get?_eq_some_iff.mpr hrow
    have hid := hcache row.1 row.2.metadata (by rw [Cache.get?_metadata, hget]; rfl)
    refine ⟨row.2, ?_, hm⟩
    rw [← hm, hid]
    exact hget
  of_cached id e he := by
    have hmem : e.metadata ∈ written.map Prod.fst := by
      rw [hall]
      exact List.mem_map_of_mem (List.mem_map_of_mem (Table.get?_eq_some_iff.mp he))
    obtain ⟨⟨m, failure⟩, hw, rfl⟩ := List.mem_map.mp hmem
    exact ⟨failure, hw⟩

variable {written : List (Metadata × Option StoreError)}

omit [BackingStore π] [FaithfulStore π] [Activator α σ] [Factory φ σ] in
theorem Written.nodup (h : r.Written written) : (written.map fun w => w.1.id).Nodup :=
  h.ids ▸ r.cache.nodup

omit [BackingStore π] [FaithfulStore π] [Activator α σ] [Factory φ σ] in
/-- What is reported is what is cached and could not be written. -/
theorem Written.mem_failures (h : r.Written written)
    (hfails : ∀ w ∈ written, w.2.isSome ↔ fails w.1.id) (id : String) :
    id ∈ (Writer.failures written).map Prod.fst ↔ r.cache.contains id ∧ fails id := by
  rw [Writer.fst_failures, List.mem_map]
  constructor
  · rintro ⟨w, hw, rfl⟩
    obtain ⟨hw, hfailed⟩ := List.mem_filter.mp hw
    obtain ⟨e, he, -⟩ := h.entry w hw
    exact ⟨by rw [Table.contains, he]; rfl, (hfails w hw).mp hfailed⟩
  · rintro ⟨hcached, hid⟩
    have hmem : id ∈ written.map fun w => w.1.id := h.ids ▸ Table.contains_iff.mp hcached
    obtain ⟨w, hw, rfl⟩ := List.mem_map.mp hmem
    exact ⟨w, List.mem_filter.mpr ⟨hw, (hfails w hw).mpr hid⟩, rfl⟩

theorem refilled_of_written (h : r.Written written)
    (hfails : ∀ w ∈ written, w.2.isSome ↔ fails w.1.id)
    (hanswer : r.flush.1 = if Writer.failures written = [] then .ok ()
      else .error (.backend "Problem writing to the cache"
        (.batchFailed r.cache.size (Writer.failures written))))
    (hcalls : r.calls .flush = Writer.writes written)
    (hstored : r.flush.2.services.stored = Writer.settle written r.services.stored)
    (hmetadata : ∀ id e, r.cache.get? id = some e → e.metadata.id = id) :
    r.Refilled fails r.flush.1 r.flush.2 := by
  have hnone : Writer.failures written = [] ↔ ∀ id, r.cache.contains id → ¬ fails id := by
    rw [← List.map_eq_nil_iff (f := Prod.fst), List.eq_nil_iff_forall_not_mem]
    simp only [h.mem_failures hfails, not_and]
  constructor
  case cache => rw [flush_snd]
  case factories => rw [flush_snd]
  case activator =>
    rw [flush_snd]
    exact Writer.write_stable (P := fun s => s.activator = r.services.activator)
      (fun m _ s hs => hs) rfl
  case writes =>
    intro call hcall
    rw [hcalls] at hcall
    obtain ⟨w, -, rfl⟩ := List.mem_map.mp hcall
    exact ⟨_, _, rfl⟩
  case restored =>
    intro id e he hid
    obtain ⟨failure, hw⟩ := h.of_cached id e he
    rw [← hmetadata id e he] at hid ⊢
    have hok : ¬ failure.isSome = true := fun hsome => hid ((hfails _ hw).mp hsome)
    rw [hstored, Writer.settle_of_mem h.nodup hw, if_neg hok]
  case spared =>
    intro id hid
    rw [hstored]
    by_cases hmem : id ∈ written.map fun w => w.1.id
    · obtain ⟨⟨m, failure⟩, hw, rfl⟩ := List.mem_map.mp hmem
      have hfailed : fails m.id := by
        rcases hid with hnot | hfailed
        · obtain ⟨e, he, -⟩ := h.entry _ hw
          rw [he] at hnot
          cases hnot
        · exact hfailed
      rw [Writer.settle_of_mem h.nodup hw, if_pos ((hfails _ hw).mpr hfailed)]
    · exact Writer.settle_of_notMem hmem
  case ok_iff =>
    rw [hanswer, ← hnone]
    split <;> simp_all
  case reported =>
    intro why hwhy
    rw [hanswer] at hwhy
    split at hwhy
    · cases hwhy
    · cases hwhy
      refine ⟨_, rfl, ?_, h.mem_failures hfails⟩
      rw [Writer.fst_failures]
      exact h.nodup.sublist (List.filter_sublist.map _)

/-- What is cached under the ids of its metadata is written again. -/
theorem flush_refilled (hcache : r.cache.metadata.All fun id m => m.id = id)
    (hfails : ∀ m failure, .insert m failure ∈ r.calls .flush → (failure ≠ none ↔ fails m.id)) :
    r.Refilled fails r.flush.1 r.flush.2 := by
  obtain ⟨written, hall, hanswer, hcalls, hout⟩ := Ends.of_flush (ends_flush r)
  refine refilled_of_written (written_of_all hcache hall) ?_ ?_ hcalls ?_ ?_
  · intro w hw
    rw [← hfails w.1 w.2 (hcalls ▸ List.mem_map_of_mem hw), Option.isSome_iff_ne_none]
  · rw [perform] at hanswer
    cases hflush : r.flush.1 with
    | ok u =>
      rw [hflush] at hanswer
      split at hanswer
      · rw [if_pos ‹_›]
      · cases hanswer
    | error why =>
      rw [hflush] at hanswer
      split at hanswer
      · cases hanswer
      · rw [if_neg ‹_›]
        injection hanswer with hwhy
        rw [hwhy]
  · have hjournal := journal_perform .flush r
    rw [hcalls, hout] at hjournal
    rw [flush_snd, Writer.stored_runEach hjournal]
  · intro id e he
    exact hcache id e.metadata (by rw [Cache.get?_metadata, he]; rfl)

/-! ## 3. The reconciliation that follows -/

/-- What was cached is safe from a reconciliation, except where it was lost and could not be written
again. -/
structure Protected (fails : String → Prop) (r r' : Registry π α φ σ) : Prop where
  removed : ∀ drift, r'.reconcile.1 = .ok drift → drift.removed.Nodup
    ∧ ∀ id, id ∈ drift.removed ↔ r.cache.contains id ∧ fails id ∧ r.services.stored id = none
  /-- All other entries stay as they are, whether the store can be listed or not. -/
  kept : ∀ id e, r.cache.get? id = some e → ¬ (fails id ∧ r.services.stored id = none) →
    r'.reconcile.2.cache.get? id = some e

theorem Refilled.stored_eq_none_iff {answer : Except StoreError Unit} {r' : Registry π α φ σ}
    (h : r.Refilled fails answer r') {id : String} (hcached : r.cache.contains id) :
    r'.services.stored id = none ↔ fails id ∧ r.services.stored id = none := by
  obtain ⟨e, he⟩ := Option.isSome_iff_exists.mp hcached
  by_cases hid : fails id
  · rw [h.spared id (.inr hid), and_iff_right hid]
  · rw [h.restored id e he hid]
    exact ⟨nofun, fun hnone => absurd hnone.1 hid⟩

theorem Refilled.protects {answer : Except StoreError Unit} {r' : Registry π α φ σ}
    (h : r.Refilled fails answer r') (hkeyed : r'.services.StoredKeyed) : Protected fails r r' := by
  rcases reconcile_cases r' with ⟨why, s, hlist, hout⟩ | ⟨listing, s, hlist, added, hout⟩
  · constructor
    · intro drift hdrift
      rw [hout] at hdrift
      cases hdrift
    · intro id e he _
      rw [hout, h.cache]
      exact he
  · have hlisted := Services.get?_list hlist
    have hnone : ∀ id, listing.contains id = false ↔ r'.services.stored id = none := fun id => by
      rw [Table.contains, hlisted, Option.isSome_eq_false_iff, Option.isNone_iff_eq_none]
    have hrows : ∀ row ∈ listing.rows, row.2.id = row.1 := fun row hrow =>
      hkeyed row.1 row.2 (by rw [← hlisted]; exact Table.get?_eq_some_iff.mpr hrow)
    constructor
    · intro drift hdrift
      rw [hout] at hdrift
      cases hdrift
      refine ⟨r'.cache.nodup.sublist List.filter_sublist, fun id => ?_⟩
      rw [mem_stale, hnone, h.cache]
      exact and_congr_right h.stored_eq_none_iff
    · intro id e he hsafe
      have hcached : r.cache.contains id := by rw [Table.contains, he]; rfl
      rw [← h.stored_eq_none_iff hcached, ← hnone, Bool.not_eq_false] at hsafe
      rw [← h.cache] at he hcached
      rw [hout]
      exact (get?_followed hrows hcached hsafe).trans he

/-- **A flush protects what is cached.**  If it succeeds, nothing that is cached is dropped. -/
theorem flush_refills (hcache : r.cache.metadata.All fun id m => m.id = id)
    (hkeyed : r.services.StoredKeyed)
    (hfails : ∀ m failure, .insert m failure ∈ r.calls .flush → (failure ≠ none ↔ fails m.id)) :
    r.Refilled fails r.flush.1 r.flush.2 ∧ Protected fails r r.flush.2
      ∧ (r.flush.1 = .ok () →
        (∀ drift, r.flush.2.reconcile.1 = .ok drift → drift.removed = [])
          ∧ ∀ id e, r.cache.get? id = some e → r.flush.2.reconcile.2.cache.get? id = some e) := by
  have hrefilled := flush_refilled hcache hfails
  have hprotected := hrefilled.protects (flush_stable Services.storedKeyed_stable hkeyed)
  refine ⟨hrefilled, hprotected, fun hok => ?_⟩
  have hnone := hrefilled.ok_iff.mp hok
  constructor
  · intro drift hdrift
    refine List.eq_nil_iff_forall_not_mem.mpr fun id hid => ?_
    obtain ⟨hcached, hfailed, -⟩ := ((hprotected.removed drift hdrift).2 id).mp hid
    exact hnone id hcached hfailed
  · intro id e he
    refine hprotected.kept id e he fun hlost => hnone id ?_ hlost.1
    rw [Table.contains, he]
    rfl

end Registry

namespace Demo

/-- Two subscriptions are cached, one of them live.  The store has lost both, and does not take the
live one any more. -/
def halfLost : Registry (StoreGate MemoryStore) (Gated (ActiveSet String)) EchoFactory String :=
  let stocked := { services with store := StoreGate.opened others .locked }
  let loaded := (((Registry.new stocked).perform (.bind (some ⟨"A"⟩))).2.perform .init).2
  { loaded with services := { loaded.services with store :=
    { StoreGate.opened .empty .locked with failsInsert := fun id => id = "t" } } }

end Demo

/-- The other one is stored again, and stays. -/
theorem Registry.flush_refills_demo :
    Demo.halfLost.flush.2.services.stored "t" = none
      ∧ Demo.halfLost.flush.2.services.stored "u" = some ⟨"u", "B", "h", "bus:/u"⟩
      ∧ ∃ why, Demo.halfLost.flush.1 = .error why
      ∧ ∃ drift, Demo.halfLost.flush.2.reconcile.1 = .ok drift
        ∧ "t" ∈ drift.removed ∧ "u" ∉ drift.removed := by
  have hcalls : Demo.halfLost.calls .flush = [.insert ⟨"t", "A", "g", "bus:/t"⟩ (some .locked),
      .insert ⟨"u", "B", "h", "bus:/u"⟩ none] := rfl
  have hfails : ∀ m failure, .insert m failure ∈ Demo.halfLost.calls .flush →
      (failure ≠ none ↔ m.id = "t") := by
    intro m failure hcall
    rw [hcalls] at hcall
    rcases List.mem_cons.mp hcall with h | h
    · cases h
      decide
    · cases List.mem_singleton.mp h
      decide
  have hcache : Demo.halfLost.cache.metadata.All fun id m => m.id = id := by
    intro id m hm
    rw [Table.get?_eq_some_iff] at hm
    rcases List.mem_cons.mp hm with h | h
    · cases h
      rfl
    · cases List.mem_singleton.mp h
      rfl
  have hkeyed : Demo.halfLost.services.StoredKeyed := fun _ _ hm => by cases hm
  obtain ⟨hrefilled, hprotected, -⟩ : Demo.halfLost.Refilled (fun id => id = "t") _ _
      ∧ Protected (fun id => id = "t") _ _ ∧ _ := flush_refills hcache hkeyed hfails
  refine ⟨hrefilled.spared "t" (.inr rfl), hrefilled.restored "u" _ rfl (by decide), _, rfl, _, rfl,
    ?_, ?_⟩
  · exact ((hprotected.removed _ rfl).2 "t").mpr ⟨rfl, rfl, rfl⟩
  · exact fun h => absurd (((hprotected.removed _ rfl).2 "u").mp h).2.1 (by decide)

end SubscriptionRegistry
