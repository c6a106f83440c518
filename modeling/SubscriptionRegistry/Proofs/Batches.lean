/-
# Batches of writes and deletes

A batch goes on behind an element that failed, and reports the failures when all is done.  What it
leaves stored is told by its own calls: those that failed did nothing, the others took their effect
in order.  So what happened to an element is its own affair, also where an id comes several times
and only some of its calls fail.

* `Writer.Answers`: how a batch answers, from what became of its elements.
* `Writer.Wrote`, `Writer.Deleted`: what a batch of writes, and one of deletes, comes to.
* `Writer.batches_bestEffort`: that they come to this.
* `ScriptedStore`: a store that fails as it is told, call by call, so that every pattern of
  failures occurs (`ScriptedStore.journal_writeAll`, `ScriptedStore.journal_deleteAll`).
-/
import SubscriptionRegistry.Proofs.Refill

namespace SubscriptionRegistry

variable {π α φ σ : Type}

namespace Writer

/-! ## 1. The answer -/

/-- The failures among some elements, in order, each with the text of its error. -/
def report (tried : List (String × Option StoreError)) : List (String × String) :=
  tried.filterMap fun t => t.2.map fun why => (t.1, why.message)

theorem report_eq_nil_iff {tried : List (String × Option StoreError)} :
    report tried = [] ↔ ∀ t ∈ tried, t.2 = none := by
  simp [report, List.filterMap_eq_nil_iff]

/-- How a batch answers that tried these, with what each failed with. -/
structure Answers (tried : List (String × Option StoreError)) (answer : Except StoreError Unit) :
    Prop where
  ok_iff : answer = .ok () ↔ ∀ t ∈ tried, t.2 = none
  error : ∀ why, answer = .error why → why = .batchFailed tried.length (report tried)

theorem answers_batchOutcome (tried : List (String × Option StoreError)) :
    Answers tried (batchOutcome tried.length (report tried)) := by
  unfold batchOutcome
  constructor
  case ok_iff =>
    rw [← report_eq_nil_iff]
    cases report tried <;> simp
  case error =>
    intro why h
    split at h
    · cases h
    · cases h
      rfl

/-! ## 2. Writes -/

section Writes

variable {written : List (Metadata × Option StoreError)} {rows : String → Option Metadata}
  {id : String}

/-- The metadata of an id that was written last, of the writes that succeeded. -/
def latest (written : List (Metadata × Option StoreError)) (id : String) : Option Metadata :=
  ((written.filter fun w => w.2.isNone && w.1.id == id).getLast?).map Prod.fst

/-- The last successful write of an id wins. -/
theorem settle_eq_latest :
    settle written rows id = (latest written id).or (rows id) := by
  induction written generalizing rows with
  | nil => rfl
  | cons w rest ih =>
    obtain ⟨m, _ | why⟩ := w
    · rw [settle, ih]
      by_cases hid : id = m.id
      · subst hid
        simp only [latest, List.filter_cons, Option.isNone_none, beq_self_eq_true, Bool.and_self,
          if_true, List.getLast?_cons]
        cases (rest.filter fun w => w.2.isNone && w.1.id == m.id).getLast? <;> simp
      · have hne : (m.id == id) = false := beq_false_of_ne (Ne.symm hid)
        simp [latest, hne, if_neg hid]
    · rw [settle, ih]
      simp [latest]

theorem failures_eq_report :
    failures written = report (written.map fun w => (w.1.id, w.2)) := by
  rw [failures, report, List.filterMap_map]
  rfl

/-- What a batch of writes comes to, if these are its elements with what each failed with. -/
structure Wrote [BackingStore π] [FaithfulStore π] (ms : List Metadata)
    (written : List (Metadata × Option StoreError)) (s : Services π α φ σ)
    (out : Except StoreError Unit × Services π α φ σ) : Prop where
  /-- Every element is tried, in order. -/
  elements : written.map Prod.fst = ms
  calls : out.2.journal = s.journal ++ writes written
  /-- The calls that succeeded have taken their effect one after the other. -/
  stored : out.2.stored = settle written s.stored
  latest : ∀ id, out.2.stored id = (latest written id).or (s.stored id)
  answers : Answers (written.map fun w => (w.1.id, w.2)) out.1

theorem exists_wrote [BackingStore π] [FaithfulStore π] (ms : List Metadata)
    (s : Services π α φ σ) : ∃ written, Wrote ms written s (writeAll ms s) := by
  obtain ⟨written, hms, hfailures, hjournal⟩ := runEach_write ms s
  have hstored := stored_runEach hjournal
  refine ⟨written, hms, hjournal, hstored, fun id => ?_, ?_⟩
  · exact (congrFun hstored id).trans settle_eq_latest
  · have hlength : ms.length = (written.map fun w => (w.1.id, w.2)).length := by
      rw [← hms, List.length_map, List.length_map]
    have hanswer : (writeAll ms s).1 = batchOutcome ms.length (failures written) :=
      congrArg (batchOutcome ms.length) hfailures
    rw [hanswer, failures_eq_report, hlength]
    exact answers_batchOutcome _

end Writes

/-! ## 3. Deletes -/

section Deletes

variable {rows : String → Option Metadata}

/-- The calls of a batch of deletes.  There is none for an empty key. -/
def deletes (deleted : List (String × Option StoreError)) : List (Call φ σ) :=
  (deleted.filter fun d => d.1 ≠ "").map fun d => .delete d.1 d.2

theorem deletes_append (first second : List (String × Option StoreError)) :
    (deletes (first ++ second) : List (Call φ σ)) = deletes first ++ deletes second := by
  simp [deletes]

/-- What is stored after some deletes, one after the other; those that failed did nothing. -/
def clear : List (String × Option StoreError) → (String → Option Metadata) →
    String → Option Metadata
  | [], rows => rows
  | (_, some _) :: rest, rows => clear rest rows
  | (key, none) :: rest, rows => clear rest fun id => if id = key then none else rows id

theorem clear_cons (d : String × Option StoreError) (rest : List (String × Option StoreError)) :
    clear (d :: rest) rows = clear rest (clear [d] rows) := by
  obtain ⟨key, _ | why⟩ := d <;> rfl

/-- One successful delete of an id is enough. -/
theorem clear_eq (deleted : List (String × Option StoreError)) (id : String) :
    clear deleted rows id = if (id, none) ∈ deleted then none else rows id := by
  induction deleted generalizing rows with
  | nil => simp [clear]
  | cons d rest ih =>
    obtain ⟨key, _ | why⟩ := d
    · rw [clear, ih]
      by_cases hid : id = key <;> simp [hid]
    · rw [clear, ih]
      simp

theorem runEach_cons {β : Type} (id : β → String)
    (act : β → Services π α φ σ → Except StoreError Unit × Services π α φ σ) (b : β)
    (rest : List β) (s : Services π α φ σ) :
    runEach id act (b :: rest) s
      = (report [(id b, failureOf (act b s).1)] ++ (runEach id act rest (act b s).2).1,
        (runEach id act rest (act b s).2).2) := by
  rw [runEach]
  rcases act b s with ⟨why | _, s'⟩ <;> rfl

variable [BackingStore π] [FaithfulStore π]

/-- An empty key gets no further than the check. -/
theorem delete_spec (key : String) (s : Services π α φ σ) :
    (key = "" → failureOf (delete key s).1 = some (.invalidArgument (.empty .storeKey)))
      ∧ (delete key s).2.journal = s.journal ++ deletes [(key, failureOf (delete key s).1)]
      ∧ (delete key s).2.stored = clear [(key, failureOf (delete key s).1)] s.stored := by
  by_cases hkey : key = ""
  · subst hkey
    exact ⟨fun _ => rfl, (List.append_nil _).symm, rfl⟩
  · have hdelete : delete key s = s.delete key := by
      rw [delete, requireNonEmpty_eq_ok_iff.mpr hkey]
    rw [hdelete]
    refine ⟨fun h => absurd h hkey, ?_, ?_⟩
    · simp [deletes, hkey, Services.journal_of_delete (Prod.eta (s.delete key)).symm]
    · rcases hdel : s.delete key with ⟨why | _, s'⟩
      · exact Services.stored_delete_error hdel
      · exact Services.stored_delete_ok hdel

/-- What a batch of deletes comes to, if these are its elements with what each failed with. -/
structure Deleted (keys : List String) (deleted : List (String × Option StoreError))
    (s : Services π α φ σ) (out : Except StoreError Unit × Services π α φ σ) : Prop where
  /-- Every element is tried, in order. -/
  elements : deleted.map Prod.fst = keys
  /-- An empty key is a failure that makes no call. -/
  empty : ∀ d ∈ deleted, d.1 = "" → d.2 = some (.invalidArgument (.empty .storeKey))
  calls : out.2.journal = s.journal ++ deletes deleted
  /-- The calls that succeeded have taken their effect one after the other. -/
  stored : out.2.stored = clear deleted s.stored
  gone : ∀ id, out.2.stored id = if (id, none) ∈ deleted then none else s.stored id
  answers : Answers deleted out.1

theorem runEach_delete (keys : List String) (s : Services π α φ σ) :
    ∃ deleted, deleted.map Prod.fst = keys
      ∧ (∀ d ∈ deleted, d.1 = "" → d.2 = some (.invalidArgument (.empty .storeKey)))
      ∧ (runEach (fun key => key) delete keys s).1 = report deleted
      ∧ (runEach (fun key => key) delete keys s).2.journal = s.journal ++ deletes deleted
      ∧ (runEach (fun key => key) delete keys s).2.stored = clear deleted s.stored := by
  induction keys generalizing s with
  | nil => exact ⟨[], rfl, nofun, rfl, (List.append_nil _).symm, rfl⟩
  | cons key rest ih =>
    obtain ⟨hempty, hcalls, hstored⟩ := delete_spec key s
    obtain ⟨deleted, hkeys, hrefused, hreport, hlater, hafter⟩ := ih (delete key s).2
    refine ⟨(key, failureOf (delete key s).1) :: deleted, by rw [List.map_cons, hkeys], ?_, ?_⟩
    · intro d hd
      rcases List.mem_cons.mp hd with rfl | hd
      · exact hempty
      · exact hrefused d hd
    · rw [runEach_cons, hreport, hlater, hcalls, List.append_assoc, ← deletes_append, hafter,
        hstored, ← clear_cons, report, report, ← List.filterMap_append]
      exact ⟨rfl, rfl, rfl⟩

theorem exists_deleted (keys : List String) (s : Services π α φ σ) :
    ∃ deleted, Deleted keys deleted s (deleteAll keys s) := by
  obtain ⟨deleted, hkeys, hempty, hreport, hcalls, hstored⟩ := runEach_delete keys s
  refine ⟨deleted, hkeys, hempty, hcalls, hstored, fun id => ?_, ?_⟩
  · exact (congrFun hstored id).trans (clear_eq deleted id)
  · have hanswer : (deleteAll keys s).1 = batchOutcome keys.length (report deleted) :=
      congrArg (batchOutcome keys.length) hreport
    rw [hanswer, ← hkeys, List.length_map]
    exact answers_batchOutcome deleted

end Deletes

/-- **Batches are best effort and report precisely.**  Every element is tried, in order and whatever
became of those before; what is stored afterwards is what the calls that succeeded make of it; and
what is reported are the elements that failed, with repetition. -/
theorem batches_bestEffort [BackingStore π] [FaithfulStore π] (s : Services π α φ σ) :
    (∀ ms, ∃ written, Wrote ms written s (writeAll ms s))
      ∧ ∀ keys, ∃ deleted, Deleted keys deleted s (deleteAll keys s) :=
  ⟨fun ms => exists_wrote ms s, fun keys => exists_deleted keys s⟩

end Writer

/-! ## 4. A store that fails as it is told -/

/-- Rows in memory, and what the calls to come fail with; behind its end all succeed. -/
structure ScriptedStore where
  rows : Table String Metadata
  script : List (Option StoreError)

namespace ScriptedStore

/-- What a call comes to that would turn the rows into these. -/
def answer (changed : Table String Metadata) (p : ScriptedStore) :
    Except StoreError Unit × ScriptedStore :=
  match p.script with
  | some why :: later => (.error why, ⟨p.rows, later⟩)
  | none :: later => (.ok (), ⟨changed, later⟩)
  | [] => (.ok (), ⟨changed, []⟩)

instance : BackingStore ScriptedStore where
  insert m p := p.answer (p.rows.insert m.id m)
  delete id p := p.answer (p.rows.erase id)
  list p := (.ok p.rows, p)

instance : FaithfulStore ScriptedStore where
  stored p := p.rows.get?
  stored_insert m p := by
    simp only [BackingStore.insert, answer]
    split
    · rfl
    · exact funext fun _ => Table.get?_insert
    · exact funext fun _ => Table.get?_insert
  stored_delete key p := by
    simp only [BackingStore.delete, answer]
    split
    · rfl
    · exact funext fun _ => Table.get?_erase
    · exact funext fun _ => Table.get?_erase
  stored_list p := rfl
  get?_list h := by
    cases h
    rfl

/-- Services over such a store. -/
def services (rows : Table String Metadata) (script : List (Option StoreError)) (activator : α)
    (journal : List (Call φ σ)) : Services ScriptedStore α φ σ :=
  ⟨⟨rows, script⟩, activator, journal⟩

variable {rows : Table String Metadata} {activator : α} {journal : List (Call φ σ)}

/-- Every pattern of failures among writes occurs. -/
theorem journal_writeAll (written : List (Metadata × Option StoreError)) :
    (Writer.writeAll (written.map Prod.fst)
        (services rows (written.map Prod.snd) activator journal)).2.journal
      = journal ++ Writer.writes written := by
  change (Writer.runEach _ _ _ _).2.journal = _
  induction written generalizing rows journal with
  | nil => exact (List.append_nil _).symm
  | cons w rest ih =>
    obtain ⟨m, _ | why⟩ := w
    · rw [List.map_cons, Writer.runEach_cons]
      exact ih.trans (List.append_assoc ..)
    · rw [List.map_cons, Writer.runEach_cons]
      exact ih.trans (List.append_assoc ..)

/-- Every pattern of failures among deletes occurs, apart from the empty keys, which always
fail. -/
theorem journal_deleteAll (deleted : List (String × Option StoreError)) :
    (Writer.deleteAll (deleted.map Prod.fst) (services rows
        ((deleted.filter fun d => d.1 ≠ "").map Prod.snd) activator journal)).2.journal
      = journal ++ Writer.deletes deleted := by
  change (Writer.runEach _ _ _ _).2.journal = _
  induction deleted generalizing rows journal with
  | nil => exact (List.append_nil _).symm
  | cons d rest ih =>
    obtain ⟨key, failure⟩ := d
    rw [List.map_cons, Writer.runEach_cons]
    by_cases hkey : key = ""
    · subst hkey
      exact ih
    · have hdelete : ∀ s : Services ScriptedStore α φ σ,
          Writer.delete key s = s.delete key := fun s => by
        rw [Writer.delete, requireNonEmpty_eq_ok_iff.mpr hkey]
      simp only [hdelete, Writer.deletes, List.filter_cons, decide_eq_true hkey, if_true,
        List.map_cons]
      rcases failure with _ | why
      · exact ih.trans (List.append_assoc ..)
      · exact ih.trans (List.append_assoc ..)

/-- The second write of an id fails, so the first one stays. -/
example :
    let s : Services ScriptedStore Unit Unit Unit :=
      services .empty [none, some .locked, none] () []
    let out := Writer.writeAll [⟨"t", "A", "f", "bus:/1"⟩, ⟨"t", "A", "f", "bus:/2"⟩,
      ⟨"u", "A", "f", "bus:/3"⟩] s
    out.1 = .error (.batchFailed 3 [("t", "Store is locked by another process")])
      ∧ out.2.stored "t" = some ⟨"t", "A", "f", "bus:/1"⟩ :=
  ⟨rfl, rfl⟩

end ScriptedStore

end SubscriptionRegistry
