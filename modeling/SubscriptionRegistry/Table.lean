/-
# Tables

A finite map from keys to values that keeps its rows in a list, each key once.  The order of
the rows is the order in which the table is gone through; it is the order of first insertion
and carries no other meaning.  What depends on it is said of all tables that show the same.

* `get?_insert`, `get?_erase`, `get?_map`: what a change does to a look-up.
* `get?_eq_some_iff`, `rows_perm_erase`: the row that a look-up finds.
* `keys_visitRows`, `map_visit`: a visit changes values and no keys.
* `perm_of_get?_eq`, `sorted_congr`: tables that show the same have the same rows.
-/

namespace SubscriptionRegistry

/-- Rows with a key each, no key twice. -/
structure Table (κ α : Type) where
  rows : List (κ × α)
  nodup : (rows.map Prod.fst).Nodup

namespace Table

variable {κ α β ε σ : Type}

/-! ## 1. Rows -/

section Rows

variable [DecidableEq κ]

/-- The value under `key`. -/
def findRow (key : κ) : List (κ × α) → Option α
  | [] => none
  | (k, a) :: rest => if k = key then some a else findRow key rest

/-- The rows with `a` under `key`: in place of the old value, or at the end. -/
def putRow (key : κ) (a : α) : List (κ × α) → List (κ × α)
  | [] => [(key, a)]
  | (k, b) :: rest => if k = key then (key, a) :: rest else (k, b) :: putRow key a rest

theorem mem_keys_putRow {key k : κ} {a : α} {rows : List (κ × α)} :
    k ∈ (putRow key a rows).map Prod.fst ↔ k = key ∨ k ∈ rows.map Prod.fst := by
  induction rows with
  | nil => simp [putRow]
  | cons row rest ih =>
    unfold putRow
    split
    next h => subst h; simp
    · simp only [List.map_cons, List.mem_cons, ih]
      constructor
      · rintro (h | h | h) <;> simp [h]
      · rintro (h | h | h) <;> simp [h]

theorem nodup_putRow {key : κ} {a : α} {rows : List (κ × α)}
    (h : (rows.map Prod.fst).Nodup) : ((putRow key a rows).map Prod.fst).Nodup := by
  induction rows with
  | nil => simp [putRow]
  | cons row rest ih =>
    simp only [List.map_cons, List.nodup_cons] at h
    unfold putRow
    split
    next hk => simpa [← hk] using h
    next hk =>
      simp only [List.map_cons, List.nodup_cons]
      refine ⟨fun hm => ?_, ih h.2⟩
      rcases mem_keys_putRow.mp hm with hm | hm
      · exact hk hm
      · exact h.1 hm

theorem findRow_putRow {key k : κ} {a : α} {rows : List (κ × α)} :
    findRow k (putRow key a rows) = if k = key then some a else findRow k rows := by
  induction rows with
  | nil => grind [putRow, findRow]
  | cons row rest ih => grind [putRow, findRow]

theorem findRow_filter {key k : κ} {rows : List (κ × α)} :
    findRow k (rows.filter fun r => r.1 ≠ key) = if k = key then none else findRow k rows := by
  induction rows with
  | nil => simp [findRow]
  | cons row rest ih => grind [findRow]

theorem isSome_findRow {key : κ} {rows : List (κ × α)} :
    (findRow key rows).isSome ↔ key ∈ rows.map Prod.fst := by
  induction rows with
  | nil => simp [findRow]
  | cons row rest ih => grind [findRow]

theorem putRow_of_findRow_eq_none {key : κ} {a : α} {rows : List (κ × α)}
    (h : findRow key rows = none) : putRow key a rows = rows ++ [(key, a)] := by
  induction rows with
  | nil => rfl
  | cons row rest ih => grind [putRow, findRow]

theorem putRow_of_findRow_eq_some {key : κ} {a : α} {rows : List (κ × α)}
    (h : findRow key rows = some a) : putRow key a rows = rows := by
  induction rows with
  | nil => simp [findRow] at h
  | cons row rest ih => grind [putRow, findRow]

/-- What is under a key makes no difference to the other rows. -/
theorem filter_putRow {key : κ} {a : α} {rows : List (κ × α)} :
    ((putRow key a rows).filter fun r => r.1 ≠ key) = rows.filter fun r => r.1 ≠ key := by
  induction rows with
  | nil => simp [putRow]
  | cons row rest ih => grind [putRow]

theorem findRow_eq_some_iff {key : κ} {a : α} {rows : List (κ × α)}
    (h : (rows.map Prod.fst).Nodup) : findRow key rows = some a ↔ (key, a) ∈ rows := by
  induction rows with
  | nil => simp [findRow]
  | cons row rest ih =>
    obtain ⟨k, b⟩ := row
    simp only [List.map_cons, List.nodup_cons] at h
    unfold findRow
    split
    next hk =>
      subst hk
      have hrest : (k, a) ∉ rest := fun hm => h.1 (List.mem_map_of_mem hm)
      simp only [Option.some.injEq, List.mem_cons, Prod.mk.injEq, true_and, hrest, or_false]
      exact eq_comm
    next hk =>
      have hne : key ≠ k := fun e => hk e.symm
      simp [ih h.2, hne]

theorem findRow_map {f : α → β} {key : κ} {rows : List (κ × α)} :
    findRow key (rows.map fun r => (r.1, f r.2)) = (findRow key rows).map f := by
  induction rows with
  | nil => rfl
  | cons row rest ih => grind [findRow]

theorem findRow_map_rows (f : κ → α → β) (key : κ) (rows : List (κ × α)) :
    findRow key (rows.map fun row => (row.1, f row.1 row.2)) = (findRow key rows).map (f key) := by
  induction rows with
  | nil => rfl
  | cons row rest ih => grind [findRow]

/-- The order of the rows does not matter to look-ups. -/
theorem findRow_perm {rows rows' : List (κ × α)} (h : rows.Perm rows')
    (hnd : (rows.map Prod.fst).Nodup) (key : κ) : findRow key rows' = findRow key rows := by
  refine Option.ext fun b => ?_
  rw [findRow_eq_some_iff ((h.map Prod.fst).nodup_iff.mp hnd), findRow_eq_some_iff hnd, h.mem_iff]

theorem map_putRow {f : α → β} {key : κ} {a : α} {rows : List (κ × α)} :
    (putRow key a rows).map (fun r => (r.1, f r.2))
      = putRow key (f a) (rows.map fun r => (r.1, f r.2)) := by
  induction rows with
  | nil => rfl
  | cons row rest ih => grind [putRow]

theorem filter_ne_of_findRow_eq_none {key : κ} {rows : List (κ × α)}
    (h : findRow key rows = none) : (rows.filter fun r => r.1 ≠ key) = rows := by
  induction rows with
  | nil => rfl
  | cons row rest ih => grind [findRow]

theorem perm_cons_filter_ne {key : κ} {a : α} {rows : List (κ × α)}
    (hnd : (rows.map Prod.fst).Nodup) (h : findRow key rows = some a) :
    rows.Perm ((key, a) :: rows.filter fun r => r.1 ≠ key) := by
  induction rows with
  | nil => simp [findRow] at h
  | cons row rest ih =>
    obtain ⟨k, b⟩ := row
    simp only [List.map_cons, List.nodup_cons] at hnd
    unfold findRow at h
    split at h
    next hk =>
      subst hk
      obtain rfl := Option.some.inj h
      have hn : findRow k rest = none := by
        rw [← Option.not_isSome_iff_eq_none, isSome_findRow]
        exact hnd.1
      rw [List.filter_cons_of_neg (by simp), filter_ne_of_findRow_eq_none hn]
    next hk =>
      rw [List.filter_cons_of_pos (by simpa using hk)]
      exact ((ih hnd.2 h).cons (k, b)).trans (List.Perm.swap ..)

end Rows

/-! ## 2. Tables -/

/-- No rows. -/
def empty : Table κ α := ⟨[], by simp⟩

instance : Inhabited (Table κ α) := ⟨empty⟩

/-- The keys, in the order of the rows. -/
def keys (t : Table κ α) : List κ := t.rows.map Prod.fst

/-- The values, in the order of the rows. -/
def values (t : Table κ α) : List α := t.rows.map Prod.snd

/-- The number of rows. -/
def size (t : Table κ α) : Nat := t.rows.length

/-- Whether there are no rows. -/
def isEmpty (t : Table κ α) : Bool := t.rows.isEmpty

/-- The table with each value replaced. -/
def map (f : α → β) (t : Table κ α) : Table κ β :=
  ⟨t.rows.map fun r => (r.1, f r.2), by simpa [List.map_map, Function.comp_def] using t.nodup⟩

@[ext] theorem ext {t u : Table κ α} (h : t.rows = u.rows) : t = u := by
  cases t
  cases u
  simpa using h

/-- No row comes twice. -/
theorem nodup_rows (t : Table κ α) : t.rows.Nodup :=
  List.Pairwise.of_map Prod.fst (fun _ _ hne heq => hne (congrArg Prod.fst heq)) t.nodup

section Keyed

variable [DecidableEq κ]

/-- The value under a key. -/
def get? (t : Table κ α) (key : κ) : Option α := findRow key t.rows

/-- Whether there is a value under a key. -/
def contains (t : Table κ α) (key : κ) : Bool := (t.get? key).isSome

/-- The table with `a` under `key`. -/
def insert (t : Table κ α) (key : κ) (a : α) : Table κ α :=
  ⟨putRow key a t.rows, nodup_putRow t.nodup⟩

/-- The table without `key`. -/
def erase (t : Table κ α) (key : κ) : Table κ α :=
  ⟨t.rows.filter fun r => r.1 ≠ key, t.nodup.sublist (List.filter_sublist.map Prod.fst)⟩

/-- The table of some rows; of two with the same key the later one counts. -/
def ofList (rows : List (κ × α)) : Table κ α :=
  rows.foldl (fun t r => t.insert r.1 r.2) empty

@[simp] theorem get?_empty (key : κ) : (empty : Table κ α).get? key = none := rfl

theorem get?_insert {t : Table κ α} {key k : κ} {a : α} :
    (t.insert key a).get? k = if k = key then some a else t.get? k :=
  findRow_putRow

theorem get?_erase {t : Table κ α} {key k : κ} :
    (t.erase key).get? k = if k = key then none else t.get? k :=
  findRow_filter

theorem contains_iff {t : Table κ α} {key : κ} : t.contains key ↔ key ∈ t.keys :=
  isSome_findRow

/-- A new key goes to the end. -/
theorem rows_insert_of_get?_eq_none {t : Table κ α} {key : κ} {a : α}
    (h : t.get? key = none) : (t.insert key a).rows = t.rows ++ [(key, a)] :=
  putRow_of_findRow_eq_none h

/-- A look-up finds the one row of its key. -/
theorem get?_eq_some_iff {t : Table κ α} {key : κ} {a : α} :
    t.get? key = some a ↔ (key, a) ∈ t.rows :=
  findRow_eq_some_iff t.nodup

theorem get?_eq_none_iff {t : Table κ α} {key : κ} : t.get? key = none ↔ key ∉ t.keys := by
  rw [← contains_iff, contains, Option.not_isSome_iff_eq_none]

theorem get?_map {f : α → β} {t : Table κ α} {key : κ} :
    (t.map f).get? key = (t.get? key).map f :=
  findRow_map

theorem map_insert {f : α → β} {t : Table κ α} {key : κ} {a : α} :
    (t.insert key a).map f = (t.map f).insert key (f a) :=
  ext map_putRow

theorem map_erase {f : α → β} {t : Table κ α} {key : κ} :
    (t.erase key).map f = (t.map f).erase key := by
  ext1
  show (t.rows.filter _).map _ = (t.rows.map _).filter _
  rw [List.filter_map]
  rfl

/-- Whether all rows are as `Q` says. -/
def All (Q : κ → α → Prop) (t : Table κ α) : Prop := ∀ key a, t.get? key = some a → Q key a

theorem All.insert {Q : κ → α → Prop} {t : Table κ α} {key : κ} {a : α} (h : t.All Q)
    (ha : Q key a) : (t.insert key a).All Q := by
  intro k b hb
  rw [get?_insert] at hb
  split at hb
  · rename_i hk
    cases hb
    exact hk ▸ ha
  · exact h k b hb

theorem All.erase {Q : κ → α → Prop} {t : Table κ α} {key : κ} (h : t.All Q) :
    (t.erase key).All Q := by
  intro k b hb
  rw [get?_erase] at hb
  split at hb
  · cases hb
  · exact h k b hb

theorem All.congr {Q : κ → α → Prop} {t u : Table κ α} (h : t.All Q) (htu : t.get? = u.get?) :
    u.All Q := by
  intro k b hb
  rw [← htu] at hb
  exact h k b hb

/-- Putting in what is there already changes nothing. -/
theorem insert_of_get?_eq_some {t : Table κ α} {key : κ} {a : α} (h : t.get? key = some a) :
    t.insert key a = t :=
  ext (putRow_of_findRow_eq_some h)

theorem erase_of_get?_eq_none {t : Table κ α} {key : κ} (h : t.get? key = none) :
    t.erase key = t :=
  ext (filter_ne_of_findRow_eq_none h)

theorem erase_insert_self {t : Table κ α} {key : κ} {a : α} :
    (t.insert key a).erase key = t.erase key :=
  ext filter_putRow

/-- Taking a new row away again leaves the table as it was. -/
theorem erase_insert {t : Table κ α} {key : κ} {a : α} (h : t.get? key = none) :
    (t.insert key a).erase key = t := by
  ext1
  show ((t.insert key a).rows.filter fun r => r.1 ≠ key) = t.rows
  rw [rows_insert_of_get?_eq_none h, List.filter_append]
  simpa using filter_ne_of_findRow_eq_none h

/-- The row of a key and the rows without it are all rows. -/
theorem rows_perm_erase {t : Table κ α} {key : κ} {a : α} (h : t.get? key = some a) :
    t.rows.Perm ((key, a) :: (t.erase key).rows) :=
  perm_cons_filter_ne t.nodup h

theorem mem_rows_erase {t : Table κ α} {key : κ} {row : κ × α} :
    row ∈ (t.erase key).rows ↔ row ∈ t.rows ∧ row.1 ≠ key := by
  show row ∈ t.rows.filter _ ↔ _
  simp

end Keyed

/-! ## 3. Going through a table -/

/-- Visits row after row with a state.  A visit may change the value, and an error ends the
round: the rows behind stay as they are. -/
def visitRows (f : α → σ → Except ε Unit × α × σ) :
    List (κ × α) → σ → Except ε Unit × List (κ × α) × σ
  | [], s => (.ok (), [], s)
  | (k, a) :: rest, s =>
    match f a s with
    | (.error e, a, s) => (.error e, (k, a) :: rest, s)
    | (.ok (), a, s) =>
      match visitRows f rest s with
      | (outcome, rest, s) => (outcome, (k, a) :: rest, s)

theorem keys_visitRows (f : α → σ → Except ε Unit × α × σ) (rows : List (κ × α)) (s : σ) :
    (visitRows f rows s).2.1.map Prod.fst = rows.map Prod.fst := by
  induction rows generalizing s with
  | nil => rfl
  | cons row rest ih =>
    unfold visitRows
    split <;> simp [ih]

/-- Visits all rows in order, up to the first error. -/
def visit (f : α → σ → Except ε Unit × α × σ) (t : Table κ α) (s : σ) :
    Except ε Unit × Table κ α × σ :=
  match h : visitRows f t.rows s with
  | (outcome, rows, s') =>
    (outcome, ⟨rows, by
      have := keys_visitRows f t.rows s
      rw [h] at this
      exact this ▸ t.nodup⟩, s')

theorem rows_visit (f : α → σ → Except ε Unit × α × σ) (t : Table κ α) (s : σ) :
    (t.visit f s).2.1.rows = (visitRows f t.rows s).2.1 := rfl

theorem visitRows_snd {P : σ → Prop} {f : α → σ → Except ε Unit × α × σ}
    (hf : ∀ a s, P s → P (f a s).2.2) (rows : List (κ × α)) {s : σ} (hs : P s) :
    P (visitRows f rows s).2.2 := by
  induction rows generalizing s with
  | nil => exact hs
  | cons row rest ih =>
    have ha := hf row.2 s hs
    unfold visitRows
    split
    · rename_i h
      rw [h] at ha
      exact ha
    · rename_i h
      rw [h] at ha
      exact ih ha

/-- What holds of the state and is kept by every single visit holds after the round. -/
theorem visit_snd {P : σ → Prop} {f : α → σ → Except ε Unit × α × σ}
    (hf : ∀ a s, P s → P (f a s).2.2) (t : Table κ α) {s : σ} (hs : P s) :
    P (t.visit f s).2.2 :=
  visitRows_snd hf t.rows hs

theorem mem_visitRows_of_fixed {f : α → σ → Except ε Unit × α × σ} {a : α}
    (hf : ∀ s, (f a s).2.1 = a) {key : κ} {rows : List (κ × α)} (h : (key, a) ∈ rows) (s : σ) :
    (key, a) ∈ (visitRows f rows s).2.1 := by
  induction rows generalizing s with
  | nil => cases h
  | cons row rest ih =>
    unfold visitRows
    split
    · rename_i hrow
      rcases List.mem_cons.mp h with rfl | h
      · have ha := hf s
        rw [hrow] at ha
        rw [← ha]
        exact List.mem_cons_self
      · exact List.mem_cons_of_mem _ h
    · rename_i hrow
      rcases List.mem_cons.mp h with rfl | h
      · have ha := hf s
        rw [hrow] at ha
        rw [← ha]
        exact List.mem_cons_self
      · exact List.mem_cons_of_mem _ (ih h _)

/-- A value that visits do not change is there after the round. -/
theorem get?_visit_of_fixed [DecidableEq κ] {f : α → σ → Except ε Unit × α × σ} {a : α}
    (hf : ∀ s, (f a s).2.1 = a) {t : Table κ α} {key : κ} (h : t.get? key = some a) (s : σ) :
    (t.visit f s).2.1.get? key = some a :=
  get?_eq_some_iff.mpr (mem_visitRows_of_fixed hf (get?_eq_some_iff.mp h) s)

theorem visitRows_map_state {g : σ → σ} {f : α → σ → Except ε Unit × α × σ}
    (hf : ∀ a s, f a (g s) = ((f a s).1, (f a s).2.1, g (f a s).2.2)) (rows : List (κ × α))
    (s : σ) : visitRows f rows (g s)
      = ((visitRows f rows s).1, (visitRows f rows s).2.1, g (visitRows f rows s).2.2) := by
  induction rows generalizing s with
  | nil => rfl
  | cons row rest ih =>
    rw [visitRows, visitRows, hf]
    rcases f row.2 s with ⟨_ | _, a, s'⟩
    · rfl
    · dsimp only
      rw [ih]

/-- What single visits do not look at in the state, no round looks at. -/
theorem visit_map_state {g : σ → σ} {f : α → σ → Except ε Unit × α × σ}
    (hf : ∀ a s, f a (g s) = ((f a s).1, (f a s).2.1, g (f a s).2.2)) (t : Table κ α) (s : σ) :
    t.visit f (g s) = ((t.visit f s).1, (t.visit f s).2.1, g (t.visit f s).2.2) := by
  have h := visitRows_map_state hf t.rows s
  have hrows : (t.visit f (g s)).2.1 = (t.visit f s).2.1 :=
    ext (by rw [rows_visit, rows_visit, h])
  have houtcome : (visitRows f t.rows (g s)).1 = (visitRows f t.rows s).1 := by rw [h]
  have hstate : (visitRows f t.rows (g s)).2.2 = g (visitRows f t.rows s).2.2 := by rw [h]
  exact Prod.ext houtcome (Prod.ext hrows hstate)

theorem visitRows_eq_ok {f : α → σ → Except ε Unit × α × σ} (hf : ∀ a s, (f a s).1 = .ok ())
    (rows : List (κ × α)) (s : σ) : (visitRows f rows s).1 = .ok () := by
  induction rows generalizing s with
  | nil => rfl
  | cons row rest ih =>
    have ha := hf row.2 s
    unfold visitRows
    split
    · rename_i h
      rw [h] at ha
      cases ha
    · exact ih _

theorem visitRows_eq_self {f : α → σ → Except ε Unit × α × σ} {s : σ} {rows : List (κ × α)}
    (hf : ∀ row ∈ rows, f row.2 s = (.ok (), row.2, s)) :
    visitRows f rows s = (.ok (), rows, s) := by
  induction rows with
  | nil => rfl
  | cons row rest ih =>
    rw [visitRows, hf row List.mem_cons_self]
    dsimp only
    rw [ih fun row hrow => hf row (List.mem_cons_of_mem _ hrow)]

/-- A round of visits that do nothing. -/
theorem visit_eq_self {f : α → σ → Except ε Unit × α × σ} {s : σ}
    (hf : ∀ a, f a s = (.ok (), a, s)) (t : Table κ α) : t.visit f s = (.ok (), t, s) := by
  have h : visitRows f t.rows s = (.ok (), t.rows, s) := visitRows_eq_self fun row _ => hf row.2
  have houtcome : (visitRows f t.rows s).1 = .ok () := by rw [h]
  have hrows : (t.visit f s).2.1 = t := ext (by rw [rows_visit, h])
  have hstate : (visitRows f t.rows s).2.2 = s := by rw [h]
  exact Prod.ext houtcome (Prod.ext hrows hstate)

theorem visitRows_cons_of_ok {f : α → σ → Except ε Unit × α × σ} {a a' : α} {s s' : σ}
    (h : f a s = (.ok (), a', s')) (key : κ) (rest : List (κ × α)) :
    visitRows f ((key, a) :: rest) s = ((visitRows f rest s').1,
      (key, a') :: (visitRows f rest s').2.1, (visitRows f rest s').2.2) := by
  rw [visitRows, h]

/-- A round of visits none of which fails does not fail. -/
theorem visit_eq_ok {f : α → σ → Except ε Unit × α × σ} (hf : ∀ a s, (f a s).1 = .ok ())
    (t : Table κ α) (s : σ) : (t.visit f s).1 = .ok () :=
  visitRows_eq_ok hf t.rows s

theorem map_visitRows {g : α → β} {f : α → σ → Except ε Unit × α × σ}
    (hf : ∀ a s, g (f a s).2.1 = g a) (rows : List (κ × α)) (s : σ) :
    (visitRows f rows s).2.1.map (fun r => (r.1, g r.2)) = rows.map fun r => (r.1, g r.2) := by
  induction rows generalizing s with
  | nil => rfl
  | cons row rest ih =>
    obtain ⟨k, a⟩ := row
    have hg := hf a s
    unfold visitRows
    split <;> simp_all

/-- What no single visit changes of a value, no round changes. -/
theorem map_visit {g : α → β} {f : α → σ → Except ε Unit × α × σ}
    (hf : ∀ a s, g (f a s).2.1 = g a) (t : Table κ α) (s : σ) :
    (t.visit f s).2.1.map g = t.map g :=
  ext (map_visitRows hf t.rows s)

theorem visitRows_eq_map {g : α → α} {f : α → σ → Except ε Unit × α × σ}
    (hf : ∀ a s, (f a s).1 = .ok ()) (hg : ∀ a s, (f a s).2.1 = g a) (rows : List (κ × α))
    (s : σ) : (visitRows f rows s).2.1 = rows.map fun r => (r.1, g r.2) := by
  induction rows generalizing s with
  | nil => rfl
  | cons row rest ih =>
    obtain ⟨k, a⟩ := row
    have ha := hf a s
    have hga := hg a s
    unfold visitRows
    split <;> simp_all

/-- A round of visits that never fail and look at the value alone. -/
theorem visit_eq_map {g : α → α} {f : α → σ → Except ε Unit × α × σ}
    (hf : ∀ a s, (f a s).1 = .ok ()) (hg : ∀ a s, (f a s).2.1 = g a) (t : Table κ α) (s : σ) :
    (t.visit f s).2.1 = t.map g :=
  ext (visitRows_eq_map hf hg t.rows s)

/-! ## 4. Order of rows -/

section Order

variable [DecidableEq κ] {t u : Table κ α}

theorem get?_eq_of_perm (h : t.rows.Perm u.rows) : t.get? = u.get? :=
  funext fun key => (findRow_perm h t.nodup key).symm

/-- Look-ups tell all but the order of the rows. -/
theorem perm_of_get?_eq (h : t.get? = u.get?) : t.rows.Perm u.rows := by
  refine (List.perm_ext_iff_of_nodup t.nodup_rows u.nodup_rows).mpr fun row => ?_
  rw [← get?_eq_some_iff, ← get?_eq_some_iff, h]

theorem size_congr (h : t.get? = u.get?) : t.size = u.size :=
  (perm_of_get?_eq h).length_eq

/-- Tables that show the same but for one key, under which the first has nothing. -/
theorem perm_of_get?_eq_of_ne {key : κ} (hnone : t.get? key = none)
    (hne : ∀ k, k ≠ key → u.get? k = t.get? k) :
    u.rows.Perm ((u.get? key).toList.map (key, ·) ++ t.rows) := by
  cases hkey : u.get? key with
  | none =>
    refine perm_of_get?_eq (funext fun k => ?_)
    by_cases hk : k = key
    · rw [hk, hkey, hnone]
    · exact hne k hk
  | some a =>
    refine (rows_perm_erase hkey).trans (.cons _ (perm_of_get?_eq (funext fun k => ?_)))
    rw [get?_erase]
    split
    · rename_i hk
      rw [hk, hnone]
    · rename_i hk
      exact hne k hk

end Order

/-- The rows in rising order of their keys. -/
def sorted (t : Table String α) : List (String × α) :=
  t.rows.mergeSort fun a b => a.1 ≤ b.1

theorem perm_sorted (t : Table String α) : t.sorted.Perm t.rows := List.mergeSort_perm _ _

theorem pairwise_sorted (t : Table String α) : t.sorted.Pairwise fun a b => a.1 ≤ b.1 := by
  have h : t.sorted.Pairwise fun a b => decide (a.1 ≤ b.1) = true := by
    refine List.pairwise_mergeSort (fun a b c hab hbc => ?_) (fun a b => ?_) t.rows
    · exact decide_eq_true (String.le_trans (of_decide_eq_true hab) (of_decide_eq_true hbc))
    · simpa using String.le_total a.1 b.1
  exact h.imp of_decide_eq_true

/-- Tables that show the same have the same rows in rising order. -/
theorem sorted_congr {t u : Table String α} (h : t.get? = u.get?) : t.sorted = u.sorted := by
  have hperm : t.sorted.Perm u.sorted :=
    (t.perm_sorted.trans (perm_of_get?_eq h)).trans u.perm_sorted.symm
  refine hperm.eq_of_pairwise ?_ t.pairwise_sorted u.pairwise_sorted
  rintro ⟨key, a⟩ ⟨key', b⟩ ha hb hle hle'
  obtain rfl : key = key' := String.le_antisymm hle hle'
  have hget : t.get? key = some a := get?_eq_some_iff.mpr (t.perm_sorted.mem_iff.mp ha)
  have hget' : u.get? key = some b := get?_eq_some_iff.mpr (u.perm_sorted.mem_iff.mp hb)
  rw [h, hget'] at hget
  cases hget
  rfl

/-- The table with its rows in rising order of their keys. -/
def sort (t : Table String α) : Table String α :=
  ⟨t.sorted, (t.perm_sorted.map Prod.fst).nodup_iff.mpr t.nodup⟩

@[simp] theorem get?_sort (t : Table String α) : t.sort.get? = t.get? :=
  get?_eq_of_perm t.perm_sorted

/-- The keys in rising order. -/
def sortedKeys (t : Table String α) : List String := t.keys.mergeSort fun a b => a ≤ b

end Table
end SubscriptionRegistry
