/-
# What changes to a disk leave alone

Writing, moving and locking files changes some files of a disk and nothing else: all directories
stay, and so does every other file.

* `Disk.node_concat`: what stands at a place, from what stands above it.
* `Disk.Apart`: disks that differ in some files only.  Routes to directories lead to the same
  places on both (`Keeps.locate`).
* `Disk.create_apart`, `append_apart`, `rename_apart`: the files that a change is about.
* `Disk.readAt_child_eq_ok_iff`: reading a file by its name behind a route.
* `Disk.makeAll_eq_ok`: a directory that was made is found by the route it was made for.
-/
import SubscriptionRegistry.Disk.Route

namespace SubscriptionRegistry
namespace Disk

/-! ## 1. Places -/

theorem walk_concat (d : Disk) (seen p : Place) (name : String) :
    d.walk seen (p ++ [name]) = match d.walk seen p with
      | .error e => .error e
      | .ok (.file _ _) => .error .notADirectory
      | .ok .directory =>
        match d.nodes.get? (seen ++ p ++ [name]) with
        | none => .error .notFound
        | some n => .ok n := by
  induction p generalizing seen with
  | nil =>
    rw [List.nil_append, List.append_nil, walk, walk]
    cases h : d.nodes.get? (seen ++ [name]) with
    | none => rfl
    | some n => cases n <;> rfl
  | cons step p ih =>
    rw [List.cons_append, walk, walk]
    cases h : d.nodes.get? (seen ++ [step]) with
    | none => rfl
    | some n =>
      cases n with
      | directory =>
        dsimp only
        rw [ih, List.append_assoc seen [step] p]
        rfl
      | file identity content =>
        dsimp only
        cases p <;> rfl

/-- What stands at a place depends on what stands above it and on the one entry. -/
theorem node_concat (d : Disk) (p : Place) (name : String) :
    d.node (p ++ [name]) = match d.node p with
      | .error e => .error e
      | .ok (.file _ _) => .error .notADirectory
      | .ok .directory =>
        match d.nodes.get? (p ++ [name]) with
        | none => .error .notFound
        | some n => .ok n :=
  walk_concat d [] p name

/-- In a directory, what stands under a name is what is entered there. -/
theorem node_child_eq_ok_iff {d : Disk} {p : Place} {name : String} {n : Node}
    (hp : d.node p = .ok .directory) :
    d.node (p ++ [name]) = .ok n ↔ d.nodes.get? (p ++ [name]) = some n := by
  rw [node_concat, hp]
  dsimp only
  split <;> simp_all

/-- Names lead from directories only. -/
theorem node_above {d : Disk} {p : Place} {name : String} {n : Node}
    (h : d.node (p ++ [name]) = .ok n) : d.node p = .ok .directory := by
  rw [node_concat] at h
  split at h
  · cases h
  · cases h
  · assumption

theorem get?_of_node {d : Disk} {p : Place} {n : Node} (h : d.node p = .ok n) (hp : p ≠ []) :
    d.nodes.get? p = some n := by
  obtain ⟨above, name, heq⟩ := (List.eq_nil_or_concat p).resolve_left hp
  rw [List.concat_eq_append] at heq
  subst heq
  exact (node_child_eq_ok_iff (node_above h)).mp h

theorem get?_of_node_file {d : Disk} {p : Place} {i : Nat} {content : Bytes}
    (h : d.node p = .ok (.file i content)) : d.nodes.get? p = some (.file i content) := by
  refine get?_of_node h ?_
  rintro rfl
  cases h

theorem isDirectory_of_node {d : Disk} {p : Place} (h : d.node p = .ok .directory) :
    d.isDirectory p := by
  unfold isDirectory
  cases p with
  | nil => rfl
  | cons name p => simp [get?_of_node h (List.cons_ne_nil name p)]

theorem read_eq_ok_iff {d : Disk} {p : Place} {bytes : Bytes} :
    d.read p = .ok bytes ↔ ∃ i, d.node p = .ok (.file i bytes) := by
  unfold read
  split
  · simp_all
  · simp_all
  · rename_i i content hnode
    simp [hnode]

theorem checkParent_child_eq_ok_iff {d : Disk} {p : Place} {name : String} :
    d.checkParent (p ++ [name]) = .ok () ↔ d.node p = .ok .directory := by
  unfold checkParent
  rw [List.dropLast_concat]
  split <;> simp_all

/-- A name in a directory shows up in its listing. -/
theorem mem_names {d : Disk} {p : Place} {names : List String} (h : d.names p = .ok names)
    {name : String} (hname : d.nodes.get? (p ++ [name]) ≠ none) : name ∈ names := by
  unfold Disk.names at h
  split at h
  · cases h
  · cases h
  · cases h
    have hkey : p ++ [name] ∈ d.nodes.keys := by
      rw [← Table.contains_iff, Table.contains, Option.isSome_iff_ne_none]
      exact hname
    rw [List.mem_mergeSort, List.mem_filterMap]
    exact ⟨p ++ [name], hkey, by simp⟩

/-! ## 2. Steps -/

/-- A step from a directory to a directory. -/
inductive Leads (d : Disk) (here : Place) : String → Place → Prop
  | stay : Leads d here "." here
  | up : Leads d here ".." here.dropLast
  | down {name : String} (ne_dot : name ≠ ".") (ne_up : name ≠ "..")
      (size_le : name.utf8ByteSize ≤ maxName)
      (h : d.nodes.get? (here ++ [name]) = some .directory) : Leads d here name (here ++ [name])

theorem Leads.follow_cons {d : Disk} {here next : Place} {step : String}
    (h : Leads d here step next) (rest : List String) :
    d.follow here (step :: rest) = d.follow next rest := by
  rw [follow]
  cases h with
  | stay => rw [if_pos rfl]
  | up => rw [if_neg (by decide), if_pos rfl]
  | down ne_dot ne_up size_le h =>
    rw [if_neg ne_dot, if_neg ne_up, if_neg (Nat.not_lt.mpr size_le), h]

/-- All steps but the last lead to directories; the last may lead to a file. -/
theorem follow_cons_cases {d : Disk} {here p : Place} {step : String} {rest : List String}
    (h : d.follow here (step :: rest) = .ok p) :
    (∃ next, Leads d here step next ∧ d.follow next rest = .ok p)
      ∨ rest = [] ∧ p = here ++ [step] ∧ d.isDirectory p = false := by
  rw [follow] at h
  split at h
  · rename_i hdot
    subst hdot
    exact .inl ⟨here, .stay, h⟩
  split at h
  · rename_i hup
    subst hup
    exact .inl ⟨here.dropLast, .up, h⟩
  rename_i hdot hup
  split at h
  · cases h
  rename_i hsize
  split at h
  · cases h
  · rename_i hentry
    exact .inl ⟨here ++ [step], .down hdot hup (Nat.not_lt.mp hsize) hentry, h⟩
  · rename_i hentry
    split at h
    · rename_i hrest
      cases h
      exact .inr ⟨by simpa using hrest, rfl, by simp [isDirectory, hentry]⟩
    · cases h

/-- Steps in turn: those behind a directory go on from there. -/
theorem follow_append {d : Disk} {front : List String} (back : List String) {here p : Place}
    (hp : d.follow here front = .ok p) (hdir : d.isDirectory p) :
    d.follow here (front ++ back) = d.follow p back := by
  induction front generalizing here with
  | nil =>
    cases hp
    rfl
  | cons step rest ih =>
    rcases follow_cons_cases hp with ⟨next, hlead, hrest⟩ | ⟨-, -, hfile⟩
    · rw [List.cons_append, hlead.follow_cons]
      exact ih hrest
    · rw [hfile] at hdir
      cases hdir

/-- A step that is a name. -/
structure IsName (name : String) : Prop where
  ne_empty : name ≠ ""
  ne_dot : name ≠ "."
  ne_up : name ≠ ".."
  size_le : name.utf8ByteSize ≤ maxName
  no_zero : name.toList.contains '\x00' = false

theorem follow_name {d : Disk} {name : String} (hname : IsName name) (here : Place) :
    d.follow here [name] = match d.nodes.get? (here ++ [name]) with
      | none => .error .notFound
      | some _ => .ok (here ++ [name]) := by
  rw [follow, if_neg hname.ne_dot, if_neg hname.ne_up, if_neg (Nat.not_lt.mpr hname.size_le)]
  cases d.nodes.get? (here ++ [name]) with
  | none => rfl
  | some n => cases n <;> rfl

/-- The last of several steps is taken from where the others end. -/
theorem follow_concat_eq_ok {d : Disk} {front : List String} {name : String}
    (hname : IsName name) {here p : Place} (hp : d.follow here (front ++ [name]) = .ok p) :
    ∃ above, d.follow here front = .ok above ∧ p = above ++ [name] := by
  induction front generalizing here with
  | nil =>
    rw [List.nil_append, follow_name hname] at hp
    split at hp
    · cases hp
    · cases hp
      exact ⟨here, rfl, rfl⟩
  | cons step rest ih =>
    rw [List.cons_append] at hp
    rcases follow_cons_cases hp with ⟨next, hlead, hrest⟩ | ⟨hnil, -, -⟩
    · obtain ⟨above, habove, rfl⟩ := ih hrest
      exact ⟨above, by rw [hlead.follow_cons, habove], rfl⟩
    · simp at hnil

theorem locate_eq_ok_iff {d : Disk} {r : Route} {p : Place} :
    d.locate r = .ok p ↔ r.hasZero = false ∧ r.isTooLong = false ∧ d.follow [] r.steps = .ok p
      ∧ (r.slashed → d.isDirectory p) := by
  unfold locate
  constructor
  · intro h
    split at h
    · cases h
    split at h
    · cases h
    rename_i hzero hlong
    split at h
    · cases h
    rename_i q hfollow
    split at h
    · cases h
    rename_i hslash
    cases h
    exact ⟨by simpa using hzero, by simpa using hlong, hfollow, by simpa using hslash⟩
  · rintro ⟨hzero, hlong, hfollow, hslash⟩
    rw [hzero, hlong, if_neg Bool.false_ne_true, if_neg Bool.false_ne_true, hfollow]
    dsimp only
    rw [if_neg]
    simpa using hslash

/-! ## 3. Disks that differ in some files -/

/-- All directories of one disk are directories of the other. -/
def Keeps (d d' : Disk) : Prop :=
  ∀ q, d.nodes.get? q = some .directory → d'.nodes.get? q = some .directory

namespace Keeps

variable {d d' : Disk}

theorem isDirectory (h : Keeps d d') {p : Place} (hp : d.isDirectory p) : d'.isDirectory p := by
  unfold Disk.isDirectory at hp ⊢
  simp only [Bool.or_eq_true, decide_eq_true_eq] at hp ⊢
  exact hp.imp id (h p)

theorem node_directory (h : Keeps d d') {p : Place} (hp : d.node p = .ok .directory) :
    d'.node p = .ok .directory := by
  induction hlength : p.length generalizing p with
  | zero =>
    rw [List.eq_nil_of_length_eq_zero hlength]
    rfl
  | succ n ih =>
    obtain rfl | ⟨above, name, heq⟩ := List.eq_nil_or_concat p
    · rfl
    · rw [List.concat_eq_append] at heq
      subst heq
      have habove := node_above hp
      have hlength' : above.length = n := by simpa using hlength
      refine (node_child_eq_ok_iff (ih habove hlength')).mpr ?_
      exact h _ ((node_child_eq_ok_iff habove).mp hp)

theorem leads (h : Keeps d d') {here next : Place} {step : String}
    (hlead : Leads d here step next) : Leads d' here step next := by
  cases hlead with
  | stay => exact .stay
  | up => exact .up
  | down ne_dot ne_up size_le hentry => exact .down ne_dot ne_up size_le (h _ hentry)

/-- Steps that end in a directory end there on the other disk as well. -/
theorem follow (h : Keeps d d') {steps : List String} {here p : Place}
    (hp : d.follow here steps = .ok p) (hdir : d.isDirectory p) : d'.follow here steps = .ok p := by
  induction steps generalizing here with
  | nil => exact hp
  | cons step rest ih =>
    rcases follow_cons_cases hp with ⟨next, hlead, hrest⟩ | ⟨-, -, hfile⟩
    · rw [(h.leads hlead).follow_cons]
      exact ih hrest
    · rw [hfile] at hdir
      cases hdir

/-- A route to a directory leads to the same place on the other disk. -/
theorem locate (h : Keeps d d') {r : Route} {p : Place} (hp : d.locate r = .ok p)
    (hdir : d.isDirectory p) : d'.locate r = .ok p := by
  obtain ⟨hzero, hlong, hfollow, -⟩ := locate_eq_ok_iff.mp hp
  exact locate_eq_ok_iff.mpr ⟨hzero, hlong, h.follow hfollow hdir, fun _ => h.isDirectory hdir⟩

end Keeps

/-- Two disks with the same directories, and with the same files but for some places. -/
structure Apart (places : List Place) (d d' : Disk) : Prop where
  directories : ∀ q, d'.nodes.get? q = some .directory ↔ d.nodes.get? q = some .directory
  elsewhere : ∀ q, q ∉ places → d'.nodes.get? q = d.nodes.get? q

namespace Apart

variable {places more : List Place} {d d' d'' : Disk}

theorem refl (places : List Place) (d : Disk) : Apart places d d :=
  ⟨fun _ => Iff.rfl, fun _ _ => rfl⟩

theorem trans (h : Apart places d d') (h' : Apart places d' d'') : Apart places d d'' where
  directories q := (h'.directories q).trans (h.directories q)
  elsewhere q hq := (h'.elsewhere q hq).trans (h.elsewhere q hq)

theorem mono (h : Apart places d d') (hsub : ∀ q ∈ places, q ∈ more) : Apart more d d' where
  directories := h.directories
  elsewhere q hq := h.elsewhere q fun hmem => hq (hsub q hmem)

theorem keeps (h : Apart places d d') : Keeps d d' := fun q => (h.directories q).mpr

end Apart

/-! ## 4. Changes to files -/

/-- What a file is entered with counts for its own place only. -/
theorem apart_insert {d d' : Disk} {p : Place} {i : Nat} {content : Bytes}
    (hp : d.nodes.get? p ≠ some .directory)
    (h : d'.nodes = d.nodes.insert p (.file i content)) : Apart [p] d d' := by
  constructor
  · intro q
    rw [h, Table.get?_insert]
    split
    · rename_i hq
      subst hq
      simp [hp]
    · rfl
  · intro q hq
    rw [h, Table.get?_insert, if_neg (by simpa using hq)]

/-- What is left when a file is opened for writing. -/
theorem create_eq_ok {d d' : Disk} {p : Place} {i : Nat} (h : d.create p = .ok (i, d')) :
    d.checkParent p = .ok () ∧ d.nodes.get? p ≠ some .directory
      ∧ d'.nodes = d.nodes.insert p (.file i []) ∧ d'.locks = d.locks := by
  unfold create at h
  split at h
  · cases h
  · rename_i hparent
    refine ⟨hparent, ?_⟩
    split at h
    · cases h
    · rename_i hget
      cases h
      exact ⟨by simp [hget], rfl, rfl⟩
    · rename_i hget
      cases h
      exact ⟨by simp [hget], rfl, rfl⟩

/-- What is left when something is written to a file. -/
theorem append_eq_ok {d d' : Disk} {p : Place} {bytes : Bytes} (h : d.append p bytes = .ok d') :
    ∃ i content, d.nodes.get? p = some (.file i content)
      ∧ d'.nodes = d.nodes.insert p (.file i (content ++ bytes)) ∧ d'.locks = d.locks := by
  unfold append at h
  split at h
  · cases h
  · cases h
  · rename_i i content hnode
    cases h
    exact ⟨i, content, get?_of_node_file hnode, rfl, rfl⟩

/-- What is left when a file is moved. -/
theorem rename_eq_ok {d d' : Disk} {source target : Place} (h : d.rename source target = .ok d') :
    ∃ i content, d.nodes.get? source = some (.file i content)
      ∧ d.nodes.get? target ≠ some .directory
      ∧ d'.nodes = (d.nodes.erase source).insert target (.file i content)
      ∧ d'.locks = d.locks := by
  unfold rename at h
  split at h
  · cases h
  · cases h
  · cases h
  · rename_i bytes file hread hnode _
    obtain ⟨i, hfile⟩ := read_eq_ok_iff.mp hread
    obtain rfl := Except.ok.inj (hfile.symm.trans hnode)
    split at h
    · cases h
    · rename_i htarget
      cases h
      exact ⟨i, bytes, get?_of_node_file hfile, htarget, rfl, rfl⟩

theorem create_apart {d d' : Disk} {p : Place} {i : Nat} (h : d.create p = .ok (i, d')) :
    Apart [p] d d' := by
  obtain ⟨-, hp, hnodes, -⟩ := create_eq_ok h
  exact apart_insert hp hnodes

theorem append_apart {d d' : Disk} {p : Place} {bytes : Bytes} (h : d.append p bytes = .ok d') :
    Apart [p] d d' := by
  obtain ⟨i, content, hp, hnodes, -⟩ := append_eq_ok h
  exact apart_insert (by simp [hp]) hnodes

theorem rename_apart {d d' : Disk} {source target : Place} (h : d.rename source target = .ok d') :
    Apart [source, target] d d' := by
  obtain ⟨i, content, hsource, htarget, hnodes, -⟩ := rename_eq_ok h
  constructor
  · intro q
    rw [hnodes, Table.get?_insert, Table.get?_erase]
    by_cases hqt : q = target
    · subst hqt
      simp [htarget]
    · by_cases hqs : q = source
      · subst hqs
        simp [hqt, hsource]
      · rw [if_neg hqt, if_neg hqs]
  · intro q hq
    simp only [List.mem_cons, List.not_mem_nil, or_false, not_or] at hq
    rw [hnodes, Table.get?_insert, Table.get?_erase, if_neg hq.2, if_neg hq.1]

/-! ## 5. Names behind a route -/

end Disk

namespace Route

theorem steps_child (r : Route) {name : String} (hname : name ≠ "") :
    (r.child name).steps = r.steps ++ [name] := by
  unfold child steps
  dsimp only
  rw [List.filter_append, List.filter_cons_of_pos (by simpa using hname), List.filter_nil]
  split
  · rename_i hslash
    have hlast : r.pieces.getLast? = some "" := by simpa [slashed] using hslash
    obtain ⟨front, hfront⟩ := List.getLast?_eq_some_iff.mp hlast
    rw [hfront, List.dropLast_concat, List.filter_append]
    simp
  · rfl

theorem slashed_child (r : Route) {name : String} (hname : name ≠ "") :
    (r.child name).slashed = false := by
  simp [slashed, child, hname]

theorem hasZero_child (r : Route) {name : String} (hname : name ≠ "") :
    (r.child name).hasZero = (r.hasZero || name.toList.contains '\x00') := by
  simp [hasZero, steps_child r hname]

/-- The bytes of some pieces without the slashes between them. -/
theorem foldr_size_concat (pieces : List String) (name : String) :
    (pieces ++ [name]).foldr (fun piece n => piece.utf8ByteSize + n) 0
      = pieces.foldr (fun piece n => piece.utf8ByteSize + n) 0 + name.utf8ByteSize := by
  induction pieces with
  | nil => simp
  | cons piece rest ih =>
    rw [List.cons_append, List.foldr_cons, List.foldr_cons, ih, Nat.add_assoc]

theorem length_child (r : Route) (name : String) :
    (r.child name).length = (r.child "").length + name.utf8ByteSize := by
  simp only [length, child, foldr_size_concat, List.length_append, List.length_singleton]
  simp only [String.utf8ByteSize_empty]
  omega

/-- A path is not longer than what continues it. -/
theorem length_le_child (r : Route) (name : String) : r.length ≤ (r.child name).length := by
  unfold child
  split
  · rename_i hslash
    have hlast : r.pieces.getLast? = some "" := by simpa [slashed] using hslash
    obtain ⟨front, hfront⟩ := List.getLast?_eq_some_iff.mp hlast
    simp only [length, hfront, List.dropLast_concat, foldr_size_concat, List.length_append,
      List.length_singleton, String.utf8ByteSize_empty]
    omega
  · simp only [length, foldr_size_concat, List.length_append, List.length_singleton]
    omega

theorem isTooLong_mono {r r' : Route} (h : r.length ≤ r'.length) (hlong : r'.isTooLong = false) :
    r.isTooLong = false := by
  simp only [isTooLong, decide_eq_false_iff_not, Nat.not_le] at hlong ⊢
  exact Nat.lt_of_le_of_lt h hlong

end Route

namespace Disk

/-- **A file is read by its name behind a route** exactly if the route leads to the directory
that the file is in. -/
theorem readAt_child_eq_ok_iff {d : Disk} {r : Route} {name : String} (hname : IsName name)
    {bytes : Bytes} : d.readAt (r.child name) = .ok bytes ↔ (r.child name).isTooLong = false
      ∧ ∃ directory, d.locate r = .ok directory ∧ d.read (directory ++ [name]) = .ok bytes := by
  unfold readAt
  constructor
  · intro h
    cases hp : d.locate (r.child name) with
    | error e =>
      rw [hp] at h
      cases h
    | ok p =>
      rw [hp] at h
      have hread : d.read p = .ok bytes := h
      obtain ⟨hzero, hlong, hfollow, -⟩ := locate_eq_ok_iff.mp hp
      rw [r.steps_child hname.ne_empty] at hfollow
      obtain ⟨above, habove, rfl⟩ := follow_concat_eq_ok hname hfollow
      obtain ⟨i, hnode⟩ := read_eq_ok_iff.mp hread
      rw [r.hasZero_child hname.ne_empty, Bool.or_eq_false_iff] at hzero
      exact ⟨hlong, above, locate_eq_ok_iff.mpr ⟨hzero.1,
        Route.isTooLong_mono (r.length_le_child name) hlong, habove,
        fun _ => isDirectory_of_node (node_above hnode)⟩, hread⟩
  · rintro ⟨hlong, directory, hlocate, hread⟩
    obtain ⟨i, hnode⟩ := read_eq_ok_iff.mp hread
    obtain ⟨hzero, -, hfollow, -⟩ := locate_eq_ok_iff.mp hlocate
    have hchild : d.locate (r.child name) = .ok (directory ++ [name]) := by
      refine locate_eq_ok_iff.mpr ⟨?_, hlong, ?_, ?_⟩
      · rw [r.hasZero_child hname.ne_empty, hzero, hname.no_zero]
        rfl
      · rw [r.steps_child hname.ne_empty,
          follow_append [name] hfollow (isDirectory_of_node (node_above hnode)),
          follow_name hname, get?_of_node_file hnode]
      · rw [r.slashed_child hname.ne_empty]
        intro h
        cases h
    rw [hchild]
    exact hread

/-! ## 6. Directories that are made -/

/-- A name has a place to come to if the steps before it lead to a directory. -/
theorem vacancy_eq_ok {d : Disk} {r : Route} {p : Place} (h : d.vacancy r = .ok (some p)) :
    r.hasZero = false ∧ r.isTooLong = false ∧ ∃ front above name, r.steps = front ++ [name]
      ∧ d.follow [] front = .ok above ∧ d.isDirectory above ∧ name ≠ "." ∧ name ≠ ".."
      ∧ name.utf8ByteSize ≤ maxName ∧ p = above ++ [name] := by
  unfold vacancy at h
  split at h
  · cases h
  split at h
  · cases h
  rename_i hzero hlong
  refine ⟨by simpa using hzero, by simpa using hlong, ?_⟩
  split at h
  · cases h
  rename_i above habove
  split at h
  · rename_i name hlast
    split at h
    · cases h
    rename_i hdir
    split at h
    · cases h
    rename_i hends
    split at h
    · cases h
    rename_i hsize
    cases h
    obtain ⟨front, hfront⟩ := List.getLast?_eq_some_iff.mp hlast
    rw [hfront, List.dropLast_concat] at habove
    have hname : name ≠ "." ∧ name ≠ ".." := by simpa [Route.endsInName, hlast] using hends
    exact ⟨front, above, name, hfront, habove, by simpa using hdir, hname.1, hname.2,
      Nat.not_lt.mp hsize, rfl⟩
  · cases h

theorem make_eq_ok {d d' : Disk} {r : Route} {p : Place} (h : d.make r = .ok (p, d')) :
    d'.locate r = .ok p ∧ d'.isDirectory p := by
  unfold make at h
  split at h
  · cases h
  · cases h
  · rename_i q hvacancy
    split at h
    · cases h
    cases h
    obtain ⟨hzero, hlong, front, above, name, hsteps, hfront, habove, hdot, hup, hsize, rfl⟩ :=
      vacancy_eq_ok hvacancy
    generalize hd' : ({ d with nodes := d.nodes.insert (above ++ [name]) .directory } : Disk) = d'
    have hnodes : d'.nodes = d.nodes.insert (above ++ [name]) .directory := by rw [← hd']
    have hkeeps : Keeps d d' := by
      intro q hq
      rw [hnodes, Table.get?_insert]
      split
      · rfl
      · exact hq
    have hentry : d'.nodes.get? (above ++ [name]) = some .directory := by
      rw [hnodes, Table.get?_insert, if_pos rfl]
    have hmade : d'.isDirectory (above ++ [name]) := by simp [isDirectory, hentry]
    have hlead : Leads d' above name (above ++ [name]) := .down hdot hup hsize hentry
    refine ⟨locate_eq_ok_iff.mpr ⟨hzero, hlong, ?_, fun _ => hmade⟩, hmade⟩
    rw [hsteps, follow_append [name] (hkeeps.follow hfront habove) (hkeeps.isDirectory habove),
      hlead.follow_cons]
    rfl

theorem ensure_eq_ok {d d' : Disk} {r : Route} {p : Place} (h : d.ensure r = .ok (p, d')) :
    d'.locate r = .ok p ∧ d'.isDirectory p := by
  unfold ensure at h
  split at h
  · rename_i hmake
    cases h
    exact make_eq_ok hmake
  · split at h
    · rename_i hlocate
      split at h
      · rename_i hdir
        cases h
        exact ⟨hlocate, hdir⟩
      · cases h
    · cases h

theorem makeUpTo_eq_ok {height : Nat} {d d' : Disk} {r : Route} {p : Place}
    (h : d.makeUpTo height r = (.ok p, d')) : d'.locate r = .ok p ∧ d'.isDirectory p := by
  cases height with
  | zero =>
    unfold makeUpTo at h
    split at h
    · rename_i hensure
      cases h
      exact ensure_eq_ok hensure
    · cases h
  | succ height =>
    unfold makeUpTo at h
    split at h
    · rename_i hensure
      cases h
      exact ensure_eq_ok hensure
    · split at h
      · cases h
      · split at h
        · rename_i hensure
          cases h
          exact ensure_eq_ok hensure
        · cases h
    · cases h

/-- **A directory that was made is found** by the route that it was made for. -/
theorem makeAll_eq_ok {d d' : Disk} {r : Route} {p : Place} (h : d.makeAll r = (.ok p, d')) :
    d'.locate r = .ok p ∧ d'.isDirectory p :=
  makeUpTo_eq_ok h

end Disk
end SubscriptionRegistry
