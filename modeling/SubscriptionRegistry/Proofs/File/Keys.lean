/-
# The keys of a store in a file

A store keeps every row under the id of its metadata.  Whatever is inserted is kept so, whichever
calls fail.  What is read from a data file need not be: reading checks the frame of a snapshot and
the fields of every row, and not that the key of a row is its id.  A row under some other key is
then listed like the others, until a call for that key takes it away.

* `Mounted.Serves.all`: what holds of rows under their own ids goes on to hold of all rows.
* `Mounted.listed_keyed_iff`: all rows are under their own ids for good exactly if those in the
  data file are.
* `Mounted.foreign_key_listed`: a data file in which one is not.
-/
import SubscriptionRegistry.BackingStore.Faithful
import SubscriptionRegistry.Proofs.File.Refinement

namespace SubscriptionRegistry

/-- Every row stands under its own id. -/
def Metadata.Keyed (t : Table String Metadata) : Prop := t.All fun key m => m.id = key

/-! ## 1. Changes -/

namespace Change

variable {Q : String → Metadata → Prop}

theorem all_applyTo (hQ : ∀ m : Metadata, Q m.id m) {t : Table String Metadata} (ht : t.All Q)
    (c : Change) : (c.applyTo t).All Q := by
  cases c with
  | insert m => exact ht.insert (hQ m)
  | delete id => exact ht.erase

/-- A change is made to the table, or the table is as it was, also if it was made and undone. -/
theorem entries_perform (c : Change) (b : Mounted) :
    (c.perform b).2.store.entries.get? = (c.applyTo b.store.entries).get?
      ∨ (c.perform b).2.store.entries.get? = b.store.entries.get? := by
  by_cases hidle : c.IsIdle b.store.entries
  · rw [perform_of_isIdle hidle]
    exact .inr rfl
  · rw [perform_of_not_isIdle hidle]
    rcases FileStore.writeSnapshot b.store.path (c.applyTo b.store.entries) b.device with
      ⟨e | u, device⟩
    · exact .inr (c.sameAs_restore b.store).entries
    · exact .inl rfl

end Change

/-! ## 2. Runs -/

namespace Mounted

/-- What becomes of an open store by calls that change it.  Whether a call succeeds or fails is
up to the device, which may be another one at every call. -/
inductive Serves (start : Mounted) : Mounted → Prop
  | start : Serves start start
  | call {b : Mounted} (h : Serves start b) (device : Device) (c : Change) :
      Serves start (c.perform { b with device }).2

/-- The store can be listed, and all rows are as `Q` says. -/
def Lists (b : Mounted) (Q : String → Metadata → Prop) : Prop :=
  ∃ t, (BackingStore.list b).1 = .ok t ∧ t.All Q

theorem lists_iff {b : Mounted} {Q : String → Metadata → Prop} :
    b.Lists Q ↔ b.store.entries.All Q := by
  constructor
  · rintro ⟨t, hlist, ht⟩
    cases hlist
    exact ht
  · intro h
    exact ⟨b.store.entries, rfl, h⟩

/-- **What is true of every row under its own id stays true of all rows**: nothing comes in under
another key. -/
theorem Serves.all {Q : String → Metadata → Prop} (hQ : ∀ m : Metadata, Q m.id m)
    {start b : Mounted} (h : Serves start b) (hstart : start.store.entries.All Q) :
    b.store.entries.All Q := by
  induction h with
  | start => exact hstart
  | @call b _ device c ih =>
    rcases c.entries_perform { b with device } with hentries | hentries
    · exact (c.all_applyTo hQ ih).congr hentries.symm
    · exact ih.congr hentries.symm

/-! ## 3. Data files -/

/-- A store shows what the data file holds that it was opened over, or nothing. -/
theorem holds_of_open {config : FileConfig} {dev device : Device} {s : FileStore}
    (hopen : FileStore.open config dev = (.ok s, device)) :
    (∃ file, (Mounted.mk s device).Holds file ∧ Snapshot.decode file = .ok s.entries)
      ∨ (∀ file, ¬ (Mounted.mk s device).Holds file) ∧ s.entries = .empty := by
  obtain ⟨hpath, directory, hseated, hread⟩ := FileStore.open_eq_ok hopen
  have hlocated : device.disk.locate (Route.ofString config.path) = .ok directory := by
    rw [← hpath]
    exact hseated.located
  have hholds : ∀ file, (Mounted.mk s device).Holds file
      ↔ ((Route.ofString config.path).child FileStore.dataFile).isTooLong = false
        ∧ device.disk.read (directory ++ [FileStore.dataFile]) = .ok file := by
    intro file
    rw [Holds, hpath, Disk.readAt_child_eq_ok_iff FileStore.isName_dataFile, hlocated]
    simp
  unfold FileStore.readSnapshot at hread
  dsimp only at hread
  split at hread
  · rename_i hpresent
    simp only [Bool.and_eq_true, Bool.not_eq_true'] at hpresent
    split at hread
    · cases hread
    · rename_i file hfile
      exact .inl ⟨file, (hholds file).mpr ⟨hpresent.1, hfile⟩, hread⟩
  · rename_i habsent
    refine .inr ⟨fun file hfile => ?_, (Except.ok.inj hread).symm⟩
    obtain ⟨hlong, hfile⟩ := (hholds file).mp hfile
    obtain ⟨i, hnode⟩ := Disk.read_eq_ok_iff.mp hfile
    simp [hlong, Disk.exists?, hnode] at habsent

/-- **Rows under other keys come from the data file, and from nowhere else.**  Whatever is listed
after any calls stands under its own id or stood in the file that was opened; so all that is ever
listed stands under its own id exactly if all that is in the file does. -/
theorem listed_keyed_iff {config : FileConfig} {dev device : Device} {s : FileStore}
    (hopen : FileStore.open config dev = (.ok s, device)) :
    (∀ b, Serves ⟨s, device⟩ b →
      b.Lists fun key m => m.id = key ∨ s.entries.get? key = some m)
    ∧ ((∀ b, Serves ⟨s, device⟩ b → b.Lists fun key m => m.id = key)
      ↔ ∀ file t, (Mounted.mk s device).Holds file → Snapshot.decode file = .ok t →
        Metadata.Keyed t) := by
  refine ⟨fun b hb => lists_iff.mpr ?_, ?_, ?_⟩
  · exact hb.all (fun m => .inl rfl) fun key m hm => .inr hm
  · intro hall file t hfile hdecode
    rcases holds_of_open hopen with ⟨file', hfile', hdecode'⟩ | ⟨hnone, -⟩
    · rw [Holds, hfile] at hfile'
      cases hfile'
      rw [hdecode] at hdecode'
      cases hdecode'
      exact lists_iff.mp (hall _ .start)
    · exact absurd hfile (hnone file)
  · intro hkeyed b hb
    refine lists_iff.mpr (hb.all (fun m => rfl) ?_)
    rcases holds_of_open hopen with ⟨file, hfile, hdecode⟩ | ⟨-, hempty⟩
    · exact hkeyed file s.entries hfile hdecode
    · intro key m hm
      rw [hempty, Table.get?_empty] at hm
      cases hm

/-- In a fresh directory all rows are under their own ids, also after a call that failed. -/
theorem listed_keyed_iff_demo : Demo.final.Lists fun key m => m.id = key := by
  have hserves : Serves Demo.start Demo.final :=
    .call (.call .start Demo.start.device Demo.first)
      (Demo.first.perform Demo.start).2.device Demo.second
  refine (listed_keyed_iff Demo.open_eq).2.mpr (fun file t hfile _ => ?_) _ hserves
  cases hfile

/-! ## 4. A row under another key -/

namespace Demo

/-- A row that does not stand under its own id. -/
def foreign : Table String Metadata := ⟨[("x", ⟨"y", "A", "f", "bus:/in"⟩)], by decide⟩

/-- A directory that was left with that row in its data file. -/
def leftBehind : Disk :=
  ⟨⟨[(["subs"], .directory), (["subs", "LOCK"], .file 0 []),
    (["subs", "subscriptions.bin"], .file 1 (Snapshot.encode foreign))], by decide⟩, [0], 2⟩

theorem fits_foreign : Snapshot.Fits foreign := by
  have hpayload : (Metadata.encodeTable foreign).length < UInt64.size := by
    rw [Metadata.length_encodeTable]
    decide +kernel
  refine ⟨⟨by decide, hpayload⟩, fun key m hm => ?_⟩
  have hrow : (key, m) ∈ foreign.rows := Table.get?_eq_some_iff.mp hm
  rw [foreign, List.mem_singleton] at hrow
  cases hrow
  exact ⟨by decide, ⟨by decide, by decide, by decide, by decide, rfl⟩,
    by decide, by decide, by decide, by decide⟩

/-- Nothing is wrong with the file, so it is opened. -/
theorem open_leftBehind : ∃ device,
    FileStore.open config ((FileStore.mk "subs" 0 .empty).close (.sound leftBehind))
      = (.ok ⟨"subs", 0, foreign.sort⟩, device) := by
  have hseated : FileStore.Seated ["subs"] ⟨"subs", 0, .empty⟩ leftBehind :=
    ⟨rfl, rfl, rfl, ⟨[], rfl⟩, by decide⟩
  have hdata : leftBehind.nodes.get? (FileStore.dataPlace ["subs"])
      = some (.file 1 (Snapshot.encode foreign)) := rfl
  refine hseated.reopen config rfl ?_ []
  rw [FileStore.readSnapshot_of_present hseated.isDirectory rfl hdata]
  exact Snapshot.decode_encode fits_foreign

end Demo

/-- **Not every data file that can be opened has its rows under their own ids**, and such rows are
listed. -/
theorem foreign_key_listed :
    ¬ ∀ (config : FileConfig) (dev device : Device) (s : FileStore),
      FileStore.open config dev = (.ok s, device) →
      ∀ b, Serves ⟨s, device⟩ b → b.Lists fun key m => m.id = key := by
  intro hall
  obtain ⟨device, hopen⟩ := Demo.open_leftBehind
  have hkeyed := lists_iff.mp (hall _ _ _ _ hopen _ .start)
  have hrow : Demo.foreign.sort.get? "x" = some ⟨"y", "A", "f", "bus:/in"⟩ := by
    rw [Table.get?_sort]
    rfl
  exact absurd (hkeyed "x" _ hrow) (by decide)

end Mounted
end SubscriptionRegistry
