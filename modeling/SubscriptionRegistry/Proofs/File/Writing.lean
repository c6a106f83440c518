/-
# Writing a snapshot, step by step

All steps but the last are about the temporary file alone.  The last one moves it, and takes it
away and puts it in the place of the old snapshot at once.  So wherever the steps stop, by a
fault or because nobody goes on, the data file holds the old snapshot or the new one.

* `Device.performAll_apart`: steps leave all but their own files alone.
* `FileStore.performAll_plan_cases`: how the steps of a plan end.
* `FileStore.performAll_take_plan`: what is left when they stop half-way.
-/
import SubscriptionRegistry.BackingStore.File
import SubscriptionRegistry.Proofs.Disk

namespace SubscriptionRegistry

open Disk (Apart)

/-! ## 1. Steps -/

namespace WriteStep

/-- The files that a step is about. -/
def files : WriteStep → List Place
  | start file | append file _ | sync file => [file]
  | publish file target => [file, target]

theorem run_apart {step : WriteStep} {d d' : Disk} (h : step.run d = .ok d') :
    Apart step.files d d' ∧ d'.locks = d.locks := by
  cases step with
  | start file =>
    cases hcreate : d.create file with
    | error e => simp [run, hcreate, Except.map] at h
    | ok made =>
      simp only [run, hcreate, Except.map, Except.ok.injEq] at h
      subst h
      exact ⟨Disk.create_apart hcreate, (Disk.create_eq_ok hcreate).2.2.2⟩
  | append file bytes =>
    obtain ⟨i, content, -, -, hlocks⟩ := Disk.append_eq_ok h
    exact ⟨Disk.append_apart h, hlocks⟩
  | sync file =>
    cases h
    exact ⟨.refl _ d, rfl⟩
  | publish file target =>
    obtain ⟨i, content, -, -, -, hlocks⟩ := Disk.rename_eq_ok h
    exact ⟨Disk.rename_apart h, hlocks⟩

theorem runPartly_apart (written : Nat) (d : Disk) (step : WriteStep) :
    Apart step.files d (step.runPartly written d) ∧ (step.runPartly written d).locks = d.locks := by
  cases step with
  | append file bytes =>
    unfold runPartly
    dsimp only
    split
    · rename_i d' h
      have hrun : (append file (bytes.take written)).run d = .ok d' := h
      have hpart := run_apart hrun
      exact hpart
    · exact ⟨.refl _ d, rfl⟩
  | start file => exact ⟨.refl _ d, rfl⟩
  | sync file => exact ⟨.refl _ d, rfl⟩
  | publish file target => exact ⟨.refl _ d, rfl⟩

end WriteStep

namespace Device

/-- A step runs, or it fails, and then it has done nothing or a part of its work. -/
theorem perform_cases (step : WriteStep) (dev : Device) :
    (∃ disk rest, step.run dev.disk = .ok disk ∧ dev.perform step = (.ok (), ⟨disk, rest⟩))
      ∨ ∃ e disk rest, dev.perform step = (.error e, ⟨disk, rest⟩)
        ∧ (disk = dev.disk ∨ ∃ written, disk = step.runPartly written dev.disk) := by
  unfold perform
  split
  · rename_i mishap rest _
    exact .inr ⟨_, _, _, rfl, .inr ⟨mishap.written, rfl⟩⟩
  · split
    · exact .inr ⟨_, _, _, rfl, .inl rfl⟩
    · rename_i disk hrun
      exact .inl ⟨disk, _, hrun, rfl⟩

theorem perform_apart (step : WriteStep) (dev : Device) :
    Apart step.files dev.disk (dev.perform step).2.disk
      ∧ (dev.perform step).2.disk.locks = dev.disk.locks := by
  rcases dev.perform_cases step with ⟨disk, rest, hrun, h⟩ | ⟨e, disk, rest, h, rfl | ⟨written, rfl⟩⟩
  · rw [h]
    exact WriteStep.run_apart hrun
  · rw [h]
    exact ⟨.refl _ _, rfl⟩
  · rw [h]
    exact WriteStep.runPartly_apart written dev.disk step

theorem performAll_append (front back : List WriteStep) (dev : Device) :
    dev.performAll (front ++ back) = match dev.performAll front with
      | (.error e, dev) => (.error e, dev)
      | (.ok (), dev) => dev.performAll back := by
  induction front generalizing dev with
  | nil => rfl
  | cons step rest ih =>
    rw [List.cons_append, performAll, performAll]
    split
    · rfl
    · exact ih _

/-- **Steps leave all but their own files alone**, however they end. -/
theorem performAll_apart {files : List Place} {steps : List WriteStep}
    (hfiles : ∀ step ∈ steps, ∀ q ∈ step.files, q ∈ files) (dev : Device) :
    Apart files dev.disk (dev.performAll steps).2.disk
      ∧ (dev.performAll steps).2.disk.locks = dev.disk.locks := by
  induction steps generalizing dev with
  | nil => exact ⟨.refl _ _, rfl⟩
  | cons step rest ih =>
    have hstep := dev.perform_apart step
    have hfirst := hstep.1.mono (hfiles step List.mem_cons_self)
    unfold performAll
    split
    · rename_i h
      rw [h] at hstep hfirst
      exact ⟨hfirst, hstep.2⟩
    · rename_i dev' h
      rw [h] at hstep hfirst
      have hrest := ih (fun s hs => hfiles s (List.mem_cons_of_mem _ hs)) dev'
      exact ⟨hfirst.trans hrest.1, hrest.2.trans hstep.2⟩

/-- All bytes that are written to a file come to stand in it, in order. -/
theorem performAll_appends {file : Place} {parts : List Bytes} {dev dev' : Device} {i : Nat}
    {content : Bytes} (hfile : dev.disk.nodes.get? file = some (.file i content))
    (h : dev.performAll (parts.map (.append file)) = (.ok (), dev')) :
    dev'.disk.nodes.get? file = some (.file i (content ++ parts.flatten)) := by
  induction parts generalizing dev content with
  | nil =>
    cases h
    rw [hfile, List.flatten_nil, List.append_nil]
  | cons bytes parts ih =>
    rw [List.map_cons, performAll] at h
    rcases dev.perform_cases (.append file bytes) with ⟨disk, rest, hrun, hp⟩ | ⟨e, disk, rest, hp, -⟩
    · rw [hp] at h
      obtain ⟨i', content', hget, hnodes, -⟩ := Disk.append_eq_ok hrun
      rw [hfile] at hget
      cases hget
      have hnext : disk.nodes.get? file = some (.file i (content ++ bytes)) := by
        rw [hnodes, Table.get?_insert, if_pos rfl]
      rw [List.flatten_cons, ← List.append_assoc]
      exact ih hnext h
    · rw [hp] at h
      cases h

end Device

/-! ## 2. Plans -/

namespace FileStore

/-- Where the three files of a store are. -/
def dataPlace (directory : Place) : Place := directory ++ [dataFile]
def tempPlace (directory : Place) : Place := directory ++ [tempFile]
def lockPlace (directory : Place) : Place := directory ++ [lockFile]

theorem dataPlace_ne_tempPlace (directory : Place) : dataPlace directory ≠ tempPlace directory :=
  fun h => absurd (List.append_cancel_left h) (by decide)

theorem lockPlace_ne_tempPlace (directory : Place) : lockPlace directory ≠ tempPlace directory :=
  fun h => absurd (List.append_cancel_left h) (by decide)

theorem lockPlace_ne_dataPlace (directory : Place) : lockPlace directory ≠ dataPlace directory :=
  fun h => absurd (List.append_cancel_left h) (by decide)

/-- The steps of a plan before the last: they fill the temporary file. -/
def draft (directory : Place) (entries : Table String Metadata) : List WriteStep :=
  .start (tempPlace directory)
    :: (Snapshot.parts (Metadata.encodeTable entries)).map (.append (tempPlace directory))
    ++ [.sync (tempPlace directory)]

/-- The last step of a plan. -/
def publish (directory : Place) : WriteStep :=
  .publish (tempPlace directory) (dataPlace directory)

variable (directory : Place) (entries : Table String Metadata) (dev : Device)

theorem plan_eq : plan directory entries = draft directory entries ++ [publish directory] := by
  simp [plan, draft, publish, tempPlace, dataPlace]

theorem files_draft : ∀ step ∈ draft directory entries, ∀ q ∈ step.files,
    q ∈ [tempPlace directory] := by
  intro step hstep q hq
  simp only [draft, List.cons_append, List.mem_cons, List.mem_append, List.mem_map,
    List.not_mem_nil, or_false] at hstep
  rcases hstep with rfl | ⟨bytes, -, rfl⟩ | rfl <;> exact hq

theorem files_plan : ∀ step ∈ plan directory entries, ∀ q ∈ step.files,
    q ∈ [tempPlace directory, dataPlace directory] := by
  intro step hstep q hq
  rw [plan_eq, List.mem_append, List.mem_singleton] at hstep
  rcases hstep with hstep | rfl
  · exact List.mem_cons.mpr (.inl (List.mem_singleton.mp (files_draft _ _ step hstep q hq)))
  · exact hq

/-- What changes at most while the temporary file is written. -/
structure Drafted (d d' : Disk) : Prop where
  apart : Apart [tempPlace directory] d d'
  locks : d'.locks = d.locks

/-- What has changed when a table was written. -/
structure Published (d d' : Disk) : Prop where
  apart : Apart [tempPlace directory, dataPlace directory] d d'
  locks : d'.locks = d.locks
  data : ∃ i, d'.nodes.get? (dataPlace directory) = some (.file i (Snapshot.encode entries))

theorem drafted_performAll {steps : List WriteStep}
    (h : ∀ step ∈ steps, step ∈ draft directory entries) :
    Drafted directory dev.disk (dev.performAll steps).2.disk := by
  have hapart := dev.performAll_apart fun step hstep =>
    files_draft directory entries step (h step hstep)
  exact ⟨hapart.1, hapart.2⟩

/-- A draft that is finished is the whole snapshot. -/
theorem get?_of_draft {dev' : Device}
    (h : dev.performAll (draft directory entries) = (.ok (), dev')) :
    ∃ i, dev'.disk.nodes.get? (tempPlace directory) = some (.file i (Snapshot.encode entries)) := by
  rw [draft, List.cons_append, Device.performAll] at h
  rcases dev.perform_cases (.start (tempPlace directory)) with
    ⟨disk, rest, hrun, hp⟩ | ⟨e, disk, rest, hp, -⟩
  · rw [hp] at h
    dsimp only at h
    rw [Device.performAll_append] at h
    cases hcreate : dev.disk.create (tempPlace directory) with
    | error e => simp [WriteStep.run, hcreate, Except.map] at hrun
    | ok made =>
      obtain ⟨i, d⟩ := made
      simp only [WriteStep.run, hcreate, Except.map, Except.ok.injEq] at hrun
      subst hrun
      have hempty : d.nodes.get? (tempPlace directory) = some (.file i []) := by
        rw [(Disk.create_eq_ok hcreate).2.2.1, Table.get?_insert, if_pos rfl]
      split at h
      · cases h
      · rename_i dev₁ hparts
        refine ⟨i, ?_⟩
        have hfull := Device.performAll_appends hempty hparts
        rw [List.nil_append] at hfull
        -- the last step of the draft writes nothing
        rw [Device.performAll] at h
        rcases dev₁.perform_cases (.sync (tempPlace directory)) with
          ⟨disk, rest, hrun, hp⟩ | ⟨e, disk, rest, hp, -⟩
        · rw [hp] at h
          cases h
          cases hrun
          exact hfull
        · rw [hp] at h
          cases h
  · rw [hp] at h
    cases h

/-- **How a plan ends**: with a fault, and nothing but the temporary file has changed, or with
the new snapshot in the place of the old one. -/
theorem performAll_plan_cases :
    (∃ e dev', dev.performAll (plan directory entries) = (.error e, dev')
        ∧ Drafted directory dev.disk dev'.disk)
      ∨ ∃ dev', dev.performAll (plan directory entries) = (.ok (), dev')
        ∧ Published directory entries dev.disk dev'.disk := by
  have hdraft := drafted_performAll directory entries dev (fun _ h => h)
  have hwhole := dev.performAll_apart (files_plan directory entries)
  rw [plan_eq, Device.performAll_append] at hwhole ⊢
  cases hd : dev.performAll (draft directory entries) with
  | mk outcome dev₁ =>
    rw [hd] at hdraft hwhole
    cases outcome with
    | error e => exact .inl ⟨e, dev₁, rfl, hdraft⟩
    | ok u =>
      obtain ⟨i, hfull⟩ := get?_of_draft directory entries dev hd
      dsimp only at hwhole hdraft ⊢
      rw [Device.performAll] at hwhole ⊢
      rcases dev₁.perform_cases (publish directory) with
        ⟨disk, rest, hrun, hp⟩ | ⟨e, disk, rest, hp, hdisk⟩
      · rw [hp] at hwhole ⊢
        obtain ⟨i', content, hget, -, hnodes, -⟩ := Disk.rename_eq_ok hrun
        rw [hfull] at hget
        cases hget
        refine .inr ⟨⟨disk, rest⟩, rfl, hwhole.1, hwhole.2, i, ?_⟩
        dsimp only
        rw [hnodes, Table.get?_insert, if_pos rfl]
      · rw [hp]
        -- a move that fails has moved nothing
        have hsame : disk = dev₁.disk := by
          rcases hdisk with rfl | ⟨written, rfl⟩ <;> rfl
        subst hsame
        exact .inl ⟨e, _, rfl, hdraft⟩

/-- **What is left of a plan that stops half-way**: a draft, unless it did not stop before its
end. -/
theorem performAll_take_plan (n : Nat) :
    Drafted directory dev.disk (dev.performAll ((plan directory entries).take n)).2.disk
      ∨ (plan directory entries).take n = plan directory entries := by
  rcases Nat.lt_or_ge n (plan directory entries).length with hlt | hge
  · refine .inl (drafted_performAll directory entries dev fun step hstep => ?_)
    rw [plan_eq, List.length_append, List.length_singleton] at hlt
    rw [plan_eq, List.take_append_of_le_length (by omega)] at hstep
    exact List.mem_of_mem_take hstep
  · exact .inr (List.take_of_length_le hge)

end FileStore
end SubscriptionRegistry
