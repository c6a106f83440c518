/-
# The calls of a store, step by step

A call to open a directory or to change a store does several things to the disk, one after
another, and somebody else may do something between any two of them.  Here a call is taken apart
into these steps: a stage says how far it has come, and going on does one step.  Left alone, the
steps come to the call.

* `FileStore.Stage`: how far somebody is with a directory.
* `Stage.step`: what is done next, and what is told of it.
* `Stage.finish_enter`, `Stage.finish_begin`: steps that nobody disturbs are the calls.
* `FileStore.Drafting`: what stands in the files of a directory between two steps of writing.
-/
import SubscriptionRegistry.Proofs.File.Refinement

namespace SubscriptionRegistry
namespace FileStore

open Disk (Apart)

/-! ## 1. Stages -/

/-- How far somebody is with a directory. -/
inductive Stage
  /-- Nothing is open. -/
  | outside
  /-- On the way in: the directory is there. -/
  | found (path : String) (directory : Place)
  /-- On the way in: the file to be locked is there. -/
  | marked (path : String) (directory : Place) (lock : Nat)
  /-- On the way in: the lock is taken, and nothing was read. -/
  | admitted (path : String) (directory : Place) (lock : Nat)
  /-- A store is open. -/
  | holding (s : FileStore)
  /-- A store is open, with a change in its table that some steps of writing are left of; with it
  comes what the change has put away. -/
  | writing (s : FileStore) (c : Change) (previous : Option Metadata) (left : List WriteStep)

/-- What somebody may do next. -/
inductive Action
  /-- Call for the directory to be opened. -/
  | enter (config : FileConfig)
  /-- Call for a change. -/
  | begin (c : Change)
  /-- Close the store. -/
  | leave
  /-- Go on with the call. -/
  | goOn

/-- What somebody is told of a call: how it ended, or nothing yet. -/
abbrev Told := Option (Except StoreError Unit)

namespace Stage

/-- The lock is taken. -/
def Inside : Stage → Prop
  | admitted .. | holding _ | writing .. => True
  | outside | found .. | marked .. => False

/-- Looks for the directory, or makes it. -/
def enter (config : FileConfig) (dev : Device) : Stage → Told × Stage × Device
  | outside =>
    match provide config dev.disk with
    | (.error e, disk) => (some (.error e), outside, { dev with disk })
    | (.ok directory, disk) => (none, found config.path directory, { dev with disk })
  | stage => (none, stage, dev)

/-- Starts a change, which may end at once.  It is made in memory first. -/
def begin (c : Change) (dev : Device) : Stage → Told × Stage × Device
  | holding s =>
    if c.IsIdle s.entries then (some (.ok ()), holding s, dev)
    else
      let previous := s.entries.get? c.subject
      let changed := c.makeIn s
      if ((Route.ofString s.path).child tempFile).isTooLong then
        (some (.error (.io .nameTooLong)), holding (changed.restore c.subject previous), dev)
      else
        match dev.disk.locate (Route.ofString s.path) with
        | .error e => (some (.error (.io e)), holding (changed.restore c.subject previous), dev)
        | .ok directory => (none, writing changed c previous (plan directory changed.entries), dev)
  | stage => (none, stage, dev)

/-- Gives the lock back. -/
def leave (dev : Device) : Stage → Told × Stage × Device
  | holding s => (none, outside, s.close dev)
  | stage => (none, stage, dev)

/-- One more step of a call. -/
def goOn (dev : Device) : Stage → Told × Stage × Device
  | found path directory =>
    match makeLock (Route.ofString path) directory dev.disk with
    | .error e => (some (.error e), outside, dev)
    | .ok (lock, disk) => (none, marked path directory lock, { dev with disk })
  | marked path directory lock =>
    match dev.disk.lock? lock with
    | none => (some (.error .locked), outside, dev)
    | some disk => (none, admitted path directory lock, { dev with disk })
  | admitted path directory lock =>
    match readSnapshot (Route.ofString path) directory dev.disk with
    | .error e => (some (.error e), outside, { dev with disk := dev.disk.unlock lock })
    | .ok entries => (some (.ok ()), holding ⟨path, lock, entries⟩, dev)
  | writing s _ _ [] => (some (.ok ()), holding s, dev)
  | writing s c previous (step :: left) =>
    match dev.perform step with
    | (.error e, dev) => (some (.error (.io e)), holding (s.restore c.subject previous), dev)
    | (.ok (), dev) => (none, writing s c previous left, dev)
  | stage => (none, stage, dev)

/-- Does what is done next. -/
def step (a : Action) (dev : Device) (stage : Stage) : Told × Stage × Device :=
  match a with
  | .enter config => stage.enter config dev
  | .begin c => stage.begin c dev
  | .leave => stage.leave dev
  | .goOn => stage.goOn dev

/-- The change that somebody asks for, or is at. -/
def asked (a : Action) : Stage → Option Change
  | holding _ => match a with
    | .begin c => some c
    | _ => none
  | writing _ c _ _ => match a with
    | .goOn => some c
    | _ => none
  | _ => none

/-- The store that somebody has open, without a change that is still being written. -/
def store? : Stage → Option FileStore
  | .holding s => some s
  | .writing s c previous _ => some (s.restore c.subject previous)
  | .outside | .found .. | .marked .. | .admitted .. => none

/-- The change that somebody is told to be made. -/
def accepted (a : Action) (told : Told) (stage : Stage) : List Change :=
  match told with
  | some (.ok ()) => (stage.asked a).toList
  | _ => []

theorem accepted_congr {stage stage' : Stage} {a a' : Action} (h : stage.asked a = stage'.asked a')
    (told : Told) : stage.accepted a told = stage'.accepted a' told := by
  simp only [accepted, h]

/-- Whoever was told how the call ended has nothing to go on with. -/
theorem goOn_of_told {stage stage' : Stage} {dev dev' : Device} {outcome : Except StoreError Unit}
    (h : stage.goOn dev = (some outcome, stage', dev')) (dev'' : Device) :
    stage'.goOn dev'' = (none, stage', dev'') := by
  have hrest : stage' = outside ∨ ∃ s, stage' = holding s := by
    unfold goOn at h
    split at h <;> (try split at h) <;> cases h <;> simp
  rcases hrest with rfl | ⟨s, rfl⟩
  · rfl
  · rfl

/-- Going on, one asks for the same change. -/
theorem asked_goOn {stage stage' : Stage} {dev dev' : Device}
    (h : stage.goOn dev = (none, stage', dev')) : stage'.asked .goOn = stage.asked .goOn := by
  unfold goOn at h
  split at h <;> (try split at h) <;> cases h <;> rfl

/-- So it is with a call that ends at once, and with one that does not. -/
theorem rest_or_asked_of_enter {config : FileConfig} {stage' : Stage} {dev dev' : Device}
    {told : Told} (h : outside.enter config dev = (told, stage', dev')) :
    (told ≠ none → stage'.goOn dev' = (none, stage', dev'))
      ∧ (told = none → stage'.asked .goOn = none) := by
  rw [enter] at h
  split at h <;> cases h <;> simp [goOn, asked]

theorem rest_or_asked_of_begin {c : Change} {s : FileStore} {stage' : Stage} {dev dev' : Device}
    {told : Told} (h : (holding s).begin c dev = (told, stage', dev')) :
    (told ≠ none → stage'.goOn dev' = (none, stage', dev'))
      ∧ (told = none → stage'.asked .goOn = some c) := by
  rw [begin] at h
  split at h <;> (try split at h) <;> (try split at h) <;> cases h <;> simp [goOn, asked]

/-! ## 2. Calls that nobody disturbs -/

/-- Goes on, up to `n` steps, until it is told how the call ended. -/
def finish : Nat → Told × Stage × Device → Told × Stage × Device
  | n + 1, (none, stage, dev) => finish n (stage.goOn dev)
  | _, result => result

@[simp] theorem finish_some (n : Nat) (outcome : Except StoreError Unit) (stage : Stage)
    (dev : Device) : finish n (some outcome, stage, dev) = (some outcome, stage, dev) := by
  cases n <;> rfl

theorem finish_succ (n : Nat) (stage : Stage) (dev : Device) :
    finish (n + 1) (none, stage, dev) = finish n (stage.goOn dev) := rfl

/-- **Opened step by step, a directory is opened.** -/
theorem finish_enter (config : FileConfig) (dev : Device) :
    finish 3 (outside.enter config dev) = match FileStore.open config dev with
      | (.error e, dev) => (some (.error e), outside, dev)
      | (.ok s, dev) => (some (.ok ()), holding s, dev) := by
  rw [enter, FileStore.open]
  rcases provide config dev.disk with ⟨e | directory, disk⟩
  · exact finish_some 3 _ _ _
  dsimp only
  rw [finish_succ, goOn]
  rcases makeLock (Route.ofString config.path) directory disk with e | ⟨lock, disk⟩
  · exact finish_some 2 _ _ _
  dsimp only
  rw [finish_succ, goOn]
  rcases disk.lock? lock with - | disk
  · exact finish_some 1 _ _ _
  dsimp only
  rw [finish_succ, goOn]
  rcases readSnapshot (Route.ofString config.path) directory disk with e | entries
  · exact finish_some 0 _ _ _
  · exact finish_some 0 _ _ _

theorem finish_writing (s : FileStore) (c : Change) (previous : Option Metadata)
    (left : List WriteStep) (dev : Device) :
    finish (left.length + 1) (none, writing s c previous left, dev)
      = match dev.performAll left with
        | (.error e, dev) => (some (.error (.io e)), holding (s.restore c.subject previous), dev)
        | (.ok (), dev) => (some (.ok ()), holding s, dev) := by
  induction left generalizing dev with
  | nil => rfl
  | cons step left ih =>
    rw [List.length_cons, finish_succ, goOn, Device.performAll]
    rcases dev.perform step with ⟨e | u, dev⟩
    · exact finish_some _ _ _ _
    · exact ih dev

/-- **Changed step by step, a store is changed.** -/
theorem finish_begin (c : Change) (s : FileStore) (dev : Device) :
    finish ((c.steps ⟨s, dev⟩).length + 1) ((holding s).begin c dev)
      = match c.perform (Mounted.mk s dev) with
        | (outcome, b) => (some outcome, holding b.store, b.device) := by
  rw [begin, Change.steps]
  by_cases hidle : c.IsIdle s.entries
  · rw [if_pos hidle, if_pos hidle, Change.perform_of_isIdle hidle]
    exact finish_some _ _ _ _
  rw [if_neg hidle, if_neg hidle, Change.perform_of_not_isIdle hidle, writeSnapshot]
  dsimp only
  by_cases hlong : ((Route.ofString s.path).child tempFile).isTooLong
  · rw [if_pos hlong, if_pos hlong, if_pos hlong]
    exact finish_some _ _ _ _
  rw [if_neg hlong, if_neg hlong, if_neg hlong]
  rcases dev.disk.locate (Route.ofString s.path) with e | directory
  · exact finish_some _ _ _ _
  have hwriting := finish_writing (c.makeIn s) c (s.entries.get? c.subject)
    (plan directory (c.applyTo s.entries)) dev
  refine hwriting.trans ?_
  dsimp only
  rcases dev.performAll (plan directory (c.applyTo s.entries)) with ⟨e | u, dev⟩
  · rfl
  · rfl

end Stage

/-! ## 3. Between two steps of writing -/

/-- What stands in the files of a directory when some steps of a plan are left. -/
inductive Drafting (directory : Place) (t : Table String Metadata) (d : Disk) :
    List WriteStep → Prop
  | begun : Drafting directory t d (plan directory t)
  /-- Some parts are in the temporary file. -/
  | filled {i : Nat} {gone togo : List Bytes}
      (hparts : gone ++ togo = Snapshot.parts (Metadata.encodeTable t))
      (htemp : d.nodes.get? (tempPlace directory) = some (.file i gone.flatten)) :
      Drafting directory t d
        (togo.map (.append (tempPlace directory)) ++ [.sync (tempPlace directory), publish directory])
  /-- The temporary file is the snapshot. -/
  | synced {i : Nat}
      (htemp : d.nodes.get? (tempPlace directory) = some (.file i (Snapshot.encode t))) :
      Drafting directory t d [publish directory]
  /-- The data file is the snapshot. -/
  | published {i : Nat}
      (hdata : d.nodes.get? (dataPlace directory) = some (.file i (Snapshot.encode t))) :
      Drafting directory t d []

namespace Drafting

variable {directory : Place} {t : Table String Metadata} {d d' : Disk} {left : List WriteStep}
  {step : WriteStep}

/-- It depends on the two files alone. -/
theorem congr (h : Drafting directory t d left)
    (htemp : d'.nodes.get? (tempPlace directory) = d.nodes.get? (tempPlace directory))
    (hdata : d'.nodes.get? (dataPlace directory) = d.nodes.get? (dataPlace directory)) :
    Drafting directory t d' left := by
  cases h with
  | begun => exact .begun
  | filled hparts h => exact .filled hparts (htemp.trans h)
  | synced h => exact .synced (htemp.trans h)
  | published h => exact .published (hdata.trans h)

/-- What is left are steps of the plan. -/
theorem subset (h : Drafting directory t d left) : ∀ step ∈ left, step ∈ plan directory t := by
  cases h with
  | begun => exact fun _ hstep => hstep
  | @filled i gone togo hparts _ =>
    intro step hstep
    have hplan : plan directory t = .start (tempPlace directory)
        :: (gone ++ togo).map (.append (tempPlace directory))
          ++ [.sync (tempPlace directory), publish directory] := by
      rw [hparts]
      rfl
    rw [hplan, List.map_append, List.cons_append, List.append_assoc]
    exact List.mem_cons_of_mem _ (List.mem_append_right _ hstep)
  | synced =>
    intro step hstep
    rw [plan_eq]
    exact List.mem_append_right _ hstep
  | published =>
    intro step hstep
    cases hstep

theorem data_of_nil (h : Drafting directory t d []) :
    ∃ i, d.nodes.get? (dataPlace directory) = some (.file i (Snapshot.encode t)) := by
  generalize hleft : ([] : List WriteStep) = left at h
  cases h with
  | begun => cases hleft
  | filled => simp at hleft
  | synced => cases hleft
  | published hdata => exact ⟨_, hdata⟩

/-- **A step that runs leaves what the next one starts from**, and the data file is another one
after the last step only. -/
theorem run (h : Drafting directory t d (step :: left)) (hrun : step.run d = .ok d') :
    Drafting directory t d' left
      ∧ (left ≠ [] → d'.nodes.get? (dataPlace directory) = d.nodes.get? (dataPlace directory)) := by
  have hapart : ∀ step : WriteStep, step.files = [tempPlace directory] → step.run d = .ok d' →
      d'.nodes.get? (dataPlace directory) = d.nodes.get? (dataPlace directory) := by
    intro step hfiles hrun
    refine (WriteStep.run_apart hrun).1.elsewhere _ ?_
    simpa [hfiles] using dataPlace_ne_tempPlace directory
  generalize hsteps : step :: left = steps at h
  cases h with
  | begun =>
    obtain ⟨rfl, rfl⟩ := List.cons.inj hsteps
    refine ⟨?_, fun _ => hapart _ rfl hrun⟩
    have hrun' : (d.create (tempPlace directory)).map Prod.snd = .ok d' := hrun
    rcases hcreate : d.create (tempPlace directory) with e | ⟨i, d₁⟩ <;> rw [hcreate] at hrun' <;>
      cases hrun'
    have hempty : d₁.nodes.get? (tempPlace directory) = some (.file i ([] : List Bytes).flatten) := by
      rw [(Disk.create_eq_ok hcreate).2.2.1, Table.get?_insert, if_pos rfl]
      rfl
    exact .filled (List.nil_append _) hempty
  | @filled i gone togo hparts htemp =>
    cases togo with
    | nil =>
      obtain ⟨rfl, rfl⟩ := List.cons.inj hsteps
      cases hrun
      have hwhole : d.nodes.get? (tempPlace directory) = some (.file i (Snapshot.encode t)) := by
        rw [htemp, Snapshot.encode, Snapshot.frame, ← hparts, List.append_nil]
      exact ⟨.synced hwhole, fun _ => rfl⟩
    | cons bytes togo =>
      obtain ⟨rfl, rfl⟩ := List.cons.inj hsteps
      refine ⟨?_, fun _ => hapart _ rfl hrun⟩
      obtain ⟨i', content, hget, hnodes, -⟩ := Disk.append_eq_ok hrun
      rw [htemp] at hget
      cases hget
      have hmore : d'.nodes.get? (tempPlace directory)
          = some (.file i (gone ++ [bytes]).flatten) := by
        rw [hnodes, Table.get?_insert, if_pos rfl, List.flatten_append, List.flatten_singleton]
      exact .filled (by rw [← hparts, List.append_assoc]; rfl) hmore
  | @synced i htemp =>
    obtain ⟨rfl, rfl⟩ := List.cons.inj hsteps
    obtain ⟨i', content, hget, -, hnodes, -⟩ := Disk.rename_eq_ok hrun
    rw [htemp] at hget
    cases hget
    have hmoved : d'.nodes.get? (dataPlace directory) = some (.file i (Snapshot.encode t)) := by
      rw [hnodes, Table.get?_insert, if_pos rfl]
    exact ⟨.published hmoved, fun hleft => absurd rfl hleft⟩
  | published => cases hsteps

/-- A step that fails comes no further than the temporary file. -/
theorem drafted_of_error (hstep : step ∈ plan directory t) {dev dev' : Device} {e : IoFault}
    (h : dev.perform step = (.error e, dev')) : Drafted directory dev.disk dev'.disk := by
  have hlocks := (dev.perform_apart step).2
  rw [h] at hlocks
  refine ⟨?_, hlocks⟩
  rw [plan_eq, List.mem_append, List.mem_singleton] at hstep
  rcases hstep with hstep | rfl
  · have hapart := (dev.perform_apart step).1.mono (files_draft directory t step hstep)
    rw [h] at hapart
    exact hapart
  · rcases dev.perform_cases (publish directory) with
      ⟨disk, rest, -, hp⟩ | ⟨e', disk, rest, hp, hdisk⟩ <;> rw [hp] at h <;> cases h
    -- a move that fails has moved nothing
    rcases hdisk with rfl | ⟨written, rfl⟩
    · exact .refl _ _
    · exact .refl _ _

end Drafting
end FileStore
end SubscriptionRegistry
