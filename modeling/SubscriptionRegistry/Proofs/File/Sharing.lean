/-
# A directory that many open, one after another

Any number of users open one directory, change what they hold and close it again, and every one of
them may be anywhere in its calls while others take steps of theirs.  Each store keeps the whole
table in memory and writes all of it at every change.  That is safe because the lock comes first
and goes last: the table is read while the lock is held, and is written by the one that holds it.

The directory may be missing at first.  Nobody but the stores touches it; which steps of writing
fail is open, and what happens in the rest of the disk.

* `FileStore.World`, `World.act`: users, the disk they share, and the changes they were told of.
* `World.acts_enter`, `World.acts_begin`: steps that nobody disturbs are the calls of the store.
* `World.Run`: what may happen, from a directory that is `FileStore.Awaiting` them.
* `World.Shared`: the invariant, which says who has the lock and what the data file shows.
* `World.Run.nothing_lost`: one at a time has it open, and starts from what all before it did.
-/
import Mathlib.Logic.Function.Basic
import SubscriptionRegistry.Proofs.File.Moves

namespace SubscriptionRegistry
namespace FileStore

open Change (replayOn)
open Disk (Apart)

/-! ## 1. Users and the disk -/

/-- Users of a directory: the disk, how far each of them is, and the changes that any of them was
told to be made, in order. -/
structure World (ι : Type) where
  device : Device
  stage : ι → Stage
  log : List Change

namespace World

variable {ι : Type}

/-- Nobody has done anything. -/
def fresh (device : Device) : World ι := ⟨device, fun _ => .outside, []⟩

variable [DecidableEq ι]

/-- Somebody has come to a stage, and left a device behind. -/
def moved (w : World ι) (who : ι) (stage : Stage) (device : Device) (more : List Change) : World ι :=
  ⟨device, Function.update w.stage who stage, w.log ++ more⟩

/-- Somebody does what is next. -/
def act (who : ι) (a : Action) (w : World ι) : World ι :=
  match (w.stage who).step a w.device with
  | (told, stage, device) => w.moved who stage device ((w.stage who).accepted a told)

/-- Some steps, one after another. -/
def acts (steps : List (ι × Action)) (w : World ι) : World ι :=
  steps.foldl (fun w step => w.act step.1 step.2) w

section

variable {w : World ι} {who : ι} {stage : Stage} {device : Device} {more : List Change}

@[simp] theorem device_moved : (w.moved who stage device more).device = device := rfl

@[simp] theorem log_moved : (w.moved who stage device more).log = w.log ++ more := rfl

@[simp] theorem stage_moved_self : (w.moved who stage device more).stage who = stage :=
  Function.update_self ..

theorem stage_moved_of_ne {i : ι} (hi : i ≠ who) :
    (w.moved who stage device more).stage i = w.stage i :=
  Function.update_of_ne hi ..

/-- What is true of all stages, if it is true of the new one and of those of the others. -/
theorem forall_stage_moved {P : ι → Stage → Prop} (hself : P who stage)
    (hothers : ∀ i, i ≠ who → P i (w.stage i)) (i : ι) :
    P i ((w.moved who stage device more).stage i) := by
  by_cases hi : i = who
  · subst hi
    rw [stage_moved_self]
    exact hself
  · rw [stage_moved_of_ne hi]
    exact hothers i hi

theorem moved_moved {stage' : Stage} {device' : Device} {more' : List Change} :
    (w.moved who stage device more).moved who stage' device' more'
      = w.moved who stage' device' (more ++ more') := by
  rw [moved, moved, moved, Function.update_idem, List.append_assoc]

theorem moved_self : w.moved who (w.stage who) w.device [] = w := by
  rw [moved, Function.update_eq_self, List.append_nil]

theorem act_eq {a : Action} {told : Told}
    (h : (w.stage who).step a w.device = (told, stage, device)) :
    w.act who a = w.moved who stage device ((w.stage who).accepted a told) := by
  rw [act, h]

/-- Calls that do nothing. -/
theorem act_of_stays {a : Action} {told : Told}
    (h : (w.stage who).step a w.device = (told, w.stage who, w.device))
    (hnone : (w.stage who).accepted a told = []) : w.act who a = w := by
  rw [act_eq h, hnone, moved_self]

end

/-! ## 2. Calls that are made at one go -/

section

variable {w : World ι} {who : ι} {stage : Stage} {device : Device}

theorem acts_of_rest (n : Nat) (hrest : (w.stage who).goOn w.device = (none, w.stage who, w.device)) :
    w.acts (List.replicate n (who, .goOn)) = w := by
  have hstep : w.act who .goOn = w := act_of_stays hrest rfl
  induction n with
  | zero => rfl
  | succ n ih =>
    rw [List.replicate_succ, acts, List.foldl_cons, hstep]
    exact ih

theorem acts_goOn (n : Nat) (w : World ι) :
    w.acts (List.replicate n (who, .goOn))
      = match Stage.finish n (none, w.stage who, w.device) with
        | (told, stage, device) =>
          w.moved who stage device ((w.stage who).accepted .goOn told) := by
  induction n generalizing w with
  | zero => exact moved_self.symm
  | succ n ih =>
    rcases hstep : (w.stage who).goOn w.device with ⟨told, stage, device⟩
    rw [List.replicate_succ, acts, List.foldl_cons, act_eq (a := .goOn) hstep, Stage.finish_succ,
      hstep]
    cases told with
    | none =>
      have hnext := ih (w.moved who stage device [])
      rw [stage_moved_self, device_moved] at hnext
      refine hnext.trans ?_
      rcases Stage.finish n (none, stage, device) with ⟨told', stage', device'⟩
      dsimp only
      rw [moved_moved, List.nil_append, Stage.accepted_congr (Stage.asked_goOn hstep)]
    | some outcome =>
      rw [Stage.finish_some]
      refine acts_of_rest n ?_
      rw [stage_moved_self]
      exact Stage.goOn_of_told hstep _

/-- After the first step of a call one goes on until one is told how it ended. -/
theorem acts_call {a : Action} (n : Nat) {told : Told}
    (h : (w.stage who).step a w.device = (told, stage, device))
    (hrest : told ≠ none → stage.goOn device = (none, stage, device))
    (hasked : told = none → stage.asked .goOn = (w.stage who).asked a) :
    w.acts ((who, a) :: List.replicate n (who, .goOn))
      = match Stage.finish n (told, stage, device) with
        | (told, stage, device) => w.moved who stage device ((w.stage who).accepted a told) := by
  rw [acts, List.foldl_cons, act_eq h]
  cases told with
  | some outcome =>
    rw [Stage.finish_some]
    refine acts_of_rest n ?_
    rw [stage_moved_self]
    exact hrest (Option.some_ne_none outcome)
  | none =>
    refine (acts_goOn n (w.moved who stage device [])).trans ?_
    rw [stage_moved_self, device_moved]
    rcases Stage.finish n (none, stage, device) with ⟨told', stage', device'⟩
    dsimp only
    rw [moved_moved, List.nil_append, Stage.accepted_congr (hasked rfl)]

/-- **Opened at one go, a directory is opened.** -/
theorem acts_enter (hout : w.stage who = .outside) (config : FileConfig) :
    w.acts ((who, .enter config) :: List.replicate 3 (who, .goOn))
      = match FileStore.open config w.device with
        | (.error _, device) => w.moved who .outside device []
        | (.ok s, device) => w.moved who (.holding s) device [] := by
  rcases hstep : Stage.outside.enter config w.device with ⟨told, stage, device⟩
  obtain ⟨hrest, hasked⟩ := Stage.rest_or_asked_of_enter hstep
  have hfinish := Stage.finish_enter config w.device
  rw [hstep] at hfinish
  have hcall : (w.stage who).step (.enter config) w.device = (told, stage, device) := by
    rw [hout]
    exact hstep
  rw [acts_call 3 hcall hrest (by rw [hout]; exact hasked), hfinish, hout]
  rcases FileStore.open config w.device with ⟨e | s, device⟩
  · rfl
  · rfl

/-- **Changed at one go, a store is changed.** -/
theorem acts_begin {s : FileStore} (hs : w.stage who = .holding s) {c : Change}
    {outcome : Except StoreError Unit} {b : Mounted}
    (hperform : c.perform (Mounted.mk s w.device) = (outcome, b)) :
    w.acts ((who, .begin c) :: List.replicate ((c.steps ⟨s, w.device⟩).length + 1) (who, .goOn))
      = w.moved who (.holding b.store) b.device (c.ifMade outcome) := by
  rcases hstep : (Stage.holding s).begin c w.device with ⟨told, stage, device⟩
  obtain ⟨hrest, hasked⟩ := Stage.rest_or_asked_of_begin hstep
  have hfinish := Stage.finish_begin c s w.device
  rw [hstep, hperform] at hfinish
  have hcall : (w.stage who).step (.begin c) w.device = (told, stage, device) := by
    rw [hs]
    exact hstep
  rw [acts_call _ hcall hrest (by rw [hs]; exact hasked), hfinish, hs]
  cases outcome <;> rfl

end

end World

/-! ## 3. Runs -/

/-- What may happen to users of a directory. -/
inductive World.Run {ι : Type} [DecidableEq ι] (paths : String → Prop) (directory : Place)
    (start : World ι) : World ι → Prop
  | start : Run paths directory start start
  /-- Somebody does what is next. -/
  | act {w : World ι} (h : Run paths directory start w) (who : ι) (a : Action)
      (ha : a.Fair paths (w.stage who)) : Run paths directory start (w.act who a)
  /-- Something happens in the rest of the disk, or other steps of writing are to fail. -/
  | others {w : World ι} (h : Run paths directory start w) (device : Device)
      (hdisk : Elsewhere paths directory w.device.disk device.disk) :
      Run paths directory start { w with device }

/-! ## 4. The invariant -/

namespace World

open Stage (Move)

variable {ι : Type} {paths : String → Prop} {directory : Place} {t₀ : Table String Metadata}
  {w : World ι} {occupant : Option ι}

/-- How far the one is who has the lock. -/
def inside (w : World ι) (occupant : Option ι) : Stage := occupant.elim .outside w.stage

/-- Users share a directory: at most one has the lock, and the data file shows the table with all
changes that any of them was told of, unless that one is just about to be told of another. -/
structure Shared (paths : String → Prop) (directory : Place) (t₀ : Table String Metadata)
    (w : World ι) (occupant : Option ι) : Prop where
  ground : Ground paths directory w.device.disk
  placed : ∀ who, (w.stage who).At paths directory w.device.disk
  inside_iff : ∀ who, (w.stage who).Inside ↔ occupant = some who
  locked : w.device.disk.locks.count (lockIdentity directory w.device.disk)
    = if occupant.isSome then 1 else 0
  shows : (w.inside occupant).Shows paths directory (replayOn t₀ w.log) w.device.disk

namespace Shared

theorem marked_of_inside (h : Shared paths directory t₀ w occupant) {who : ι}
    (hin : (w.stage who).Inside) : ∃ lock, Marked directory w.device.disk lock := by
  have hat := h.placed who
  cases hstage : w.stage who <;> rw [hstage] at hin hat
  · cases hin
  · cases hin
  · cases hin
  · exact ⟨_, hat.2.2⟩
  · exact ⟨_, hat.2⟩
  · exact ⟨_, hat.2⟩

theorem shows_of_inside (h : Shared paths directory t₀ w occupant) {who : ι}
    (hin : (w.stage who).Inside) :
    (w.stage who).Shows paths directory (replayOn t₀ w.log) w.device.disk := by
  obtain rfl := (h.inside_iff who).mp hin
  exact h.shows

/-- Nothing that others do to the rest of the disk is noticed. -/
theorem spared (h : Shared paths directory t₀ w occupant) {device : Device}
    (hdisk : Spared paths directory w.device.disk device.disk) :
    Shared paths directory t₀ { w with device } occupant where
  ground := hdisk.ground h.ground
  placed who := (h.placed who).mono fun _ => hdisk.marked
  inside_iff := h.inside_iff
  locked := by
    refine hdisk.count (fun hn => ?_) h.locked
    cases occupant with
    | none => exact absurd rfl hn
    | some who => exact h.marked_of_inside ((h.inside_iff who).mpr rfl)
  shows := Stage.Shows.congr h.shows h.ground.isDirectory (hdisk.isDirectory h.ground.isDirectory)
    (hdisk.files tempFile) (hdisk.files dataFile)

theorem held (h : Shared paths directory t₀ w occupant) {who : ι} (hin : (w.stage who).Inside) :
    lockIdentity directory w.device.disk ∈ w.device.disk.locks := by
  obtain rfl := (h.inside_iff who).mp hin
  exact List.count_pos_iff.mp (by rw [h.locked]; exact Nat.one_pos)

/-- The directory as it is found when nobody has the lock. -/
theorem prepared (h : Shared paths directory t₀ w none) :
    Prepared paths directory (replayOn t₀ w.log) w.device.disk :=
  ⟨h.ground, List.count_eq_zero.mp h.locked, h.shows⟩

theorem eq_none (h : Shared paths directory t₀ w occupant)
    (hout : ∀ who, ¬ (w.stage who).Inside) : occupant = none := by
  cases occupant with
  | none => rfl
  | some who => exact absurd ((h.inside_iff who).mpr rfl) (hout who)

/-- Only one has the lock. -/
theorem eq_of_inside (h : Shared paths directory t₀ w occupant) {who other : ι}
    (hwho : (w.stage who).Inside) (hother : (w.stage other).Inside) : who = other := by
  have heq := ((h.inside_iff who).mp hwho).symm.trans ((h.inside_iff other).mp hother)
  exact Option.some.inj heq

variable [DecidableEq ι] {who : ι} {stage : Stage} {device : Device} {more : List Change}

/-- What is to be shown when somebody comes to another stage. -/
theorem replace (h : Shared paths directory t₀ w occupant) {occupant' : Option ι}
    (hground : Ground paths directory device.disk)
    (hmarked : ∀ lock, Marked directory w.device.disk lock → Marked directory device.disk lock)
    (hat : stage.At paths directory device.disk)
    (hin : stage.Inside ↔ occupant' = some who)
    (hothers : ∀ i, i ≠ who → (occupant = some i ↔ occupant' = some i))
    (hlocked : device.disk.locks.count (lockIdentity directory device.disk)
      = if occupant'.isSome then 1 else 0)
    (hshows : ((w.moved who stage device more).inside occupant').Shows paths directory
      (replayOn t₀ (w.log ++ more)) device.disk) :
    Shared paths directory t₀ (w.moved who stage device more) occupant' where
  ground := hground
  placed := forall_stage_moved hat fun i _ => (h.placed i).mono hmarked
  inside_iff := forall_stage_moved (P := fun i stage => stage.Inside ↔ occupant' = some i) hin
    fun i hi => (h.inside_iff i).trans (hothers i hi)
  locked := hlocked
  shows := hshows

/-- Somebody without the lock comes to another stage without it. -/
theorem approaches (h : Shared paths directory t₀ w occupant) (hout : ¬ (w.stage who).Inside)
    (hstage : ¬ stage.Inside) (hapart : Apart [lockPlace directory] w.device.disk device.disk)
    (hmarked : ∀ lock, Marked directory w.device.disk lock → Marked directory device.disk lock)
    (hat : stage.At paths directory device.disk)
    (hlocked : device.disk.locks.count (lockIdentity directory device.disk)
      = w.device.disk.locks.count (lockIdentity directory w.device.disk)) :
    Shared paths directory t₀ (w.moved who stage device []) occupant := by
  have hother : occupant ≠ some who := fun heq => hout ((h.inside_iff who).mpr heq)
  have hsame : (w.moved who stage device []).inside occupant = w.inside occupant := by
    cases occupant with
    | none => rfl
    | some i => exact stage_moved_of_ne fun hi => hother (congrArg some hi)
  refine h.replace (h.ground.of_apart hapart) hmarked hat
    ⟨fun hin => absurd hin hstage, fun heq => absurd heq hother⟩ (fun _ _ => Iff.rfl)
    (hlocked.trans h.locked) ?_
  rw [hsame, List.append_nil]
  exact h.shows.congr h.ground.isDirectory (h.ground.of_apart hapart).isDirectory
    (hapart.elsewhere _ (by simpa using (lockPlace_ne_tempPlace directory).symm))
    (data_of_apart_lock hapart)

/-- Somebody takes the lock: nobody had it. -/
theorem enters (h : Shared paths directory t₀ w occupant) {path : String} {lock : Nat}
    (hwho : w.stage who = .marked path directory lock) (hfree : lock ∉ w.device.disk.locks) :
    Shared paths directory t₀ (w.moved who (.admitted path directory lock)
      { w.device with disk := { w.device.disk with locks := lock :: w.device.disk.locks } } [])
      (some who) := by
  have hat := h.placed who
  rw [hwho] at hat
  have hid := lockIdentity_of_marked hat.2.2
  have hnone : occupant = none := by
    have hlocked := h.locked
    rw [hid, List.count_eq_zero.mpr hfree] at hlocked
    cases occupant with
    | none => rfl
    | some i => cases hlocked
  subst hnone
  have hapart := apart_locks w.device.disk (lock :: w.device.disk.locks)
  refine h.replace (h.ground.of_apart hapart) (fun _ hmarked => hmarked) hat
    ⟨fun _ => rfl, fun _ => trivial⟩ (fun i hi => ?_) ?_ ?_
  · simp [hi.symm]
  · show List.count (lockIdentity directory w.device.disk) (lock :: w.device.disk.locks) = 1
    rw [hid, List.count_cons_self, List.count_eq_zero.mpr hfree]
  · rw [inside, Option.elim_some, stage_moved_self, List.append_nil]
    exact h.shows.congr h.ground.isDirectory (h.ground.of_apart hapart).isDirectory rfl rfl

/-- The one who has the lock keeps it, and may have written. -/
theorem works (h : Shared paths directory t₀ w occupant) (hwho : (w.stage who).Inside)
    (hstage : stage.Inside)
    (hapart : Apart [tempPlace directory, dataPlace directory] w.device.disk device.disk)
    (hlocks : device.disk.locks = w.device.disk.locks)
    (hat : stage.At paths directory w.device.disk)
    (hshows : stage.Shows paths directory (replayOn t₀ (w.log ++ more)) device.disk) :
    Shared paths directory t₀ (w.moved who stage device more) (some who) := by
  have hmarked : ∀ lock, Marked directory w.device.disk lock → Marked directory device.disk lock :=
    fun _ hlock => hlock.of_written hapart
  obtain ⟨lock, hlock⟩ := h.marked_of_inside hwho
  obtain rfl : occupant = some who := (h.inside_iff who).mp hwho
  refine h.replace (h.ground.of_apart hapart) hmarked (hat.mono hmarked)
    ⟨fun _ => rfl, fun _ => hstage⟩ (fun _ _ => Iff.rfl) ?_ ?_
  · rw [hlocks, lockIdentity_of_marked (hmarked lock hlock), ← lockIdentity_of_marked hlock]
    exact h.locked
  · rw [inside, Option.elim_some, stage_moved_self]
    exact hshows

/-- The lock is given back. -/
theorem leaves (h : Shared paths directory t₀ w occupant) {s : FileStore}
    (hwho : w.stage who = .holding s) :
    Shared paths directory t₀ (w.moved who .outside (s.close w.device) []) none := by
  have hin : (w.stage who).Inside := by
    rw [hwho]
    trivial
  obtain rfl : occupant = some who := (h.inside_iff who).mp hin
  have hat := h.placed who
  have hshows := h.shows_of_inside hin
  rw [hwho] at hat hshows
  have hid := lockIdentity_of_marked hat.2
  have hlocked := h.locked
  have hapart := apart_locks w.device.disk (w.device.disk.locks.erase s.lock)
  refine h.replace (h.ground.of_apart hapart) (fun _ hmarked => hmarked) trivial
    ⟨fun hin => hin.elim, fun heq => nomatch heq⟩ (fun i hi => ?_) ?_ ?_
  · simp [hi.symm]
  · show List.count (lockIdentity directory w.device.disk) (w.device.disk.locks.erase s.lock) = 0
    rw [hid] at hlocked
    rw [hid, List.count_erase_self, hlocked]
    rfl
  · rw [List.append_nil]
    exact hshows.1.congr h.ground.isDirectory (h.ground.of_apart hapart).isDirectory rfl

/-- Moves without the lock, up to the one that takes it. -/
theorem move_outside (h : Shared paths directory t₀ w occupant) (hout : ¬ (w.stage who).Inside)
    (hmove : Move paths directory w.device (w.stage who) more stage device) :
    ∃ occupant', Shared paths directory t₀ (w.moved who stage device more) occupant' := by
  have hat := h.placed who
  generalize hwho : w.stage who = before at hmove hat
  cases hmove with
  | stay =>
    refine ⟨_, h.approaches hout ?_ (.refl _ _) (fun _ hmarked => hmarked) hat rfl⟩
    rw [← hwho]
    exact hout
  | find hpath =>
    exact ⟨_, h.approaches hout id (.refl _ _) (fun _ hmarked => hmarked) ⟨hpath, rfl⟩ rfl⟩
  | @mark path lock disk hpath hcreate =>
    obtain ⟨disk', hcreate', hmarked, hkeeps⟩ := h.ground.create
    rw [hcreate] at hcreate'
    cases hcreate'
    refine ⟨_, h.approaches hout id (Disk.create_apart hcreate) hkeeps ⟨hpath, rfl, hmarked⟩ ?_⟩
    dsimp only
    rw [lockIdentity_of_marked hmarked, (Disk.create_eq_ok hcreate).2.2.2]
  | refuse =>
    exact ⟨_, h.approaches hout id (.refl _ _) (fun _ hmarked => hmarked) trivial rfl⟩
  | take hfree => exact ⟨_, h.enters hwho hfree⟩
  | _ => exact absurd (hwho ▸ trivial) hout

/-- **Every move keeps the invariant.** -/
theorem move (h : Shared paths directory t₀ w occupant) (hspell : Spellings paths)
    (hmove : Move paths directory w.device (w.stage who) more stage device) :
    ∃ occupant', Shared paths directory t₀ (w.moved who stage device more) occupant' := by
  by_cases hin : (w.stage who).Inside
  · have hat := h.placed who
    obtain rfl := (h.inside_iff who).mp hin
    by_cases hin' : stage.Inside
    · obtain ⟨hshows, hapart, hlocks⟩ :=
        hmove.shows hspell h.ground.isDirectory hin hin' hat h.shows
      rw [← Change.replayOn_append] at hshows
      exact ⟨_, h.works hin hin' hapart hlocks (hmove.at_inside hin hin' hat) hshows⟩
    · -- the only way out is to close the store
      generalize hwho : w.stage who = before at hmove hin
      cases hmove with
      | leave => exact ⟨_, h.leaves hwho⟩
      | stay => exact absurd hin hin'
      | find | mark | refuse | take => exact hin.elim
      | _ => exact absurd trivial hin'
  · exact h.move_outside hin hmove

/-- **Every step keeps the invariant.** -/
theorem act (h : Shared paths directory t₀ w occupant) (hspell : Spellings paths) {a : Action}
    (ha : a.Fair paths (w.stage who)) :
    ∃ occupant', Shared paths directory t₀ (w.act who a) occupant' := by
  rw [World.act]
  rcases hstep : (w.stage who).step a w.device with ⟨told, stage, device⟩
  exact h.move hspell
    (Stage.move_step hspell h.ground (h.placed who) h.shows_of_inside ha hstep)

theorem acts (h : Shared paths directory t₀ w occupant) (hspell : Spellings paths)
    {steps : List (ι × Action)} (hfair : ∀ step ∈ steps, ∀ stage, step.2.Fair paths stage) :
    ∃ occupant', Shared paths directory t₀ (w.acts steps) occupant' := by
  induction steps generalizing w occupant with
  | nil => exact ⟨occupant, h⟩
  | cons step rest ih =>
    obtain ⟨occupant', h'⟩ := h.act hspell (hfair step List.mem_cons_self (w.stage step.1))
    exact ih h' fun step hstep => hfair step (List.mem_cons_of_mem _ hstep)

/-- A change is made at one go. -/
theorem perform (h : Shared paths directory t₀ w occupant) (hspell : Spellings paths)
    {s : FileStore} (hs : w.stage who = .holding s) {c : Change} (hc : c.Sound)
    (hroom : Snapshot.Room (c.applyTo s.entries)) {outcome : Except StoreError Unit} {b : Mounted}
    (hperform : c.perform (Mounted.mk s w.device) = (outcome, b)) :
    ∃ occupant', Shared paths directory t₀
      (w.moved who (.holding b.store) b.device (c.ifMade outcome)) occupant' := by
  have hfair : Action.Fair paths (.begin c) (w.stage who) := by
    rw [hs]
    exact ⟨hc, hroom⟩
  obtain ⟨_, hbegun⟩ := h.act hspell hfair
  have hrest : ∀ step ∈ List.replicate ((c.steps ⟨s, w.device⟩).length + 1) (who, Action.goOn),
      ∀ stage, step.2.Fair paths stage := by
    simp [Action.Fair]
  rw [← acts_begin hs hperform]
  exact hbegun.acts hspell hrest

end Shared

/-! ## 5. What runs keep -/

/-- The directory may still be missing: then nobody has come further than to ask for it. -/
inductive Kept (paths : String → Prop) (directory : Place) (t₀ : Table String Metadata) :
    World ι → Prop
  | missing {device : Device} (h : Awaiting paths directory t₀ device.disk) :
      Kept paths directory t₀ (fresh device)
  | shared {w : World ι} {occupant : Option ι} (h : Shared paths directory t₀ w occupant) :
      Kept paths directory t₀ w

/-- Whoever finds the directory, or makes it, is the first of those who share it. -/
theorem shared_of_prepared [DecidableEq ι] {who : ι} {path : String} {dev device : Device}
    (hpath : paths path) (h : Prepared paths directory t₀ device.disk) :
    Shared paths directory t₀ ((fresh dev).moved who (.found path directory) device []) none where
  ground := h.toGround
  placed := forall_stage_moved ⟨hpath, rfl⟩ fun _ _ => trivial
  inside_iff := forall_stage_moved (P := fun i stage => stage.Inside ↔ none = some i)
    ⟨fun hin => hin.elim, fun heq => nomatch heq⟩
    fun _ _ => ⟨fun hin => hin.elim, fun heq => nomatch heq⟩
  locked := List.count_eq_zero.mpr h.free
  shows := h.reads

theorem Kept.act [DecidableEq ι] (h : Kept paths directory t₀ w) (hspell : Spellings paths)
    {who : ι} {a : Action} (ha : a.Fair paths (w.stage who)) :
    Kept paths directory t₀ (w.act who a) := by
  cases h with
  | shared h =>
    obtain ⟨occupant, h⟩ := h.act hspell ha
    exact .shared h
  | @missing device h =>
    cases a with
    | enter config =>
      have hstep : ((fresh device : World ι).stage who).step (.enter config) device
          = Stage.outside.enter config device := rfl
      rcases h.provide_cases ha with ⟨e, hprovide⟩ | ⟨disk, hprovide, hprepared⟩
      · rw [Stage.enter, hprovide] at hstep
        rw [act_of_stays hstep rfl]
        exact .missing h
      · rw [Stage.enter, hprovide] at hstep
        rw [World.act, show (fresh device : World ι).device = device from rfl, hstep]
        exact .shared (shared_of_prepared ha hprepared)
    | begin c =>
      rw [act_of_stays rfl rfl]
      exact .missing h
    | leave =>
      rw [act_of_stays rfl rfl]
      exact .missing h
    | goOn =>
      rw [act_of_stays rfl rfl]
      exact .missing h

theorem Kept.others (h : Kept paths directory t₀ w) {device : Device}
    (hdisk : Elsewhere paths directory w.device.disk device.disk) :
    Kept paths directory t₀ { w with device } := by
  cases h with
  | missing h => exact .missing (hdisk.awaiting h)
  | shared h => exact .shared (h.spared hdisk.toSpared)

theorem Run.kept [DecidableEq ι] (hspell : Spellings paths) {device : Device}
    (hstart : Awaiting paths directory t₀ device.disk)
    (hrun : Run paths directory (fresh device) w) : Kept paths directory t₀ w := by
  induction hrun with
  | start => exact .missing hstart
  | act _ who a ha ih => exact ih.act hspell ha
  | others _ device hdisk ih => exact ih.others hdisk

end World

/-! ## 6. Nothing is lost -/

namespace World

variable {ι : Type} [DecidableEq ι] {paths : String → Prop} {directory : Place}
  {t₀ : Table String Metadata} {w : World ι} {occupant : Option ι}

/-- No change that anybody was told of is lost. -/
structure NothingLost (paths : String → Prop) (directory : Place) (t₀ : Table String Metadata)
    (w : World ι) : Prop where
  /-- At most one has the lock. -/
  exclusive : ∀ who other, (w.stage who).Inside → (w.stage other).Inside → who = other
  /-- Whoever calls for the directory meanwhile is told that it is locked.  Nothing but the file
  that is locked is touched. -/
  refused : ∀ who, (w.stage who).Inside → ∀ config : FileConfig, paths config.path →
    ∃ disk, FileStore.open config w.device = (.error .locked, { w.device with disk })
      ∧ Apart [lockPlace directory] w.device.disk disk ∧ disk.locks = w.device.disk.locks
  /-- So is whoever is on the way in, and comes to the lock. -/
  turnedAway : ∀ who, (w.stage who).Inside → ∀ other path place lock,
    w.stage other = .marked path place lock →
      (w.stage other).step .goOn w.device = (some (.error .locked), .outside, w.device)
  /-- Whoever has just taken the lock gets a store that holds what all changes that anybody was told
  of come to, in order. -/
  admitted : ∀ who path place lock, w.stage who = .admitted path place lock →
    ∃ t, (w.stage who).step .goOn w.device
        = (some (.ok ()), .holding ⟨path, lock, t⟩, w.device)
      ∧ t.get? = (replayOn t₀ w.log).get?
  /-- No step of others reaches the one who has the lock, nor the data file. -/
  undisturbed : ∀ who, (w.stage who).Inside → ∀ other, other ≠ who →
    ∀ a : Action, a.Fair paths (w.stage other) →
      (w.act other a).stage who = w.stage who ∧ (w.act other a).log = w.log
        ∧ (w.act other a).device.disk.nodes.get? (dataPlace directory)
          = w.device.disk.nodes.get? (dataPlace directory)
  /-- Every open store goes on to hold just that. -/
  entries : ∀ who s, (w.stage who).store? = some s →
    s.entries.get? = (replayOn t₀ w.log).get?
  /-- While a change is written it is in memory already. -/
  pending : ∀ who s c previous left, w.stage who = .writing s c previous left →
    s.entries.get? = (replayOn t₀ (w.log ++ [c])).get?
  /-- A change that somebody is told of is found by whoever comes next, one that fails is not. -/
  saved : ∀ who s, w.stage who = .holding s →
    ∀ c : Change, c.Sound → Snapshot.Room (c.applyTo s.entries) →
    ∀ outcome b, c.perform (Mounted.mk s w.device) = (outcome, b) →
    ∀ config : FileConfig, paths config.path →
    ∃ s' device, FileStore.open config (b.store.close b.device) = (.ok s', device)
      ∧ s'.entries.get? = (replayOn t₀ (w.log ++ c.ifMade outcome)).get?
  /-- When nobody has the lock, whoever calls for the directory gets a store that holds it. -/
  opens : (∀ who, ¬ (w.stage who).Inside) → ∀ config : FileConfig, paths config.path →
    (config.createIfMissing ∨ w.device.disk.locate (Route.ofString config.path) = .ok directory) →
    ∃ s device, FileStore.open config w.device = (.ok s, device)
      ∧ s.entries.get? = (replayOn t₀ w.log).get?

namespace Shared

theorem nothingLost (h : Shared paths directory t₀ w occupant) (hspell : Spellings paths) :
    NothingLost paths directory t₀ w where
  exclusive _ _ hwho hother := h.eq_of_inside hwho hother
  refused who hwho config hpath := open_of_held hspell hpath h.ground (h.held hwho)
  turnedAway who hwho other path place lock hother := by
    have hat := h.placed other
    rw [hother] at hat
    have hheld := h.held hwho
    rw [lockIdentity_of_marked hat.2.2] at hheld
    rw [hother, Stage.step, Stage.goOn, Disk.lock?, if_pos (by simpa using hheld)]
  admitted who path place lock hwho := by
    have hat := h.placed who
    have hin : (w.stage who).Inside := by
      rw [hwho]
      trivial
    have hshows := h.shows_of_inside hin
    rw [hwho] at hat hshows ⊢
    obtain ⟨hpath, rfl, -⟩ := hat
    obtain ⟨t, hread, hget, -⟩ := hshows path hpath
    exact ⟨t, by rw [Stage.step, Stage.goOn, hread], hget⟩
  undisturbed who hwho other hne a ha := by
    have hout : ¬ (w.stage other).Inside := fun hother => hne (h.eq_of_inside hother hwho)
    rw [World.act]
    rcases hstep : (w.stage other).step a w.device with ⟨told, stage, device⟩
    have hmove := Stage.move_step hspell h.ground (h.placed other) h.shows_of_inside ha hstep
    obtain ⟨hapart, hnone⟩ := hmove.apart hout
    refine ⟨stage_moved_of_ne hne.symm, ?_, ?_⟩
    · rw [log_moved, hnone, List.append_nil]
    · exact data_of_apart_lock hapart
  entries who s hs := by
    have hin : (w.stage who).Inside := by
      cases hstage : w.stage who <;> rw [hstage] at hs <;> trivial
    have hshows := h.shows_of_inside hin
    cases hstage : w.stage who <;> rw [hstage] at hs hshows <;> cases hs
    · exact hshows.2.same
    · exact hshows.undone.same
  pending who s c previous left hwho := by
    have hin : (w.stage who).Inside := by
      rw [hwho]
      trivial
    have hshows := h.shows_of_inside hin
    rw [hwho] at hshows
    rw [Change.replayOn_append]
    exact hshows.made
  saved who s hs c hc hroom outcome b hperform config hpath := by
    obtain ⟨_, hchanged⟩ := h.perform hspell hs hc hroom hperform
    have hclosed := hchanged.leaves stage_moved_self
    have hprepared := hclosed.prepared
    rw [moved_moved, log_moved, List.append_nil] at hprepared
    exact open_of_prepared hspell hpath (hclosed.ground.provide hpath) hprepared
  opens hout config hpath _ := by
    obtain rfl := h.eq_none hout
    exact open_of_prepared hspell hpath (h.ground.provide hpath) h.prepared

end Shared

theorem Kept.nothingLost (h : Kept paths directory t₀ w) (hspell : Spellings paths) :
    NothingLost paths directory t₀ w := by
  cases h with
  | shared h => exact h.nothingLost hspell
  | @missing device h =>
    exact {
      exclusive := fun _ _ hwho _ => hwho.elim
      refused := fun _ hwho => hwho.elim
      turnedAway := fun _ hwho => hwho.elim
      admitted := fun _ _ _ _ hwho => nomatch hwho
      undisturbed := fun _ hwho => hwho.elim
      entries := fun _ _ hs => nomatch hs
      pending := fun _ _ _ _ _ hs => nomatch hs
      saved := fun _ _ hs => nomatch hs
      opens := by
        intro _ config hpath hthere
        obtain ⟨disk, hprovide, hprepared⟩ := h.provide_of hpath hthere
        exact open_of_prepared hspell hpath hprovide hprepared }

/-- **No update is lost**, however the calls of those who share a directory are mixed. -/
theorem Run.nothing_lost (hspell : Spellings paths) {device : Device}
    (hstart : Awaiting paths directory t₀ device.disk)
    (hrun : Run paths directory (fresh device) w) : NothingLost paths directory t₀ w :=
  (hrun.kept hspell hstart).nothingLost hspell

theorem Run.acts {start : World ι} (h : Run paths directory start w) {steps : List (ι × Action)}
    (hfair : ∀ step ∈ steps, ∀ stage, step.2.Fair paths stage) :
    Run paths directory start (w.acts steps) := by
  induction steps generalizing w with
  | nil => exact h
  | cons step rest ih =>
    exact ih (h.act step.1 step.2 (hfair step List.mem_cons_self _))
      fun step hstep => hfair step (List.mem_cons_of_mem _ hstep)

namespace Demo

/-- A user opens a directory that is missing. -/
def opened : World Bool :=
  (fresh (.sound .empty)).acts ((true, .enter ⟨"subs", true⟩) :: List.replicate 3 (true, .goOn))

/-- The user makes a change, while another one asks for the directory in vain, and closes it. -/
def closed : World Bool :=
  (opened.act true (.begin Mounted.Demo.first)).acts <|
    (false, .enter ⟨"subs", false⟩) :: List.replicate 2 (false, .goOn)
      ++ List.replicate 9 (true, .goOn) ++ [(true, .leave)]

theorem stage_closed (who : Bool) : closed.stage who = .outside := by
  cases who <;> rfl

theorem spellings : Spellings (· = "subs") := spellings_of_eq rfl

theorem awaiting : Awaiting (· = "subs") ["subs"] .empty Disk.empty := by
  rintro _ rfl
  refine ⟨{ Disk.empty with nodes := Disk.empty.nodes.insert ["subs"] .directory }, rfl, ?_⟩
  exact {
    located := by
      rintro _ rfl
      rfl
    isDirectory := rfl
    lockFile := by decide
    free := by decide
    reads := fun path _ => ⟨.empty, readSnapshot_of_absent rfl rfl, rfl, fun _ _ hm => nomatch hm⟩ }

theorem fair_first : Action.Fair (· = "subs") (.begin Mounted.Demo.first) (opened.stage true) := by
  have hstage : opened.stage true = .holding ⟨"subs", 0, .empty⟩ := rfl
  rw [hstage]
  refine ⟨Mounted.Demo.sound_first, by decide, ?_⟩
  rw [Metadata.length_encodeTable]
  decide +kernel

theorem run : Run (· = "subs") ["subs"] (fresh (.sound .empty)) closed := by
  have hopened : Run (· = "subs") ["subs"] (fresh (.sound .empty)) opened :=
    Run.start.acts (by simp [Action.Fair])
  exact (hopened.act true _ fair_first).acts (by simp [Action.Fair])

end Demo

/-- Whoever comes next finds the change. -/
theorem Run.nothing_lost_demo :
    Spellings (· = "subs") ∧ Awaiting (· = "subs") ["subs"] .empty Disk.empty
      ∧ Run (· = "subs") ["subs"] (fresh (.sound .empty)) Demo.closed
      ∧ ∃ s device, FileStore.open ⟨"subs", false⟩ Demo.closed.device = (.ok s, device)
        ∧ s.entries.get? "a" = some ⟨"a", "A", "f", "bus:/in"⟩ := by
  have hlost := Run.nothing_lost Demo.spellings Demo.awaiting Demo.run
  have hout : ∀ who, ¬ (Demo.closed.stage who).Inside := by
    intro who
    rw [Demo.stage_closed]
    exact id
  obtain ⟨s, device, hopen, hget⟩ := hlost.opens hout ⟨"subs", false⟩ rfl (.inr rfl)
  refine ⟨Demo.spellings, Demo.awaiting, Demo.run, s, device, hopen, ?_⟩
  have hlog : Demo.closed.log = [Mounted.Demo.first] := rfl
  rw [hget, hlog]
  rfl

end World
end FileStore
end SubscriptionRegistry
