/-
# What a step can do in a shared directory

Where the directory is there, and one who has the lock can read the data file, a step is one of a
few moves.  Those without the lock touch the file to be locked, and no other; the one who has it
touches the files of the snapshot, and no other.  While it writes a change that change stands in
memory already; the data file goes on to show the table without it up to the last step.

* `FileStore.Stage.At`, `Stage.Shows`: where somebody is, and what the data file shows meanwhile.
* `Stage.Move`, `Stage.move_step`: the moves, and that there are no others.
* `Stage.Move.apart`, `Stage.Move.shows`: what a move does to the disk.
-/
import SubscriptionRegistry.Proofs.File.Directory
import SubscriptionRegistry.Proofs.File.Steps

namespace SubscriptionRegistry

/-! ## 1. Changes made one after another -/

namespace Change

/-- What changes make of a table, one after another. -/
def replayOn (t : Table String Metadata) (log : List Change) : Table String Metadata :=
  log.foldl (fun t c => c.applyTo t) t

/-- A change, if somebody is told that it was made. -/
def ifMade (c : Change) : Except StoreError Unit → List Change
  | .ok () => [c]
  | .error _ => []

theorem replayOn_append (t : Table String Metadata) (log more : List Change) :
    replayOn t (log ++ more) = replayOn (replayOn t log) more :=
  List.foldl_append

end Change

namespace FileStore

open Change (replayOn)
open Disk (Apart)

/-! ## 2. Stages in a directory -/

/-- What somebody may ask for: the directory by one of its paths, and a change that can be
written. -/
def Action.Fair (paths : String → Prop) : Action → Stage → Prop
  | .enter config, _ => paths config.path
  | .begin c, .holding s => c.Sound ∧ Snapshot.Room (c.applyTo s.entries)
  | _, _ => True

namespace Stage

section

variable (paths : String → Prop) (directory : Place) (t : Table String Metadata) (d : Disk)

/-- Somebody is at the directory, and knows the file to be locked. -/
def At : Stage → Prop
  | outside => True
  | found path place => paths path ∧ place = directory
  | marked path place lock | admitted path place lock =>
    paths path ∧ place = directory ∧ Marked directory d lock
  | holding s | writing s _ _ _ => paths s.path ∧ Marked directory d s.lock

/-- A store is open whose table shows the same as another one. -/
structure Holds (s : FileStore) : Prop where
  same : s.entries.get? = t.get?
  rows : s.entries.All Metadata.Fits

/-- A store is open, and a change is being written.  It is made in memory, and can be undone. -/
structure Writes (s : FileStore) (c : Change) (previous : Option Metadata)
    (left : List WriteStep) : Prop where
  undone : Holds t (s.restore c.subject previous)
  made : s.entries.get? = (c.applyTo t).get?
  fits : Snapshot.Fits s.entries
  short : ((Route.ofString s.path).child tempFile).isTooLong = false
  drafting : Drafting directory s.entries d left
  /-- Until the last step the data file shows the table without the change. -/
  before : left ≠ [] → Reads paths directory t d

/-- What the data file shows, by what the one is at who has the lock, if anybody has it; `t` is the
table with all changes that somebody was told of. -/
def Shows : Stage → Prop
  | outside | found .. | marked .. | admitted .. => Reads paths directory t d
  | holding s => Reads paths directory t d ∧ Holds t s
  | writing s c previous left => Writes paths directory t d s c previous left

end

/-! ## 3. Moves -/

/-- What a step can do in a directory that is there: from a stage to a stage and a device, with the
changes that are told to be made. -/
inductive Move (paths : String → Prop) (directory : Place) (dev : Device) :
    Stage → List Change → Stage → Device → Prop
  /-- Nothing, or a call that cannot be made fails at once. -/
  | stay (stage : Stage) : Move paths directory dev stage [] stage dev
  | find {path : String} (hpath : paths path) :
      Move paths directory dev outside [] (found path directory) dev
  | mark {path : String} {lock : Nat} {disk : Disk} (hpath : paths path)
      (hcreate : dev.disk.create (lockPlace directory) = .ok (lock, disk)) :
      Move paths directory dev (found path directory) [] (marked path directory lock)
        { dev with disk }
  | refuse {path : String} {lock : Nat} (hheld : lock ∈ dev.disk.locks) :
      Move paths directory dev (marked path directory lock) [] outside dev
  | take {path : String} {lock : Nat} (hfree : lock ∉ dev.disk.locks) :
      Move paths directory dev (marked path directory lock) [] (admitted path directory lock)
        { dev with disk := { dev.disk with locks := lock :: dev.disk.locks } }
  | read {path : String} {lock : Nat} {u : Table String Metadata}
      (hread : readSnapshot (Route.ofString path) directory dev.disk = .ok u) :
      Move paths directory dev (admitted path directory lock) [] (holding ⟨path, lock, u⟩) dev
  | idle {s : FileStore} {c : Change} (hidle : c.IsIdle s.entries) :
      Move paths directory dev (holding s) [c] (holding s) dev
  /-- The change is made in memory, cannot be written at all, and is undone. -/
  | giveUp {s : FileStore} {c : Change} :
      Move paths directory dev (holding s) []
        (holding ((c.makeIn s).restore c.subject (s.entries.get? c.subject))) dev
  /-- The change is made in memory, and is to be written. -/
  | start {s : FileStore} {c : Change} (hc : c.Sound) (hroom : Snapshot.Room (c.applyTo s.entries))
      (hshort : ((Route.ofString s.path).child tempFile).isTooLong = false) :
      Move paths directory dev (holding s) []
        (writing (c.makeIn s) c (s.entries.get? c.subject)
          (plan directory (c.makeIn s).entries)) dev
  | advance {s : FileStore} {c : Change} {previous : Option Metadata} {step : WriteStep}
      {left : List WriteStep} {disk : Disk} {rest : List (Option Mishap)}
      (hrun : step.run dev.disk = .ok disk) :
      Move paths directory dev (writing s c previous (step :: left)) []
        (writing s c previous left) ⟨disk, rest⟩
  | fail {s : FileStore} {c : Change} {previous : Option Metadata} {step : WriteStep}
      {left : List WriteStep} {e : IoFault} {dev' : Device}
      (hstep : dev.perform step = (.error e, dev')) :
      Move paths directory dev (writing s c previous (step :: left)) []
        (holding (s.restore c.subject previous)) dev'
  | finish {s : FileStore} {c : Change} {previous : Option Metadata} :
      Move paths directory dev (writing s c previous []) [c] (holding s) dev
  | leave {s : FileStore} : Move paths directory dev (holding s) [] outside (s.close dev)

variable {paths : String → Prop} {directory : Place} {t : Table String Metadata} {d d' : Disk}
  {dev dev' : Device} {stage stage' : Stage}

theorem At.mono (h : stage.At paths directory d)
    (hmarked : ∀ lock, Marked directory d lock → Marked directory d' lock) :
    stage.At paths directory d' := by
  cases stage with
  | outside => trivial
  | found path place => exact h
  | marked path place lock => exact ⟨h.1, h.2.1, hmarked lock h.2.2⟩
  | admitted path place lock => exact ⟨h.1, h.2.1, hmarked lock h.2.2⟩
  | holding s => exact ⟨h.1, hmarked s.lock h.2⟩
  | writing s c previous left => exact ⟨h.1, hmarked s.lock h.2⟩

/-- What the data file shows depends on the two files of the snapshot alone. -/
theorem Shows.congr (h : stage.Shows paths directory t d)
    (hdir : d.node directory = .ok .directory) (hdir' : d'.node directory = .ok .directory)
    (htemp : d'.nodes.get? (tempPlace directory) = d.nodes.get? (tempPlace directory))
    (hdata : d'.nodes.get? (dataPlace directory) = d.nodes.get? (dataPlace directory)) :
    stage.Shows paths directory t d' := by
  have hreads : Reads paths directory t d → Reads paths directory t d' :=
    fun hreads => hreads.congr hdir hdir' hdata
  cases stage with
  | outside | found | marked | admitted => exact hreads h
  | holding s => exact ⟨hreads h.1, h.2⟩
  | writing s c previous left =>
    have hw : Writes paths directory t d s c previous left := h
    exact {
      undone := hw.undone
      made := hw.made
      fits := hw.fits
      short := hw.short
      drafting := hw.drafting.congr htemp hdata
      before := fun hleft => hreads (hw.before hleft) }

theorem move_enter (hground : Ground paths directory dev.disk) {config : FileConfig}
    (hpath : paths config.path) {told : Told}
    (h : stage.enter config dev = (told, stage', dev')) :
    Move paths directory dev stage (stage.accepted (.enter config) told) stage' dev' := by
  cases stage with
  | outside =>
    rw [enter, hground.provide hpath] at h
    cases h
    exact .find hpath
  | _ =>
    cases h
    exact .stay _

theorem move_begin (hground : Ground paths directory dev.disk)
    (hat : stage.At paths directory dev.disk) {c : Change} (hc : Action.Fair paths (.begin c) stage)
    {told : Told} (h : stage.begin c dev = (told, stage', dev')) :
    Move paths directory dev stage (stage.accepted (.begin c) told) stage' dev' := by
  cases stage with
  | holding s =>
    rw [begin] at h
    split at h
    · rename_i hidle
      cases h
      exact .idle hidle
    dsimp only at h
    split at h
    · cases h
      exact .giveUp
    rename_i hlong
    rw [hground.located _ hat.1] at h
    cases h
    exact .start hc.1 hc.2 (by simpa using hlong)
  | _ =>
    cases h
    exact .stay _

theorem move_leave {told : Told} (h : stage.leave dev = (told, stage', dev')) :
    Move paths directory dev stage (stage.accepted .leave told) stage' dev' := by
  cases stage with
  | holding s =>
    cases h
    exact .leave
  | _ =>
    cases h
    exact .stay _

theorem move_goOn (hspell : Spellings paths) (hground : Ground paths directory dev.disk)
    (hat : stage.At paths directory dev.disk)
    (hshows : stage.Inside → stage.Shows paths directory t dev.disk) {told : Told}
    (h : stage.goOn dev = (told, stage', dev')) :
    Move paths directory dev stage (stage.accepted .goOn told) stage' dev' := by
  cases stage with
  | outside =>
    cases h
    exact .stay _
  | found path place =>
    obtain ⟨hpath, rfl⟩ := hat
    obtain ⟨disk, hmake, hcreate⟩ := hground.makeLock hspell hpath
    rw [goOn, hmake] at h
    cases h
    exact .mark hpath hcreate
  | marked path place lock =>
    obtain ⟨-, rfl, -⟩ := hat
    rw [goOn] at h
    split at h
    · rename_i hlock
      cases h
      exact .refuse (by simpa [Disk.lock?] using hlock)
    · rename_i disk hlock
      cases h
      obtain ⟨hfree, rfl⟩ := lock?_eq_some hlock
      exact .take hfree
  | admitted path place lock =>
    obtain ⟨hpath, rfl, -⟩ := hat
    obtain ⟨u, hread, -⟩ := hshows trivial path hpath
    rw [goOn, hread] at h
    cases h
    exact .read hread
  | holding s =>
    cases h
    exact .stay _
  | writing s c previous left =>
    cases left with
    | nil =>
      cases h
      exact .finish
    | cons step left =>
      rw [goOn] at h
      rcases hperform : dev.perform step with ⟨e | u, device⟩
      · rw [hperform] at h
        cases h
        exact .fail hperform
      · rw [hperform] at h
        cases h
        rcases dev.perform_cases step with ⟨disk, rest, hrun, hp⟩ | ⟨e, disk, rest, hp, -⟩
        · rw [hperform] at hp
          cases hp
          exact .advance hrun
        · rw [hperform] at hp
          cases hp

/-- **Every step is one of these moves.** -/
theorem move_step (hspell : Spellings paths) (hground : Ground paths directory dev.disk)
    (hat : stage.At paths directory dev.disk)
    (hshows : stage.Inside → stage.Shows paths directory t dev.disk) {a : Action}
    (ha : a.Fair paths stage) {told : Told} (h : stage.step a dev = (told, stage', dev')) :
    Move paths directory dev stage (stage.accepted a told) stage' dev' := by
  cases a with
  | enter config => exact move_enter hground ha h
  | begin c => exact move_begin hground hat ha h
  | leave => exact move_leave h
  | goOn => exact move_goOn hspell hground hat hshows h

/-- Those who have no lock touch the file to be locked, and no other. -/
theorem Move.apart {log : List Change} (h : Move paths directory dev stage log stage' dev')
    (hout : ¬ stage.Inside) : Apart [lockPlace directory] dev.disk dev'.disk ∧ log = [] := by
  cases h with
  | stay => exact ⟨.refl _ _, rfl⟩
  | find => exact ⟨.refl _ _, rfl⟩
  | mark hpath hcreate => exact ⟨Disk.create_apart hcreate, rfl⟩
  | refuse => exact ⟨.refl _ _, rfl⟩
  | take => exact ⟨(apart_locks dev.disk _).mono (by simp), rfl⟩
  | _ => exact absurd trivial hout

theorem Holds.congr {u : Table String Metadata} {s : FileStore} (h : Holds t s)
    (htu : t.get? = u.get?) : Holds u s :=
  ⟨h.same.trans htu, h.rows⟩

theorem Holds.sameAs {s s' : FileStore} (h : Holds t s) (hsame : s.SameAs s') : Holds t s' :=
  ⟨hsame.entries.trans h.same, h.rows.congr hsame.entries.symm⟩

/-- One more step of writing. -/
theorem Writes.advance {s : FileStore} {c : Change} {previous : Option Metadata} {step : WriteStep}
    {left : List WriteStep} (h : Writes paths directory t d s c previous (step :: left))
    (hdir : d.node directory = .ok .directory) (hrun : step.run d = .ok d') :
    Writes paths directory t d' s c previous left
      ∧ Apart [tempPlace directory, dataPlace directory] d d' ∧ d'.locks = d.locks := by
  obtain ⟨hapart, hlocks⟩ := WriteStep.run_apart hrun
  obtain ⟨hdrafting, hdata⟩ := h.drafting.run hrun
  have hfiles := files_plan _ _ step (h.drafting.subset step List.mem_cons_self)
  refine ⟨?_, hapart.mono hfiles, hlocks⟩
  exact {
    undone := h.undone
    made := h.made
    fits := h.fits
    short := h.short
    drafting := hdrafting
    before := fun hleft => (h.before (List.cons_ne_nil step left)).congr hdir
      (hapart.keeps.node_directory hdir) (hdata hleft) }

/-- The one who has the lock, and keeps it, is at the directory as before. -/
theorem Move.at_inside {more : List Change} (h : Move paths directory dev stage more stage' dev')
    (hin : stage.Inside) (hin' : stage'.Inside) (hat : stage.At paths directory d) :
    stage'.At paths directory d := by
  cases h with
  | find | mark | refuse | take => exact hin.elim
  | leave => exact hin'.elim
  | read => exact ⟨hat.1, hat.2.2⟩
  | @giveUp s c =>
    rw [At, path_restore, lock_restore]
    exact hat
  | @fail s c previous =>
    rw [At, path_restore, lock_restore]
    exact hat
  | _ => exact hat

/-- The one who has the lock, and keeps it, shows the changes that are told to be made, and only
touches the files of the snapshot. -/
theorem Move.shows {more : List Change} (h : Move paths directory dev stage more stage' dev')
    (hspell : Spellings paths) (hdir : dev.disk.node directory = .ok .directory)
    (hin : stage.Inside) (hin' : stage'.Inside) (hat : stage.At paths directory dev.disk)
    (hshows : stage.Shows paths directory t dev.disk) :
    stage'.Shows paths directory (replayOn t more) dev'.disk
      ∧ Apart [tempPlace directory, dataPlace directory] dev.disk dev'.disk
      ∧ dev'.disk.locks = dev.disk.locks := by
  have hsame : Apart [tempPlace directory, dataPlace directory] dev.disk dev.disk
    ∧ dev.disk.locks = dev.disk.locks := ⟨.refl _ _, rfl⟩
  cases h with
  | stay => exact ⟨hshows, hsame⟩
  | find | mark | refuse | take => exact hin.elim
  | read hread =>
    obtain ⟨u, hu, hget, hrows⟩ := hshows _ hat.1
    rw [hread] at hu
    cases hu
    exact ⟨⟨hshows, hget, hrows⟩, hsame⟩
  | @idle s c hidle =>
    have hsame' : t.get? = (c.applyTo t).get? := by
      rw [c.get?_applyTo_congr hshows.2.same.symm, Change.applyTo_of_isIdle hidle, hshows.2.same]
    exact ⟨⟨hshows.1.of_get?_eq hsame', hshows.2.congr hsame'⟩, hsame⟩
  | @giveUp s c => exact ⟨⟨hshows.1, hshows.2.sameAs (c.sameAs_restore s)⟩, hsame⟩
  | @start s c hc hroom hshort =>
    refine ⟨?_, hsame⟩
    exact {
      undone := hshows.2.sameAs (c.sameAs_restore s)
      made := c.get?_applyTo_congr hshows.2.same
      fits := ⟨hroom, Change.fits_applyTo hc hshows.2.rows⟩
      short := hshort
      drafting := .begun
      before := fun _ => hshows.1 }
  | advance hrun => exact Writes.advance hshows hdir hrun
  | @fail s c previous step left e dev' hstep =>
    have hw : Writes paths directory t dev.disk s c previous (step :: left) := hshows
    have hdrafted := Drafting.drafted_of_error (hw.drafting.subset step List.mem_cons_self) hstep
    have hreads := (hw.before (List.cons_ne_nil step left)).congr hdir
      (hdrafted.apart.keeps.node_directory hdir)
      (hdrafted.apart.elsewhere _ (by simpa using dataPlace_ne_tempPlace directory))
    exact ⟨⟨hreads, hw.undone⟩, hdrafted.apart.mono (by simp), hdrafted.locks⟩
  | @finish s c previous =>
    have hw : Writes paths directory t dev.disk s c previous [] := hshows
    obtain ⟨i, hdata⟩ := hw.drafting.data_of_nil
    have hreads := reads_of_encode hspell hdir hat.1 (isTooLong_dataFile hw.short) hdata hw.fits
    exact ⟨⟨hreads.of_get?_eq hw.made, hw.made, hw.fits.row⟩, hsame⟩
  | leave => exact hin'.elim

end Stage

end FileStore
end SubscriptionRegistry
