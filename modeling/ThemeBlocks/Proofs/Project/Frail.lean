import ThemeBlocks.Proofs.Files.Disturbed
import ThemeBlocks.Proofs.Project.Effects
import ThemeBlocks.Proofs.Project.Written

/-! A machine whose disk may fail at any operation that changes it. A fault has an error of its own, and
leaves the disk half way through the operation: with some of the directories made, or with anything in
the file. Writing that goes well on such a machine is writing on a sound one; writing that does not has
disturbed no more than the file that it failed at. -/

namespace ThemeBlocks

structure Fault where
  error : Files.DiskError
  /-- How many of the directories, the innermost ones, are not made. -/
  unmade : Nat := 0
  /-- What is left of the file, if anything is. -/
  left : Option String := none
  deriving Repr, DecidableEq

structure Frail where
  machine : Machine
  /-- What happens to the next operations, one after the other; the ones beyond have no fault. -/
  faults : List (Option Fault) := []

namespace Frail

abbrev Run := StateM Frail

def soundly {α : Type} (action : Machine.Run α) : Run α := do
  let frail ← get
  let (value, machine) := action.run frail.machine
  set { frail with machine }
  pure value

/-- Does as the machine does, unless it is the turn of a fault. -/
def riskily (action : Machine.Run (Except Files.DiskError Unit)) (harm : Fault → Machine → Files.Tree) :
    Run (Except Files.DiskError Unit) := do
  let frail ← get
  set { frail with faults := frail.faults.tail }
  match frail.faults.head?.join with
  | none => soundly action
  | some fault =>
    modify fun frail => { frail with machine.tree := harm fault frail.machine }
    pure (.error fault.error)

instance : Host Run where
  isPresent path := soundly (Files.Storage.isPresent path)
  readText path := soundly (Machine.readText path)
  makeDirectories path := riskily (Machine.makeDirectories path) fun fault machine =>
    machine.tree.makeOuterDirectories machine.place path fault.unmade
  writeText path text := riskily (Machine.writeText path text) fun fault machine =>
    machine.tree.spoil machine.place path fault.left
  exchange request := soundly (Machine.exchange request)
  note entry := soundly (Machine.note entry)
  workingDirectory := soundly (Surroundings.workingDirectory)
  variableNamed name := soundly (Machine.variableNamed name)

theorem run_riskily (action : Machine.Run (Except Files.DiskError Unit))
    (harm : Fault → Machine → Files.Tree) (frail : Frail) :
    (riskily action harm).run frail =
      match frail.faults.head?.join with
      | none => ((action.run frail.machine).1, ⟨(action.run frail.machine).2, frail.faults.tail⟩)
      | some fault =>
        (.error fault.error,
          ⟨{ frail.machine with tree := harm fault frail.machine }, frail.faults.tail⟩) := by
  simp only [riskily, StateT.run_bind, StateT.run_get, pure_bind]
  cases frail.faults.head?.join <;> rfl

theorem run_of_riskily {action : Machine.Run (Except Files.DiskError Unit)}
    {harm : Fault → Machine → Files.Tree} {frail after : Frail}
    (h : (riskily action harm).run frail = (.ok (), after)) :
    action.run frail.machine = (.ok (), after.machine) := by
  rw [run_riskily] at h
  split at h
  · obtain ⟨hvalue, hafter⟩ := Prod.mk.inj h
    exact Prod.ext hvalue (congrArg Frail.machine hafter)
  · cases h

theorem machine_of_riskily {action : Machine.Run (Except Files.DiskError Unit)}
    {harm : Fault → Machine → Files.Tree} {frail after : Frail} {result : Except Files.DiskError Unit}
    (h : (riskily action harm).run frail = (result, after)) :
    after.machine = (action.run frail.machine).2 ∨
      ∃ fault, after.machine = { frail.machine with tree := harm fault frail.machine } := by
  rw [run_riskily] at h
  split at h
  · cases h
    exact .inl rfl
  · next fault _ =>
    cases h
    exact .inr ⟨fault, rfl⟩

end Frail

namespace Project

open Files (Path)
open Files.Tree (Disturbed)
open Theme (GeneratedFile)

variable {root target : Path} {file : GeneratedFile} {files : List GeneratedFile} {frail after : Frail}
  {failure : Failure}

theorem run_prepareDirectory_of_frail
    (h : (prepareDirectory target : ExceptT Failure Frail.Run Unit).run.run frail = (.ok (), after)) :
    (prepareDirectory target : ExceptT Failure Machine.Run Unit).run.run frail.machine =
      (.ok (), after.machine) := by
  unfold prepareDirectory at h ⊢
  split at h
  · cases h
    rfl
  · obtain ⟨made, middle, hmade, hrest⟩ := exists_run_of_lift_bind h
    cases made with
    | error error => cases hrest
    | ok _ =>
      cases hrest
      exact run_bind_of_ok (run_lift_of_run (Frail.run_of_riskily hmade))

theorem run_writeThemeFile_of_frail {written : Path}
    (h : (writeThemeFile root file : ExceptT Failure Frail.Run Path).run.run frail =
      (.ok written, after)) :
    (writeThemeFile root file : ExceptT Failure Machine.Run Path).run.run frail.machine =
      (.ok written, after.machine) := by
  unfold writeThemeFile at h ⊢
  obtain ⟨⟨⟩, prepared, hprepare, hrest⟩ := exists_run_of_bind h
  rw [run_bind_of_ok (run_prepareDirectory_of_frail hprepare)]
  obtain ⟨stored, middle, hstored, hend⟩ := exists_run_of_lift_bind hrest
  cases stored with
  | error error => cases hend
  | ok _ =>
    have hwrite : (ExceptT.lift (Files.Storage.writeText (root.join file.path) file.contents) :
        ExceptT Failure Machine.Run _).run.run prepared.machine = (.ok (.ok ()), middle.machine) :=
      run_lift_of_run (Frail.run_of_riskily hstored)
    rw [run_bind_of_ok hwrite]
    cases hend
    rfl

/-- Nothing was disturbed but these paths and what is around them, and nothing noted. -/
structure Harmed (paths : List Path) (before after : Machine) : Prop where
  place : after.place = before.place
  journal : after.journal = before.journal
  disturbed : Disturbed before.place paths before.tree after.tree

theorem Harmed.refl (paths : List Path) (machine : Machine) : Harmed paths machine machine :=
  ⟨rfl, rfl, .refl _⟩

theorem Harmed.trans {paths : List Path} {before middle after : Machine}
    (hfirst : Harmed paths before middle) (hsecond : Harmed paths middle after) :
    Harmed paths before after :=
  ⟨hsecond.place.trans hfirst.place, hsecond.journal.trans hfirst.journal,
    hfirst.disturbed.trans (hfirst.place ▸ hsecond.disturbed)⟩

theorem harmed_makeDirectories {parent : Path} {result : Except Files.DiskError Unit}
    (hparent : target.parent? = some parent)
    (h : (Files.Storage.makeDirectories parent : Frail.Run _).run frail = (result, after)) :
    Harmed [target] frail.machine after.machine := by
  have hmem := List.mem_singleton_self target
  rcases Frail.machine_of_riskily h with hsound | ⟨fault, hharm⟩
  · rw [hsound]
    exact ⟨rfl, rfl, (Files.Tree.touched_makeDirectories hmem hparent).disturbed⟩
  · rw [hharm]
    exact ⟨rfl, rfl, .makeOuterDirectories hmem hparent _ _⟩

theorem harmed_writeText {text : String} {result : Except Files.DiskError Unit}
    (h : (Files.Storage.writeText target text : Frail.Run _).run frail = (result, after)) :
    Harmed [target] frail.machine after.machine := by
  have hmem := List.mem_singleton_self target
  rcases Frail.machine_of_riskily h with hsound | ⟨fault, hharm⟩
  · rw [hsound, run_writeText]
    split
    · next tree hstored => exact ⟨rfl, rfl, (Files.Tree.touched_writeText hmem hstored).disturbed⟩
    · exact .refl _ _
  · rw [hharm]
    exact ⟨rfl, rfl, .spoil hmem _ _⟩

theorem harmed_prepareDirectory {result : Except Failure Unit}
    (h : (prepareDirectory target : ExceptT Failure Frail.Run Unit).run.run frail = (result, after)) :
    Harmed [target] frail.machine after.machine := by
  unfold prepareDirectory at h
  split at h
  · cases h
    exact .refl _ _
  · next parent hparent =>
    obtain ⟨made, middle, hmade, hrest⟩ := exists_run_of_lift_bind h
    have hmiddle : after = middle := by cases made <;> (cases hrest; rfl)
    exact hmiddle ▸ harmed_makeDirectories hparent hmade

theorem harmed_of_writeThemeFile
    (h : (writeThemeFile root file : ExceptT Failure Frail.Run Path).run.run frail =
      (.error failure, after)) :
    Harmed [root.join file.path] frail.machine after.machine := by
  unfold writeThemeFile at h
  rcases run_bind_eq_error h with hfailed | ⟨_, prepared, hprepared, hrest⟩
  · exact harmed_prepareDirectory hfailed
  · -- The directory was made, so it is the write that failed; the directories are around the same file.
    refine (harmed_prepareDirectory hprepared).trans ?_
    obtain ⟨stored, middle, hstored, hend⟩ := exists_run_of_lift_bind hrest
    cases stored with
    | ok _ => cases hend
    | error error =>
      cases hend
      exact harmed_writeText hstored

theorem exists_failed_file
    (h : (writeThemeFiles root files : ExceptT Failure Frail.Run (List Path)).run.run frail =
      (.error failure, after)) :
    ∃ front file back, files = front ++ file :: back ∧ ∃ targets middle,
      (writeThemeFiles root front : ExceptT Failure Machine.Run (List Path)).run.run frail.machine =
        (.ok targets, middle) ∧ Harmed [root.join file.path] middle after.machine := by
  -- On the files; the ones that are written take the machine along as on a sound disk.
  induction files generalizing frail with
  | nil => cases h
  | cons file files ih =>
    rcases run_bind_eq_error h with hfailed | ⟨target, stored, hstored, hrest⟩
    · exact ⟨[], file, files, rfl, [], frail.machine, rfl, harmed_of_writeThemeFile hfailed⟩
    · rcases run_bind_eq_error hrest with hfailed | ⟨_, _, _, hend⟩
      · obtain ⟨front, failing, back, rfl, targets, middle, hfront, hharmed⟩ := ih hfailed
        refine ⟨file :: front, failing, back, rfl, target :: targets, middle, ?_, hharmed⟩
        unfold writeThemeFiles
        rw [run_bind_of_ok (run_writeThemeFile_of_frail hstored), run_bind_of_ok hfront]
        rfl
      · cases hend

/-- Where no fault is to come, the action does as the other does on the machine. -/
def Agrees {α : Type} (action : ExceptT Failure Frail.Run α) (model : ExceptT Failure Machine.Run α) :
    Prop :=
  ∀ machine, action.run.run ⟨machine, []⟩ =
    ((model.run.run machine).1, ⟨(model.run.run machine).2, []⟩)

theorem Agrees.bind {α β : Type} {action : ExceptT Failure Frail.Run α}
    {model : ExceptT Failure Machine.Run α} {next : α → ExceptT Failure Frail.Run β}
    {nextModel : α → ExceptT Failure Machine.Run β} (h : Agrees action model)
    (hnext : ∀ value, Agrees (next value) (nextModel value)) :
    Agrees (action >>= next) (model >>= nextModel) := by
  intro machine
  rw [run_bind, run_bind, h machine]
  generalize model.run.run machine = out
  obtain ⟨error | value, middle⟩ := out
  · rfl
  · exact hnext value middle

theorem agrees_riskily (action : Machine.Run (Except Files.DiskError Unit))
    (harm : Fault → Machine → Files.Tree) :
    Agrees (ExceptT.lift (Frail.riskily action harm)) (ExceptT.lift action) := by
  intro machine
  rw [run_lift, run_lift, Frail.run_riskily]
  rfl

theorem agrees_prepareDirectory (target : Path) :
    Agrees (prepareDirectory target) (prepareDirectory target) := by
  unfold prepareDirectory
  split
  · exact fun _ => rfl
  · refine (agrees_riskily _ _).bind fun made => ?_
    cases made <;> exact fun _ => rfl

theorem agrees_writeThemeFile (root : Path) (file : GeneratedFile) :
    Agrees (writeThemeFile root file) (writeThemeFile root file) := by
  unfold writeThemeFile
  refine (agrees_prepareDirectory (root.join file.path)).bind fun _ => ?_
  refine (agrees_riskily _ _).bind fun stored => ?_
  cases stored <;> exact fun _ => rfl

theorem agrees_writeThemeFiles (root : Path) (files : List GeneratedFile) :
    Agrees (writeThemeFiles root files) (writeThemeFiles root files) := by
  induction files with
  | nil => exact fun _ => rfl
  | cons file files ih =>
    exact (agrees_writeThemeFile root file).bind fun _ => ih.bind fun _ => fun _ => rfl

/-- A disk without faults is that of a machine. -/
theorem run_writeTheme_without_faults (root : Path) (bundle : Theme.Bundle) (machine : Machine) :
    (writeTheme root bundle : Frail.Run _).run ⟨machine, []⟩ =
      (((writeTheme root bundle : Machine.Run _).run machine).1,
        ⟨((writeTheme root bundle : Machine.Run _).run machine).2, []⟩) := by
  rw [run_writeTheme_eq, run_writeTheme_eq, agrees_writeThemeFiles]

end Project

end ThemeBlocks
