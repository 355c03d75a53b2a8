import ThemeBlocks.Proofs.Files.Frame
import ThemeBlocks.Proofs.Project.Synced

/-! What a sync does to the files. Only a regeneration touches them, whether it goes well or not, and
then nothing but the files of the theme and the directories around them. -/

namespace ThemeBlocks.Project

open Files (Path)
open Files.Tree (Touched)
open Settings (Task)
open Sync (Act Course Happens)

variable {ε α β : Type}

/-- However it ends, the action touches nothing but these paths and what is around them. -/
def KeepsTo (paths : List Path) (action : ExceptT ε Machine.Run α) : Prop :=
  ∀ machine, (action.run.run machine).2.place = machine.place ∧
    Touched machine.place paths machine.tree (action.run.run machine).2.tree

namespace KeepsTo

variable {paths : List Path} {action : ExceptT ε Machine.Run α} {next : α → ExceptT ε Machine.Run β}

theorem pure (value : α) : KeepsTo paths (Pure.pure value : ExceptT ε Machine.Run α) :=
  fun machine => ⟨rfl, .refl machine.tree⟩

theorem throw (error : ε) : KeepsTo paths (MonadExcept.throw error : ExceptT ε Machine.Run α) :=
  fun machine => ⟨rfl, .refl machine.tree⟩

theorem note (entry : Entry) :
    KeepsTo paths (ExceptT.lift (Journal.note entry : Machine.Run Unit) : ExceptT ε Machine.Run Unit) :=
  fun machine => ⟨rfl, .refl machine.tree⟩

theorem bind (h : KeepsTo paths action) (hnext : ∀ value, KeepsTo paths (next value)) :
    KeepsTo paths (action >>= next) := by
  intro machine
  have hfirst := h machine
  rw [run_bind]
  generalize action.run.run machine = out at hfirst ⊢
  obtain ⟨error | value, middle⟩ := out
  · exact hfirst
  · obtain ⟨hplace, htouched⟩ := hfirst
    obtain ⟨hplace', htouched'⟩ := hnext value middle
    rw [show middle.place = machine.place from hplace] at hplace' htouched'
    exact ⟨hplace', htouched.trans htouched'⟩

end KeepsTo

section Writing

variable {paths : List Path} {path : Path} (hpath : path ∈ paths)

include hpath

theorem keepsTo_writeText (text : String) :
    KeepsTo paths (ExceptT.lift (Files.Storage.writeText path text : Machine.Run _) :
      ExceptT ε Machine.Run _) := by
  intro machine
  have hrun : (ExceptT.lift (Files.Storage.writeText path text : Machine.Run _) :
      ExceptT ε Machine.Run _).run.run machine = (.ok ((Machine.writeText path text).run machine).1,
        ((Machine.writeText path text).run machine).2) := run_lift _ machine
  rw [hrun, run_writeText]
  cases hstored : machine.tree.writeText machine.place path text with
  | ok tree => exact ⟨rfl, Files.Tree.touched_writeText hpath hstored⟩
  | error error => exact ⟨rfl, .refl machine.tree⟩

theorem keepsTo_prepareDirectory :
    KeepsTo paths (prepareDirectory path : ExceptT Failure Machine.Run Unit) := by
  unfold prepareDirectory
  split
  · exact .pure _
  · next parent hparent =>
    refine KeepsTo.bind (fun machine => ⟨rfl, Files.Tree.touched_makeDirectories hpath hparent⟩) ?_
    rintro (error | value)
    · exact .throw _
    · exact .pure _

end Writing

theorem keepsTo_writeThemeFile {root : Path} {file : Theme.GeneratedFile} {paths : List Path}
    (hpath : root.join file.path ∈ paths) :
    KeepsTo paths (writeThemeFile root file : ExceptT Failure Machine.Run Path) := by
  refine (keepsTo_prepareDirectory hpath).bind fun _ => (keepsTo_writeText hpath _).bind ?_
  rintro (error | value)
  · exact .throw _
  · exact (KeepsTo.note _).bind fun _ => .pure _

theorem keepsTo_writeThemeFiles {root : Path} {files : List Theme.GeneratedFile} {paths : List Path}
    (hpaths : ∀ file ∈ files, root.join file.path ∈ paths) :
    KeepsTo paths (writeThemeFiles root files : ExceptT Failure Machine.Run (List Path)) := by
  induction files with
  | nil => exact .pure _
  | cons file files ih =>
    obtain ⟨hfile, hfiles⟩ := List.forall_mem_cons.1 hpaths
    exact (keepsTo_writeThemeFile hfile).bind fun _ => (ih hfiles).bind fun _ => .pure _

theorem touched_writeTheme (root : Path) (bundle : Theme.Bundle) (machine : Machine) :
    Touched machine.place (targetsOf root bundle) machine.tree
      ((writeTheme root bundle : Machine.Run _).run machine).2.tree := by
  rw [run_writeTheme_eq]
  exact (keepsTo_writeThemeFiles (fun file hfile => List.mem_map.2 ⟨file, hfile, rfl⟩) machine).2

/-- The theme was generated anew, or could not be written. -/
def Regenerates : Except Trouble Sync.Context → Prop
  | .ok context => ∃ written, context.resolution = .degraded written
  | .error trouble => ∃ failure, IsRegeneration failure ∧ trouble = .ofFailure failure

theorem ofFailure_injective : Function.Injective Trouble.ofFailure := by
  intro failure other h
  cases h
  rfl

theorem touched_of_synced {settings : Settings} {machine after : Machine}
    {result : Except Trouble Sync.Context} (h : Synced settings machine result after) :
    (¬ Regenerates result ∧ after.tree = machine.tree) ∨
      (Regenerates result ∧ ∃ plan client, Gathered settings machine plan client ∧
        Touched machine.place
          (targetsOf settings.themePath (.ofRegistry plan.registry plan.options))
          machine.tree after.tree) := by
  cases h with
  | @ungathered trouble _ hown =>
    refine .inl ⟨?_, rfl⟩
    rintro ⟨failure, -, rfl⟩
    exact hown failure rfl
  | @ran plan client query acts result after hgathered _ hcourse hacts =>
    rcases course_cases hcourse with ⟨hnone, hfull, hfailure⟩ | ⟨asked, receipt, rfl, hnone, hresult⟩
    · refine .inl ⟨?_, (files_of_happens hacts hnone).1⟩
      cases result with
      | ok context =>
        rintro ⟨written, hwritten⟩
        cases (hfull context rfl).symm.trans hwritten
      | error failure =>
        rintro ⟨other, hother, heq⟩
        obtain rfl := ofFailure_injective heq
        exact hfailure failure rfl hother
    · obtain ⟨world, hasked, hreceipt, htree⟩ := exists_writing hacts
      obtain ⟨hsame, hplace⟩ := files_of_happens hasked hnone
      refine .inr ⟨?_, plan, client, hgathered, ?_⟩
      · cases result with
        | ok context =>
          cases receipt with
          | ok written => exact ⟨written, Except.ok.inj hresult⟩
          | error failure => cases hresult
        | error failure =>
          cases receipt with
          | ok written => cases hresult
          | error other =>
            cases hresult
            exact ⟨failure, isRegeneration_of_writeTheme hreceipt, rfl⟩
      · rw [htree, ← hsame, ← hplace]
        exact touched_writeTheme _ _ world

/-- A sync that does not regenerate leaves all files as they were: one that could not gather what it needs
leaves the machine itself so. A regeneration changes the theme's files and makes directories around
them; everything else is as it was, also where the regeneration fails half way. -/
theorem sync_touches_theme (settings : Settings) (machine : Machine) :
    let out := (sync settings : Task Machine.Run _).run.run machine
    (¬ Regenerates out.1 → out.2.tree = machine.tree) ∧
      (Regenerates out.1 → ∃ plan client, Gathered settings machine plan client ∧
        Touched machine.place
          (targetsOf settings.themePath (.ofRegistry plan.registry plan.options))
          machine.tree out.2.tree) ∧
      ((∀ plan client, ¬ Gathered settings machine plan client) →
        out.2 = machine ∧ ∃ trouble, out.1 = .error trouble) ∧
      ∀ failure, out.1 = .error (.ofFailure failure) → ¬ IsRegeneration failure →
        out.2.tree = machine.tree := by
  intro out
  have hsynced : Synced settings machine out.1 out.2 := synced_run settings machine
  have htouched := touched_of_synced hsynced
  refine ⟨fun hnot => ?_, fun hregenerates => ?_, fun hnone => ?_, fun failure hfailure hother => ?_⟩
  · exact (htouched.resolve_right fun h => hnot h.1).2
  · exact (htouched.resolve_left fun h => h.1 hregenerates).2
  · generalize out.1 = result at hsynced ⊢
    generalize out.2 = after at hsynced ⊢
    cases hsynced with
    | ungathered _ _ => exact ⟨rfl, _, rfl⟩
    | ran hgathered _ _ _ => exact absurd hgathered (hnone _ _)
  · refine (htouched.resolve_right fun h => ?_).2
    obtain ⟨hregenerates, -⟩ := h
    rw [hfailure] at hregenerates
    obtain ⟨cause, hcause, heq⟩ := hregenerates
    exact hother (ofFailure_injective heq ▸ hcause)

end ThemeBlocks.Project
