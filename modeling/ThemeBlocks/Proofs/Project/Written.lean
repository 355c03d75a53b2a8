import ThemeBlocks.Proofs.Files.Stored
import ThemeBlocks.Proofs.Project.Runs

/-! What writing a theme on a machine leaves behind: the files are stored one after the other, and between
them directories are made. If no two of the places are the same, each file is read back as it was given. -/

namespace ThemeBlocks.Project

open Files (Path)
open Files.Tree (Stored Extends)

theorem run_prepareDirectory {target : Path} {machine after : Machine}
    (h : (prepareDirectory target : ExceptT Failure Machine.Run Unit).run.run machine =
      (.ok (), after)) :
    ∃ tree, after = { machine with tree } ∧ Extends machine.tree tree := by
  unfold prepareDirectory at h
  split at h
  · cases h
    exact ⟨machine.tree, rfl, .refl _⟩
  · obtain ⟨made, middle, hmade, hrest⟩ := exists_run_of_lift_bind h
    cases hmade
    split at hrest
    · cases hrest
      exact ⟨_, rfl, Files.Tree.extends_makeDirectories⟩
    · cases hrest

variable {root : Path} {machine after : Machine}

theorem exists_prepared {file : Theme.GeneratedFile} {target : Path}
    (h : (writeThemeFile root file : ExceptT Failure Machine.Run Path).run.run machine =
      (.ok target, after)) :
    target = root.join file.path ∧ ∃ prepared stored,
      (prepareDirectory target : ExceptT Failure Machine.Run Unit).run.run machine =
        (.ok (), prepared) ∧
      prepared.tree.writeText prepared.place target file.contents = .ok stored ∧
      after = { prepared with
        tree := stored, journal := prepared.journal ++ [writtenEntry target file.contents] } := by
  obtain ⟨⟨⟩, prepared, hprepare, hrest⟩ := exists_run_of_bind h
  obtain ⟨result, written, hwrite, hend⟩ := exists_run_of_lift_bind hrest
  have hrun : (Machine.writeText (root.join file.path) file.contents).run prepared =
      (result, written) := hwrite
  rw [run_writeText] at hrun
  split at hrun
  · next stored hstored =>
    cases hrun
    cases hend
    exact ⟨rfl, prepared, stored, hprepare, hstored, rfl⟩
  · cases hrun
    cases hend

theorem run_writeThemeFile {file : Theme.GeneratedFile} {target : Path}
    (h : (writeThemeFile root file : ExceptT Failure Machine.Run Path).run.run machine =
      (.ok target, after)) :
    target = root.join file.path ∧ after.place = machine.place ∧
      ∃ made, Extends machine.tree made ∧
        made.writeText machine.place (root.join file.path) file.contents = .ok after.tree := by
  obtain ⟨rfl, prepared, stored, hprepare, hstored, rfl⟩ := exists_prepared h
  obtain ⟨made, rfl, hmade⟩ := run_prepareDirectory hprepare
  exact ⟨rfl, rfl, made, hmade, hstored⟩

theorem run_writeThemeFiles {files : List Theme.GeneratedFile} {targets : List Path}
    (h : (writeThemeFiles root files : ExceptT Failure Machine.Run (List Path)).run.run machine =
      (.ok targets, after)) :
    targets = files.map (root.join ·.path) ∧ after.place = machine.place ∧
      Stored machine.place machine.tree (files.map fun file => (root.join file.path, file.contents))
        after.tree := by
  induction files generalizing machine targets with
  | nil =>
    cases h
    exact ⟨rfl, rfl, .nil _⟩
  | cons file files ih =>
    obtain ⟨target, stored, hfile, hrest⟩ := exists_run_of_bind h
    obtain ⟨rfl, hplace, made, hmade, hstored⟩ := run_writeThemeFile hfile
    obtain ⟨others, last, hfiles, hend⟩ := exists_run_of_bind hrest
    cases hend
    obtain ⟨rfl, hlast, hothers⟩ := ih hfiles
    rw [hplace] at hothers
    exact ⟨rfl, hlast.trans hplace, .cons hmade hstored hothers⟩

theorem run_writeTheme {bundle : Theme.Bundle} {written : Theme.WrittenFiles}
    (h : (writeTheme root bundle : Machine.Run _).run machine = (.ok written, after)) :
    written.files = bundle.files.map (root.join ·.path) ∧ after.place = machine.place ∧
      Stored machine.place machine.tree
        (bundle.files.map fun file => (root.join file.path, file.contents)) after.tree :=
  run_writeThemeFiles (run_writeTheme_iff.1 h)

theorem exists_run_of_prepared {file : Theme.GeneratedFile} {made stored : Files.Tree}
    (hprepare : (prepareDirectory (root.join file.path) :
      ExceptT Failure Machine.Run Unit).run.run machine = (.ok (), { machine with tree := made }))
    (hstored : made.writeText machine.place (root.join file.path) file.contents = .ok stored) :
    ∃ after, (writeThemeFile root file : ExceptT Failure Machine.Run Path).run.run machine =
      (.ok (root.join file.path), after) ∧ after.tree = stored ∧ after.place = machine.place := by
  have hwrite : (ExceptT.lift (Machine.writeText (root.join file.path) file.contents) :
      ExceptT Failure Machine.Run _).run.run { machine with tree := made } = _ := run_lift _ _
  rw [run_writeText, hstored] at hwrite
  unfold writeThemeFile
  rw [run_bind_of_ok hprepare]
  exact ⟨_, run_bind_of_ok hwrite, rfl, rfl⟩

theorem exists_run_writeThemeFile {file : Theme.GeneratedFile} {parent : Path}
    {made stored : Files.Tree} (hparent : (root.join file.path).parent? = some parent)
    (hmade : machine.tree.makeDirectories machine.place parent = (.ok (), made))
    (hstored : made.writeText machine.place (root.join file.path) file.contents = .ok stored) :
    ∃ after, (writeThemeFile root file : ExceptT Failure Machine.Run Path).run.run machine =
      (.ok (root.join file.path), after) ∧ after.tree = stored ∧ after.place = machine.place := by
  refine exists_run_of_prepared ?_ hstored
  have hstep : (ExceptT.lift (Machine.makeDirectories parent) :
      ExceptT Failure Machine.Run _).run.run machine = _ := run_lift _ machine
  rw [run_makeDirectories, hmade] at hstep
  unfold prepareDirectory
  rw [hparent]
  exact run_bind_of_ok hstep

/-- The directory around each file can be made, and then the file be stored; the file's path has to be
below something, which leaves out the empty path only. -/
inductive Writable (root : Path) (place : Files.Location) :
    Files.Tree → List Theme.GeneratedFile → Files.Tree → Prop
  | nil (tree : Files.Tree) : Writable root place tree [] tree
  | cons {before made stored after : Files.Tree} {file : Theme.GeneratedFile}
      {files : List Theme.GeneratedFile} {parent : Path} :
      (root.join file.path).parent? = some parent →
      before.makeDirectories place parent = (.ok (), made) →
      made.writeText place (root.join file.path) file.contents = .ok stored →
      Writable root place stored files after → Writable root place before (file :: files) after

theorem exists_run_of_writable {files : List Theme.GeneratedFile} {tree : Files.Tree}
    (h : Writable root machine.place machine.tree files tree) :
    ∃ after, (writeThemeFiles root files : ExceptT Failure Machine.Run (List Path)).run.run machine =
      (.ok (files.map (root.join ·.path)), after) ∧ after.tree = tree ∧
      after.place = machine.place := by
  generalize htree : machine.tree = before at h
  generalize hplace : machine.place = place at h ⊢
  induction h generalizing machine with
  | nil => exact ⟨machine, rfl, htree, hplace⟩
  | cons hparent hmade hstored _ ih =>
    subst htree hplace
    obtain ⟨middle, hfile, htree, hplace⟩ := exists_run_writeThemeFile hparent hmade hstored
    obtain ⟨after, hfiles, hafter⟩ := ih htree hplace
    refine ⟨after, ?_, hafter⟩
    unfold writeThemeFiles
    rw [run_bind_of_ok hfile, run_bind_of_ok hfiles]
    rfl

theorem exists_run_writeTheme {bundle : Theme.Bundle} {tree : Files.Tree}
    (h : Writable root machine.place machine.tree bundle.files tree) :
    ∃ after, (writeTheme root bundle : Machine.Run _).run machine =
      (.ok ⟨bundle.files.map (root.join ·.path)⟩, after) ∧ after.tree = tree ∧
      after.place = machine.place := by
  obtain ⟨after, hrun, hafter⟩ := exists_run_of_writable h
  exact ⟨after, run_writeTheme_iff.2 hrun, hafter⟩

end ThemeBlocks.Project
