import ThemeBlocks.Proofs.Files.Enclosing
import ThemeBlocks.Proofs.Project.Again
import ThemeBlocks.Proofs.Project.Effects
import ThemeBlocks.Proofs.Project.ThemeFiles

/-! A theme is written inside its root. Whatever the root is and however the writing ends, all that changes
lies below the place that the root leads to, save for directories that were missing on the way there. -/

namespace ThemeBlocks.Project

open Files (Path Component Encloses)
open Files.Tree (ChangesInside)
open Theme (Bundle GeneratedFile)

variable {settings : Settings} {machine : Machine} {bundle : Bundle} {root : Path}

theorem targetsOf_eq (root : Path) (bundle : Bundle) :
    targetsOf root bundle = (bundle.files.map GeneratedFile.path).map root.join := by
  rw [targetsOf, List.map_map]
  rfl

theorem paths_of_compiled (hvalid : settings.validate = .ok ())
    (hcompiled : (compiled settings).run.run machine = (.ok bundle, machine)) :
    ∀ path ∈ bundle.files.map GeneratedFile.path, path.isAbsolute = false ∧ ".." ∉ path.segments := by
  obtain ⟨registry, prologue, epilogue, -, -, -, rfl⟩ := run_compiled_iff.1 hcompiled
  have hinside := inside_of_validate prologue epilogue hvalid
  exact fun path hpath => ⟨hinside.relative_of_mem hpath, hinside.up_not_mem_of_mem hpath⟩

theorem components_comparable {target around : Path} (htarget : root.IsBelow target)
    (haround : Encloses around target) :
    around.components <+: root.components ∨ root.components <+: around.components :=
  List.prefix_or_prefix_of_prefix (Files.components_of_encloses haround) htarget.1

/-- The files of a theme have relative paths that do not go up, so that, whatever the root, the targets lie
below it and the directories around them lie around the root or below it. A theme that was written was
written to these targets; and however the writing ends, nothing changes outside the root but directories
that were missing on the way to it. -/
theorem theme_inside_root (hvalid : settings.validate = .ok ())
    (hcompiled : (compiled settings).run.run machine = (.ok bundle, machine)) :
    (∀ file ∈ bundle.files, file.path.isAbsolute = false ∧ Component.up ∉ file.path.components) ∧
      ∀ root : Path,
        (∀ target ∈ targetsOf root bundle, root.IsBelow target ∧ ∀ around, Encloses around target →
          around.components <+: root.components ∨ root.components <+: around.components) ∧
        ∀ world : Machine,
          let out := (writeTheme root bundle : Machine.Run _).run world
          (∀ written, out.1 = .ok written → written.files = targetsOf root bundle) ∧
            ChangesInside world.place root world.tree out.2.tree := by
  have hpaths := paths_of_compiled hvalid hcompiled
  refine ⟨fun file hfile => ?_, fun root => ⟨fun target htarget => ?_, fun world => ⟨?_, ?_⟩⟩⟩
  · obtain ⟨hrelative, hup⟩ := hpaths file.path (List.mem_map_of_mem hfile)
    exact ⟨hrelative, Path.up_not_mem_components hup⟩
  · rw [targetsOf_eq] at htarget
    obtain ⟨path, hpath, rfl⟩ := List.mem_map.1 htarget
    obtain ⟨hrelative, hup⟩ := hpaths path hpath
    have hbelow : root.IsBelow (root.join path) := Path.isBelow_join hrelative hup
    exact ⟨hbelow, fun around haround => components_comparable hbelow haround⟩
  · exact fun written hwritten => (run_writeTheme (Prod.fst_eq_iff.1 hwritten)).1
  · have htouched := touched_writeTheme root bundle world
    rw [targetsOf_eq] at htouched
    exact Files.Tree.changesInside_of_touched (fun path hpath => (hpaths path hpath).1)
      (fun path hpath => (hpaths path hpath).2) htouched

def dottedBundle : Bundle :=
  .ofRegistry functionsBlock ((functionsProject "./b//").themeOptions Theme.standardPrologue "")

theorem dottedBundle_inside_root :
    (functionsProject "./b//").validate = .ok () ∧
      (compiled (functionsProject "./b//")).run.run bareMachine = (.ok dottedBundle, bareMachine) ∧
      dottedBundle.files.map GeneratedFile.path = [⟨"./b/functions.php"⟩, ⟨"functions.php"⟩] ∧
      (∀ target ∈ targetsOf ⟨"../site"⟩ dottedBundle, Path.IsBelow ⟨"../site"⟩ target) ∧
      ChangesInside [] ⟨"../site"⟩ {}
        ((writeTheme ⟨"../site"⟩ dottedBundle : Machine.Run _).run bareMachine).2.tree := by
  have hvalid : (functionsProject "./b//").validate = .ok () := by rfl
  have hcompiled : (compiled (functionsProject "./b//")).run.run bareMachine =
      (.ok dottedBundle, bareMachine) :=
    run_compiled_iff.2 ⟨functionsBlock, Theme.standardPrologue, "", rfl, rfl, rfl, rfl⟩
  obtain ⟨-, hinside⟩ := theme_inside_root hvalid hcompiled
  obtain ⟨htargets, hchanges⟩ := hinside ⟨"../site"⟩
  exact ⟨hvalid, hcompiled, by rfl, fun target htarget => (htargets target htarget).1,
    (hchanges bareMachine).2⟩

end ThemeBlocks.Project
