import Mathlib.Data.Prod.Basic
import ThemeBlocks.Proofs.Project.Frail
import ThemeBlocks.Proofs.Project.ThemeFiles

/-! A theme whose writing fails. The files are written in order, the functions file last, and none of them
lies at or around another; so whatever the failure leaves behind, the files before it are complete and the
ones after it are as they were. -/

namespace ThemeBlocks.Project

open Files (Path)
open Files.Tree (Disturbed KeepsFile Touched)
open Theme (Bundle GeneratedFile)

variable {root target : Path} {file : GeneratedFile} {files : List GeneratedFile} {machine middle : Machine}
  {frail after : Frail} {failure : Failure}

def noteOf (root : Path) (file : GeneratedFile) : Entry :=
  writtenEntry (root.join file.path) file.contents

theorem journal_writeThemeFile
    (h : (writeThemeFile root file : ExceptT Failure Machine.Run Path).run.run machine =
      (.ok target, middle)) : middle.journal = machine.journal ++ [noteOf root file] := by
  obtain ⟨rfl, prepared, stored, hprepare, -, rfl⟩ := exists_prepared h
  obtain ⟨made, rfl, -⟩ := run_prepareDirectory hprepare
  rfl

theorem journal_writeThemeFiles {targets : List Path}
    (h : (writeThemeFiles root files : ExceptT Failure Machine.Run (List Path)).run.run machine =
      (.ok targets, middle)) : middle.journal = machine.journal ++ files.map (noteOf root) := by
  induction files generalizing machine targets with
  | nil =>
    cases h
    simp
  | cons file files ih =>
    obtain ⟨target, stored, hfile, hrest⟩ := exists_run_of_bind h
    obtain ⟨others, last, hfiles, hend⟩ := exists_run_of_bind hrest
    cases hend
    rw [ih hfiles, journal_writeThemeFile hfile, List.append_assoc]
    rfl

/-- Paths below a base, none of which is an earlier one, or that of a directory around it. -/
structure Apart (paths : List Path) : Prop where
  relative : ∀ path ∈ paths, path.isAbsolute = false
  down : ∀ path ∈ paths, ".." ∉ path.segments
  names : (paths.map Path.plainNames).Pairwise fun earlier later => ¬ later <+: earlier

namespace Apart

variable {current : Files.Location} {paths part front back : List Path} {path : Path}
  {before middle after : Files.Tree}

theorem nodup (h : Apart paths) : (paths.map Path.plainNames).Nodup := by
  refine h.names.imp fun {earlier later} hnames hsame => hnames ?_
  subst hsame
  exact List.prefix_rfl

theorem sublist (h : Apart paths) (hpart : part.Sublist paths) : Apart part :=
  ⟨fun path hpath => h.relative path (hpart.subset hpath),
    fun path hpath => h.down path (hpart.subset hpath), h.names.sublist (hpart.map _)⟩

theorem not_begins (h : Apart (front ++ back)) {earlier later : Path} (hearlier : earlier ∈ front)
    (hlater : later ∈ back) : ¬ later.plainNames <+: earlier.plainNames := by
  have hnames := h.names
  rw [List.map_append, List.pairwise_append] at hnames
  exact hnames.2.2 _ (List.mem_map_of_mem hearlier) _ (List.mem_map_of_mem hlater)

theorem readText (h : Apart (front ++ path :: back)) {done : Path} (hdone : done ∈ front) {text : String}
    (hdisturbed : Disturbed current [root.join path] middle after)
    (hread : middle.readText current (root.join done) = .ok text) :
    after.readText current (root.join done) = .ok text := by
  have hmem : done ∈ front ++ path :: back := List.mem_append_left _ hdone
  have hfailed : Apart [path] :=
    h.sublist (List.sublist_append_of_sublist_right (List.singleton_sublist.2 List.mem_cons_self))
  have hother : ∀ other ∈ [path], done.plainNames ≠ other.plainNames := by
    rw [List.forall_mem_singleton]
    exact fun hsame => h.not_begins hdone List.mem_cons_self (hsame ▸ List.prefix_rfl)
  exact Files.Tree.readText_of_disturbed (h.relative done hmem) (h.down done hmem) hfailed.relative
    hfailed.down hother hdisturbed hread

theorem keepsFile (h : Apart (front ++ path :: back)) {later : Path} (hlater : later ∈ back)
    (htouched : Touched current (front.map root.join) before middle)
    (hdisturbed : Disturbed current [root.join path] middle after) :
    KeepsFile current (root.join later) before after := by
  rw [List.append_cons] at h
  have hmem : later ∈ front ++ [path] ++ back := List.mem_append_right _ hlater
  have hearlier := h.sublist (List.sublist_append_left _ _)
  have hall : Disturbed current ((front ++ [path]).map root.join) before after := by
    rw [List.map_append]
    exact (htouched.disturbed.mono (List.subset_append_left _ _)).trans
      (hdisturbed.mono (List.subset_append_right _ _))
  exact Files.Tree.keepsFile_of_disturbed (h.relative later hmem) (h.down later hmem) hearlier.relative
    hearlier.down (fun earlier hmem => h.not_begins hmem hlater) hall

end Apart

/-- The paths of a theme with blocks in a directory of their own: different templates differ in their last
names, and the functions file is not the directory of the blocks. -/
theorem apart_of_standard {options : Theme.Options} (hinside : options.Inside)
    (hdirectory : options.blocksDirectory = "blocks") (registry : Registry) :
    Apart ((Bundle.ofRegistry registry options).files.map GeneratedFile.path) := by
  refine ⟨fun path => hinside.relative_of_mem, fun path => hinside.up_not_mem_of_mem, ?_⟩
  have hblocks : (⟨"blocks"⟩ : Path).plainNames = ["blocks"] := by rfl
  have htemplates : (registry.blocks.map fun block => ["blocks"] ++ [block.blockName ++ ".php"]).Nodup :=
    Theme.Options.Inside.nodup_templateNames ["blocks"]
  rw [hinside.map_plainNames_files, hdirectory, hblocks, List.pairwise_append]
  refine ⟨?_, List.pairwise_singleton _ _, ?_⟩
  · -- Names of one length begin each other only if they are the same.
    rw [List.Nodup, List.pairwise_map] at htemplates
    rw [List.pairwise_map]
    refine htemplates.imp fun hne hbegins => hne ?_
    exact (hbegins.eq_of_length (by simp)).symm
  · intro template htemplate functions hfunctions hbegins
    obtain ⟨block, -, rfl⟩ := List.mem_map.1 htemplate
    rw [List.mem_singleton.1 hfunctions, List.singleton_append, List.cons_prefix_cons] at hbegins
    exact absurd hbegins.1 (by decide)

/-- Writing that fails has written and noted the files before one, and kept the ones after it. -/
theorem files_around_failure (hapart : Apart (files.map GeneratedFile.path))
    (h : (writeThemeFiles root files : ExceptT Failure Frail.Run (List Path)).run.run frail =
      (.error failure, after)) :
    ∃ front file back, files = front ++ file :: back ∧
      after.machine.journal = frail.machine.journal ++ front.map (noteOf root) ∧
      (∀ done ∈ front, after.machine.tree.readText frail.machine.place (root.join done.path) =
        .ok done.contents) ∧
      ∀ later ∈ back, KeepsFile frail.machine.place (root.join later.path) frail.machine.tree
        after.machine.tree := by
  obtain ⟨front, file, back, rfl, targets, middle, hfront, -, hjournal, hdisturbed⟩ :=
    exists_failed_file h
  obtain ⟨-, hplace, hstored⟩ := run_writeThemeFiles hfront
  have hkeeps : KeepsTo ((front.map GeneratedFile.path).map root.join)
      (writeThemeFiles root front : ExceptT Failure Machine.Run (List Path)) :=
    keepsTo_writeThemeFiles fun file hfile => List.mem_map_of_mem (List.mem_map_of_mem hfile)
  obtain ⟨-, htouched⟩ := hkeeps frail.machine
  rw [hplace] at hdisturbed
  rw [hfront] at htouched
  rw [List.map_append, List.map_cons] at hapart
  have hwritten := hapart.sublist (List.sublist_append_left _ _)
  refine ⟨front, file, back, rfl, hjournal.trans (journal_writeThemeFiles hfront), ?_, ?_⟩
  · intro done hdone
    exact hapart.readText (List.mem_map_of_mem hdone) hdisturbed
      (readText_of_nodup_plainNames hwritten.relative hwritten.down hwritten.nodup hstored done hdone)
  · intro later hlater
    exact hapart.keepsFile (List.mem_map_of_mem hlater) htouched hdisturbed

def templateOf (options : Theme.Options) (block : Block.Descriptor) : GeneratedFile :=
  ⟨⟨options.templatePath block.blockName⟩, Theme.templateFile block options⟩

theorem exists_files_eq (registry : Registry) (options : Theme.Options) :
    ∃ script, (Bundle.ofRegistry registry options).files =
      registry.blocks.map (templateOf options) ++ [⟨⟨options.functionsFile⟩, script⟩] := by
  simp only [Bundle.ofRegistry, List.map_map]
  exact ⟨_, rfl⟩

/-- However a disk fails while a theme is written with its blocks in the standard directory, that is
reported as a failed regeneration, and the functions file is not ahead of the templates: it is kept, or all
templates are complete. The files before the one that failed are noted and complete, and the ones after
it are kept. -/
theorem functionsFile_not_ahead {settings : Settings} {registry : Registry} {prologue epilogue : String}
    {root : Path} {frail after : Frail} {failure : Failure} (hunset : settings.blocksDirectory = none)
    (hrun : (writeTheme root (.ofRegistry registry (settings.themeOptions prologue epilogue)) :
      Frail.Run _).run frail = (.error failure, after)) :
    let options := settings.themeOptions prologue epilogue
    let place := frail.machine.place
    let before := frail.machine.tree
    let tree := after.machine.tree
    IsRegeneration failure ∧
      (KeepsFile place (root.join ⟨"functions.php"⟩) before tree ∨
        ∀ block ∈ registry.blocks,
          tree.readText place (root.join ⟨options.templatePath block.blockName⟩) =
            .ok (Theme.templateFile block options)) ∧
      ∃ front file back, (Bundle.ofRegistry registry options).files = front ++ file :: back ∧
        after.machine.journal = frail.machine.journal ++ front.map (noteOf root) ∧
        (∀ done ∈ front, tree.readText place (root.join done.path) = .ok done.contents) ∧
        ∀ later ∈ back, KeepsFile place (root.join later.path) before tree := by
  intro options place before tree
  have hvalid : settings.validate = .ok () := by rw [Settings.validate, hunset]
  have hinside : options.Inside := inside_of_validate prologue epilogue hvalid
  have hdirectory : options.blocksDirectory = "blocks" := by
    simp only [options, Settings.themeOptions, hunset]
  obtain ⟨front, file, back, hfiles, hjournal, hfront, hback⟩ :=
    files_around_failure (apart_of_standard hinside hdirectory registry) (run_writeTheme_error hrun)
  refine ⟨isRegeneration_of_writeTheme (congrArg Prod.fst hrun), ?_, front, file, back, hfiles, hjournal,
    hfront, hback⟩
  obtain ⟨script, hall⟩ := exists_files_eq registry options
  rw [hall, hinside.functionsFile_eq] at hfiles
  rcases List.eq_nil_or_concat' back with rfl | ⟨others, last, rfl⟩
  · -- The functions file itself failed, so what stands before it are the templates.
    obtain ⟨rfl, -⟩ := List.append_inj' hfiles rfl
    exact .inr fun block hblock => hfront (templateOf options block) (List.mem_map_of_mem hblock)
  · -- Something before the functions file failed, so it is the last of those that are kept.
    rw [← List.cons_append, ← List.append_assoc] at hfiles
    obtain ⟨-, hlast⟩ := List.append_inj' hfiles rfl
    cases hlast
    exact .inl (hback _ (List.mem_append_right _ (List.mem_singleton_self _)))

def heroAndFooter : Registry where
  blocks := [{ blockName := "hero", displayName := "Hero", typeName := "AcfHero" },
    { blockName := "footer", displayName := "Footer", typeName := "AcfFooter" }]
  accepted := rfl

/-- A machine with an old theme, whose disk is full when the second template is written. -/
def fullDisk : Frail where
  machine :=
    { directory := ⟨"/"⟩
      place := []
      tree := ⟨[(["theme"], .directory), (["theme", "functions.php"], .file "<?php"),
        (["theme", "blocks"], .directory), (["theme", "blocks", "footer.php"], .file "old")]⟩ }
  faults :=
    [none, none, none, some { error := .other "No space left on device (os error 28)", left := some "<?" }]

def interruptedRun : Except Failure Theme.WrittenFiles × Frail :=
  (writeTheme ⟨"theme"⟩ (.ofRegistry heroAndFooter
    (({} : Settings).themeOptions Theme.standardPrologue "")) : Frail.Run _).run fullDisk

theorem interruptedRun_keeps_functionsFile :
    ({} : Settings).blocksDirectory = none ∧ ∃ after,
      interruptedRun = (.error (.regeneration
        "Failed to write theme/blocks/footer.php: No space left on device (os error 28)"), after) ∧
      after.machine.tree.readText [] ⟨"theme/blocks/footer.php"⟩ = .ok "<?" ∧
      KeepsFile [] ⟨"theme/functions.php"⟩ fullDisk.machine.tree after.machine.tree := by
  have hunset : ({} : Settings).blocksDirectory = none := by rfl
  have hfailed : interruptedRun.1 = .error (.regeneration
      "Failed to write theme/blocks/footer.php: No space left on device (os error 28)") := by
    decide +kernel
  have hleft : interruptedRun.2.machine.tree.readText [] ⟨"theme/blocks/footer.php"⟩ = .ok "<?" := by
    decide +kernel
  generalize hrun : interruptedRun = out at hfailed hleft
  obtain ⟨result, after⟩ := out
  obtain rfl : result = _ := hfailed
  obtain ⟨-, hkept, -⟩ := functionsFile_not_ahead hunset hrun
  have hfunctions : Path.join ⟨"theme"⟩ ⟨"functions.php"⟩ = ⟨"theme/functions.php"⟩ := by decide
  rw [hfunctions] at hkept
  refine ⟨hunset, after, rfl, hleft, hkept.resolve_right fun hall => ?_⟩
  have hcomplete := hall { blockName := "footer", displayName := "Footer", typeName := "AcfFooter" }
    (List.mem_cons_of_mem _ List.mem_cons_self)
  have hpath : Path.join ⟨"theme"⟩
      ⟨(({} : Settings).themeOptions Theme.standardPrologue "").templatePath "footer"⟩ =
        ⟨"theme/blocks/footer.php"⟩ := by decide +kernel
  have hshort := hleft.symm.trans (hpath ▸ hcomplete)
  exact absurd (Except.ok.inj hshort) (by decide +kernel)

end ThemeBlocks.Project
