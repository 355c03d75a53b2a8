import ThemeBlocks.Proofs.Files.Frame
import ThemeBlocks.Proofs.Project.Agreement
import ThemeBlocks.Proofs.Project.Written

/-! Generating a theme again, on the files that the first time has left. It always goes well: the
directories are there, and where a file was written one can be written again. Whether it changes
anything is up to the boilerplate, which is read anew and may have been written the first time. -/

namespace ThemeBlocks.Project

open Files (Path Location Tree)
open Files.Tree (Stored Overwritten KeepsDirectories)
open Settings (Task settle)

/-- A file was written at the path, with the directories made that are around it. -/
structure Settled (place : Location) (tree : Tree) (path : Path) : Prop where
  around : ∀ parent, path.parent? = some parent → tree.makeDirectories place parent = (.ok (), tree)
  file : ∃ target text, tree.targetOf place path .isDirectory = .ok target ∧
    tree.node? target = some (.file text)

theorem Settled.later {place : Location} {before after : Tree} {path : Path}
    {writes : List (Path × String)} (h : Settled place before path)
    (hstored : Stored place before writes after) : Settled place after path := by
  refine ⟨fun parent hparent => ?_, ?_⟩
  · exact Tree.makeDirectories_again (h.around parent hparent) hstored.keepsDirectories
  · obtain ⟨target, text, htarget, hnode⟩ := h.file
    obtain ⟨text, hnode⟩ := hstored.exists_file hnode
    exact ⟨target, text, Tree.targetOf_of_keepsDirectories hstored.keepsDirectories htarget, hnode⟩

variable {root : Path} {machine after : Machine}

theorem makeDirectories_of_prepared {target parent : Path}
    (h : (prepareDirectory target : ExceptT Failure Machine.Run Unit).run.run machine = (.ok (), after))
    (hparent : target.parent? = some parent) :
    machine.tree.makeDirectories machine.place parent = (.ok (), after.tree) := by
  unfold prepareDirectory at h
  rw [hparent] at h
  obtain ⟨result, middle, hmade, hrest⟩ := exists_run_of_lift_bind h
  cases hmade
  split at hrest
  · next hresult =>
    cases hrest
    exact Prod.ext hresult rfl
  · cases hrest

theorem settled_of_writeThemeFile {file : Theme.GeneratedFile} {target : Path}
    (h : (writeThemeFile root file : ExceptT Failure Machine.Run Path).run.run machine =
      (.ok target, after)) : Settled machine.place after.tree (root.join file.path) := by
  obtain ⟨rfl, prepared, stored, hprepare, hstored, rfl⟩ := exists_prepared h
  obtain ⟨made, rfl, -⟩ := run_prepareDirectory hprepare
  dsimp only at hstored ⊢
  obtain ⟨-, -, -, hkeeps, -⟩ := Tree.writeText_spec hstored
  refine ⟨fun parent hparent => ?_, ?_⟩
  · exact Tree.makeDirectories_again (makeDirectories_of_prepared hprepare hparent) hkeeps
  · obtain ⟨target, htarget, hnode, hafter⟩ := Tree.writeText_eq_ok_iff.1 hstored
    have hne : target ≠ [] := by
      rintro rfl
      exact hnode rfl
    refine ⟨target, file.contents, Tree.targetOf_of_keepsDirectories hkeeps htarget, ?_⟩
    rw [hafter]
    exact Tree.node?_insert_self hne _ _

theorem settled_of_writeThemeFiles {files : List Theme.GeneratedFile} {targets : List Path}
    (h : (writeThemeFiles root files : ExceptT Failure Machine.Run (List Path)).run.run machine =
      (.ok targets, after)) :
    ∀ file ∈ files, Settled machine.place after.tree (root.join file.path) := by
  induction files generalizing machine targets with
  | nil => exact List.forall_mem_nil _
  | cons file files ih =>
    obtain ⟨target, stored, hfile, hrest⟩ := exists_run_of_bind h
    obtain ⟨others, last, hfiles, hend⟩ := exists_run_of_bind hrest
    cases hend
    obtain ⟨-, hplace, -⟩ := run_writeThemeFile hfile
    obtain ⟨-, -, hstored⟩ := run_writeThemeFiles hfiles
    have hothers := ih hfiles
    rw [hplace] at hothers hstored
    exact List.forall_mem_cons.2 ⟨(settled_of_writeThemeFile hfile).later hstored, hothers⟩

theorem exists_run_of_settled {file : Theme.GeneratedFile}
    (h : Settled machine.place machine.tree (root.join file.path)) :
    ∃ after, (writeThemeFile root file : ExceptT Failure Machine.Run Path).run.run machine =
        (.ok (root.join file.path), after) ∧ after.place = machine.place ∧
      machine.tree.writeText machine.place (root.join file.path) file.contents = .ok after.tree := by
  obtain ⟨target, text, htarget, hnode⟩ := h.file
  have hstored : machine.tree.writeText machine.place (root.join file.path) file.contents =
      .ok (machine.tree.insert target (.file file.contents)) :=
    Tree.writeText_eq_ok_iff.2 ⟨target, htarget, by simp [hnode], rfl⟩
  have hprepare : (prepareDirectory (root.join file.path) :
      ExceptT Failure Machine.Run Unit).run.run machine = (.ok (), machine) := by
    unfold prepareDirectory
    cases hparent : (root.join file.path).parent? with
    | none => rfl
    | some parent =>
      have hstep : (ExceptT.lift (Machine.makeDirectories parent) :
          ExceptT Failure Machine.Run _).run.run machine = (.ok (.ok ()), machine) := by
        rw [run_lift, run_makeDirectories, h.around parent hparent]
      exact run_bind_of_ok hstep
  obtain ⟨after, hrun, htree, hplace⟩ := exists_run_of_prepared hprepare hstored
  exact ⟨after, hrun, hplace, htree ▸ hstored⟩

theorem exists_run_again {files : List Theme.GeneratedFile}
    (h : ∀ file ∈ files, Settled machine.place machine.tree (root.join file.path)) :
    ∃ after, (writeThemeFiles root files : ExceptT Failure Machine.Run (List Path)).run.run machine =
        (.ok (files.map (root.join ·.path)), after) ∧
      Overwritten machine.place machine.tree
        (files.map fun file => (root.join file.path, file.contents)) after.tree := by
  induction files generalizing machine with
  | nil => exact ⟨machine, rfl, .nil _⟩
  | cons file files ih =>
    obtain ⟨hfile, hfiles⟩ := List.forall_mem_cons.1 h
    obtain ⟨middle, hfirst, hplace, hstored⟩ := exists_run_of_settled hfile
    have hlater : ∀ file ∈ files, Settled middle.place middle.tree (root.join file.path) := by
      intro other hother
      rw [hplace]
      exact (hfiles other hother).later (.cons (.refl _) hstored (.nil _))
    obtain ⟨after, hrest, hover⟩ := ih hlater
    rw [hplace] at hover
    refine ⟨after, ?_, .cons hstored hover⟩
    unfold writeThemeFiles
    rw [run_bind_of_ok hfirst, run_bind_of_ok hrest]
    rfl

/-- The text that a boilerplate path of the settings brings, or the standard one. -/
def Brings (settings : Settings) (machine : Machine) (path : Option Path) (standard text : String) :
    Prop :=
  match path with
  | none => text = standard
  | some path => machine.tree.readText machine.place (settings.resolve path) = .ok text

theorem run_boilerplate_iff {settings : Settings} {path : Option Path} {standard text : String} :
    (settings.boilerplate path standard : Task Machine.Run String).run.run machine =
      (.ok text, machine) ↔ Brings settings machine path standard text := by
  cases path with
  | none =>
    constructor
    · intro h
      cases h
      rfl
    · rintro rfl
      rfl
  | some path =>
    unfold Settings.boilerplate Brings
    dsimp only
    rw [run_readFile]
    cases machine.tree.readText machine.place (settings.resolve path) with
    | error error => constructor <;> (intro h; cases h)
    | ok given => constructor <;> (intro h; cases h; rfl)

theorem Brings.later {settings : Settings} {path : Option Path} {standard text : String}
    {writes : List (Path × String)} (h : Brings settings machine path standard text)
    (hplace : after.place = machine.place)
    (hstored : Stored machine.place machine.tree writes after.tree) :
    ∃ text, Brings settings after path standard text := by
  cases path with
  | none => exact ⟨standard, rfl⟩
  | some path =>
    obtain ⟨location, hlocate, hnode⟩ := Tree.readText_eq_ok_iff.1 h
    obtain ⟨text, hnode⟩ := hstored.exists_file hnode
    refine ⟨text, Tree.readText_eq_ok_iff.2 ⟨location, ?_, hnode⟩⟩
    rw [hplace]
    exact Tree.locate_of_keepsDirectories hstored.keepsDirectories hlocate

theorem Brings.unique {settings : Settings} {path : Option Path} {standard text other : String}
    (h : Brings settings machine path standard text) (hother : Brings settings machine path standard other) :
    text = other := by
  cases path with
  | none => exact Eq.trans h (Eq.symm hother)
  | some path => exact Except.ok.inj (Eq.trans (Eq.symm h) hother)

def Meet (machine : Machine) (path other : Path) : Prop :=
  ∃ location, machine.tree.locate machine.place path = .ok location ∧
    machine.tree.locate machine.place other = .ok location

theorem Brings.apart {settings : Settings} {path : Option Path} {standard text : String}
    {writes : List (Path × String)} (h : Brings settings machine path standard text)
    (hplace : after.place = machine.place)
    (hstored : Stored machine.place machine.tree writes after.tree)
    (hapart : ∀ given ∈ path, ∀ write ∈ writes, ¬ Meet after (settings.resolve given) write.1) :
    Brings settings after path standard text := by
  cases path with
  | none => exact h
  | some path =>
    obtain ⟨location, hlocate, hnode⟩ := Tree.readText_eq_ok_iff.1 h
    have hlater := Tree.locate_of_keepsDirectories hstored.keepsDirectories hlocate
    rw [← hplace] at hlater
    refine Tree.readText_eq_ok_iff.2 ⟨location, hlater, hstored.node?_of_forall_ne ?_ hnode⟩
    intro write hwrite hmeet
    rw [← hplace] at hmeet
    exact hapart path rfl write hwrite ⟨location, hlater, hmeet⟩

theorem Brings.eq_of_meet {settings : Settings} {path other : Path} {location : Location}
    {standard text contents : String} (h : Brings settings machine (some path) standard text)
    (hmeet : Meet machine (settings.resolve path) other)
    (hother : machine.tree.locate machine.place other = .ok location)
    (hnode : machine.tree.node? location = some (.file contents)) : text = contents := by
  obtain ⟨place, hplace, hsame⟩ := hmeet
  obtain rfl : place = location := Except.ok.inj (hsame.symm.trans hother)
  obtain ⟨reached, hreached, htext⟩ := Tree.readText_eq_ok_iff.1 h
  obtain rfl : reached = place := Except.ok.inj (hreached.symm.trans hplace)
  cases htext.symm.trans hnode
  rfl

theorem run_compiled_iff {settings : Settings} {bundle : Theme.Bundle} :
    (compiled settings).run.run machine = (.ok bundle, machine) ↔
      ∃ registry prologue epilogue, settings.registry = .ok registry ∧
        Brings settings machine settings.prologue Theme.standardPrologue prologue ∧
        Brings settings machine settings.epilogue "" epilogue ∧
        bundle = .ofRegistry registry (settings.themeOptions prologue epilogue) := by
  have hcompiled : compiled settings = (do
      let registry ← settle settings.registry
      let prologue ← settings.boilerplate settings.prologue Theme.standardPrologue
      let epilogue ← settings.boilerplate settings.epilogue ""
      pure (.ofRegistry registry (settings.themeOptions prologue epilogue))) := by
    simp only [compiled, Settings.options, bind_assoc, pure_bind]
  rw [hcompiled]
  constructor
  · intro h
    obtain ⟨registry, middle, hregistry, h⟩ := exists_run_of_bind h
    obtain rfl := (gathers_registry settings).machine_eq hregistry
    obtain ⟨prologue, middle, hprologue, h⟩ := exists_run_of_bind h
    obtain rfl := (gathers_boilerplate settings _ _).machine_eq hprologue
    obtain ⟨epilogue, middle, hepilogue, h⟩ := exists_run_of_bind h
    obtain rfl := (gathers_boilerplate settings _ _).machine_eq hepilogue
    cases h
    exact ⟨registry, prologue, epilogue, (Prod.mk.inj hregistry).1, run_boilerplate_iff.1 hprologue,
      run_boilerplate_iff.1 hepilogue, rfl⟩
  · rintro ⟨registry, prologue, epilogue, hregistry, hprologue, hepilogue, rfl⟩
    rw [run_bind_of_ok (run_registry hregistry machine), run_bind_of_ok (run_boilerplate_iff.2 hprologue),
      run_bind_of_ok (run_boilerplate_iff.2 hepilogue)]
    rfl

def blocksOf (settings : Settings) (registry : Registry) : List Theme.Compiled :=
  registry.blocks.map fun block => Theme.compile block (settings.themeOptions "" "")

def templatesOf (settings : Settings) (registry : Registry) : List Theme.GeneratedFile :=
  (blocksOf settings registry).map fun block =>
    ⟨⟨(settings.themeOptions "" "").templatePath block.blockName⟩, block.templateFile⟩

theorem files_ofRegistry (settings : Settings) (registry : Registry) (prologue epilogue : String) :
    Theme.Bundle.ofRegistry registry (settings.themeOptions prologue epilogue) =
      ⟨blocksOf settings registry, templatesOf settings registry ++
        [⟨⟨"functions.php"⟩,
          Theme.functionsScript (blocksOf settings registry) ⟨prologue, epilogue⟩⟩]⟩ := by
  unfold templatesOf blocksOf Settings.themeOptions
  cases settings.blocksDirectory <;> rfl

theorem targetsOf_ofRegistry (settings : Settings) (registry : Registry) (prologue epilogue : String) :
    targetsOf settings.themePath
        (.ofRegistry registry (settings.themeOptions prologue epilogue)) =
      (templatesOf settings registry).map (settings.themePath.join ·.path) ++
        [settings.themePath.join ⟨"functions.php"⟩] := by
  rw [targetsOf, files_ofRegistry, List.map_append]
  rfl

theorem length_boilerplate_lt (blocks : List Theme.Compiled) (boilerplate : Theme.Boilerplate) :
    boilerplate.prologue.length < (Theme.functionsScript blocks boilerplate).length ∧
      boilerplate.epilogue.length < (Theme.functionsScript blocks boilerplate).length := by
  have hline : boilerplate.prologue.length ≤ (Theme.endLine boilerplate.prologue).length := by
    unfold Theme.endLine
    split
    · exact Nat.le_refl _
    · split
      · exact Nat.le_refl _
      · rw [String.length_append]
        exact Nat.le_add_right _ _
  have hbody : 0 < (Theme.functionsBody blocks).length := by
    have hword : 0 < "function ".length := by decide
    simp only [Theme.functionsBody, Theme.guardOpening, String.length_append]
    omega
  rw [Theme.functionsScript, String.length_append, String.length_append]
  omega

def functionsTarget (settings : Settings) : Path :=
  settings.themePath.join ⟨"functions.php"⟩

theorem writes_ofRegistry (settings : Settings) (registry : Registry) (prologue epilogue : String) :
    (Theme.Bundle.ofRegistry registry (settings.themeOptions prologue epilogue)).files.map
        (fun file => (settings.themePath.join file.path, file.contents)) =
      (templatesOf settings registry).map
          (fun file => (settings.themePath.join file.path, file.contents)) ++
        [(functionsTarget settings,
          Theme.functionsScript (blocksOf settings registry) ⟨prologue, epilogue⟩)] := by
  rw [files_ofRegistry, List.map_append]
  rfl

theorem ofRegistry_eq_iff {settings : Settings} {registry : Registry}
    {prologue epilogue prologue' epilogue' : String} :
    Theme.Bundle.ofRegistry registry (settings.themeOptions prologue' epilogue') =
        .ofRegistry registry (settings.themeOptions prologue epilogue) ↔
      Theme.functionsScript (blocksOf settings registry) ⟨prologue', epilogue'⟩ =
        Theme.functionsScript (blocksOf settings registry) ⟨prologue, epilogue⟩ := by
  rw [files_ofRegistry, files_ofRegistry]
  simp

theorem writeTheme_again {bundle other : Theme.Bundle} {written : Theme.WrittenFiles}
    (h : (writeTheme root bundle : Machine.Run _).run machine = (.ok written, after))
    (hpaths : targetsOf root other = targetsOf root bundle) :
    ∃ again, (writeTheme root other : Machine.Run _).run after = (.ok written, again) ∧
      Overwritten after.place after.tree
        (other.files.map fun file => (root.join file.path, file.contents)) again.tree := by
  obtain ⟨hwritten, hplace, -⟩ := run_writeTheme h
  have hsettled : ∀ path ∈ targetsOf root bundle, Settled machine.place after.tree path :=
    List.forall_mem_map.2 (settled_of_writeThemeFiles (run_writeTheme_iff.1 h))
  rw [← hpaths, ← hplace] at hsettled
  obtain ⟨again, hagain, hover⟩ := exists_run_again (List.forall_mem_map.1 hsettled)
  have htargets : other.files.map (root.join ·.path) = written.files := hpaths.trans hwritten.symm
  rw [htargets] at hagain
  exact ⟨again, run_writeTheme_iff.2 hagain, hover⟩

def boilerplatePaths (settings : Settings) : List Path :=
  (settings.prologue.toList ++ settings.epilogue.toList).map settings.resolve

theorem exists_bundle {settings : Settings} {written : Theme.WrittenFiles}
    (h : (generate settings : Task Machine.Run _).run.run machine = (.ok written, after)) :
    ∃ registry prologue epilogue, settings.registry = .ok registry ∧
      Brings settings machine settings.prologue Theme.standardPrologue prologue ∧
      Brings settings machine settings.epilogue "" epilogue ∧
      (writeTheme settings.themePath
          (.ofRegistry registry (settings.themeOptions prologue epilogue)) : Machine.Run _).run machine =
        (.ok written, after) := by
  have hgenerated := h
  rw [generate_eq] at h
  obtain ⟨bundle, middle, hcompiled, -⟩ := exists_run_of_bind h
  obtain rfl := (gathers_compiled settings).machine_eq hcompiled
  have hwrite := (run_generate hcompiled).1 hgenerated
  obtain ⟨registry, prologue, epilogue, hregistry, hprologue, hepilogue, rfl⟩ :=
    run_compiled_iff.1 hcompiled
  exact ⟨registry, prologue, epilogue, hregistry, hprologue, hepilogue, hwrite⟩

theorem functionsFile_of_writeTheme {settings : Settings} {registry : Registry}
    {prologue epilogue : String} {written : Theme.WrittenFiles}
    (h : (writeTheme settings.themePath
      (.ofRegistry registry (settings.themeOptions prologue epilogue)) : Machine.Run _).run machine =
        (.ok written, after)) :
    ∃ location, after.tree.locate after.place (functionsTarget settings) = .ok location ∧
      after.tree.node? location = some (.file
        (Theme.functionsScript (blocksOf settings registry) ⟨prologue, epilogue⟩)) := by
  obtain ⟨-, hplace, hstored⟩ := run_writeTheme h
  rw [writes_ofRegistry] at hstored
  obtain ⟨location, hlocate⟩ := hstored.exists_locate (functionsTarget settings, _)
    (List.mem_append_right _ List.mem_cons_self)
  refine ⟨location, ?_, hstored.node?_of_last hlocate (List.forall_mem_nil _)⟩
  rw [hplace]
  exact hlocate

theorem functionsFile_grows {settings : Settings} {written : Theme.WrittenFiles} {location : Location}
    {contents : String}
    (h : (generate settings : Task Machine.Run _).run.run machine = (.ok written, after))
    (hmeets : ∃ path ∈ boilerplatePaths settings, Meet machine path (functionsTarget settings))
    (hlocate : machine.tree.locate machine.place (functionsTarget settings) = .ok location)
    (hnode : machine.tree.node? location = some (.file contents)) :
    ∃ text, after.tree.node? location = some (.file text) ∧ contents.length < text.length := by
  obtain ⟨registry, prologue, epilogue, -, hprologue, hepilogue, hwrite⟩ := exists_bundle h
  obtain ⟨-, hplace, hstored⟩ := run_writeTheme hwrite
  obtain ⟨later, hlater, htext⟩ := functionsFile_of_writeTheme hwrite
  -- No directory goes away, so the path still leads where it led when the boilerplate was read.
  have hkept := Tree.locate_of_keepsDirectories hstored.keepsDirectories hlocate
  rw [hplace] at hlater
  obtain rfl : location = later := Except.ok.inj (hkept.symm.trans hlater)
  refine ⟨_, htext, ?_⟩
  obtain ⟨hlonger, hlonger'⟩ :=
    length_boilerplate_lt (blocksOf settings registry) ⟨prologue, epilogue⟩
  obtain ⟨path, hpath, hmeet⟩ := hmeets
  obtain ⟨given, hgiven, rfl⟩ := List.mem_map.1 hpath
  rcases List.mem_append.1 hgiven with hgiven | hgiven
  · rw [Option.mem_toList.1 hgiven] at hprologue
    exact hprologue.eq_of_meet hmeet hlocate hnode ▸ hlonger
  · rw [Option.mem_toList.1 hgiven] at hepilogue
    exact hepilogue.eq_of_meet hmeet hlocate hnode ▸ hlonger'

/-- Once a theme was generated it can always be generated again, with the same report. The second time
leaves every file as it is if and only if it compiles what the first time compiled. That is so if no
boilerplate is read where a file of the theme was written, and never if one is read from the functions
file, which grows by what it is. -/
theorem generate_again {settings : Settings} {written : Theme.WrittenFiles}
    (h : (generate settings : Task Machine.Run _).run.run machine = (.ok written, after)) :
    ∃ bundle bundle' again,
      (compiled settings).run.run machine = (.ok bundle, machine) ∧
      (compiled settings).run.run after = (.ok bundle', after) ∧
      (generate settings : Task Machine.Run _).run.run after = (.ok written, again) ∧
      ((∀ location, again.tree.node? location = after.tree.node? location) ↔ bundle' = bundle) ∧
      ((∀ path ∈ boilerplatePaths settings, ∀ target ∈ targetsOf settings.themePath bundle,
        ¬ Meet after path target) → bundle' = bundle) ∧
      ((∃ path ∈ boilerplatePaths settings, Meet after path (functionsTarget settings)) →
        bundle' ≠ bundle) := by
  obtain ⟨registry, prologue, epilogue, hregistry, hprologue, hepilogue, hwrite⟩ := exists_bundle h
  obtain ⟨-, hplace, hstored⟩ := run_writeTheme hwrite
  obtain ⟨prologue', hprologue'⟩ := hprologue.later hplace hstored
  obtain ⟨epilogue', hepilogue'⟩ := hepilogue.later hplace hstored
  have hcompiled := run_compiled_iff.2
    ⟨registry, prologue, epilogue, hregistry, hprologue, hepilogue, rfl⟩
  have hcompiled' := run_compiled_iff.2
    ⟨registry, prologue', epilogue', hregistry, hprologue', hepilogue', rfl⟩
  obtain ⟨again, hagain, hover⟩ := writeTheme_again hwrite
    ((targetsOf_ofRegistry settings registry prologue' epilogue').trans
      (targetsOf_ofRegistry settings registry prologue epilogue).symm)
  rw [← run_generate hcompiled'] at hagain
  have hsame : (∀ location, again.tree.node? location = after.tree.node? location) ↔
      Theme.Bundle.ofRegistry registry (settings.themeOptions prologue' epilogue') =
        .ofRegistry registry (settings.themeOptions prologue epilogue) := by
    rw [writes_ofRegistry] at hstored hover
    rw [hplace] at hover
    exact (Tree.node?_unchanged_iff hstored hover).trans ofRegistry_eq_iff.symm
  refine ⟨_, _, again, hcompiled, hcompiled', hagain, hsame, ?_, ?_⟩
  · intro hapart
    -- Nothing is stored at a boilerplate path, so both texts are the ones of the first time.
    have hfar : ∀ given ∈ settings.prologue.toList ++ settings.epilogue.toList, ∀ write ∈
        (Theme.Bundle.ofRegistry registry (settings.themeOptions prologue epilogue)).files.map
          (fun file => (settings.themePath.join file.path, file.contents)),
        ¬ Meet after (settings.resolve given) write.1 := by
      intro given hgiven write hwrite
      obtain ⟨file, hfile, rfl⟩ := List.mem_map.1 hwrite
      exact hapart _ (List.mem_map_of_mem hgiven) _ (List.mem_map.2 ⟨file, hfile, rfl⟩)
    have hhead := hprologue'.unique <| hprologue.apart hplace hstored fun given hgiven =>
      hfar given (List.mem_append_left _ (Option.mem_toList.2 hgiven))
    have htail := hepilogue'.unique <| hepilogue.apart hplace hstored fun given hgiven =>
      hfar given (List.mem_append_right _ (Option.mem_toList.2 hgiven))
    rw [hhead, htail]
  · intro hmeets hbundle
    obtain ⟨location, hlocate, hnode⟩ := functionsFile_of_writeTheme hwrite
    obtain ⟨text, htext, hlonger⟩ := functionsFile_grows hagain hmeets hlocate hnode
    rw [hsame.2 hbundle, hnode] at htext
    cases htext
    exact Nat.lt_irrefl _ hlonger

def headedProject : Settings where
  themeDirectory := some ⟨"theme"⟩
  prologue := some ⟨"head.php"⟩
  blocks := [{ blockName := "hero", displayName := "Hero", typeName := "AcfHero" }]

def headedMachine : Machine where
  tree := ⟨[(["head.php"], .file "<?php\n")]⟩
  directory := ⟨"/"⟩
  place := []

def headedFiles : List Path :=
  [⟨"theme/blocks/hero.php"⟩, ⟨"theme/functions.php"⟩]

theorem generate_again_headed : ∃ after again,
    (generate headedProject : Task Machine.Run _).run.run headedMachine =
        (.ok ⟨headedFiles⟩, after) ∧
      (generate headedProject : Task Machine.Run _).run.run after = (.ok ⟨headedFiles⟩, again) ∧
      ∀ location, again.tree.node? location = after.tree.node? location := by
  have hresult : ((generate headedProject : Task Machine.Run _).run.run headedMachine).1 =
      .ok ⟨headedFiles⟩ := by decide +kernel
  have hplaces : ((generate headedProject : Task Machine.Run _).run.run headedMachine).2.place = [] ∧
      ((generate headedProject : Task Machine.Run _).run.run headedMachine).2.tree.locate []
        ⟨"head.php"⟩ = .ok ["head.php"] ∧
      ∀ target ∈ headedFiles,
        ((generate headedProject : Task Machine.Run _).run.run headedMachine).2.tree.locate []
          target ≠ .ok ["head.php"] := by decide +kernel
  generalize hrun : (generate headedProject : Task Machine.Run _).run.run headedMachine = out
    at hresult hplaces ⊢
  obtain ⟨result, after⟩ := out
  subst hresult
  obtain ⟨hplace, hhead, htheme⟩ := hplaces
  obtain ⟨bundle, bundle', again, hcompiled, -, hagain, hsame, hapart, -⟩ := generate_again hrun
  have htargets : headedFiles = targetsOf headedProject.themePath bundle :=
    (run_writeTheme ((run_generate hcompiled).1 hrun)).1
  have hpaths : boilerplatePaths headedProject = [⟨"head.php"⟩] := by decide +kernel
  refine ⟨after, again, rfl, hagain, hsame.2 (hapart fun path hpath target htarget hmeet => ?_)⟩
  rw [hpaths, List.mem_singleton] at hpath
  subst hpath
  obtain ⟨location, hfirst, hsecond⟩ := hmeet
  rw [hplace] at hfirst hsecond
  rw [← htargets] at htarget
  exact htheme target htarget (hsecond.trans (hfirst.symm.trans hhead))

def growingProject : Settings where
  prologue := some ⟨"functions.php"⟩
  base := ⟨"."⟩

def growingMachine (text : String) : Machine where
  tree := ⟨[(["functions.php"], .file text)]⟩
  directory := ⟨"/"⟩
  place := []

/-- The settings are accepted and both times go well, but the second one reads what the first has written
and writes more. -/
theorem generate_grows :
    Settings.ofFile ⟨"blockgen.toml"⟩ "prologue = \"functions.php\"\n" = .ok growingProject ∧
      ∃ written after again,
        (generate growingProject : Task Machine.Run _).run.run (growingMachine "<?php\n") =
          (.ok written, after) ∧
        (generate growingProject : Task Machine.Run _).run.run after = (.ok written, again) ∧
        again.tree.node? ["functions.php"] ≠ after.tree.node? ["functions.php"] := by
  refine ⟨by decide +kernel, ?_⟩
  let grown := growingMachine (Theme.functionsScript [] ⟨"<?php\n", ""⟩)
  have hfirst : ((generate growingProject : Task Machine.Run _).run.run (growingMachine "<?php\n")).1 =
        .ok ⟨[⟨"././functions.php"⟩]⟩ ∧
      ((generate growingProject : Task Machine.Run _).run.run (growingMachine "<?php\n")).2.tree =
        grown.tree ∧
      ((generate growingProject : Task Machine.Run _).run.run (growingMachine "<?php\n")).2.place =
        grown.place := by decide +kernel
  have hsecond : ((generate growingProject : Task Machine.Run _).run.run grown).1 =
      .ok ⟨[⟨"././functions.php"⟩]⟩ := by decide +kernel
  have hplaces : (∃ path ∈ boilerplatePaths growingProject,
        grown.tree.locate [] path = .ok ["functions.php"]) ∧
      grown.tree.locate [] (functionsTarget growingProject) = .ok ["functions.php"] := by
    decide +kernel
  obtain ⟨⟨path, hpath, hlocate⟩, htarget⟩ := hplaces
  have hnode : grown.tree.node? ["functions.php"] =
      some (.file (Theme.functionsScript [] ⟨"<?php\n", ""⟩)) := rfl
  obtain ⟨text, htext, hlonger⟩ := functionsFile_grows (Prod.fst_eq_iff.1 hsecond)
    ⟨path, hpath, _, hlocate, htarget⟩ htarget hnode
  -- The first run leaves the files of the other machine, and these are all that the second run sees.
  generalize (generate growingProject : Task Machine.Run _).run.run (growingMachine "<?php\n") = out
    at hfirst ⊢
  obtain ⟨result, after⟩ := out
  obtain ⟨rfl, hsame⟩ := hfirst
  obtain ⟨hresult, hfiles⟩ := (local_generate growingProject).agrees after grown hsame
  refine ⟨⟨[⟨"././functions.php"⟩]⟩, after, _, rfl,
    Prod.fst_eq_iff.1 (hresult.trans hsecond), fun hunchanged => ?_⟩
  rw [hfiles.1, htext, show after.tree = grown.tree from hsame.1, hnode] at hunchanged
  rw [Files.Node.file.inj (Option.some.inj hunchanged)] at hlonger
  exact Nat.lt_irrefl _ hlonger

end ThemeBlocks.Project
