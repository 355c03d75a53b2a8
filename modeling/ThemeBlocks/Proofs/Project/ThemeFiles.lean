import ThemeBlocks.Proofs.Project.Written
import ThemeBlocks.Proofs.Theme.Paths

/-! Whether the files of a project's theme are all there after it was written. Each is, unless the functions
file took the place of a template. -/

namespace ThemeBlocks.Project

open Files (Path)
open Theme (Bundle GeneratedFile)

theorem inside_of_isInside {options : Theme.Options} (h : Settings.isInside options.blocksDirectory)
    (hextension : options.templateExtension = "php")
    (hfunctions : options.functionsFile = "functions.php") : options.Inside := by
  unfold Settings.isInside at h
  simp only [Bool.and_eq_true, Bool.not_eq_true'] at h
  obtain ⟨⟨hblank, hrelative⟩, hcomponents⟩ := h
  refine ⟨?_, hrelative, ?_, hextension, hfunctions⟩
  · intro hempty
    rw [hempty] at hblank
    exact absurd hblank (by decide)
  · intro hup
    have hcomponent : Files.Component.up ∈ (⟨options.blocksDirectory⟩ : Path).components :=
      List.mem_append_right _ (List.mem_filterMap.2 ⟨"..", hup, rfl⟩)
    simp [hcomponent] at hcomponents

theorem inside_of_validate {settings : Settings} (prologue epilogue : String)
    (h : settings.validate = .ok ()) : (settings.themeOptions prologue epilogue).Inside := by
  unfold Settings.validate at h
  unfold Settings.themeOptions
  cases hdirectory : settings.blocksDirectory with
  | none =>
    have hstandard : Settings.isInside "blocks" := by decide
    exact inside_of_isInside hstandard rfl rfl
  | some directory =>
    rw [hdirectory] at h
    simp only [ite_eq_left_iff, reduceCtorEq, imp_false, Bool.not_eq_true,
      Bool.not_eq_false] at h
    exact inside_of_isInside h rfl rfl

section Files

variable {root : Path} {files : List GeneratedFile}

theorem nodup_targets_iff (hrelative : ∀ path ∈ files.map GeneratedFile.path, path.isAbsolute = false) :
    ((files.map (root.join ·.path)).map Path.resolved).Nodup ↔
      ((files.map GeneratedFile.path).map Path.plainNames).Nodup := by
  rw [← Path.nodup_resolved_join_iff root hrelative, List.map_map, List.map_map]
  rfl

theorem readText_of_nodup_plainNames {current : Files.Location} {before after : Files.Tree}
    (hrelative : ∀ path ∈ files.map GeneratedFile.path, path.isAbsolute = false)
    (hup : ∀ path ∈ files.map GeneratedFile.path, ".." ∉ path.segments)
    (hnodup : ((files.map GeneratedFile.path).map Path.plainNames).Nodup)
    (hstored : Files.Tree.Stored current before
      (files.map fun file => (root.join file.path, file.contents)) after) :
    ∀ file ∈ files, after.readText current (root.join file.path) = .ok file.contents := by
  have hfound : ∀ path ∈ files.map GeneratedFile.path,
      ∃ target, after.locate current (root.join path) = .ok target := by
    have hwrites := hstored.exists_locate
    rw [List.forall_mem_map] at hwrites ⊢
    exact hwrites
  have hplaces := Files.Tree.nodup_locate_join hrelative hup hfound hnodup
  rw [List.map_map] at hplaces
  have hread := hstored.readText_of_nodup (by rw [List.map_map]; exact hplaces)
  rw [List.forall_mem_map] at hread
  exact hread

end Files

/-- A written theme is reported file by file. Every file is read back as it was generated and the targets
are all different, exactly if the blocks do not lie in the theme itself with one of them called like the
functions file. -/
theorem writeTheme_reads_back_iff {settings : Settings} {registry : Registry}
    {prologue epilogue : String} {root : Path} {machine after : Machine}
    {written : Theme.WrittenFiles} (hvalid : settings.validate = .ok ())
    (hrun : (writeTheme root (.ofRegistry registry (settings.themeOptions prologue epilogue)) :
      Machine.Run _).run machine = (.ok written, after)) :
    let options := settings.themeOptions prologue epilogue
    let files := (Bundle.ofRegistry registry options).files
    written.files = files.map (root.join ·.path) ∧ files.length = registry.size + 1 ∧
      (((∀ file ∈ files,
            after.tree.readText after.place (root.join file.path) = .ok file.contents) ∧
          (written.files.map Path.resolved).Nodup) ↔
        ¬((⟨options.blocksDirectory⟩ : Path).resolved = [] ∧
          ∃ block ∈ registry.blocks, block.blockName = "functions")) := by
  intro options files
  have hinside : options.Inside := inside_of_validate prologue epilogue hvalid
  obtain ⟨hreport, hplace, hstored⟩ := run_writeTheme hrun
  have hrelative : ∀ path ∈ files.map GeneratedFile.path, path.isAbsolute = false :=
    fun _ hpath => hinside.relative_of_mem hpath
  have hup : ∀ path ∈ files.map GeneratedFile.path, ".." ∉ path.segments :=
    fun _ hpath => hinside.up_not_mem_of_mem hpath
  have hcount : files.length = registry.size + 1 := by
    simp [files, Bundle.ofRegistry, Registry.size]
  have hdirectory : (⟨options.blocksDirectory⟩ : Path).resolved = [] ↔
      (⟨options.blocksDirectory⟩ : Path).plainNames = [] := by
    rw [Path.resolved_eq, hinside.directory_relative]
    simp
  rw [hplace, hreport, hdirectory, ← hinside.nodup_plainNames_iff, nodup_targets_iff hrelative]
  exact ⟨rfl, hcount, And.right, fun hnodup =>
    ⟨readText_of_nodup_plainNames hrelative hup hnodup hstored, hnodup⟩⟩

def functionsBlock : Registry where
  blocks := [{ blockName := "functions", displayName := "", typeName := "AB" }]
  accepted := rfl

def functionsProject (directory : String) : Settings where
  blocksDirectory := some directory
  blocks := functionsBlock.blocks

def functionsOptions (directory : String) : Theme.Options :=
  (functionsProject directory).themeOptions "" ""

def functionsBundle (directory : String) : Bundle :=
  .ofRegistry functionsBlock (functionsOptions directory)

def bareMachine : Machine where
  directory := ⟨"/"⟩
  place := []

theorem files_functionsBundle (directory : String) :
    ∃ template script, template ≠ script ∧ (functionsBundle directory).files =
      [⟨⟨(functionsOptions directory).templatePath "functions"⟩, template⟩,
        ⟨⟨"functions.php"⟩, script⟩] := by
  refine ⟨_, _, fun hsame => ?_, rfl⟩
  have hfirst := congrArg (·.toList.head?) hsame
  simp [Theme.templateFile, Theme.functionsScript, Theme.endLine, Theme.functionsBody,
    Theme.guardOpening, functionsOptions, Settings.themeOptions, functionsProject,
    Theme.compile] at hfirst

theorem join_functionsFile : Path.join ⟨"."⟩ ⟨"functions.php"⟩ = ⟨"./functions.php"⟩ := by rfl

theorem writable_apart (template script : String) :
    Writable ⟨"."⟩ [] {} [⟨⟨"./b/functions.php"⟩, template⟩, ⟨⟨"functions.php"⟩, script⟩]
      ⟨[(["b"], .directory), (["b", "functions.php"], .file template),
        (["functions.php"], .file script)]⟩ := by
  let made : Files.Tree := ⟨[(["b"], .directory)]⟩
  let stored : Files.Tree := ⟨[(["b"], .directory), (["b", "functions.php"], .file template)]⟩
  have hparent : (Path.join ⟨"."⟩ ⟨"./b/functions.php"⟩).parent? = some ⟨"././b"⟩ := by rfl
  have hmade : Files.Tree.makeDirectories {} [] ⟨"././b"⟩ = (.ok (), made) := by rfl
  have hstored : made.writeText [] (Path.join ⟨"."⟩ ⟨"./b/functions.php"⟩) template =
      .ok stored := by rfl
  have hparent' : (Path.join ⟨"."⟩ ⟨"functions.php"⟩).parent? = some ⟨"."⟩ := by rfl
  have hmade' : stored.makeDirectories [] ⟨"."⟩ = (.ok (), stored) := by rfl
  have hstored' : stored.writeText [] (Path.join ⟨"."⟩ ⟨"functions.php"⟩) script =
      .ok ⟨[(["b"], .directory), (["b", "functions.php"], .file template),
        (["functions.php"], .file script)]⟩ := by rfl
  exact .cons hparent hmade hstored (.cons hparent' hmade' hstored' (.nil _))

theorem writeTheme_reads_back_apart :
    (functionsProject "./b//").validate = .ok () ∧ ∃ written after,
      (writeTheme ⟨"."⟩ (functionsBundle "./b//") : Machine.Run _).run bareMachine =
        (.ok written, after) ∧
      written.files = [⟨"././b/functions.php"⟩, ⟨"./functions.php"⟩] ∧
      ∀ file ∈ (functionsBundle "./b//").files,
        after.tree.readText after.place (Path.join ⟨"."⟩ file.path) = .ok file.contents := by
  have hvalid : (functionsProject "./b//").validate = .ok () := by rfl
  have hpath : (functionsOptions "./b//").templatePath "functions" = "./b/functions.php" := by rfl
  have hjoin : Path.join ⟨"."⟩ ⟨"./b/functions.php"⟩ = ⟨"././b/functions.php"⟩ := by rfl
  obtain ⟨template, script, -, hfiles⟩ := files_functionsBundle "./b//"
  rw [hpath] at hfiles
  have hwritable := writable_apart template script
  rw [← hfiles] at hwritable
  obtain ⟨after, hrun, -⟩ : ∃ after,
      (writeTheme ⟨"."⟩ (functionsBundle "./b//") : Machine.Run _).run bareMachine = _ ∧ _ :=
    exists_run_writeTheme hwritable
  obtain ⟨hreport, -, hiff⟩ := writeTheme_reads_back_iff hvalid hrun
  have hdirectory : (⟨"./b//"⟩ : Path).resolved ≠ [] := by decide
  refine ⟨hvalid, _, after, hrun, ?_, (hiff.2 fun hclash => hdirectory hclash.1).1⟩
  simp only [hfiles, List.map_cons, List.map_nil, hjoin, join_functionsFile]

theorem writable_beside (template script : String) :
    Writable ⟨"."⟩ [] {} [⟨⟨"./functions.php"⟩, template⟩, ⟨⟨"functions.php"⟩, script⟩]
      ⟨[(["functions.php"], .file script)]⟩ := by
  let stored : Files.Tree := ⟨[(["functions.php"], .file template)]⟩
  have hparent : (Path.join ⟨"."⟩ ⟨"./functions.php"⟩).parent? = some ⟨"."⟩ := by rfl
  have hmade : Files.Tree.makeDirectories {} [] ⟨"."⟩ = (.ok (), {}) := by rfl
  have hstored : Files.Tree.writeText {} [] (Path.join ⟨"."⟩ ⟨"./functions.php"⟩) template =
      .ok stored := by rfl
  have hparent' : (Path.join ⟨"."⟩ ⟨"functions.php"⟩).parent? = some ⟨"."⟩ := by rfl
  have hmade' : stored.makeDirectories [] ⟨"."⟩ = (.ok (), stored) := by rfl
  have hstored' : stored.writeText [] (Path.join ⟨"."⟩ ⟨"functions.php"⟩) script =
      .ok ⟨[(["functions.php"], .file script)]⟩ := by rfl
  exact .cons hparent hmade hstored (.cons hparent' hmade' hstored' (.nil _))

theorem functionsBlock_overwritten :
    (functionsProject ".").validate = .ok () ∧
      (functionsProject ".").registry = .ok functionsBlock ∧ ∃ written after,
        (writeTheme ⟨"."⟩ (functionsBundle ".") : Machine.Run _).run bareMachine =
          (.ok written, after) ∧
        written.files.map Path.resolved = [[.name "functions.php"], [.name "functions.php"]] ∧
        ∃ file ∈ (functionsBundle ".").files,
          after.tree.readText after.place (Path.join ⟨"."⟩ file.path) ≠ .ok file.contents := by
  have hpath : (functionsOptions ".").templatePath "functions" = "./functions.php" := by rfl
  have hjoin : Path.join ⟨"."⟩ ⟨"./functions.php"⟩ = ⟨"././functions.php"⟩ := by rfl
  have hresolved : (⟨"././functions.php"⟩ : Path).resolved = [.name "functions.php"] := by rfl
  have hresolved' : (⟨"./functions.php"⟩ : Path).resolved = [.name "functions.php"] := by rfl
  obtain ⟨template, script, hne, hfiles⟩ := files_functionsBundle "."
  rw [hpath] at hfiles
  have hwritable := writable_beside template script
  rw [← hfiles] at hwritable
  obtain ⟨after, hrun, htree, hplace⟩ : ∃ after,
      (writeTheme ⟨"."⟩ (functionsBundle ".") : Machine.Run _).run bareMachine = _ ∧ _ :=
    exists_run_writeTheme hwritable
  have hread : after.tree.readText after.place ⟨"././functions.php"⟩ = .ok script := by
    rw [htree, hplace]
    rfl
  refine ⟨by rfl, by rfl, _, after, hrun, ?_, ⟨⟨"./functions.php"⟩, template⟩, ?_, ?_⟩
  · simp only [hfiles, List.map_cons, List.map_nil, hjoin, join_functionsFile, hresolved, hresolved']
  · rw [hfiles]
    exact List.mem_cons_self
  · rw [hjoin, hread]
    exact fun hsame => hne (Except.ok.inj hsame).symm

end ThemeBlocks.Project
