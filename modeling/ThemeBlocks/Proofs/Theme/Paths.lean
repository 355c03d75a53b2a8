import Mathlib.Data.List.DropRight
import Mathlib.Data.List.Nodup
import ThemeBlocks.Proofs.Block.Accepted
import ThemeBlocks.Proofs.Files.Joined
import ThemeBlocks.Theme.Bundle

/-! Where the files of a theme lie. A template lies below the directory of the blocks and is called after
its block, the functions file lies in the theme itself; so two of them can only be one file if the
directory of the blocks is the theme itself and a block is called like the functions file. -/

namespace ThemeBlocks.Theme

open Files (Path)
open Files.Path (isPlain)

theorem filter_segments_withoutTrailingSlashes {keep : String → Bool} (hkeep : keep "" = false)
    (text : String) :
    (⟨withoutTrailingSlashes text⟩ : Path).segments.filter keep =
      (⟨text⟩ : Path).segments.filter keep := by
  obtain ⟨chars, rfl⟩ : ∃ chars, String.ofList chars = text := ⟨text.toList, by simp⟩
  induction chars using List.reverseRecOn with
  | nil => rfl
  | append_singleton front last ih =>
    by_cases hlast : last = '/'
    · subst hlast
      have hshorter : withoutTrailingSlashes (.ofList (front ++ ['/'])) =
          withoutTrailingSlashes (.ofList front) := by
        simp [withoutTrailingSlashes]
      have hslash : String.ofList (front ++ ['/']) = .ofList front ++ "/" := by
        rw [← String.toList_inj]
        simp
      rw [hshorter, ih, hslash, Path.filter_segments_endSlash hkeep]
    · have hsame : withoutTrailingSlashes (.ofList (front ++ [last])) =
          .ofList (front ++ [last]) := by
        simp [withoutTrailingSlashes, hlast]
      rw [hsame]

theorem mem_segments_withoutTrailingSlashes {segment text : String} (hne : segment ≠ "") :
    segment ∈ (⟨withoutTrailingSlashes text⟩ : Path).segments ↔
      segment ∈ (⟨text⟩ : Path).segments := by
  have hkept : (⟨withoutTrailingSlashes text⟩ : Path).segments.filter (· = segment) =
      (⟨text⟩ : Path).segments.filter (· = segment) :=
    filter_segments_withoutTrailingSlashes (by simp [hne.symm]) text
  have hmem := congrArg (segment ∈ ·) hkept
  simpa [List.mem_filter] using hmem

theorem withoutTrailingSlashes_prefix (text : String) :
    (withoutTrailingSlashes text).toList <+: text.toList := by
  rw [withoutTrailingSlashes, String.toList_ofList]
  exact List.rdropWhile_prefix _ _

theorem isAbsolute_templatePath {options : Options} {name : String}
    (hne : options.blocksDirectory ≠ "")
    (hrelative : (⟨options.blocksDirectory⟩ : Path).isAbsolute = false) :
    (⟨options.templatePath name⟩ : Path).isAbsolute = false := by
  obtain ⟨c, rest, hdirectory⟩ := List.exists_cons_of_ne_nil (mt String.toList_eq_nil_iff.1 hne)
  have hc : c ≠ '/' := by simpa [Path.isAbsolute, hdirectory] using hrelative
  have hkept : (withoutTrailingSlashes options.blocksDirectory).toList ≠ [] := by
    intro hnil
    rw [withoutTrailingSlashes, String.toList_ofList] at hnil
    have hall := List.rdropWhile_eq_nil_iff.1 hnil c (by simp [hdirectory])
    exact hc (by simpa using hall)
  obtain ⟨d, kept, hcut⟩ := List.exists_cons_of_ne_nil hkept
  have hprefix := withoutTrailingSlashes_prefix options.blocksDirectory
  rw [hcut, hdirectory, List.cons_prefix_cons] at hprefix
  obtain ⟨rfl, -⟩ := hprefix
  simp [Path.isAbsolute, Options.templatePath, hcut, hc]

section Template

variable {options : Options} {name : String}

def Options.templateName (options : Options) (blockName : String) : String :=
  blockName ++ "." ++ options.templateExtension

theorem templatePath_eq :
    options.templatePath name =
      withoutTrailingSlashes options.blocksDirectory ++ "/" ++ options.templateName name := by
  simp only [Options.templatePath, Options.templateName, String.append_assoc]

theorem templateName_ne (hname : Block.isBlockName name) {dots : String}
    (hdots : ∀ c ∈ dots.toList, c = '.') : options.templateName name ≠ dots := by
  rintro rfl
  obtain ⟨c, rest, htext⟩ : ∃ c rest, name.toList = c :: rest := by
    unfold Block.isBlockName at hname
    split at hname
    · cases hname
    · next c rest htext => exact ⟨c, rest, htext⟩
  have hc : c = '.' := hdots c (by simp [Options.templateName, htext])
  have hchar := Block.isNameChar_of_isBlockName hname (c := c) (by simp [htext])
  rw [hc] at hchar
  exact absurd hchar (by decide)

variable (hname : Block.isBlockName name) (hextension : '/' ∉ options.templateExtension.toList)

include hname hextension

theorem segments_templateName :
    (⟨options.templateName name⟩ : Path).segments = [options.templateName name] := by
  have hslash : '/' ∉ name.toList := by
    intro hmem
    exact absurd (Block.isNameChar_of_isBlockName hname hmem) (by decide)
  have hwhole : '/' ∉ (options.templateName name).toList := by
    simp [Options.templateName, hslash, hextension]
  rw [Path.segments, Text.splitAtChar_of_not_mem hwhole]
  simp

theorem plainNames_templatePath :
    (⟨options.templatePath name⟩ : Path).plainNames =
      (⟨options.blocksDirectory⟩ : Path).plainNames ++ [options.templateName name] := by
  have hplain : isPlain (options.templateName name) := by
    simp only [isPlain, ne_eq, Bool.and_eq_true, decide_eq_true_eq]
    exact ⟨templateName_ne hname (by simp), templateName_ne hname (by simp)⟩
  rw [templatePath_eq, Path.plainNames, Path.segments_slash,
    segments_templateName hname hextension, List.filter_append,
    filter_segments_withoutTrailingSlashes (by rfl), List.filter_cons_of_pos hplain]
  rfl

theorem up_not_mem_segments_templatePath
    (hup : ".." ∉ (⟨options.blocksDirectory⟩ : Path).segments) :
    ".." ∉ (⟨options.templatePath name⟩ : Path).segments := by
  have hlast : ".." ≠ options.templateName name := (templateName_ne hname (by simp)).symm
  rw [templatePath_eq, Path.segments_slash, segments_templateName hname hextension,
    List.mem_append, mem_segments_withoutTrailingSlashes (by decide), List.mem_singleton]
  exact not_or.2 ⟨hup, hlast⟩

end Template

/-- Options of a project: blocks lie below the theme, and the other names are the standard ones. -/
structure Options.Inside (options : Options) : Prop where
  directory_ne : options.blocksDirectory ≠ ""
  directory_relative : (⟨options.blocksDirectory⟩ : Path).isAbsolute = false
  directory_up : ".." ∉ (⟨options.blocksDirectory⟩ : Path).segments
  templateExtension_eq : options.templateExtension = "php"
  functionsFile_eq : options.functionsFile = "functions.php"

namespace Options.Inside

variable {options : Options} {registry : Registry}

theorem slash_not_mem (h : options.Inside) : '/' ∉ options.templateExtension.toList := by
  rw [h.templateExtension_eq]
  decide

theorem map_path_files (h : options.Inside) :
    (Bundle.ofRegistry registry options).files.map GeneratedFile.path =
      registry.blocks.map (fun block => ⟨options.templatePath block.blockName⟩) ++
        [⟨"functions.php"⟩] := by
  simp [Bundle.ofRegistry, compile, h.functionsFile_eq, Function.comp_def]

theorem relative_of_mem (h : options.Inside) {path : Path}
    (hpath : path ∈ (Bundle.ofRegistry registry options).files.map GeneratedFile.path) :
    path.isAbsolute = false := by
  rw [h.map_path_files, List.mem_append, List.mem_map, List.mem_singleton] at hpath
  obtain ⟨block, -, rfl⟩ | rfl := hpath
  · exact isAbsolute_templatePath h.directory_ne h.directory_relative
  · rfl

theorem up_not_mem_of_mem (h : options.Inside) {path : Path}
    (hpath : path ∈ (Bundle.ofRegistry registry options).files.map GeneratedFile.path) :
    ".." ∉ path.segments := by
  rw [h.map_path_files, List.mem_append, List.mem_map, List.mem_singleton] at hpath
  obtain ⟨block, hblock, rfl⟩ | rfl := hpath
  · exact up_not_mem_segments_templatePath (registry.isBlockName_of_mem hblock) h.slash_not_mem
      h.directory_up
  · decide

theorem map_plainNames_files (h : options.Inside) :
    ((Bundle.ofRegistry registry options).files.map GeneratedFile.path).map Path.plainNames =
      registry.blocks.map (fun block => (⟨options.blocksDirectory⟩ : Path).plainNames ++
        [block.blockName ++ ".php"]) ++ [["functions.php"]] := by
  have hlast : (⟨"functions.php"⟩ : Path).plainNames = ["functions.php"] := by rfl
  have hname (block : Block.Descriptor) :
      options.templateName block.blockName = block.blockName ++ ".php" := by
    rw [Options.templateName, h.templateExtension_eq, String.append_assoc]
    rfl
  rw [h.map_path_files, List.map_append, List.map_map, List.map_singleton, hlast,
    List.append_cancel_right_eq]
  refine List.map_congr_left fun block hblock => ?_
  rw [Function.comp_apply,
    plainNames_templatePath (registry.isBlockName_of_mem hblock) h.slash_not_mem, hname]

theorem nodup_templateNames (directory : List String) :
    (registry.blocks.map fun block => directory ++ [block.blockName ++ ".php"]).Nodup := by
  have hnames := registry.nodup_blockNames
  rw [List.Nodup, List.pairwise_map] at hnames ⊢
  refine hnames.imp fun hne hsame => hne ?_
  simpa using hsame

/-- Two files have the same names only if blocks lie in the theme itself and one of them is called like
the functions file. -/
theorem nodup_plainNames_iff (h : options.Inside) :
    (((Bundle.ofRegistry registry options).files.map GeneratedFile.path).map
        Path.plainNames).Nodup ↔
      ¬((⟨options.blocksDirectory⟩ : Path).plainNames = [] ∧
        ∃ block ∈ registry.blocks, block.blockName = "functions") := by
  generalize hdirectory : (⟨options.blocksDirectory⟩ : Path).plainNames = directory
  have hsame (block : Block.Descriptor) :
      directory ++ [block.blockName ++ ".php"] = ["functions.php"] ↔
        directory = [] ∧ block.blockName = "functions" := by
    have hwhole : "functions.php" = "functions" ++ ".php" := by rfl
    have hname : block.blockName ++ ".php" = "functions.php" ↔ block.blockName = "functions" := by
      rw [hwhole, String.append_left_inj]
    simp [List.append_eq_singleton_iff, hname]
  rw [h.map_plainNames_files, hdirectory, List.nodup_append]
  constructor
  · rintro ⟨-, -, hapart⟩ ⟨hnone, block, hblock, hname⟩
    exact hapart _ (List.mem_map_of_mem hblock) _ (List.mem_singleton_self _)
      ((hsame block).2 ⟨hnone, hname⟩)
  · intro hclash
    refine ⟨nodup_templateNames directory, List.nodup_singleton _, ?_⟩
    rintro _ htemplate _ hfunctions rfl
    obtain ⟨block, hblock, hnames⟩ := List.mem_map.1 htemplate
    rw [List.mem_singleton.1 hfunctions] at hnames
    obtain ⟨hnone, hname⟩ := (hsame block).1 hnames
    exact hclash ⟨hnone, block, hblock, hname⟩

end Options.Inside

end ThemeBlocks.Theme
