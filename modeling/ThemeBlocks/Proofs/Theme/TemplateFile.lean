import ThemeBlocks.Proofs.Block.Verdict
import ThemeBlocks.Proofs.Html.Markup
import ThemeBlocks.Proofs.Php.Page
import ThemeBlocks.Theme.Bundle

/-! A block's template read back, first as PHP and then as markup. Free texts are written in three ways
there: keys become variables, field names stand in literals, and names and titles stand in markup. None
of them can end the place in which it stands. -/

namespace ThemeBlocks.Theme

open Block Php Text
open Html (Piece decode? pieces? escapeMarkup_append decode?_escapeMarkup not_mem_escapeMarkup)

/-- How a template is read: a section of `code`, and behind it `html` up to the end, in which the class
and the title are written as `rawClass` and `rawTitle`. -/
structure TemplateReading (block : Descriptor) (options : Options) (code : List Token)
    (html rawClass rawTitle : String) : Prop where
  sections : sections? (templateFile block options) = some [.code code, .markup html]
  statements : readStatements code = some (block.attributeList.map fun entry =>
    .assign (identifier entry.1) (.call "get_field" [.text entry.2.fieldName]))
  names : ∀ entry ∈ block.attributeList, isPlainName (identifier entry.1)
  distinct : (block.attributeList.map fun entry => identifier entry.1).Nodup
  noTag : ¬ "<?".toList <:+: html.toList
  pieces : pieces? html = some [.text "\n", .opening "div" [("class", rawClass)], .text "\n    ",
    .opening "h1" [], .text rawTitle, .closing "h1", .text "\n", .closing "div", .text "\n"]
  classText : decode? rawClass = some (options.wrapperClass ++ " block-" ++ block.blockName)
  titleText : decode? rawTitle = some block.displayName
  classWhole : '"' ∉ rawClass.toList
  titleWhole : '<' ∉ rawTitle.toList

def bindingStatements (block : Descriptor) : List Stmt :=
  block.attributeList.map fun entry => .assign entry.1 (.call "get_field" [.text entry.2.fieldName])

theorem wellNamed_bindingStatements (block : Descriptor) :
    ∀ stmt ∈ bindingStatements block, stmt.value.WellNamed :=
  List.forall_mem_map.2 fun entry _ => by
    simp [Stmt.value, show isName "get_field" by decide]

theorem spells_bindings (block : Descriptor) :
    Spells (bindings block).toList ((bindingStatements block).flatMap Stmt.tokens) := by
  have htext : (bindings block).toList = (bindingStatements block).flatMap (·.render.toList) := by
    simp [bindings, bindingStatements, String.toList_join, List.flatMap_map]
  rw [htext]
  exact Expr.spells_flatMap fun stmt hstmt =>
    Stmt.spells_render (wellNamed_bindingStatements block stmt hstmt)

theorem readStatements_bindings (block : Descriptor) :
    readStatements ((bindingStatements block).flatMap Stmt.tokens) =
      some ((bindingStatements block).map Stmt.written) := by
  have h := Script.follow_statements (wellNamed_bindingStatements block) []
  rw [readStatements, h]
  rfl

def markupHead : String := "\n<div class=\""
def markupMiddle : String := "\">\n    <h1>"
def markupTail : String := "</h1>\n</div>\n"

def filledMarkup (rawClass rawTitle : String) : String :=
  markupHead ++ rawClass ++ markupMiddle ++ rawTitle ++ markupTail

def rawClassOf (block : Descriptor) (options : Options) : String :=
  escapeMarkup (options.wrapperClass ++ " block-" ++ block.blockName)

theorem rawClassOf_eq (block : Descriptor) (options : Options) :
    rawClassOf block options =
      escapeMarkup options.wrapperClass ++ " block-" ++ escapeMarkup block.blockName := by
  have hfixed : escapeMarkup " block-" = " block-" := by decide
  rw [rawClassOf, escapeMarkup_append, escapeMarkup_append, hfixed]

theorem filledMarkup_escapeMarkup (block : Descriptor) (options : Options) :
    filledMarkup (rawClassOf block options) (escapeMarkup block.displayName) =
      "\n" ++ markup block options := by
  have hhead : markupHead = "\n" ++ "<div class=\"" := by decide
  -- The two literals at the front are not to be joined again.
  unfold markup
  rw [filledMarkup, rawClassOf_eq, hhead, markupMiddle, markupTail]
  simp only [String.append_assoc, -String.reduceAppend]

theorem templateFile_eq (block : Descriptor) (options : Options) :
    templateFile block options = "<?php\n" ++ bindings block ++ "?>\n" ++
      filledMarkup (rawClassOf block options) (escapeMarkup block.displayName) := by
  have hclosing : "?>\n\n" = "?>\n" ++ "\n" := by decide
  rw [templateFile, filledMarkup_escapeMarkup, hclosing]
  simp only [String.append_assoc, -String.reduceAppend]

theorem tag_infix_append_iff {front back : List Char} (h : '<' ∉ front) :
    ['<', '?'] <:+: front ++ back ↔ ['<', '?'] <:+: back := by
  induction front with
  | nil => rfl
  | cons c front ih =>
    obtain ⟨hc, hfront⟩ : '<' ≠ c ∧ '<' ∉ front := by simpa using h
    rw [List.cons_append, List.infix_cons_iff, ih hfront]
    simp [hc]

section Filled

variable {rawClass rawTitle : String}

theorem noTag_filledMarkup (hclass : '<' ∉ rawClass.toList) (htitle : '<' ∉ rawTitle.toList) :
    ¬ "<?".toList <:+: (filledMarkup rawClass rawTitle).toList := by
  simp [filledMarkup, markupHead, markupMiddle, markupTail, List.infix_cons_iff,
    tag_infix_append_iff hclass, tag_infix_append_iff htitle]

theorem pieces?_filledMarkup (hclass : '"' ∉ rawClass.toList) (htitle : '<' ∉ rawTitle.toList) :
    pieces? (filledMarkup rawClass rawTitle) =
      some [.text "\n", .opening "div" [("class", rawClass)], .text "\n    ",
        .opening "h1" [], .text rawTitle, .closing "h1", .text "\n", .closing "div", .text "\n"] := by
  have hhead : Html.Reading.follow {} markupHead.toList =
      some ⟨[.text "\n"], .value { name := "div" } "class".toList []⟩ := rfl
  have hmiddle (read : List Char) :
      (⟨[.text "\n"], .value { name := "div" } "class".toList read⟩ : Html.Reading).follow
          markupMiddle.toList =
        some ⟨[.text "\n", .opening "div" [("class", .ofList read)], .text "\n    ",
          .opening "h1" []], .text []⟩ := rfl
  have htail (pieces : List Piece) (read : List Char) :
      (⟨pieces, .text read⟩ : Html.Reading).follow markupTail.toList =
        some ⟨pieces ++ [.text (.ofList read)] ++ [.closing "h1"] ++ [.text "\n"] ++ [.closing "div"],
          .text ['\n']⟩ := rfl
  have h := Html.Reading.follow_append hhead
    (Html.Reading.follow_append (Html.Reading.follow_value hclass)
      (Html.Reading.follow_append (hmiddle _)
        (Html.Reading.follow_append (Html.Reading.follow_text htitle) (htail _ _))))
  rw [pieces?, filledMarkup]
  simp only [String.toList_append, List.append_assoc, h]
  simp [Html.Reading.finish?]

end Filled

/-- Whatever texts a block of an accepted list has, its template is one section of code that assigns
each field to a variable of its own, and markup that shows class and title as they are. -/
theorem templateFile_reads (registry : Registry) (options : Options) {block : Descriptor}
    (h : block ∈ registry.blocks) :
    ∃ code html rawClass rawTitle, TemplateReading block options code html rawClass rawTitle := by
  have hclass := not_mem_escapeMarkup (options.wrapperClass ++ " block-" ++ block.blockName)
  have htitle := not_mem_escapeMarkup block.displayName
  have hcheck := checkEach_eq_ok_iff.1 (check_eq_ok_iff.1 registry.accepted).1 block h
  have hnoTag := noTag_filledMarkup (hclass '<' (by simp)) (htitle '<' (by simp))
  refine ⟨(bindingStatements block).flatMap Stmt.tokens,
    filledMarkup (rawClassOf block options) (escapeMarkup block.displayName),
    rawClassOf block options, escapeMarkup block.displayName, ?_⟩
  constructor
  case sections =>
    rw [templateFile_eq]
    exact sections?_code_markup (spells_bindings block) (by simp [filledMarkup, markupHead]) hnoTag
  case statements =>
    rw [readStatements_bindings]
    simp [bindingStatements, Stmt.written]
  case names => exact fun entry _ => isPlainName_identifier entry.1
  case distinct => exact checkKeys_fits_iff.1 hcheck.2
  case noTag => exact hnoTag
  case pieces => exact pieces?_filledMarkup (hclass '"' (by simp)) (htitle '<' (by simp))
  case classText => exact decode?_escapeMarkup _
  case titleText => exact decode?_escapeMarkup _
  case classWhole => exact hclass '"' (by simp)
  case titleWhole => exact htitle '<' (by simp)

/-- Its texts hold whatever could end a literal, a section of code, an attribute or an element. -/
def awkwardBlock : Descriptor where
  blockName := "hero"
  displayName := "</h1><?php \"&amp;\" ?>"
  typeName := "AcfHero"
  attributes := some [("a-b", { fieldType := .text, fieldName := "?>'\\" }),
    ("1?>", { fieldType := .image, fieldName := "\n" })]

def awkwardRegistry : Registry where
  blocks := [awkwardBlock]
  accepted := rfl

theorem templateFile_reads_awkward :
    awkwardBlock ∈ awkwardRegistry.blocks ∧
      ∃ code html rawClass rawTitle, TemplateReading awkwardBlock { wrapperClass := "\"><?" } code
        html rawClass rawTitle := by
  have h : awkwardBlock ∈ awkwardRegistry.blocks := List.mem_singleton.2 rfl
  exact ⟨h, templateFile_reads awkwardRegistry _ h⟩

end ThemeBlocks.Theme
