import ThemeBlocks.Proofs.Block.Accepted
import ThemeBlocks.Proofs.Php.Indentation
import ThemeBlocks.Theme.Bundle

/-! The functions file read back. Between its prologue and its epilogue stands the guard, and in the
guard stand the two calls of each block: the same calls as in the block's own fragments, with every
text shifted like the lines around it. A text of one line is not changed by that; any other is. -/

namespace ThemeBlocks.Php

open Text

def Stmt.mapTexts (change : String → String) : Stmt → Stmt
  | .assign target value => .assign target (value.mapTexts change)
  | .eval value => .eval (value.mapTexts change)

theorem Stmt.mapTexts_eq_self_iff {change : String → String} {stmt : Stmt} :
    stmt.mapTexts change = stmt ↔ stmt.value.AllTexts fun value => change value = value := by
  rw [← Expr.mapTexts_eq_self_iff]
  cases stmt <;> simp [mapTexts, value]

/-- Reads statements up to the brace that closes the block they stand in. The result holds what stands
behind that brace. -/
def readBlock : Script → List Token → Option (List Stmt × List Token)
  | .fresh statements, .mark .closeBrace :: rest => some (statements, rest)
  | script, token :: rest => (script.next token).bind (readBlock · rest)
  | _, [] => none

theorem readBlock_append {script after : Script} {tokens : List Token} (rest : List Token)
    (h : script.follow tokens = some after) :
    readBlock script (tokens ++ rest) = readBlock after rest := by
  induction tokens generalizing script with
  | nil =>
    obtain rfl : script = after := by simpa [Script.follow] using h
    rfl
  | cons token tokens ih =>
    obtain ⟨middle, hnext, hrest⟩ : ∃ middle, script.next token = some middle ∧
        middle.follow tokens = some after := by
      simpa [Script.follow, Option.bind_eq_some_iff] using h
    -- No statement starts with a brace, so the block does not end within these tokens.
    have hbrace : ∀ statements, script = .fresh statements → token ≠ .mark .closeBrace := by
      rintro statements rfl rfl
      simp [Script.next, Reading.next] at hnext
    rw [List.cons_append, readBlock.eq_2 _ _ _ (by simpa using hbrace), hnext]
    exact ih hrest

end ThemeBlocks.Php

namespace ThemeBlocks.Theme

open Php Text

def statementsOf (options : Options) (block : Block.Descriptor) : List Stmt :=
  [(Registration.ofBlock block options).toStmt, (FieldGroup.ofBlock block).toStmt]

def Compiled.statements? (compiled : Compiled) : Option (List Stmt) := do
  let registration ← Stmt.readAll? compiled.registration
  let fieldGroup ← Stmt.readAll? compiled.fieldGroup
  some (registration ++ fieldGroup)

def guardHead : List Token :=
  [.word "function", .word registrationFunction, .mark .opening, .mark .closing, .mark .openBrace,
    .word "if", .mark .opening,
    .word "function_exists", .mark .opening, .literal "acf_register_block_type", .mark .closing,
    .mark .both,
    .word "function_exists", .mark .opening, .literal "acf_add_local_field_group", .mark .closing,
    .mark .closing, .mark .openBrace]

def guardTail : List Token :=
  [.mark .closeBrace, .word "add_action", .mark .opening, .literal "acf/init", .mark .comma,
    .literal registrationFunction, .mark .closing, .mark .semicolon]

def guardedStatements? (body : String) : Option (List Stmt) := do
  let tokens ← scan body
  let (statements, behind) ← readBlock (.fresh []) (tokens.drop guardHead.length)
  if guardHead <+: tokens ∧ behind = guardTail then some statements else none

theorem spells_guardOpening : Spells guardOpening.toList guardHead := by
  have hname : Spells ("function " ++ registrationFunction ++ "() \x7b\n").toList
      (guardHead.take 5) := by
    unfold Spells
    decide +kernel
  have hfirst : Spells "    if (function_exists('acf_register_block_type') && ".toList
      ((guardHead.drop 5).take 7) := by
    unfold Spells
    decide +kernel
  have hsecond : Spells "function_exists('acf_add_local_field_group')) \x7b\n".toList
      (guardHead.drop 12) := by
    unfold Spells
    decide +kernel
  have h := (hname.append hfirst).append hsecond
  rwa [← String.toList_append, ← String.toList_append] at h

theorem spells_guardClosing : Spells guardClosing.toList (.mark .closeBrace :: guardTail) := by
  unfold Spells
  decide +kernel

theorem wellNamed_fieldCondition (condition : FieldCondition) : condition.toExpr.WellNamed := by
  simp [FieldCondition.toExpr]

theorem wellNamed_field (field : Field) : field.toExpr.WellNamed := by
  have hif : ∀ key value, ∀ entry ∈ Field.entryIf key (Option.map Expr.text value),
      entry.2.WellNamed := by
    intro key value
    cases value <;> simp [Field.entryIf]
  have hcondition : ∀ entry ∈ Field.conditionEntry field.condition, entry.2.WellNamed := by
    cases field.condition <;> simp [Field.conditionEntry, Field.entryIf, wellNamed_fieldCondition]
  rw [Field.toExpr, Expr.wellNamed_assoc, Field.entries]
  simp only [List.forall_mem_append]
  refine ⟨⟨⟨⟨⟨?_, hif _ _⟩, ?_⟩, hif _ _⟩, ?_⟩, hcondition⟩
  · simp
  · simp
  · exact List.forall_mem_map.2 fun _ _ => Expr.wellNamed_text _

theorem wellNamed_registration (registration : Registration) :
    registration.toStmt.value.WellNamed := by
  simp [Registration.toStmt, Registration.localized, Stmt.value,
    show isName "acf_register_block_type" by decide, show isName "__" by decide]

theorem wellNamed_fieldGroup (group : FieldGroup) : group.toStmt.value.WellNamed := by
  simp [FieldGroup.toStmt, Stmt.value, LocationRule.toExpr, wellNamed_field,
    show isName "acf_add_local_field_group" by decide]

theorem statements?_compile (block : Block.Descriptor) (options : Options) :
    (compile block options).statements? = some (statementsOf options block) := by
  rw [Compiled.statements?, compile, readAll?_render (wellNamed_registration _),
    readAll?_render (wellNamed_fieldGroup _)]
  rfl

/-- The texts of a field's declaration that reach the call. -/
def attributeTexts (spec : Block.Attribute) : List String :=
  spec.fieldName :: (spec.parameters.getD []).flatMap (fun entry => [entry.1, entry.2]) ++
    spec.condition.elim [] fun condition => [condition.field, condition.operator, condition.value]

/-- The texts behind a block's two calls. The block's name is not among them: it is of one line. -/
def givenTexts (options : Options) (block : Block.Descriptor) : List String :=
  [block.displayName, block.description, options.blocksDirectory, options.templateExtension,
    options.category, block.icon] ++ block.keywords ++
      block.attributeList.flatMap fun entry => attributeTexts entry.2

theorem oneLine_of_isBlockName {name : String} (h : Block.isBlockName name) : OneLine name := by
  intro hmem
  have hfeed := Block.isNameChar_of_isBlockName h hmem
  revert hfeed
  decide

theorem oneLine_escapeMarkup {text : String} : OneLine (escapeMarkup text) ↔ OneLine text := by
  have hchar : ∀ c, '\n' ∈ markupChar c ↔ c = '\n' := by
    intro c
    unfold markupChar
    split <;> simp [eq_comm]
  simp [OneLine, escapeMarkup, hchar]

theorem mem_withoutTrailingSlashes {text : String} {c : Char} (h : c ≠ '/') :
    c ∈ (withoutTrailingSlashes text).toList ↔ c ∈ text.toList := by
  have hslashes : c ∉ text.toList.reverse.takeWhile (· = '/') := by
    intro hmem
    have hall := List.all_eq_true.1 List.all_takeWhile c hmem
    exact h (by simpa using hall)
  rw [withoutTrailingSlashes, String.toList_ofList, List.mem_reverse,
    ← @List.mem_reverse _ c text.toList,
    ← List.takeWhile_append_dropWhile (p := (· = '/')) (l := text.toList.reverse), List.mem_append]
  simp [hslashes]

theorem oneLine_parameters {parameters : List (String × String)} :
    (∀ entry ∈ parameters.map fun entry => (entry.1, Expr.text entry.2),
      OneLine entry.1 ∧ entry.2.AllTexts OneLine) ↔
      ∀ text ∈ parameters.flatMap fun entry => [entry.1, entry.2], OneLine text := by
  rw [List.forall_mem_map, List.forall_mem_flatMap]
  simp

theorem oneLine_conditionEntry {condition : Option Block.Condition} :
    (∀ entry ∈ Field.conditionEntry (condition.map fun condition =>
        ⟨"field_" ++ condition.field, condition.operator, condition.value⟩),
      OneLine entry.1 ∧ entry.2.AllTexts OneLine) ↔
      ∀ text ∈ condition.elim [] fun condition =>
        [condition.field, condition.operator, condition.value], OneLine text := by
  cases condition with
  | none => simp [Field.conditionEntry, Field.entryIf]
  | some condition =>
    have hkeys : OneLine "conditional_logic" ∧ OneLine "field" ∧ OneLine "field_" ∧
        OneLine "operator" ∧ OneLine "value" := by decide
    simp [Field.conditionEntry, Field.entryIf, FieldCondition.toExpr, hkeys]

theorem oneLine_field {spec : Block.Attribute} :
    (Field.ofAttribute spec).toExpr.AllTexts OneLine ↔ ∀ text ∈ attributeTexts spec, OneLine text := by
  have hkeys : OneLine "key" ∧ OneLine "label" ∧ OneLine "name" ∧ OneLine "type" ∧
      OneLine "field_" := by decide
  have htype : OneLine spec.fieldType.backendName := by
    cases spec.fieldType <;> decide
  rw [Field.toExpr, Expr.allTexts_assoc, Field.entries, Field.ofAttribute]
  simp only [List.forall_mem_append, attributeTexts, oneLine_parameters, oneLine_conditionEntry,
    List.forall_mem_cons, Field.entryIf]
  simp [hkeys, htype]

theorem oneLine_heading {block : Block.Descriptor} (name : OneLine block.blockName) :
    (Field.heading block).toExpr.AllTexts OneLine ↔ OneLine block.displayName := by
  have hkeys : OneLine "key" ∧ OneLine "label" ∧ OneLine "type" ∧ OneLine "message" ∧
      OneLine "field_" ∧ OneLine "block_" := by decide
  have hmarkup : OneLine "<h2 style=\"" ∧ OneLine Field.headingStyle ∧ OneLine "\">" ∧
      OneLine "</h2>" := by decide
  simp [Field.toExpr, Field.entries, Field.heading, Field.entryIf, Field.conditionEntry, hkeys,
    hmarkup, name, oneLine_escapeMarkup]

theorem oneLine_registration {block : Block.Descriptor} (name : OneLine block.blockName)
    (options : Options) :
    (Registration.ofBlock block options).toStmt.value.AllTexts OneLine ↔
      (∀ text ∈ [block.displayName, block.description, options.blocksDirectory,
        options.templateExtension, options.category, block.icon], OneLine text) ∧
      ∀ text ∈ block.keywords, OneLine text := by
  have hkeys : OneLine "name" ∧ OneLine "title" ∧ OneLine "description" ∧
      OneLine "render_template" ∧ OneLine "category" ∧ OneLine "icon" ∧ OneLine "keywords" ∧
      OneLine "/" ∧ OneLine "." := by decide
  have hdirectory : OneLine (withoutTrailingSlashes options.blocksDirectory) ↔
      OneLine options.blocksDirectory := not_congr (mem_withoutTrailingSlashes (by decide))
  simp [Registration.toStmt, Registration.ofBlock, Registration.localized, Stmt.value,
    Options.templatePath, hkeys, name, hdirectory, and_assoc]

theorem oneLine_fieldGroup {block : Block.Descriptor} (name : OneLine block.blockName) :
    (FieldGroup.ofBlock block).toStmt.value.AllTexts OneLine ↔
      OneLine block.displayName ∧
        ∀ entry ∈ block.attributeList, ∀ text ∈ attributeTexts entry.2, OneLine text := by
  have hkeys : OneLine "key" ∧ OneLine "title" ∧ OneLine "fields" ∧ OneLine "location" ∧
      OneLine "param" ∧ OneLine "operator" ∧ OneLine "value" ∧ OneLine "group_" ∧
      OneLine "block_" ∧ OneLine "block" ∧ OneLine "==" ∧ OneLine "acf/" := by decide
  have hfields : (∀ expr ∈ (FieldGroup.ofBlock block).fields.map Field.toExpr,
      expr.AllTexts OneLine) ↔ OneLine block.displayName ∧
        ∀ entry ∈ block.attributeList, ∀ text ∈ attributeTexts entry.2, OneLine text := by
    simp only [FieldGroup.ofBlock, List.forall_mem_map, List.forall_mem_cons, oneLine_heading name,
      oneLine_field]
  have hlocation : (FieldGroup.ofBlock block).location.toExpr.AllTexts OneLine := by
    simp [FieldGroup.ofBlock, LocationRule.toExpr, LocationRule.ofBlock,
      Block.Descriptor.registeredName, hkeys, name]
  have htexts : OneLine (FieldGroup.ofBlock block).key ∧ OneLine (FieldGroup.ofBlock block).title := by
    simp [FieldGroup.ofBlock, hkeys, name]
  rw [← hfields]
  simp [FieldGroup.toStmt, Stmt.value, hkeys, hlocation, htexts]

theorem oneLine_statementsOf {block : Block.Descriptor} (name : OneLine block.blockName)
    (options : Options) :
    (∀ stmt ∈ statementsOf options block, stmt.value.AllTexts OneLine) ↔
      ∀ text ∈ givenTexts options block, OneLine text := by
  simp only [statementsOf, List.forall_mem_cons, oneLine_registration name, oneLine_fieldGroup name,
    givenTexts, List.forall_mem_append, List.forall_mem_flatMap]
  constructor
  · rintro ⟨⟨hgiven, hkeywords⟩, ⟨-, hattributes⟩, -⟩
    exact ⟨⟨hgiven, hkeywords⟩, hattributes⟩
  · rintro ⟨⟨hgiven, hkeywords⟩, hattributes⟩
    exact ⟨⟨hgiven, hkeywords⟩, ⟨hgiven.1, hattributes⟩, by simp⟩

theorem spells_guarded (block : Block.Descriptor) (options : Options) :
    Spells (guarded (compile block options)).toList
      ((statementsOf options block).flatMap fun stmt => (stmt.mapTexts (shiftText 2)).tokens) := by
  have hbreak : Spells ['\n'] [] := rfl
  have hbreaks : Spells ['\n', '\n'] [] := rfl
  have hregistration : Spells (indent (Registration.ofBlock block options).toStmt.render 2).toList
      ((Registration.ofBlock block options).toStmt.mapTexts (shiftText 2)).tokens :=
    spells_indent_render (wellNamed_registration _) 2
  have hgroup : Spells (indent (FieldGroup.ofBlock block).toStmt.render 2).toList
      ((FieldGroup.ofBlock block).toStmt.mapTexts (shiftText 2)).tokens :=
    spells_indent_render (wellNamed_fieldGroup _) 2
  have h := (((hbreak.append hregistration).append hbreaks).append hgroup).append hbreak
  have htext : (guarded (compile block options)).toList = '\n' ::
      ((indent (Registration.ofBlock block options).toStmt.render 2).toList ++ ['\n', '\n'] ++
        (indent (FieldGroup.ofBlock block).toStmt.render 2).toList ++ ['\n']) := by
    simp [guarded, compile]
  rw [htext]
  simpa [statementsOf] using h

theorem spells_functionsBody (blocks : List Block.Descriptor) (options : Options) :
    Spells (functionsBody (blocks.map (compile · options))).toList
      (guardHead ++ ((blocks.flatMap (statementsOf options)).map
        (Stmt.mapTexts (shiftText 2))).flatMap Stmt.tokens ++ .mark .closeBrace :: guardTail) := by
  have hblocks := Expr.spells_flatMap fun block (_ : block ∈ blocks) => spells_guarded block options
  have h := (spells_guardOpening.append hblocks).append spells_guardClosing
  simpa [functionsBody, String.toList_join, List.flatMap_map, List.flatMap_assoc] using h

theorem written_of_mem_statementsOf {block : Block.Descriptor} {options : Options} {stmt : Stmt}
    (h : stmt ∈ statementsOf options block) (change : String → String) :
    (stmt.mapTexts change).value.WellNamed ∧ (stmt.mapTexts change).written = stmt.mapTexts change := by
  simp only [statementsOf, List.mem_cons, List.not_mem_nil, or_false] at h
  rcases h with rfl | rfl
  · exact ⟨Expr.wellNamed_mapTexts change (wellNamed_registration _), rfl⟩
  · exact ⟨Expr.wellNamed_mapTexts change (wellNamed_fieldGroup _), rfl⟩

theorem guardedStatements?_functionsBody (blocks : List Block.Descriptor) (options : Options) :
    guardedStatements? (functionsBody (blocks.map (compile · options))) =
      some ((blocks.flatMap (statementsOf options)).map (Stmt.mapTexts (shiftText 2))) := by
  have hscan := scan_of_spells (spells_functionsBody blocks options)
  generalize hs : (blocks.flatMap (statementsOf options)).map (Stmt.mapTexts (shiftText 2)) = stmts
    at hscan ⊢
  have hmem : ∀ stmt ∈ stmts, stmt.value.WellNamed ∧ stmt.written = stmt := by
    subst hs
    refine List.forall_mem_map.2 fun stmt hstmt => ?_
    obtain ⟨block, -, hblock⟩ := List.mem_flatMap.1 hstmt
    exact written_of_mem_statementsOf hblock _
  have hwritten : stmts.map Stmt.written = stmts :=
    (List.map_congr_left fun stmt hstmt => (hmem stmt hstmt).2).trans (List.map_id _)
  have hfollow := Script.follow_statements (fun stmt hstmt => (hmem stmt hstmt).1) []
  have hread := readBlock_append (.mark .closeBrace :: guardTail) hfollow
  rw [guardedStatements?, hscan]
  simp [hread, hwritten, readBlock]

def ownStatements? (compiled : List Compiled) : Option (List Stmt) :=
  (compiled.mapM Compiled.statements?).map List.flatten

theorem ownStatements?_compile (blocks : List Block.Descriptor) (options : Options) :
    ownStatements? (blocks.map (compile · options)) =
      some (blocks.flatMap (statementsOf options)) := by
  have h : (blocks.map (compile · options)).mapM Compiled.statements? =
      some (blocks.map (statementsOf options)) := by
    induction blocks with
    | nil => rfl
    | cons block blocks ih => simp [statements?_compile, ih]
  rw [ownStatements?, h]
  rfl

theorem guarded_eq_own_iff (registry : Registry) (options : Options) :
    guardedStatements? (functionsBody (registry.blocks.map (compile · options))) =
        ownStatements? (registry.blocks.map (compile · options)) ↔
      ∀ block ∈ registry.blocks, ∀ text ∈ givenTexts options block, OneLine text := by
  have hmap := List.map_inj_left (l := registry.blocks.flatMap (statementsOf options)) (g := id)
    (f := Stmt.mapTexts (shiftText 2))
  rw [guardedStatements?_functionsBody, ownStatements?_compile, Option.some_inj]
  rw [List.map_id] at hmap
  rw [hmap, List.forall_mem_flatMap]
  refine forall₂_congr fun block hblock => ?_
  rw [← oneLine_statementsOf (oneLine_of_isBlockName (registry.isBlockName_of_mem hblock))]
  refine forall₂_congr fun stmt _ => ?_
  simp only [id, Stmt.mapTexts_eq_self_iff, shiftText_eq_self_iff (show 0 < 2 by decide)]

/-- In the guard of the functions file stand the calls of the blocks' own fragments in their order. The
functions, keys and nesting are the same; the texts are the same exactly when no text that reaches the
calls has a line feed, for the indentation goes into the literals. -/
theorem functionsScript_guards_own (registry : Registry) (options : Options) :
    ∃ body own,
      functionsScript (registry.blocks.map (compile · options)) options.boilerplate =
        endLine options.boilerplate.prologue ++ body ++ options.boilerplate.epilogue ∧
      ownStatements? (registry.blocks.map (compile · options)) = some own ∧
      guardedStatements? body = some (own.map (Stmt.mapTexts (shiftText 2))) ∧
      (guardedStatements? body = some own ↔
        ∀ block ∈ registry.blocks, ∀ text ∈ givenTexts options block, OneLine text) := by
  have hown := ownStatements?_compile registry.blocks options
  refine ⟨_, _, rfl, hown, guardedStatements?_functionsBody registry.blocks options, ?_⟩
  rw [← hown]
  exact guarded_eq_own_iff registry options

def twoLineTitle : Registry where
  blocks := [{ blockName := "a", displayName := "a\nb", typeName := "AB" }]
  accepted := rfl

theorem twoLineTitle_changed :
    ∃ own, ownStatements? (twoLineTitle.blocks.map (compile · {})) = some own ∧
      guardedStatements? (functionsBody (twoLineTitle.blocks.map (compile · {}))) ≠ some own := by
  have hown := ownStatements?_compile twoLineTitle.blocks {}
  refine ⟨_, hown, fun h => ?_⟩
  have hlines := (guarded_eq_own_iff twoLineTitle {}).1 (h.trans hown.symm) _
    (List.mem_singleton_self _)
  exact absurd (hlines "a\nb" (by simp [givenTexts])) (by decide)

end ThemeBlocks.Theme
