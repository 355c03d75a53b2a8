import Mathlib.Data.List.Basic
import Mathlib.Data.List.DropRight
import ThemeBlocks.Proofs.Theme.FunctionsScript

/-! A block's two fragments read back. They hold one call each, and all that the CMS is told about the
block stands in the arguments as the operator wrote it. What the fragments do not tell is the key, the
source type and the options of an attribute, and the block's type name; all the rest can be recovered
from them. -/

namespace ThemeBlocks.Php.Expr

theorem assoc_inj {entries others : List (String × Expr)} :
    Expr.assoc entries = .assoc others ↔ entries = others := by
  have hitem : Function.Injective fun entry : String × Expr => (some entry.1, entry.2) := by
    rintro ⟨key, value⟩ ⟨otherKey, other⟩ h
    simpa using h
  rw [assoc, assoc, array.injEq, (List.map_injective_iff.2 hitem).eq_iff]

theorem sequence_inj {items others : List Expr} :
    Expr.sequence items = .sequence others ↔ items = others := by
  have hitem : Function.Injective fun item : Expr => ((none, item) : Option String × Expr) := by
    intro item other h
    simpa using h
  rw [sequence, sequence, array.injEq, (List.map_injective_iff.2 hitem).eq_iff]

theorem map_text_inj {values others : List String} :
    values.map Expr.text = others.map .text ↔ values = others :=
  (List.map_injective_iff.2 fun _ _ => Expr.text.inj).eq_iff

end ThemeBlocks.Php.Expr

namespace ThemeBlocks.Theme

open Php

/-- The part of an attribute that its block's group of fields declares. -/
structure Declaration where
  fieldName : String
  fieldType : Block.FieldType
  parameters : List (String × String)
  condition : Option Block.Condition
  deriving DecidableEq

namespace Declaration

def ofAttribute (spec : Block.Attribute) : Declaration where
  fieldName := spec.fieldName
  fieldType := spec.fieldType
  parameters := spec.parameters.getD []
  condition := spec.condition

def parameterEntries (parameters : List (String × String)) : List (String × Expr) :=
  parameters.map fun entry => (entry.1, .text entry.2)

def conditionEntries (condition : Option Block.Condition) : List (String × Expr) :=
  condition.toList.map fun condition =>
    ("conditional_logic", .sequence [.sequence [.assoc [
      ("field", .text ("field_" ++ condition.field)),
      ("operator", .text condition.operator),
      ("value", .text condition.value)]]])

def toExpr (declaration : Declaration) : Expr :=
  .assoc <|
    [("key", .text ("field_" ++ declaration.fieldName)),
      ("label", .text declaration.fieldName),
      ("name", .text declaration.fieldName),
      ("type", .text declaration.fieldType.backendName)] ++
    parameterEntries declaration.parameters ++ conditionEntries declaration.condition

theorem toExpr_ofAttribute (spec : Block.Attribute) :
    (Field.ofAttribute spec).toExpr = (ofAttribute spec).toExpr := by
  have hcondition : Field.conditionEntry (Field.ofAttribute spec).condition =
      conditionEntries spec.condition := by
    cases h : spec.condition <;>
      simp [Field.ofAttribute, h, Field.conditionEntry, Field.entryIf, FieldCondition.toExpr,
        conditionEntries]
  rw [Field.toExpr, Field.entries, hcondition]
  rfl

def readTexts (entries : List (String × Expr)) : List (String × String) :=
  entries.filterMap fun entry =>
    match entry.2 with
    | .text value => some (entry.1, value)
    | _ => none

theorem readTexts_append (front back : List (String × Expr)) :
    readTexts (front ++ back) = readTexts front ++ readTexts back :=
  List.filterMap_append

theorem readTexts_parameterEntries (parameters : List (String × String)) :
    readTexts (parameterEntries parameters) = parameters := by
  simp [readTexts, parameterEntries, List.filterMap_map]

theorem readTexts_conditionEntries (condition : Option Block.Condition) :
    readTexts (conditionEntries condition) = [] := by
  cases condition <;> simp [readTexts, conditionEntries, Expr.sequence]

theorem conditionEntries_injective : Function.Injective conditionEntries := by
  rintro (_ | ⟨field, operator, value⟩) (_ | ⟨otherField, otherOperator, otherValue⟩) h
  · rfl
  · simp [conditionEntries] at h
  · simp [conditionEntries] at h
  · simpa [conditionEntries, Expr.sequence_inj, Expr.assoc_inj] using h

theorem ofName?_backendName (type : Block.FieldType) :
    Block.FieldType.ofName? type.backendName = some type := by
  cases type <;> rfl

theorem backendName_injective : Function.Injective Block.FieldType.backendName := by
  intro type other h
  have hread := congrArg Block.FieldType.ofName? h
  rwa [ofName?_backendName, ofName?_backendName, Option.some.injEq] at hread

/-- A parameter is never taken for the condition: parameters are texts, and the condition is a list. -/
theorem toExpr_injective : Function.Injective toExpr := by
  intro declaration other h
  simp only [toExpr, Expr.assoc_inj, List.cons_append, List.nil_append, List.cons.injEq,
    Prod.mk.injEq, Expr.text.injEq, true_and] at h
  obtain ⟨-, hname, -, htype, hrest⟩ := h
  have hparameters := congrArg readTexts hrest
  simp only [readTexts_append, readTexts_parameterEntries, readTexts_conditionEntries,
    List.append_nil] at hparameters
  rw [hparameters, List.append_cancel_left_eq] at hrest
  have hcondition := conditionEntries_injective hrest
  have hkind := backendName_injective htype
  cases declaration
  cases other
  simp_all

end Declaration

def declarations (block : Block.Descriptor) : List Declaration :=
  block.attributeList.map fun entry => .ofAttribute entry.2

def headingExpr (block : Block.Descriptor) : Expr :=
  .assoc [
    ("key", .text ("field_" ++ block.blockName)),
    ("label", .text ("block_" ++ block.blockName)),
    ("type", .text "message"),
    ("message", .text
      ("<h2 style=\"font-size: 36px!important\">" ++ escapeMarkup block.displayName ++ "</h2>"))]

def registrationCall (block : Block.Descriptor) (options : Options) : Stmt :=
  .eval (.call "acf_register_block_type" [.assoc [
    ("name", .text block.blockName),
    ("title", .call "__" [.text block.displayName]),
    ("description", .call "__" [.text block.description]),
    ("render_template", .text (.ofList (options.blocksDirectory.toList.rdropWhile (· = '/')) ++ "/" ++
      block.blockName ++ "." ++ options.templateExtension)),
    ("category", .text options.category),
    ("icon", .text block.icon),
    ("keywords", .sequence (block.keywords.map .text))]])

def fieldGroupCall (block : Block.Descriptor) : Stmt :=
  .eval (.call "acf_add_local_field_group" [.assoc [
    ("key", .text ("group_" ++ block.blockName)),
    ("title", .text ("block_" ++ block.blockName)),
    ("fields", .sequence (headingExpr block :: (declarations block).map Declaration.toExpr)),
    ("location", .sequence [.sequence [.assoc [
      ("param", .text "block"),
      ("operator", .text "=="),
      ("value", .text ("acf/" ++ block.blockName))]]])]])

theorem readAll?_registration (block : Block.Descriptor) (options : Options) :
    Stmt.readAll? (compile block options).registration = some [registrationCall block options] :=
  readAll?_render (wellNamed_registration (Registration.ofBlock block options))

theorem toExpr_heading (block : Block.Descriptor) :
    (Field.heading block).toExpr = headingExpr block := by
  have hopening : "<h2 style=\"" ++ Field.headingStyle ++ "\">" =
      "<h2 style=\"font-size: 36px!important\">" := by decide
  simp only [Field.toExpr, Field.entries, Field.heading, hopening]
  rfl

theorem toStmt_fieldGroup (block : Block.Descriptor) :
    (FieldGroup.ofBlock block).toStmt = fieldGroupCall block := by
  have hfields : (FieldGroup.ofBlock block).fields.map Field.toExpr =
      headingExpr block :: (declarations block).map Declaration.toExpr := by
    simp [FieldGroup.ofBlock, declarations, toExpr_heading, Declaration.toExpr_ofAttribute]
  rw [FieldGroup.toStmt, hfields]
  rfl

theorem readAll?_fieldGroup (block : Block.Descriptor) (options : Options) :
    Stmt.readAll? (compile block options).fieldGroup = some [fieldGroupCall block] := by
  rw [← toStmt_fieldGroup]
  exact readAll?_render (wellNamed_fieldGroup (FieldGroup.ofBlock block))

theorem registrationCall_eq_iff {block other : Block.Descriptor} {options : Options} :
    registrationCall block options = registrationCall other options ↔
      block.blockName = other.blockName ∧ block.displayName = other.displayName ∧
        block.description = other.description ∧ block.icon = other.icon ∧
        block.keywords = other.keywords := by
  constructor
  · intro h
    simp only [registrationCall, Stmt.eval.injEq, Expr.call.injEq, List.cons.injEq, Prod.mk.injEq,
      Expr.text.injEq, Expr.assoc_inj, Expr.sequence_inj, Expr.map_text_inj, true_and,
      and_true] at h
    obtain ⟨hname, htitle, hdescription, -, hicon, hkeywords⟩ := h
    exact ⟨hname, htitle, hdescription, hicon, hkeywords⟩
  · rintro ⟨hname, htitle, hdescription, hicon, hkeywords⟩
    simp only [registrationCall, hname, htitle, hdescription, hicon, hkeywords]

theorem declarations_of_fieldGroupCall {block other : Block.Descriptor}
    (h : fieldGroupCall block = fieldGroupCall other) : declarations block = declarations other := by
  simp only [fieldGroupCall, Stmt.eval.injEq, Expr.call.injEq, List.cons.injEq, Prod.mk.injEq,
    Expr.assoc_inj, Expr.sequence_inj, true_and, and_true] at h
  obtain ⟨-, -, ⟨-, hfields⟩, -⟩ := h
  exact List.map_injective_iff.2 Declaration.toExpr_injective hfields

theorem registration_eq_iff {block other : Block.Descriptor} {options : Options} :
    (compile block options).registration = (compile other options).registration ↔
      registrationCall block options = registrationCall other options := by
  constructor
  · intro h
    have hread := readAll?_registration block options
    rw [h, readAll?_registration] at hread
    simpa using hread.symm
  · exact fun h => congrArg Stmt.render h

theorem fieldGroup_eq_iff {block other : Block.Descriptor} {options : Options} :
    (compile block options).fieldGroup = (compile other options).fieldGroup ↔
      fieldGroupCall block = fieldGroupCall other := by
  constructor
  · intro h
    have hread := readAll?_fieldGroup block options
    rw [h, readAll?_fieldGroup] at hread
    simpa using hread.symm
  · intro h
    rw [← toStmt_fieldGroup, ← toStmt_fieldGroup] at h
    exact congrArg Stmt.render h

/-- Reading a block's fragments gives its two calls, with every text of the block and of the options as
it was given, and behind the heading one field for each attribute in the order of declaration. Two
blocks have the same fragments exactly if they agree in all that the calls tell. -/
theorem fragments_faithful (block : Block.Descriptor) (options : Options) :
    Stmt.readAll? (compile block options).registration = some [registrationCall block options] ∧
    Stmt.readAll? (compile block options).fieldGroup = some [fieldGroupCall block] ∧
    ∀ other, (compile block options).registration = (compile other options).registration ∧
        (compile block options).fieldGroup = (compile other options).fieldGroup ↔
      block.blockName = other.blockName ∧ block.displayName = other.displayName ∧
        block.description = other.description ∧ block.icon = other.icon ∧
        block.keywords = other.keywords ∧ declarations block = declarations other := by
  refine ⟨readAll?_registration block options, readAll?_fieldGroup block options, fun other => ?_⟩
  rw [registration_eq_iff, fieldGroup_eq_iff, registrationCall_eq_iff]
  constructor
  · rintro ⟨⟨hname, htitle, hdescription, hicon, hkeywords⟩, hgroup⟩
    exact ⟨hname, htitle, hdescription, hicon, hkeywords, declarations_of_fieldGroupCall hgroup⟩
  · rintro ⟨hname, htitle, hdescription, hicon, hkeywords, hdeclarations⟩
    refine ⟨⟨hname, htitle, hdescription, hicon, hkeywords⟩, ?_⟩
    simp only [fieldGroupCall, headingExpr, hname, htitle, hdeclarations]

end ThemeBlocks.Theme
