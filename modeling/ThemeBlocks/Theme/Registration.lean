import ThemeBlocks.Block.Descriptor
import ThemeBlocks.Php.Expr

/-! What a block registers with the CMS: the block type itself, and the group of fields in which its
data are edited. Both are PHP calls whose only argument is an array. The options say where and how the
theme's files are generated. -/

namespace ThemeBlocks.Theme

open Php (Expr Stmt)

structure Boilerplate where
  prologue : String := "<?php\n\n"
  epilogue : String := ""
  deriving Repr, DecidableEq, Inhabited

structure Options where
  blocksDirectory : String := "blocks"
  templateExtension : String := "php"
  category : String := "formatting"
  wrapperClass : String := "blockgen-block"
  functionsFile : String := "functions.php"
  boilerplate : Boilerplate := {}
  deriving Repr, DecidableEq, Inhabited

def withoutTrailingSlashes (text : String) : String :=
  .ofList (text.toList.reverse.dropWhile (· = '/')).reverse

def Options.templatePath (options : Options) (blockName : String) : String :=
  withoutTrailingSlashes options.blocksDirectory ++ "/" ++ blockName ++ "." ++
    options.templateExtension

structure Registration where
  name : String
  title : String
  description : String
  renderTemplate : String
  category : String
  icon : String
  keywords : List String
  deriving Repr, DecidableEq, Inhabited

namespace Registration

def ofBlock (block : Block.Descriptor) (options : Options) : Registration where
  name := block.blockName
  title := block.displayName
  description := block.description
  renderTemplate := options.templatePath block.blockName
  category := options.category
  icon := block.icon
  keywords := block.keywords

/-- A text that the CMS may show in the language of the reader. -/
def localized (text : String) : Expr :=
  .call "__" [.text text]

def toStmt (registration : Registration) : Stmt :=
  .eval <| .call "acf_register_block_type" [.assoc [
    ("name", .text registration.name),
    ("title", localized registration.title),
    ("description", localized registration.description),
    ("render_template", .text registration.renderTemplate),
    ("category", .text registration.category),
    ("icon", .text registration.icon),
    ("keywords", .texts registration.keywords)]]

end Registration

structure FieldCondition where
  fieldKey : String
  operator : String
  value : String
  deriving Repr, DecidableEq, Inhabited

def FieldCondition.toExpr (condition : FieldCondition) : Expr :=
  .assoc [("field", .text condition.fieldKey), ("operator", .text condition.operator),
    ("value", .text condition.value)]

structure Field where
  key : String
  label : String
  name : Option String := none
  type : String
  message : Option String := none
  parameters : List (String × String) := []
  condition : Option FieldCondition := none
  deriving Repr, DecidableEq, Inhabited

namespace Field

def headingStyle : String := "font-size: 36px!important"

def heading (block : Block.Descriptor) : Field where
  key := "field_" ++ block.blockName
  label := "block_" ++ block.blockName
  type := "message"
  message := some ("<h2 style=\"" ++ headingStyle ++ "\">" ++ Php.escapeMarkup block.displayName ++
    "</h2>")

def ofAttribute (spec : Block.Attribute) : Field where
  key := "field_" ++ spec.fieldName
  label := spec.fieldName
  name := some spec.fieldName
  type := spec.fieldType.backendName
  parameters := spec.parameters.getD []
  condition := spec.condition.map fun condition =>
    ⟨"field_" ++ condition.field, condition.operator, condition.value⟩

def entryIf (key : String) : Option Expr → List (String × Expr)
  | none => []
  | some value => [(key, value)]

/-- The condition stands in two lists: alternatives of conjunctions. -/
def conditionEntry (condition : Option FieldCondition) : List (String × Expr) :=
  entryIf "conditional_logic"
    (condition.map fun condition => .sequence [.sequence [condition.toExpr]])

def entries (field : Field) : List (String × Expr) :=
  [("key", .text field.key), ("label", .text field.label)] ++
    entryIf "name" (field.name.map .text) ++
    [("type", .text field.type)] ++
    entryIf "message" (field.message.map .text) ++
    field.parameters.map (fun entry => (entry.1, .text entry.2)) ++
    conditionEntry field.condition

def toExpr (field : Field) : Expr :=
  .assoc field.entries

end Field

structure LocationRule where
  param : String
  operator : String
  value : String
  deriving Repr, DecidableEq, Inhabited

namespace LocationRule

def ofBlock (registeredName : String) : LocationRule where
  param := "block"
  operator := "=="
  value := registeredName

def toExpr (rule : LocationRule) : Expr :=
  .assoc [("param", .text rule.param), ("operator", .text rule.operator), ("value", .text rule.value)]

end LocationRule

structure FieldGroup where
  key : String
  title : String
  fields : List Field
  location : LocationRule
  deriving Repr, DecidableEq, Inhabited

namespace FieldGroup

def ofBlock (block : Block.Descriptor) : FieldGroup where
  key := "group_" ++ block.blockName
  title := "block_" ++ block.blockName
  fields := Field.heading block :: block.attributeList.map fun entry => Field.ofAttribute entry.2
  location := .ofBlock block.registeredName

def toStmt (group : FieldGroup) : Stmt :=
  .eval <| .call "acf_add_local_field_group" [.assoc [
    ("key", .text group.key),
    ("title", .text group.title),
    ("fields", .sequence (group.fields.map Field.toExpr)),
    ("location", .sequence [.sequence [group.location.toExpr]])]]

end FieldGroup

end ThemeBlocks.Theme
