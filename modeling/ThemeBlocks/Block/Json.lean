import ThemeBlocks.Block.Descriptor
import ThemeBlocks.Json.Printer
import ThemeBlocks.Json.Shape

/-! Descriptors as JSON. They are written with their fields in the order of declaration, a part that is
not given being left out; they are read with unknown fields skipped. -/

namespace ThemeBlocks.Block

open Json

def Condition.toJson (condition : Condition) : Value :=
  .object [("field", .string condition.field), ("operator", .string condition.operator),
    ("value", .string condition.value)]

def memberIf {α : Type} (key : String) (toJson : α → Value) : Option α → List (String × Value)
  | none => []
  | some value => [(key, toJson value)]

def textsToJson (texts : List String) : Value :=
  .array (texts.map .string)

def Attribute.toJson (spec : Attribute) : Value :=
  .object <|
    [("source_type", .string spec.sourceType),
      ("field_type", .string spec.fieldType.name),
      ("field_name", .string spec.fieldName)] ++
    memberIf "options" textsToJson spec.options ++
    memberIf "additional_parameters"
      (fun entries => .object (entries.map fun (k, v) => (k, .string v))) spec.parameters ++
    memberIf "conditional_logic" Condition.toJson spec.condition

def Descriptor.toJson (block : Descriptor) : Value :=
  .object <|
    [("block_name", .string block.blockName),
      ("display_name", .string block.displayName),
      ("description", .string block.description),
      ("icon", .string block.icon),
      ("keywords", textsToJson block.keywords),
      ("gql_type_name", .string block.typeName)] ++
    memberIf "attributes"
      (fun entries => .object (entries.map fun (k, a) => (k, a.toJson))) block.attributes

def descriptorsToJson (blocks : List Descriptor) : Value :=
  .array (blocks.map Descriptor.toJson)

/-- A descriptor, or a part of one, of which only some fields have been read. -/
structure Condition.Draft where
  field : Option String := none
  operator : Option String := none
  value : Option String := none

structure Attribute.Draft where
  sourceType : Option String := none
  fieldType : Option FieldType := none
  fieldName : Option String := none
  options : Option (Option (List String)) := none
  parameters : Option (Option (List (String × String))) := none
  condition : Option (Option Condition) := none

structure Descriptor.Draft where
  blockName : Option String := none
  displayName : Option String := none
  description : Option String := none
  icon : Option String := none
  keywords : Option (List String) := none
  typeName : Option String := none
  attributes : Option (Option (List (String × Attribute))) := none

def required {α : Type} (name : String) : Option α → Except Misfit α
  | some value => .ok value
  | none => .error (.missingField name)

def Condition.Draft.finish (draft : Condition.Draft) : Except Misfit Condition := do
  let field ← required "field" draft.field
  let operator ← required "operator" draft.operator
  let value ← required "value" draft.value
  .ok ⟨field, operator, value⟩

def Attribute.Draft.finish (draft : Attribute.Draft) : Except Misfit Attribute := do
  let fieldType ← required "field_type" draft.fieldType
  let fieldName ← required "field_name" draft.fieldName
  .ok ⟨draft.sourceType.getD "", fieldType, fieldName, draft.options.getD none,
    draft.parameters.getD none, draft.condition.getD none⟩

def Descriptor.Draft.finish (draft : Descriptor.Draft) : Except Misfit Descriptor := do
  let blockName ← required "block_name" draft.blockName
  let displayName ← required "display_name" draft.displayName
  let typeName ← required "gql_type_name" draft.typeName
  .ok ⟨blockName, displayName, draft.description.getD "", draft.icon.getD "",
    draft.keywords.getD [], typeName, draft.attributes.getD none⟩

def fieldOf {σ α : Type} (name : String) (needed : Bool) (shape : Shape α) (get : σ → Option α)
    (store : σ → α → σ) : Shape.Field σ where
  name := name
  isSet := fun draft => (get draft).isSome
  needed := needed
  read := fun draft room source => do
    let (value, rest) ← shape room source
    .ok (store draft value, rest)

def Condition.fields : List (Shape.Field Condition.Draft) :=
  [fieldOf "field" true Shape.text (·.field) fun draft v => { draft with field := some v },
    fieldOf "operator" true Shape.text (·.operator) fun draft v => { draft with operator := some v },
    fieldOf "value" true Shape.text (·.value) fun draft v => { draft with value := some v }]

def Condition.shape : Shape Condition :=
  Shape.record "ConditionalLogic" Condition.fields {} Draft.finish

def parametersShape : Shape (List (String × String)) := fun room source => do
  let (entries, rest) ← Shape.map Shape.text room source
  .ok (ofEntries entries, rest)

def Attribute.fields : List (Shape.Field Attribute.Draft) :=
  [fieldOf "source_type" false Shape.text (·.sourceType)
      fun draft v => { draft with sourceType := some v },
    fieldOf "field_type" true (Shape.variant FieldType.ofName? FieldType.knownNames) (·.fieldType)
      fun draft v => { draft with fieldType := some v },
    fieldOf "field_name" true Shape.text (·.fieldName)
      fun draft v => { draft with fieldName := some v },
    fieldOf "options" false (Shape.optional (Shape.list Shape.text)) (·.options)
      fun draft v => { draft with options := some v },
    fieldOf "additional_parameters" false (Shape.optional parametersShape) (·.parameters)
      fun draft v => { draft with parameters := some v },
    fieldOf "conditional_logic" false (Shape.optional Condition.shape) (·.condition)
      fun draft v => { draft with condition := some v }]

def Attribute.shape : Shape Attribute :=
  Shape.record "AttributeSpec" Attribute.fields {} Draft.finish

def attributesShape : Shape (List (String × Attribute)) := fun room source => do
  let (entries, rest) ← Shape.map Attribute.shape room source
  .ok (ofEntries entries, rest)

def Descriptor.fields : List (Shape.Field Descriptor.Draft) :=
  [fieldOf "block_name" true Shape.text (·.blockName)
      fun draft v => { draft with blockName := some v },
    fieldOf "display_name" true Shape.text (·.displayName)
      fun draft v => { draft with displayName := some v },
    fieldOf "description" false Shape.text (·.description)
      fun draft v => { draft with description := some v },
    fieldOf "icon" false Shape.text (·.icon) fun draft v => { draft with icon := some v },
    fieldOf "keywords" false (Shape.list Shape.text) (·.keywords)
      fun draft v => { draft with keywords := some v },
    fieldOf "gql_type_name" true Shape.text (·.typeName)
      fun draft v => { draft with typeName := some v },
    fieldOf "attributes" false (Shape.optional attributesShape) (·.attributes)
      fun draft v => { draft with attributes := some v }]

def Descriptor.shape : Shape Descriptor :=
  Shape.record "BlockDescriptor" Descriptor.fields {} Draft.finish

def descriptorsShape : Shape (List Descriptor) :=
  Shape.list Descriptor.shape

def readDescriptors (text : String) : Except Json.Failure (List Descriptor) :=
  readAs descriptorsShape (Text.Source.ofText text)

end ThemeBlocks.Block
