import ThemeBlocks.Block.Json
import ThemeBlocks.Toml.Shape

/-! Descriptors as TOML tables, under the same names as in JSON. -/

namespace ThemeBlocks.Block

open Toml (Shape)
open Toml.Shape (member)

def Condition.tableShape : Shape Condition :=
  Toml.Shape.record "ConditionalLogic"
    [member "field" true Toml.Shape.text fun draft v => { draft with field := some v },
      member "operator" true Toml.Shape.text fun draft v => { draft with operator := some v },
      member "value" true Toml.Shape.text fun draft v => { draft with value := some v }]
    {} Draft.finish

def Attribute.tableShape : Shape Attribute :=
  Toml.Shape.record "AttributeSpec"
    [member "source_type" false Toml.Shape.text fun draft v => { draft with sourceType := some v },
      member "field_type" true (Toml.Shape.variant FieldType.ofName? FieldType.knownNames)
        fun draft v => { draft with fieldType := some v },
      member "field_name" true Toml.Shape.text fun draft v => { draft with fieldName := some v },
      member "options" false (Toml.Shape.given (Toml.Shape.list Toml.Shape.text))
        fun draft v => { draft with options := some v },
      member "additional_parameters" false (Toml.Shape.given (Toml.Shape.map Toml.Shape.text))
        fun draft v => { draft with parameters := some v },
      member "conditional_logic" false (Toml.Shape.given Condition.tableShape)
        fun draft v => { draft with condition := some v }]
    {} Draft.finish

def Descriptor.tableShape : Shape Descriptor :=
  Toml.Shape.record "BlockDescriptor"
    [member "block_name" true Toml.Shape.text fun draft v => { draft with blockName := some v },
      member "display_name" true Toml.Shape.text fun draft v => { draft with displayName := some v },
      member "description" false Toml.Shape.text fun draft v => { draft with description := some v },
      member "icon" false Toml.Shape.text fun draft v => { draft with icon := some v },
      member "keywords" false (Toml.Shape.list Toml.Shape.text)
        fun draft v => { draft with keywords := some v },
      member "gql_type_name" true Toml.Shape.text fun draft v => { draft with typeName := some v },
      member "attributes" false (Toml.Shape.given (Toml.Shape.map Attribute.tableShape))
        fun draft v => { draft with attributes := some v }]
    {} Draft.finish

end ThemeBlocks.Block
