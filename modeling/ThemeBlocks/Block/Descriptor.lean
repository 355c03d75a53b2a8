/-! Block descriptors: what an operator writes down about one block type of the editor. The pair lists
keep the order of declaration; `insertLast` is how a repeated key is read. -/

namespace ThemeBlocks.Block

inductive FieldType
  | text
  | gallery
  | image
  | boolean
  | richText
  | link
  deriving Repr, DecidableEq, Inhabited

namespace FieldType

/-- The name in a descriptor; two kinds may also be given by their backend name. -/
def ofName? : String → Option FieldType
  | "text" => some .text
  | "gallery" => some .gallery
  | "image" => some .image
  | "boolean" | "true_false" => some .boolean
  | "richtext" | "wysiwyg" => some .richText
  | "link" => some .link
  | _ => none

def name : FieldType → String
  | .text => "text"
  | .gallery => "gallery"
  | .image => "image"
  | .boolean => "boolean"
  | .richText => "richtext"
  | .link => "link"

def backendName : FieldType → String
  | .text => "text"
  | .gallery => "gallery"
  | .image => "image"
  | .boolean => "true_false"
  | .richText => "wysiwyg"
  | .link => "link"

def knownNames : List String :=
  ["text", "gallery", "image", "boolean", "true_false", "richtext", "wysiwyg", "link"]

theorem ofName?_name (type : FieldType) : ofName? type.name = some type := by
  cases type <;> rfl

end FieldType

structure Condition where
  field : String
  operator : String
  value : String
  deriving Repr, DecidableEq, Inhabited

structure Attribute where
  sourceType : String := ""
  fieldType : FieldType
  fieldName : String
  options : Option (List String) := none
  parameters : Option (List (String × String)) := none
  condition : Option Condition := none
  deriving Repr, DecidableEq, Inhabited

structure Descriptor where
  blockName : String
  displayName : String
  description : String := ""
  icon : String := ""
  keywords : List String := []
  typeName : String
  attributes : Option (List (String × Attribute)) := none
  deriving Repr, DecidableEq, Inhabited

namespace Descriptor

def attributeList (block : Descriptor) : List (String × Attribute) :=
  block.attributes.getD []

def registeredName (block : Descriptor) : String :=
  "acf/" ++ block.blockName

end Descriptor

/-- Adds an entry to an ordered map: a key that is there keeps its place and takes the new value. -/
def insertLast {α : Type} (entries : List (String × α)) (key : String) (value : α) :
    List (String × α) :=
  match entries with
  | [] => [(key, value)]
  | (k, v) :: rest => if k = key then (k, value) :: rest else (k, v) :: insertLast rest key value

def ofEntries {α : Type} (entries : List (String × α)) : List (String × α) :=
  entries.foldl (fun acc entry => insertLast acc entry.1 entry.2) []

end ThemeBlocks.Block
