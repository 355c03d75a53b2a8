import ThemeBlocks.Json.Printer
import ThemeBlocks.Json.Reader
import ThemeBlocks.Misfit

/-! Blocks of a page as the CMS delivers them. A block is read in two steps: its outer shape, and then
the JSON text that holds its data. A text that is no JSON is kept as it is. -/

namespace ThemeBlocks.Cms

open Json

inductive Payload
  | decoded (value : Value)
  | raw (text : String)
  deriving Repr, Inhabited

namespace Payload

def isRaw : Payload → Bool
  | .raw _ => true
  | .decoded _ => false

def value? : Payload → Option Value
  | .decoded value => some value
  | .raw _ => none

def toJson : Payload → Value
  | .decoded value => value
  | .raw text => .string text

end Payload

structure EditorBlock where
  typeName : String
  name : String
  apiVersion : Option Int
  data : Option Payload
  deriving Repr, Inhabited

structure ReceivedBlock where
  typeName : Option String := none
  name : Option String := none
  apiVersion : Option Int := none
  attributes : Option Value := none
  deriving Repr

def foundIn : Value → Found
  | .null => .null
  | .bool value => .bool value
  | .number (.int value) => .int value
  | .number (.float bits) => .float (Decimal.jsonText bits)
  | .string value => .string value
  | .array _ => .sequence
  | .object _ => .map

def optionalText : Option Value → Except Misfit (Option String)
  | none | some .null => .ok none
  | some (.string text) => .ok (some text)
  | some value => .error (.wrongType (foundIn value) "a string")

/-- An integer of 64 bits; a number with a fraction is none, even if the fraction is zero. -/
def optionalInteger : Option Value → Except Misfit (Option Int)
  | none | some .null => .ok none
  | some (.number (.int n)) =>
    if WordRange.signed64.contains n then .ok (some n) else .error (.wrongValue (.int n) "i64")
  | some value => .error (.wrongType (foundIn value) "i64")

def present : Option Value → Option Value
  | some .null => none
  | value => value

namespace ReceivedBlock

/-- From an object the members are taken in the order of their keys, from a list in the order of
declaration; what is missing is empty. -/
def ofJson : Value → Except Misfit ReceivedBlock
  | .object members => do
    let typeName ← optionalText (lookup? "__typename" members)
    let apiVersion ← optionalInteger (lookup? "apiVersion" members)
    let name ← optionalText (lookup? "name" members)
    .ok ⟨typeName, name, apiVersion, present (lookup? "attributes" members)⟩
  | .array items => do
    let typeName ← optionalText items[0]?
    let name ← optionalText items[1]?
    let apiVersion ← optionalInteger items[2]?
    if 4 < items.length then .error (.wrongLength items.length "fewer elements in array")
    else .ok ⟨typeName, name, apiVersion, present items[3]?⟩
  | value => .error (.wrongType (foundIn value) "struct RawEditorBlock")

def payload (block : ReceivedBlock) : Option Payload × Option String :=
  match block.attributes with
  | none => (none, none)
  | some (.object members) =>
    match lookup? "data" members with
    | none | some .null => (none, none)
    | some (.string text) =>
      match parse text with
      | .ok value => (some (.decoded value), none)
      | .error message => (some (.raw text), some message)
    | some value => (some (.decoded value), none)
  | some value => (none, some ("attributes is not an object: " ++ value.compact))

end ReceivedBlock

inductive Decoding
  | kept (block : EditorBlock) (problem : Option String)
  | dropped (name : Option String) (problem : String)
  deriving Repr

def EditorBlock.decode (item : Value) : Decoding :=
  match ReceivedBlock.ofJson item with
  | .error cause =>
    .dropped ((item.member? "name").bind Value.text?) ("unusable editor block: " ++ cause.text)
  | .ok block =>
    let (data, problem) := block.payload
    .kept ⟨block.typeName.getD "", block.name.getD "", block.apiVersion, data⟩ problem

def EditorBlock.toJson (block : EditorBlock) : Value :=
  .object <|
    [("__typename", .string block.typeName), ("name", .string block.name)] ++
    (block.apiVersion.map fun n => ("apiVersion", Value.number (.int n))).toList ++
    (block.data.map fun data => ("data", data.toJson)).toList

end ThemeBlocks.Cms
