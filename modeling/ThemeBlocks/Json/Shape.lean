import ThemeBlocks.Decimal.Layout
import ThemeBlocks.Json.Reader
import ThemeBlocks.Misfit

/-! Reading JSON text straight into values of a known shape. A value of another shape is refused where
it stands; a record that lacks a field is refused where it ends. A record may also be written as the
list of its fields. -/

namespace ThemeBlocks.Json

open Text

/-- Reads a value of one shape. The first argument is the room for open brackets. -/
abbrev Shape (α : Type) := Nat → Source → Except Failure (α × Source)

/-- The refusal of a value that is not of the wanted shape. Scalars are read first; a bracket is
refused as it stands. -/
def refuse (expected : String) (source : Source) : Failure :=
  let wrong (found : Found) (rest : Source) : Failure := .here (.misfit (.wrongType found expected)) rest
  match source with
  | .char 'n' :: rest =>
    match scanWord ['u', 'l', 'l'] rest with
    | .ok rest => wrong .null rest
    | .error failure => failure
  | .char 't' :: rest =>
    match scanWord ['r', 'u', 'e'] rest with
    | .ok rest => wrong (.bool true) rest
    | .error failure => failure
  | .char 'f' :: rest =>
    match scanWord ['a', 'l', 's', 'e'] rest with
    | .ok rest => wrong (.bool false) rest
    | .error failure => failure
  | .char '"' :: rest =>
    match scanString rest with
    | .ok (text, rest) => wrong (.string text) rest
    | .error failure => failure
  | .char '[' :: _ => wrong .sequence source
  | .char '{' :: _ => wrong .map source
  | symbol :: _ =>
    if symbol = .char '-' ∨ (digitOf? symbol).isSome then
      match scanNumber source with
      | .ok (.int value, rest) => wrong (.int value) rest
      | .ok (.float bits, rest) => wrong (.float (Decimal.jsonText bits)) rest
      | .error failure => failure
    else .next .expectedValue source
  | [] => .here .endInValue []

namespace Shape

def text : Shape String := fun _ source =>
  match skipBlanks source with
  | [] => fail (.here .endInValue [])
  | .char '"' :: rest => scanString rest
  | rest => fail (refuse "a string" rest)

def optional {α : Type} (shape : Shape α) : Shape (Option α) := fun room source =>
  match skipBlanks source with
  | .char 'n' :: rest => do
    let rest ← scanWord ['u', 'l', 'l'] rest
    .ok (none, rest)
  | rest => do
    let (value, rest) ← shape room rest
    .ok (some value, rest)

def value : Shape Value := fun room source =>
  readValue (stepsFor source) room source

def integer (range : WordRange) (name : String) : Shape Int := fun _ source =>
  match skipBlanks source with
  | [] => fail (.here .endInValue [])
  | symbol :: rest =>
    if symbol = .char '-' ∨ (digitOf? symbol).isSome then do
      let (number, after) ← scanNumber (symbol :: rest)
      match number with
      | .int n =>
        if range.contains n then .ok (n, after)
        else fail (.here (.misfit (.wrongValue (.int n) name)) after)
      | .float bits => fail (.here (.misfit (.wrongType (.float (Decimal.jsonText bits)) name)) after)
    else fail (refuse name (symbol :: rest))

/-- How a failed list is left: behind its closing bracket if that comes next, else behind blanks and
one comma. -/
def leaveList (source : Source) : Source :=
  match skipBlanks source with
  | .char ']' :: rest => rest
  | .char ',' :: rest => skipBlanks rest
  | rest => rest

def leaveObject (source : Source) : Source :=
  match skipBlanks source with
  | .char '}' :: rest => rest
  | rest => rest

def within {α : Type} (leave : Source → Source) (result : Except Failure α) : Except Failure α :=
  match result with
  | .ok value => .ok value
  | .error failure => fail (failure.settle leave)

def items {α : Type} (shape : Shape α) (room : Nat) :
    Nat → Bool → Source → Except Failure (List α × Source)
  | 0, _, source => fail (.here .endInList source)
  | fuel + 1, first, source => do
    match ← nextItem first source with
    | none => .ok ([], (skipBlanks source).drop 1)
    | some rest =>
      let (item, rest) ← shape room rest
      let (more, rest) ← items shape room fuel false rest
      .ok (item :: more, rest)

def list {α : Type} (shape : Shape α) : Shape (List α) := fun room source =>
  match skipBlanks source with
  | [] => fail (.here .endInValue [])
  | .char '[' :: rest => do
    let room ← enter room (.char '[' :: rest)
    within leaveList (items shape room (stepsFor rest) true rest)
  | rest => fail (refuse "a sequence" rest)

def entries {α : Type} (shape : Shape α) (room : Nat) :
    Nat → Bool → Source → Except Failure (List (String × α) × Source)
  | 0, _, source => fail (.here .endInObject source)
  | fuel + 1, first, source => do
    match ← nextKey first source with
    | none => .ok ([], (skipBlanks source).drop 1)
    | some rest =>
      let (key, rest) ← scanString rest
      let rest ← afterColon rest
      let (value, rest) ← shape room rest
      let (more, rest) ← entries shape room fuel false rest
      .ok ((key, value) :: more, rest)

def map {α : Type} (shape : Shape α) : Shape (List (String × α)) := fun room source =>
  match skipBlanks source with
  | [] => fail (.here .endInValue [])
  | .char '{' :: rest => do
    let room ← enter room (.char '{' :: rest)
    within leaveObject (entries shape room (stepsFor rest) true rest)
  | rest => fail (refuse "a map" rest)

def unit : Shape Unit := fun _ source =>
  match skipBlanks source with
  | [] => fail (.here .endInValue [])
  | .char 'n' :: rest => do
    let rest ← scanWord ['u', 'l', 'l'] rest
    .ok ((), rest)
  | rest => fail (refuse "unit" rest)

/-- One of a few names: as a string, or as an object whose only key is the name and whose value is
`null`. -/
def variant {α : Type} (ofName? : String → Option α) (known : List String) : Shape α :=
  fun room source =>
    let named (source : Source) : Except Failure (α × Source) :=
      match skipBlanks source with
      | [] => fail (.here .endInValue [])
      | .char '"' :: rest => do
        let (name, rest) ← scanString rest
        match ofName? name with
        | some value => .ok (value, rest)
        | none => fail (.here (.misfit (.unknownVariant name known)) rest)
      | rest => fail (refuse "variant identifier" rest)
    match skipBlanks source with
    | [] => fail (.here .endInValue [])
    | .char '"' :: rest => named (.char '"' :: rest)
    | .char '{' :: rest => do
      let room ← enter room (.char '{' :: rest)
      let (value, rest) ← named rest
      let rest ← afterColon rest
      let ((), rest) ← unit room rest
      match skipBlanks rest with
      | [] => fail (.here .endInObject [])
      | .char '}' :: rest => .ok (value, rest)
      | rest => fail (.next .expectedValue rest)
    | rest => fail (.next .expectedValue rest)

structure Field (σ : Type) where
  name : String
  isSet : σ → Bool
  read : σ → Shape σ
  /-- Whether the field must be there when the record is written as a list. -/
  needed : Bool

def fieldsByName {σ : Type} (fields : List (Field σ)) (room : Nat) :
    Nat → Bool → σ → Source → Except Failure (σ × Source)
  | 0, _, _, source => fail (.here .endInObject source)
  | fuel + 1, first, state, source => do
    match ← nextKey first source with
    | none => .ok (state, skipBlanks source)
    | some rest =>
      let (key, rest) ← scanString rest
      match fields.find? (·.name = key) with
      | none =>
        let rest ← afterColon rest
        let rest ← skipValue (stepsFor rest) rest
        fieldsByName fields room fuel false state rest
      | some field =>
        if field.isSet state then fail ⟨.misfit (.duplicateField key), .stopped rest⟩
        else
          let rest ← afterColon rest
          let (state, rest) ← field.read state room rest
          fieldsByName fields room fuel false state rest

def fieldsInOrder {σ : Type} (expected : String) (room : Nat) :
    Nat → List (Field σ) → σ → Source → Except Failure (σ × Source)
  | _, [], state, source => .ok (state, source)
  | index, field :: fields, state, source => do
    match ← nextItem (index = 0) source with
    | none =>
      if field.needed then fail ⟨.misfit (.wrongLength index expected), .stopped source⟩
      else fieldsInOrder expected room (index + 1) fields state source
    | some rest =>
      let (state, rest) ← field.read state room rest
      fieldsInOrder expected room (index + 1) fields state rest

def closeList (source : Source) : Except Failure Source :=
  match skipBlanks source with
  | [] => fail (.here .endInList [])
  | .char ']' :: rest => .ok rest
  | .char ',' :: rest =>
    match skipBlanks rest with
    | .char ']' :: rest => fail (.next .trailingComma (.char ']' :: rest))
    | rest => fail (.next .trailingCharacters rest)
  | rest => fail (.next .trailingCharacters rest)

/-- A record, as an object or as the list of its fields. `finish` says which field is missing. -/
def record {σ α : Type} (name : String) (fields : List (Field σ)) (empty : σ)
    (finish : σ → Except Misfit α) : Shape α := fun room source =>
  let close (state : σ) (rest : Source) : Except Failure α :=
    match finish state with
    | .ok value => .ok value
    | .error misfit => fail ⟨.misfit misfit, .stopped rest⟩
  match skipBlanks source with
  | [] => fail (.here .endInValue [])
  | .char '{' :: rest => do
    let room ← enter room (.char '{' :: rest)
    within leaveObject do
      let (state, rest) ← fieldsByName fields room (stepsFor rest) true empty rest
      let value ← close state rest
      .ok (value, rest.drop 1)
  | .char '[' :: rest => do
    let room ← enter room (.char '[' :: rest)
    let expected := "struct " ++ name ++ " with " ++ toString fields.length ++ " elements"
    within leaveList do
      let (state, rest) ← fieldsInOrder expected room 0 fields empty rest
      let value ← close state rest
      let rest ← closeList rest
      .ok (value, rest)
  | rest => fail (refuse ("struct " ++ name) rest)

end Shape

def readAs {α : Type} (shape : Shape α) (source : Source) : Except Failure α := do
  let (value, rest) ← shape bracketLimit source
  atEnd rest
  .ok value

end ThemeBlocks.Json
