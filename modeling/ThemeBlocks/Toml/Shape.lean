import ThemeBlocks.Toml.Value

/-! Turning TOML values into values of a known shape. What a record does not know is skipped. A record
may also be written as the list of its fields; what the list has beyond them is skipped. -/

namespace ThemeBlocks.Toml

abbrev Shape (α : Type) := Value → Except Misfit α

mutual

/-- Skips a value; a number that no type can hold cannot be skipped. -/
def skip : Value → Except Misfit Unit
  | .excessive => .error .excessive
  | .array items => skipItems items
  | .table entries => skipEntries entries
  | _ => .ok ()

def skipItems : List Value → Except Misfit Unit
  | [] => .ok ()
  | item :: items => do
    skip item
    skipItems items

def skipEntries : List (String × Value) → Except Misfit Unit
  | [] => .ok ()
  | (_, value) :: entries => do
    skip value
    skipEntries entries

end

def refuse {α : Type} (expected : String) : Shape α
  | .excessive => .error .excessive
  | value => .error (.wrongType value.found expected)

def momentEntry (value : String) : String × Value :=
  ("$__toml_private_datetime", .text value)

namespace Shape

def textCalled (expected : String) : Shape String
  | .text value => .ok value
  | value => refuse expected value

def text : Shape String := textCalled "a string"

def boolean : Shape Bool
  | .boolean value => .ok value
  | value => refuse "a boolean" value

def word : Shape Nat
  | .integer n =>
    if WordRange.unsigned64.contains n then .ok n.toNat
    else if WordRange.signed64.contains n then .error (.wrongValue (.int n) "u64")
    else refuse "u64" (.integer n)
  | value => refuse "u64" value

def given {α : Type} (shape : Shape α) : Shape (Option α) := fun value =>
  (shape value).map some

def list {α : Type} (shape : Shape α) : Shape (List α)
  | .array items => items.mapM shape
  | value => refuse "a sequence" value

def entriesOf {α : Type} (shape : Shape α) (entries : List (String × Value)) :
    Except Misfit (List (String × α)) :=
  entries.mapM fun (key, value) => do .ok (key, ← shape value)

def map {α : Type} (shape : Shape α) : Shape (List (String × α))
  | .table entries => entriesOf shape entries
  | .moment value => entriesOf shape [momentEntry value]
  | value => refuse "a map" value

/-- One of some names: as a string, or as the key of a table that holds nothing more. -/
def variant {α : Type} (ofName? : String → Option α) (known : List String) : Shape α :=
  let named (name : String) : Except Misfit α :=
    match ofName? name with
    | some value => .ok value
    | none => .error (.unknownVariant name known)
  fun
  | .text name => named name
  | .table [(name, content)] => do
    let value ← named name
    match content with
    | .array [] | .table [] => .ok value
    | _ => .error (.rejected "wanted a name")
  | _ => .error (.rejected "wanted a name")

structure Field (σ : Type) where
  name : String
  needed : Bool
  read : σ → Value → Except Misfit σ

def recordOfEntries {σ : Type} (fields : List (Field σ)) (draft : σ)
    (entries : List (String × Value)) : Except Misfit σ :=
  entries.foldlM
    (fun draft (key, value) =>
      match fields.find? (·.name = key) with
      | some field => field.read draft value
      | none => do
        skip value
        .ok draft)
    draft

def recordOfItems {σ : Type} (length : Nat) (expected : String) :
    List (Field σ) → List Value → σ → Except Misfit σ
  | [], _, draft => .ok draft
  | field :: fields, item :: items, draft => do
    recordOfItems length expected fields items (← field.read draft item)
  | field :: fields, [], draft =>
    if field.needed then .error (.wrongLength length expected)
    else recordOfItems length expected fields [] draft

def record {σ α : Type} (name : String) (fields : List (Field σ)) (empty : σ)
    (finish : σ → Except Misfit α) : Shape α
  | .table entries => do finish (← recordOfEntries fields empty entries)
  | .moment value => do finish (← recordOfEntries fields empty [momentEntry value])
  | .array items => do
    let expected := s!"struct {name} with {fields.length} elements"
    finish (← recordOfItems items.length expected fields items empty)
  | value => refuse ("struct " ++ name) value

def member {σ α : Type} (name : String) (needed : Bool) (shape : Shape α) (store : σ → α → σ) :
    Field σ where
  name := name
  needed := needed
  read := fun draft value => do .ok (store draft (← shape value))

end Shape

end ThemeBlocks.Toml
