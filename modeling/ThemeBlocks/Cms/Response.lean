import ThemeBlocks.Block.Json

/-! The answer of a GraphQL server: data, and the errors that it reports beside the data. -/

namespace ThemeBlocks.Cms

open Json

structure Location where
  line : Int
  column : Int
  deriving Repr, DecidableEq

inductive PathStep
  | key (name : String)
  | index (value : Int)
  deriving Repr, DecidableEq

structure ServerError where
  message : String
  locations : Option (List Location) := none
  path : Option (List PathStep) := none
  extensions : Option (List (String × Value)) := none
  deriving Repr

structure Response where
  data : Option Value := none
  errors : Option (List ServerError) := none
  extensions : Option (List (String × Value)) := none
  deriving Repr, Inhabited

namespace Response

structure LocationDraft where
  line : Option Int := none
  column : Option Int := none

structure ErrorDraft where
  message : Option String := none
  locations : Option (Option (List Location)) := none
  path : Option (Option (List PathStep)) := none
  extensions : Option (Option (List (String × Value))) := none

structure Draft where
  data : Option (Option Value) := none
  errors : Option (Option (List ServerError)) := none
  extensions : Option (Option (List (String × Value))) := none

open Block (fieldOf required)

def wordShape : Shape Int :=
  Shape.integer .signed32 "i32"

def locationShape : Shape Location :=
  Shape.record "Location"
    [fieldOf "line" true wordShape LocationDraft.line fun draft v => { draft with line := some v },
      fieldOf "column" true wordShape LocationDraft.column
        fun draft v => { draft with column := some v }]
    {} fun draft => do
      let line ← required "line" draft.line
      let column ← required "column" draft.column
      .ok ⟨line, column⟩

/-- A step of a path is a name or a small integer; anything else is refused when the list is left. -/
def stepShape : Shape PathStep := fun room source => do
  let (value, rest) ← Shape.value room source
  match value with
  | .string name => .ok (.key name, rest)
  | .number (.int n) =>
    if WordRange.signed32.contains n then .ok (.index n, rest)
    else fail ⟨.misfit (.noVariant "PathFragment"), .stopped rest⟩
  | _ => fail ⟨.misfit (.noVariant "PathFragment"), .stopped rest⟩

def membersShape : Shape (List (String × Value)) := fun room source => do
  let (members, rest) ← Shape.map Shape.value room source
  .ok (sortMembers members, rest)

def errorShape : Shape ServerError :=
  Shape.record "Error"
    [fieldOf "message" true Shape.text ErrorDraft.message
        fun draft v => { draft with message := some v },
      fieldOf "locations" true (Shape.optional (Shape.list locationShape)) ErrorDraft.locations
        fun draft v => { draft with locations := some v },
      fieldOf "path" true (Shape.optional (Shape.list stepShape)) ErrorDraft.path
        fun draft v => { draft with path := some v },
      fieldOf "extensions" true (Shape.optional membersShape) ErrorDraft.extensions
        fun draft v => { draft with extensions := some v }]
    {} fun draft => do
      let message ← required "message" draft.message
      .ok ⟨message, draft.locations.getD none, draft.path.getD none, draft.extensions.getD none⟩

def shape : Shape Response :=
  Shape.record "Response"
    [fieldOf "data" true (Shape.optional Shape.value) Draft.data
        fun draft v => { draft with data := some v },
      fieldOf "errors" true (Shape.optional (Shape.list errorShape)) Draft.errors
        fun draft v => { draft with errors := some v },
      fieldOf "extensions" true (Shape.optional membersShape) Draft.extensions
        fun draft v => { draft with extensions := some v }]
    {} fun draft => .ok ⟨draft.data.getD none, draft.errors.getD none, draft.extensions.getD none⟩

def ofSource (source : Text.Source) : Except String Response :=
  match readAs shape source with
  | .ok response => .ok response
  | .error failure => .error (failure.message source)

def errorMessages (response : Response) : List String :=
  (response.errors.getD []).map (·.message)

end Response

end ThemeBlocks.Cms
