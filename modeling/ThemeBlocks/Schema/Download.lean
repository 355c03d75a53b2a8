import ThemeBlocks.CommandLine.Run
import ThemeBlocks.Schema.Introspection

/-! Downloading the schema of a CMS: the server is asked once, what it tells is written to a file, and the
types of its blocks can be listed. -/

namespace ThemeBlocks.Schema

open CommandLine (OptionSpec Outcome Program UsageError)
open Files (Path)
open Web (Request Url)

structure Order where
  url : Option String := none
  token : Option String := none
  output : Path := ⟨"schema.json"⟩
  listBlocks : Bool := false
  deriving Repr, DecidableEq

def program : Program where
  commands :=
    [{ name := "schema"
       options :=
         [{ name := "url", takesValue := true },
           { name := "token", takesValue := true },
           { name := "output", letter := some 'o', takesValue := true,
             accepts := CommandLine.isFileName },
           { name := "list-blocks" }] }]

def Order.ofWords (words : List String) : Except UsageError Order := do
  let reading ← program.read words
  let standard : Order := {}
  pure {
      url := reading.value? "url"
      token := reading.value? "token"
      output := ((reading.value? "output").map Files.Path.mk).getD standard.output
      listBlocks := reading.has "list-blocks" }

def nameOf? (type : Json.Value) : Option String :=
  (type.member? "name").bind Json.Value.text?

def namesIn : Json.Value → List String
  | .array types => types.filterMap nameOf?
  | _ => []

def isBlockInterface (type : Json.Value) : Bool :=
  nameOf? type = some "EditorBlock"

def possibleNames (type : Json.Value) : List String :=
  match type.member? "possibleTypes" with
  | some types => namesIn types
  | none => []

def typesOf (schema : Json.Value) : List Json.Value :=
  match (schema.member? "__schema").bind (Json.Value.member? "types") with
  | some (.array types) => types
  | _ => []

def blockTypes (schema : Json.Value) : List String :=
  (((typesOf schema).filter isBlockInterface).flatMap possibleNames).mergeSort
    fun a b => decide (a ≤ b)

inductive Problem
  | noEndpoint
  | unsent
  | status (code : Nat)
  | unreadable
  | noData
  | directory
  | file
  deriving Repr, DecidableEq

def Problem.text : Problem → String
  | .noEndpoint =>
    "No endpoint provided. Use --url or set CMS_GRAPHQL_URL environment variable"
  | .unsent => "Failed to send introspection query"
  | .status code =>
    "Failed to download schema: " ++ toString code ++ " " ++
      (Web.reason? code).getD "<unknown status code>"
  | .unreadable => "Failed to parse schema response"
  | .noData => "No data field in response"
  | .directory => "Failed to create output directory"
  | .file => "Failed to write schema file"

def requestFor (url : String) (token : Option String) : Option Request :=
  match Url.ofText url with
  | .error _ => none
  | .ok url =>
    if Web.isReachable url && token.all Web.isHeaderValue then
      some
        { url
          headers := ("content-type", "application/json") ::
            ((Web.userCredentials url).toList ++ (token.map ("Bearer " ++ ·)).toList).map
              fun text => ("authorization", text)
          body := (Json.Value.object [("query", .string introspectionQuery)]).compact }
    else none

/-- The schema in a delivery: the data of a readable answer of success. -/
def schemaIn : Web.Delivery → Except Problem Json.Value
  | .dropped => .error .unsent
  | .answer status body =>
    if Web.isSuccess status then
      match body.map fun bytes => Json.readAs Json.Shape.value (.ofBytes bytes) with
      | some (.ok value) =>
        match value.member? "data" with
        | some schema => .ok schema
        | none => .error .noData
      | _ => .error .unreadable
    else .error (.status status)

variable {m : Type → Type} [Monad m] [Host m]

def settle {α : Type} (result : Except Problem α) : ExceptT Problem m α :=
  ExceptT.mk (pure result)

def orElse {α : Type} (problem : Problem) : Except Files.DiskError α → Except Problem α
  | .ok value => .ok value
  | .error _ => .error problem

def orVariable (value : Option String) (name : String) : m (Option String) :=
  match value with
  | some value => pure (some value)
  | none => Surroundings.variableNamed name

def fetch (order : Order) : ExceptT Problem m Json.Value := do
  match ← ExceptT.lift (orVariable order.url Project.endpointVariable) with
  | none => throw .noEndpoint
  | some url =>
    let token ← ExceptT.lift (orVariable order.token Project.tokenVariable)
    match requestFor url token with
    | none => throw .unsent
    | some request => settle (schemaIn (← ExceptT.lift (Web.Network.exchange request)))

def save (path : Path) (schema : Json.Value) : ExceptT Problem m Unit := do
  match path.parent? with
  | none => pure ()
  | some parent =>
    if parent.text.isEmpty then pure ()
    else settle (orElse .directory (← ExceptT.lift (Files.Storage.makeDirectories parent)))
  settle (orElse .file (← ExceptT.lift (Files.Storage.writeText path (schema.pretty 0))))

def download (order : Order) : ExceptT Problem m Json.Value := do
  let schema ← fetch order
  save order.output schema
  pure schema

def startLine : String := "Downloading CMS GraphQL schema...\n"

def savedLine (path : Path) : String :=
  "Schema downloaded successfully to " ++ Text.quoted path.text ++ "\n"

def runOrder (order : Order) : m Outcome := do
  match ← (download order).run with
  | .error problem =>
    pure { code := 1, output := startLine, errors := "Error: " ++ problem.text ++ "\n" }
  | .ok schema =>
    let names := if order.listBlocks then blockTypes schema else []
    pure { output := startLine ++ savedLine order.output ++ String.join (names.map (· ++ "\n")) }

def run (words : List String) : m Outcome :=
  match Order.ofWords words with
  | .error error => pure (CommandLine.refused "" error)
  | .ok order => runOrder order

end ThemeBlocks.Schema
