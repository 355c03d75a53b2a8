import ThemeBlocks.Block.Toml
import ThemeBlocks.Block.Registry
import ThemeBlocks.Cms.Client
import ThemeBlocks.Host
import ThemeBlocks.Project.Trouble
import ThemeBlocks.Query.Template
import ThemeBlocks.Theme.Bundle
import ThemeBlocks.Theme.Prologue
import ThemeBlocks.Toml.Reader

/-! The settings of a project, as its project file gives them, and what follows from them: the registry
of its blocks, its query template, the options of the generated theme, and the client of its CMS. -/

namespace ThemeBlocks.Project

open Files (Path)

def fileName : String := "blockgen.toml"
def endpointVariable : String := "CMS_GRAPHQL_URL"
def tokenVariable : String := "CMS_AUTH_TOKEN"

structure Settings where
  endpoint : Option String := none
  themeDirectory : Option Path := none
  blocksDirectory : Option String := none
  queryTemplate : Option Path := none
  acceptInvalidCerts : Bool := false
  timeoutSeconds : Option Nat := none
  prologue : Option Path := none
  epilogue : Option Path := none
  blocks : List Block.Descriptor := []
  /-- The directory that relative paths start from. -/
  base : Path := ⟨""⟩
  deriving Repr, DecidableEq, Inhabited

namespace Settings

open Toml (Shape)
open Toml.Shape (member given)

def pathShape : Shape Path := fun value => do
  .ok ⟨← Toml.Shape.textCalled "path string" value⟩

def timeoutShape : Shape Nat := fun value => do
  match ← Toml.Shape.word value with
  | 0 => .error (.rejected "timeout_secs must be greater than zero")
  | seconds => .ok seconds

def shape : Shape Settings :=
  Toml.Shape.record "Config"
    [member "graphql_url" false (given Toml.Shape.text) fun s v => { s with endpoint := v },
      member "theme_directory" false (given pathShape) fun s v => { s with themeDirectory := v },
      member "blocks_directory" false (given Toml.Shape.text)
        fun s v => { s with blocksDirectory := v },
      member "query_template" false (given pathShape) fun s v => { s with queryTemplate := v },
      member "accept_invalid_certs" false Toml.Shape.boolean
        fun s v => { s with acceptInvalidCerts := v },
      member "timeout_secs" false (given timeoutShape) fun s v => { s with timeoutSeconds := v },
      member "prologue" false (given pathShape) fun s v => { s with prologue := v },
      member "epilogue" false (given pathShape) fun s v => { s with epilogue := v },
      member "blocks" false (Toml.Shape.list Block.Descriptor.tableShape)
        fun s v => { s with blocks := v }]
    {} .ok

/-- The settings that a document holds. Errors of its form come before those of its values. -/
def ofToml (text : String) : Except Complaint Settings :=
  match Toml.parse? text with
  | none => .error (.illegible none)
  | some entries =>
    match shape (.table entries) with
    | .ok settings => .ok settings
    | .error cause => .error (.illegible (some cause))

def isInside (directory : String) : Bool :=
  let path : Path := ⟨directory⟩
  !Text.isBlankText directory && !path.isAbsolute && !path.components.contains .up

def validate (settings : Settings) : Except Trouble Unit :=
  match settings.blocksDirectory with
  | none => .ok ()
  | some directory =>
    if isInside directory then .ok ()
    else
      .error <| .other
        ("Invalid blocks_directory '" ++ directory ++
          "': must be a relative path inside the theme")

def baseOf (path : Path) : Path :=
  match path.parent? with
  | none => ⟨"."⟩
  | some parent => if parent.text.isEmpty then ⟨"."⟩ else parent

def ofFile (path : Path) (text : String) : Except Trouble Settings := do
  match ofToml text with
  | .error complaint =>
    .error { contexts := ["Failed to parse TOML config file: " ++ path.text], complaint }
  | .ok settings =>
    let settings := { settings with base := baseOf path }
    settings.validate
    .ok settings

/-- The endpoint of the surroundings, if it is not blank, takes the place of the one in the file. -/
def withEndpoint (settings : Settings) (value : Option String) : Settings :=
  match value with
  | none => settings
  | some url =>
    if Text.isBlankText url then settings else { settings with endpoint := some (Text.trim url) }

def resolve (settings : Settings) (path : Path) : Path :=
  settings.base.join path

def themePath (settings : Settings) : Path :=
  settings.resolve (settings.themeDirectory.getD ⟨"."⟩)

def timeout (settings : Settings) : Nat :=
  settings.timeoutSeconds.getD 30

def endpointText (settings : Settings) : Except Trouble String :=
  match settings.endpoint with
  | some url => .ok url
  | none => .error <| .other
      ("No GraphQL endpoint configured. Set graphql_url in " ++ fileName ++ " or " ++
        endpointVariable)

def registry (settings : Settings) : Except Trouble Registry :=
  attempt "Invalid block definitions" (Registry.ofBlocks settings.blocks)

def themeOptions (settings : Settings) (prologue epilogue : String) : Theme.Options :=
  let options : Theme.Options := { boilerplate := ⟨prologue, epilogue⟩ }
  match settings.blocksDirectory with
  | some blocksDirectory => { options with blocksDirectory }
  | none => options

def clientWith (settings : Settings) (token : Option String) : Except Trouble Cms.Client := do
  let endpoint ← settings.endpointText
  attempt "Failed to create CMS client" (Cms.Client.ofTexts endpoint token)

section Tasks

variable {m : Type → Type} [Monad m] [Host m]

abbrev Task (m : Type → Type) := ExceptT Trouble m

def settle {α : Type} (result : Except Trouble α) : Task m α :=
  ExceptT.mk (pure result)

def readFile (task : String) (path : Path) : Task m String := do
  let result ← ExceptT.lift (Files.Storage.readText path)
  settle (attemptDisk (task ++ ": " ++ path.text) result)

def ofPath (path : Path) : Task m Settings := do
  let text ← readFile "Failed to read config file" path
  settle (ofFile path text)

def endpointEntry : Entry :=
  ⟨.debug, "blockgen_cli::config", "Using GraphQL endpoint from " ++ endpointVariable⟩

def overridden (settings : Settings) : m Settings := do
  let value ← Surroundings.variableNamed endpointVariable
  let settings' := settings.withEndpoint value
  if value.any (!Text.isBlankText ·) then
    Journal.note endpointEntry
  pure settings'

/-- The settings that a command works with: those of the given project file, or of the one in the
working directory. -/
def load (path : Option Path) : Task m Settings := do
  let path ←
    match path with
    | some path => pure path
    | none => do
      let directory ← ExceptT.lift Surroundings.workingDirectory
      pure (directory.join ⟨fileName⟩)
  if ← ExceptT.lift (Files.Storage.isPresent path) then
    let settings ← ofPath path
    ExceptT.lift settings.overridden
  else
    throw <| .other
      ("No project file found at " ++ path.text ++ ". Create " ++ fileName ++ " or pass --config")

def token : m (Option String) := do
  let value ← Surroundings.variableNamed tokenVariable
  pure (value.filter (!Text.isBlankText ·))

def template (settings : Settings) : Task m Query.Template :=
  match settings.queryTemplate with
  | none => pure .default
  | some path => do
    let path := settings.resolve path
    let text ← readFile "Failed to read query template" path
    settle (attempt ("Invalid query template: " ++ path.text) (Query.Template.ofText text))

def boilerplate (settings : Settings) (path : Option Path) (standard : String) : Task m String :=
  match path with
  | none => pure standard
  | some path => readFile "Failed to read boilerplate file" (settings.resolve path)

def options (settings : Settings) : Task m Theme.Options := do
  let prologue ← settings.boilerplate settings.prologue Theme.standardPrologue
  let epilogue ← settings.boilerplate settings.epilogue ""
  pure (settings.themeOptions prologue epilogue)

def client (settings : Settings) : Task m Cms.Client := do
  let _ ← settle settings.endpointText
  let token ← ExceptT.lift token
  settle (settings.clientWith token)

end Tasks

end Settings

end ThemeBlocks.Project
