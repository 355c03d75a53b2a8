import ThemeBlocks.Project.Settings
import ThemeBlocks.Sync.Drift

/-! The commands of a project. `generate` writes the theme, `sync` fetches the content and writes the
theme if the CMS does not know the blocks, `queryText` tells the query. -/

namespace ThemeBlocks.Project

open Files (Path)
open Settings (Task settle)

variable {m : Type → Type} [Monad m] [Host m]

def writtenEntry (target : Path) (contents : String) : Entry :=
  ⟨.debug, "blockgen_cli::writer",
    "Wrote " ++ target.text ++ " (" ++ toString contents.utf8ByteSize ++ " bytes)"⟩

def prepareDirectory (target : Path) : ExceptT Failure m Unit :=
  match target.parent? with
  | none => pure ()
  | some parent => do
    match ← ExceptT.lift (Files.Storage.makeDirectories parent) with
    | .ok () => pure ()
    | .error error =>
      throw (.regeneration ("Failed to create directory " ++ parent.text ++ ": " ++ error.text))

def writeThemeFile (root : Path) (file : Theme.GeneratedFile) : ExceptT Failure m Path := do
  let target := root.join file.path
  prepareDirectory target
  match ← ExceptT.lift (Files.Storage.writeText target file.contents) with
  | .ok () =>
    ExceptT.lift (Journal.note (writtenEntry target file.contents))
    pure target
  | .error error =>
    throw (.regeneration ("Failed to write " ++ target.text ++ ": " ++ error.text))

def writeThemeFiles (root : Path) : List Theme.GeneratedFile → ExceptT Failure m (List Path)
  | [] => pure []
  | file :: files => do
    let target ← writeThemeFile root file
    let targets ← writeThemeFiles root files
    pure (target :: targets)

def writeTheme (root : Path) (bundle : Theme.Bundle) : m (Except Failure Theme.WrittenFiles) := do
  match ← (writeThemeFiles root bundle.files).run with
  | .ok files => pure (.ok ⟨files⟩)
  | .error failure => pure (.error failure)

def writeOutput (path : Path) (text : String) : Task m Unit := do
  match path.parent? with
  | none => pure ()
  | some parent =>
    if parent.text.isEmpty then pure ()
    else do
      let made ← ExceptT.lift (Files.Storage.makeDirectories parent)
      settle (attemptDisk ("Failed to create directory " ++ parent.text) made)
  let written ← ExceptT.lift (Files.Storage.writeText path text)
  settle (attemptDisk ("Failed to write output file " ++ path.text) written)

def gateway (client : Cms.Client) (root : Path) : Sync.Gateway m where
  fetch := client.fetch
  write := writeTheme root

def fetchingEntry (registry : Registry) (client : Cms.Client) : Entry :=
  ⟨.info, "blockgen_cli::commands",
    "Fetching " ++ toString registry.size ++ " block types from " ++ client.endpoint.render⟩

def sync (settings : Settings) : Task m Sync.Context := do
  let registry ← settle settings.registry
  let template ← settings.template
  let options ← settings.options
  let client ← settings.client
  ExceptT.lift (Journal.note (fetchingEntry registry client))
  let (result, _) ← ExceptT.lift <|
    (Sync.run (gateway client settings.themePath) ⟨registry, template, options⟩).run.run .querying
  match result with
  | .ok context => pure context
  | .error failure => throw (.ofFailure failure)

def generate (settings : Settings) : Task m Theme.WrittenFiles := do
  let registry ← settle settings.registry
  let options ← settings.options
  let root := settings.themePath
  let result ← ExceptT.lift (writeTheme root (.ofRegistry registry options))
  settle (attempt ("Failed to write theme files to " ++ root.text) result)

def queryText (settings : Settings) (isMinimal : Bool) : Task m String := do
  let template ← settings.template
  if isMinimal then pure template.minimalQuery
  else do
    let registry ← settle settings.registry
    match template.fullQuery registry with
    | .ok query => pure query
    | .error failure => throw (.ofFailure failure)

end ThemeBlocks.Project
