import ThemeBlocks.CommandLine.Invocation
import ThemeBlocks.Project.Commands
import ThemeBlocks.Report.Content
import ThemeBlocks.Report.Status

/-! Running the program: what it prints, and the code that it ends with. -/

namespace ThemeBlocks.CommandLine

open Project (Settings Trouble)
open Project.Settings (settle)
open Report (Status StatusKind)

structure Outcome where
  code : Nat := 0
  output : String := ""
  errors : String := ""
  trouble : Option Trouble := none
  deriving Repr, DecidableEq

variable {m : Type → Type} [Monad m] [Host m]

abbrev Session (m : Type → Type) := ExceptT Trouble (StateT Outcome m)

def perform {α : Type} (task : Settings.Task m α) : Session m α := do
  match ← ExceptT.lift (StateT.lift task.run) with
  | .ok value => pure value
  | .error trouble => throw trouble

def printLine (text : String) : Session m Unit :=
  modify fun outcome => { outcome with output := outcome.output ++ text ++ "\n" }

def tell (isColoured : Bool) (kind : StatusKind) (text : String) : Session m Unit :=
  modify fun outcome =>
    { outcome with errors := outcome.errors ++ (Status.mk kind text).line isColoured }

def remarks (context : Sync.Context) : List String :=
  context.warnings.map Cms.Warning.text ++ context.redeployNotice.toList

def tellAll (isColoured : Bool) (kind : StatusKind) : List String → Session m Unit
  | [] => pure ()
  | text :: texts => do
    tell isColoured kind text
    tellAll isColoured kind texts

def syncSummary (snapshot : Cms.Snapshot) : String :=
  "Fetched " ++ toString snapshot.blockCount ++ " blocks from " ++
    toString snapshot.collections.length ++ " collections"

def runSync (isColoured asJson isPretty : Bool) (output : Option Files.Path) (settings : Settings) :
    Session m Unit := do
  let context ← perform (Project.sync settings)
  tellAll isColoured .warning (remarks context)
  if asJson then
    let text := Report.contentJson isPretty context
    match output with
    | some path =>
      perform (Project.writeOutput path text)
      tell isColoured .success ("Wrote snapshot to " ++ path.text)
    | none => printLine text
  else
    if context.snapshot.collections.isEmpty then printLine "No content collections found."
    else printLine (Report.contentTable isColoured context).render
    tell isColoured .success (syncSummary context.snapshot)

def runGenerate (isColoured : Bool) (settings : Settings) : Session m Unit := do
  let written ← perform (Project.generate settings)
  tell isColoured .success
    ("Wrote " ++ toString written.files.length ++ " files to " ++ settings.themePath.text)
  tell isColoured .info "Upload the theme to the CMS so it knows the new block types."

def runBlocks (isColoured asJson isPretty : Bool) (settings : Settings) : Session m Unit := do
  let registry ← perform (settle settings.registry)
  if asJson then printLine (Report.blocksJson isPretty registry)
  else if registry.size = 0 then printLine "No blocks configured."
  else printLine (Report.blocksTable isColoured registry).render

def runTask (isColoured : Bool) (invocation : Invocation) : Session m Unit :=
  let load : Session m Settings := perform (Settings.load invocation.config)
  match invocation.task with
  | .sync asJson isPretty output => do
    runSync isColoured asJson isPretty output (← load)
  | .generate => do runGenerate isColoured (← load)
  | .query isMinimal => do printLine (← perform (Project.queryText (← load) isMinimal))
  | .blocks asJson isPretty => do runBlocks isColoured asJson isPretty (← load)
  | .completions _ => pure ()

def troubleLines (isColoured : Bool) (trouble : Trouble) : String :=
  (Status.mk .error trouble.message).line isColoured ++
    (trouble.help?.map fun help => (Status.mk .hint help).line isColoured).getD ""

def usesColour (isTerminal : Bool) (invocation : Invocation) : m Bool := do
  let forbidden ← Surroundings.variableNamed "NO_COLOR"
  let terminal ← Surroundings.variableNamed "TERM"
  pure (isTerminal && !invocation.noColour && forbidden.isNone && terminal != some "dumb")

def versionLine : String := "blockgen 0.1.0\n"

def runInvocation (isTerminal : Bool) (invocation : Invocation) : m Outcome := do
  let isColoured ← usesColour isTerminal invocation
  let (result, outcome) ← (runTask isColoured invocation).run.run {}
  match result with
  | .ok () => pure outcome
  | .error trouble =>
    pure { outcome with
      code := 1
      errors := outcome.errors ++ troubleLines isColoured trouble
      trouble := some trouble }

def refused (version : String) : UsageError → Outcome
  | .help => {}
  | .version => { output := version }
  | _ => { code := 2 }

def run (isTerminal : Bool) (words : List String) : m Outcome :=
  match Invocation.ofWords words with
  | .error error => pure (refused versionLine error)
  | .ok invocation => runInvocation isTerminal invocation

end ThemeBlocks.CommandLine
