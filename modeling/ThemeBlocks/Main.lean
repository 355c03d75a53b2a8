import ThemeBlocks.CommandLine.Run
import ThemeBlocks.Schema.Download

/-! The program in the world: files are those of the disk, the journal goes to the standard error. There
is no network here, so a request stays without an answer. Called by the name `schema`, the program
downloads a schema; called by any other name it works on a project. -/

namespace ThemeBlocks.World

open Files (DiskError Path)

/-- Work in the world. It knows from which level on entries of the journal are shown. -/
abbrev Action := ReaderT Level IO

def diskError : IO.Error → DiskError
  | .noFileOrDirectory .. => .missing
  | .alreadyExists .. => .present
  | .inappropriateType _ code _ => if code = 21 then .isDirectory else .notDirectory
  | error => .other (toString error)

def attempt {α : Type} (work : IO α) : Action (Except DiskError α) := do
  try
    pure (.ok (← work))
  catch error => pure (.error (diskError error))

def weight : Level → Nat
  | .debug => 0
  | .info => 1
  | .warn => 2

instance : Host Action where
  isPresent path := do
    let directory ← IO.currentDir
    (directory / path.text).pathExists
  readText path := attempt (IO.FS.readFile path.text)
  makeDirectories path :=
    if path.text.isEmpty then pure (.ok ()) else attempt (IO.FS.createDirAll path.text)
  writeText path text := attempt (IO.FS.writeFile path.text text)
  exchange _ := pure .dropped
  note entry := do
    if weight (← read) ≤ weight entry.level then IO.eprintln entry.line
  workingDirectory := do pure ⟨(← IO.currentDir).toString⟩
  variableNamed name := IO.getEnv name

def threshold (words : List String) : Level :=
  match CommandLine.Invocation.ofWords words with
  | .ok invocation => if invocation.verbose then .debug else .warn
  | .error _ => .warn

def runWords (words : List String) : Action CommandLine.Outcome := do
  if (← IO.appPath).fileStem = some "schema" then Schema.run words
  else CommandLine.run (← (← IO.getStderr).isTty) words

end ThemeBlocks.World

def main (words : List String) : IO UInt32 := do
  let outcome ← (ThemeBlocks.World.runWords words).run (ThemeBlocks.World.threshold words)
  IO.eprint outcome.errors
  IO.print outcome.output
  pure (UInt32.ofNat outcome.code)
