import ThemeBlocks.Files.Tree
import ThemeBlocks.Web.Exchange

/-! What a program runs in: files, a network, a journal of what it notes about its own work, a working
directory and named variables. A monad in which these can be used is a `Host`. -/

namespace ThemeBlocks.Files

class Storage (m : Type → Type) where
  isPresent : Path → m Bool
  readText : Path → m (Except DiskError String)
  makeDirectories : Path → m (Except DiskError Unit)
  /-- Writes a file in full, whatever was in it. -/
  writeText : Path → String → m (Except DiskError Unit)

end ThemeBlocks.Files

namespace ThemeBlocks

inductive Level
  | debug
  | info
  | warn
  deriving Repr, DecidableEq, Inhabited

def Level.name : Level → String
  | .debug => "DEBUG"
  | .info => "INFO"
  | .warn => "WARN"

structure Entry where
  level : Level
  source : String
  message : String
  deriving Repr, DecidableEq, Inhabited

def Entry.line (entry : Entry) : String :=
  entry.level.name ++ " " ++ entry.source ++ ": " ++ entry.message

class Journal (m : Type → Type) where
  note : Entry → m Unit

def noteAll {m : Type → Type} [Monad m] [Journal m] : List Entry → m Unit
  | [] => pure ()
  | entry :: entries => do
    Journal.note entry
    noteAll entries

class Surroundings (m : Type → Type) where
  workingDirectory : m Files.Path
  variableNamed : String → m (Option String)

class Host (m : Type → Type) extends Files.Storage m, Web.Network m, Journal m, Surroundings m

end ThemeBlocks
