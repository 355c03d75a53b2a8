import ThemeBlocks.CommandLine.Grammar
import ThemeBlocks.Files.Path

/-! What the program is asked to do. -/

namespace ThemeBlocks.CommandLine

open Files (Path)

inductive Shell
  | bash
  | zsh
  | fish
  | powershell
  deriving Repr, DecidableEq

namespace Shell

def name : Shell → String
  | .bash => "bash"
  | .zsh => "zsh"
  | .fish => "fish"
  | .powershell => "powershell"

def ofWord? : String → Option Shell
  | "bash" => some .bash
  | "zsh" => some .zsh
  | "fish" => some .fish
  | "power-shell" | "pwsh" => some .powershell
  | _ => none

end Shell

inductive Task
  | sync (asJson isPretty : Bool) (output : Option Path)
  | generate
  | query (isMinimal : Bool)
  | blocks (asJson isPretty : Bool)
  | completions (shell : Shell)
  deriving Repr, DecidableEq

structure Invocation where
  config : Option Path := none
  noColour : Bool := false
  verbose : Bool := false
  task : Task
  deriving Repr, DecidableEq

def isFileName (value : String) : Bool := !value.isEmpty

def jsonOption : OptionSpec := { name := "json" }
def prettyOption : OptionSpec := { name := "pretty", needs := some "json" }

def program : Program where
  options :=
    [{ name := "config", letter := some 'c', takesValue := true, accepts := isFileName },
      { name := "no-color" },
      { name := "verbose", letter := some 'v' }]
  commands :=
    [{ name := "sync"
       options := [jsonOption, prettyOption,
         { name := "output", letter := some 'o', takesValue := true, accepts := isFileName,
           needs := some "json" }] },
      { name := "generate" },
      { name := "query", options := [{ name := "degraded" }] },
      { name := "blocks", options := [jsonOption, prettyOption] },
      { name := "completions"
        operand := some
          { name := "shell", takesValue := true, accepts := fun word => (Shell.ofWord? word).isSome } }]
  hasVersion := true

def taskOf (reading : Reading) : Option Task :=
  match reading.command with
  | "sync" => some <| .sync (reading.has "json") (reading.has "pretty")
      ((reading.value? "output").map Files.Path.mk)
  | "generate" => some .generate
  | "query" => some (.query (reading.has "degraded"))
  | "blocks" => some (.blocks (reading.has "json") (reading.has "pretty"))
  | "completions" => ((reading.value? "shell").bind Shell.ofWord?).map .completions
  | _ => none

namespace Invocation

def ofWords (words : List String) : Except UsageError Invocation := do
  let reading ← program.read words
  match taskOf reading with
  | none => .error .missingArgument
  | some task =>
    pure {
      config := (reading.value? "config").map Files.Path.mk
      noColour := reading.has "no-color"
      verbose := reading.has "verbose"
      task }

end Invocation

end ThemeBlocks.CommandLine
