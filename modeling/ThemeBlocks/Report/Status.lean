/-! Status lines: a tag that says what kind of message it is, and the message; and the colours and weights
of text on a terminal. -/

namespace ThemeBlocks.Report

structure Ink where
  on : String
  off : String
  deriving Repr, DecidableEq

namespace Ink

def code (number : String) : String := "\x1b[" ++ number ++ "m"

def red : Ink := ⟨code "31", code "39"⟩
def green : Ink := ⟨code "32", code "39"⟩
def yellow : Ink := ⟨code "33", code "39"⟩
def blue : Ink := ⟨code "34", code "39"⟩
def bold : Ink := ⟨code "1", code "0"⟩
def dimmed : Ink := ⟨code "2", code "0"⟩

def apply (ink : Ink) (text : String) : String :=
  ink.on ++ text ++ ink.off

def applyIf (ink : Ink) (isColoured : Bool) (text : String) : String :=
  if isColoured then ink.apply text else text

end Ink

inductive StatusKind
  | error
  | warning
  | info
  | success
  | hint
  deriving Repr, DecidableEq

namespace StatusKind

def name : StatusKind → String
  | .error => "error"
  | .warning => "warning"
  | .info => "info"
  | .success => "success"
  | .hint => "hint"

def ofName? (name : String) : Option StatusKind :=
  [.error, .warning, .info, .success, .hint].find? fun kind : StatusKind => kind.name = name

def ink : StatusKind → Ink
  | .error => .red
  | .warning => .yellow
  | .info => .blue
  | .success => .green
  | .hint => .dimmed

end StatusKind

structure Status where
  kind : StatusKind
  text : String
  deriving Repr, DecidableEq

namespace Status

/-- The line of a status, with its line end. A hint stands back and is shown faintly as a whole. -/
def line (isColoured : Bool) (status : Status) : String :=
  let tag := status.kind.name ++ ":"
  if isColoured then
    match status.kind with
    | .hint => "  " ++ Ink.dimmed.apply tag ++ " " ++ Ink.dimmed.apply status.text ++ "\n"
    | kind => Ink.bold.apply (kind.ink.apply tag) ++ " " ++ status.text ++ "\n"
  else
    match status.kind with
    | .hint => "  " ++ tag ++ " " ++ status.text ++ "\n"
    | _ => tag ++ " " ++ status.text ++ "\n"

end Status

end ThemeBlocks.Report
