import ThemeBlocks.Failure
import ThemeBlocks.Files.Tree
import ThemeBlocks.Misfit

/-! What can go wrong around the library: a complaint, and what was being done when it came up. -/

namespace ThemeBlocks.Project

inductive Complaint
  | failure (failure : Failure)
  | disk (error : Files.DiskError)
  | illegible (cause : Option Misfit)
  | other (text : String)
  deriving Repr, DecidableEq

def Complaint.text : Complaint → String
  | .failure error => error.message
  | .disk error => error.text
  | .illegible none => "the document is not well formed"
  | .illegible (some cause) => cause.text
  | .other text => text

structure Trouble where
  /-- What was being done, the widest task first. -/
  contexts : List String := []
  complaint : Complaint
  deriving Repr, DecidableEq

namespace Trouble

def ofFailure (failure : Failure) : Trouble := { complaint := .failure failure }

def other (text : String) : Trouble := { complaint := .other text }

def within (context : String) (trouble : Trouble) : Trouble :=
  { trouble with contexts := context :: trouble.contexts }

def message (trouble : Trouble) : String :=
  ": ".intercalate (trouble.contexts ++ [trouble.complaint.text])

def failure? (trouble : Trouble) : Option Failure :=
  match trouble.complaint with
  | .failure error => some error
  | _ => none

def help? (trouble : Trouble) : Option String :=
  trouble.failure?.bind Failure.help?

end Trouble

def attempt {α : Type} (context : String) : Except Failure α → Except Trouble α
  | .ok value => .ok value
  | .error failure => .error ((Trouble.ofFailure failure).within context)

def attemptDisk {α : Type} (context : String) : Except Files.DiskError α → Except Trouble α
  | .ok value => .ok value
  | .error error => .error { contexts := [context], complaint := .disk error }

end ThemeBlocks.Project
