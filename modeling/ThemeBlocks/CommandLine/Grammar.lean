import ThemeBlocks.Text.Lines

/-! Reading the words of a command line. Options stand before or after each other in any order, a value
stands in the word of its option or in the next one, and after two dashes alone every word is a plain
one. A value is settled only when the next option comes or the words end, so an unknown word behind a
bad value is what is complained about. -/

namespace ThemeBlocks.CommandLine

inductive UsageError
  | help
  | version
  | helpOnMissing
  | missingCommand
  | unknownCommand
  | unknownArgument
  | badValue
  | superfluousValue
  | repeated
  | missingArgument
  deriving Repr, DecidableEq, Inhabited

structure OptionSpec where
  name : String
  letter : Option Char := none
  takesValue : Bool := false
  accepts : String → Bool := fun _ => true
  /-- Another option without which it makes no sense. -/
  needs : Option String := none

structure Command where
  name : String
  options : List OptionSpec := []
  /-- A plain word that the command cannot do without. -/
  operand : Option OptionSpec := none

structure Program where
  options : List OptionSpec := []
  commands : List Command
  hasVersion : Bool := false

/-- One level of words: those before a command's name, or those behind it. -/
structure Level where
  options : List OptionSpec
  operand : Option OptionSpec := none
  commands : List String := []
  hasVersion : Bool := false

structure Pending where
  spec : OptionSpec
  value : Option String

structure Progress where
  given : List (String × String) := []
  pending : Option Pending := none
  hasOperand : Bool := false

namespace Progress

def value? (progress : Progress) (name : String) : Option String :=
  (progress.given.find? (·.1 = name)).map (·.2)

def has (progress : Progress) (name : String) : Bool :=
  (progress.value? name).isSome

def add (progress : Progress) (spec : OptionSpec) (value : String) : Except UsageError Progress :=
  if progress.has spec.name then .error .repeated
  else if spec.accepts value then
    .ok { progress with given := progress.given ++ [(spec.name, value)] }
  else .error .badValue

def settle (progress : Progress) : Except UsageError Progress :=
  match progress.pending with
  | none => .ok progress
  | some ⟨_, none⟩ => .error .badValue
  | some ⟨spec, some value⟩ => { progress with pending := none }.add spec value

def isAwaiting (progress : Progress) : Bool :=
  match progress.pending with
  | some ⟨_, none⟩ => true
  | _ => false

end Progress

def switchValue : String := "true"

/-- An option that is given by name; `attached` is the value in its own word. -/
def giveOption (progress : Progress) (spec : OptionSpec) (attached : Option String) :
    Except UsageError Progress := do
  let progress ← progress.settle
  match attached with
  | some value => progress.add spec value
  | none =>
    if spec.takesValue then .ok { progress with pending := some ⟨spec, none⟩ }
    else progress.add spec switchValue

def ask (progress : Progress) (wanted : UsageError) : Except UsageError Progress := do
  let _ ← progress.settle
  .error wanted

def splitAtEquals (word : List Char) : List Char × Option (List Char) :=
  match word.dropWhile (· ≠ '=') with
  | [] => (word, none)
  | _ :: value => (word.takeWhile (· ≠ '='), some value)

def readLong (level : Level) (progress : Progress) (word : List Char) :
    Except UsageError Progress :=
  let (name, attached) := splitAtEquals word
  let name := String.ofList name
  match level.options.find? (·.name = name) with
  | some spec =>
    if !spec.takesValue ∧ attached.isSome then .error .superfluousValue
    else giveOption progress spec (attached.map .ofList)
  | none =>
    if name = "help" then if attached.isSome then .error .superfluousValue else ask progress .help
    else if name = "version" ∧ level.hasVersion then
      if attached.isSome then .error .superfluousValue else ask progress .version
    else .error .unknownArgument

/-- The letters of a word that starts with one dash. What follows the letter of an option with a value is
the value. -/
def readLetters (level : Level) (progress : Progress) : List Char → Except UsageError Progress
  | [] => .ok progress
  | c :: rest =>
    match level.options.find? (·.letter = some c) with
    | some spec =>
      if spec.takesValue then
        giveOption progress spec <|
          match rest with
          | [] => none
          | '=' :: value => some (.ofList value)
          | value => some (.ofList value)
      else do
        let progress ← giveOption progress spec none
        readLetters level progress rest
    | none =>
      if c = 'h' then ask progress .help
      else if c = 'V' ∧ level.hasVersion then ask progress .version
      else .error .unknownArgument

def readPlain (level : Level) (progress : Progress) (isTrailing : Bool) (word : String) :
    Except UsageError Progress :=
  match level.operand, progress.hasOperand with
  | some spec, false => do
    let progress ← progress.settle
    .ok { progress with pending := some ⟨spec, some word⟩, hasOperand := true }
  | _, _ =>
    if level.commands.isEmpty ∨ (isTrailing ∧ level.commands.contains word) then
      .error .unknownArgument
    else .error .unknownCommand

/-- Reads the words of a level up to a command's name; gives that name and the words behind it. -/
def readLevel (level : Level) : Bool → Progress → List String →
    Except UsageError (Progress × Option (String × List String))
  | _, progress, [] => .ok (progress, none)
  | true, progress, word :: words => do
    let progress ← readPlain level progress true word
    readLevel level true progress words
  | false, progress, word :: words =>
    if !progress.isAwaiting ∧ level.commands.contains word then .ok (progress, some (word, words))
    else if word = "--" then readLevel level true progress words
    else do
      let next ←
        match word.toList with
        | '-' :: '-' :: rest => readLong level progress rest
        | '-' :: c :: rest => readLetters level progress (c :: rest)
        | _ =>
          match progress.pending with
          | some ⟨spec, none⟩ => .ok { progress with pending := some ⟨spec, some word⟩ }
          | _ => readPlain level progress false word
      readLevel level false next words

def checkNeeds (level : Level) (progress : Progress) : Except UsageError Unit :=
  let isUnmet (spec : OptionSpec) : Bool :=
    progress.has spec.name && spec.needs.any (!progress.has ·)
  if level.options.any isUnmet ∨ (level.operand.isSome ∧ !progress.hasOperand) then
    .error .missingArgument
  else .ok ()

structure Reading where
  command : String
  given : List (String × String)

def Reading.value? (reading : Reading) (name : String) : Option String :=
  (reading.given.find? (·.1 = name)).map (·.2)

def Reading.has (reading : Reading) (name : String) : Bool :=
  (reading.value? name).isSome

namespace Program

def helpName : String := "help"

def top (program : Program) : Level where
  options := program.options
  commands := program.commands.map (·.name) ++ [helpName]
  hasVersion := program.hasVersion

def levelOf (program : Program) (command : Command) : Level where
  options := program.options ++ command.options
  operand := command.operand

def readHelp (program : Program) : List String → UsageError
  | [] => .help
  | [word] => if program.top.commands.contains word then .help else .unknownCommand
  | _ => .unknownCommand

def readCommand (program : Program) (name : String) (words : List String) :
    Except UsageError Progress :=
  match program.commands.find? (·.name = name) with
  | none => .error (program.readHelp words)
  | some command => do
    let level := program.levelOf command
    let (progress, _) ← readLevel level false {} words
    let progress ← progress.settle
    checkNeeds level progress
    .ok progress

/-- Reads a command line. An option that is given before and behind the command's name has the value that
stands behind it. -/
def read (program : Program) (words : List String) : Except UsageError Reading := do
  let (outer, found) ← readLevel program.top false {} words
  match found with
  | none =>
    let outer ← outer.settle
    .error (if outer.given.isEmpty then .helpOnMissing else .missingCommand)
  | some (name, rest) =>
    let inner ← program.readCommand name rest
    let outer ← outer.settle
    .ok ⟨name, inner.given ++ outer.given⟩

end Program

end ThemeBlocks.CommandLine
