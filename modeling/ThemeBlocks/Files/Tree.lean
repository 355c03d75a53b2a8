import ThemeBlocks.Files.Path

/-! A tree of plain files and directories. Entries are kept by the names that lead to them from the
root, which is always a directory. A path is walked step by step from a directory; every place that is
left behind has to be a directory. -/

namespace ThemeBlocks.Files

inductive DiskError
  | missing
  | present
  | notDirectory
  | isDirectory
  | nameTooLong
  | zeroByte
  | notText
  | other (text : String)
  deriving Repr, DecidableEq, Inhabited

def DiskError.text : DiskError → String
  | .missing => "No such file or directory (os error 2)"
  | .present => "File exists (os error 17)"
  | .notDirectory => "Not a directory (os error 20)"
  | .isDirectory => "Is a directory (os error 21)"
  | .nameTooLong => "File name too long (os error 36)"
  | .zeroByte => "file name contained an unexpected NUL byte"
  | .notText => "stream did not contain valid UTF-8"
  | .other text => text

abbrev Location := List String

inductive Node
  | file (text : String)
  | directory
  deriving Repr, DecidableEq, Inhabited

structure Tree where
  entries : List (Location × Node) := []
  deriving Repr, DecidableEq, Inhabited

namespace Tree

def node? (tree : Tree) (location : Location) : Option Node :=
  if location.isEmpty then some .directory
  else (tree.entries.find? (·.1 = location)).map (·.2)

def put (location : Location) (node : Node) : List (Location × Node) → List (Location × Node)
  | [] => [(location, node)]
  | entry :: entries =>
    if entry.1 = location then (location, node) :: entries else entry :: put location node entries

def insert (tree : Tree) (location : Location) (node : Node) : Tree :=
  ⟨put location node tree.entries⟩

theorem find?_put_self (location : Location) (node : Node) (entries : List (Location × Node)) :
    (put location node entries).find? (·.1 = location) = some (location, node) := by
  induction entries with
  | nil => simp [put]
  | cons entry entries ih =>
    by_cases h : entry.1 = location <;> simp [put, h, ih]

theorem find?_put_of_ne {location other : Location} (h : other ≠ location) (node : Node)
    (entries : List (Location × Node)) :
    (put location node entries).find? (·.1 = other) = entries.find? (·.1 = other) := by
  induction entries with
  | nil => simp [put, h.symm]
  | cons entry entries ih =>
    by_cases hl : entry.1 = location
    · simp [put, hl, h.symm]
    · by_cases ho : entry.1 = other <;> simp [put, hl, ho, h, ih]

theorem node?_insert_self {location : Location} (h : location ≠ []) (tree : Tree) (node : Node) :
    (tree.insert location node).node? location = some node := by
  simp [node?, insert, h, find?_put_self]

theorem node?_insert_of_ne {location other : Location} (h : other ≠ location) (tree : Tree)
    (node : Node) : (tree.insert location node).node? other = tree.node? other := by
  simp [node?, insert, find?_put_of_ne h]

inductive Step
  | stay
  | up
  | down (name : String)
  deriving Repr, DecidableEq

def stepOf : String → Step
  | "." => .stay
  | ".." => .up
  | name => .down name

def nameSteps (path : Path) : List Step :=
  (path.segments.filter (!·.isEmpty)).map stepOf

def endsInSlash (path : Path) : Bool :=
  path.text.toList.getLast? = some '/'

/-- The steps of a path. A slash at the end asks for a directory, as a dot does. -/
def stepsOf (path : Path) : List Step :=
  let steps := nameSteps path
  steps ++ if !steps.isEmpty && endsInSlash path then [.stay] else []

def nameLimit : Nat := 255

def startOf (current : Location) (path : Path) : Location :=
  if path.isAbsolute then [] else current

/-- Takes one step out of a place that has to be a directory. -/
def advance (tree : Tree) (place : Location) (step : Step) : Except DiskError Location :=
  match tree.node? place with
  | none => .error .missing
  | some (.file _) => .error .notDirectory
  | some .directory =>
    match step with
    | .stay => .ok place
    | .up => .ok place.dropLast
    | .down name =>
      if nameLimit < name.utf8ByteSize then .error .nameTooLong else .ok (place ++ [name])

def walk (tree : Tree) (place : Location) (steps : List Step) : Except DiskError Location :=
  steps.foldlM tree.advance place

def pathProblem? (path : Path) : Option DiskError :=
  if path.text.toList.contains '\x00' then some .zeroByte
  else if path.text.isEmpty then some .missing
  else none

def locate (tree : Tree) (current : Location) (path : Path) : Except DiskError Location :=
  match pathProblem? path with
  | some problem => .error problem
  | none => tree.walk (startOf current path) (stepsOf path)

def lookup (tree : Tree) (current : Location) (path : Path) : Except DiskError Node := do
  match tree.node? (← tree.locate current path) with
  | none => .error .missing
  | some node => .ok node

def isPresent (tree : Tree) (current : Location) (path : Path) : Bool :=
  (tree.lookup current path).isOk

def isDirectory (tree : Tree) (current : Location) (path : Path) : Bool :=
  match tree.lookup current path with
  | .ok .directory => true
  | _ => false

def readText (tree : Tree) (current : Location) (path : Path) : Except DiskError String := do
  match ← tree.lookup current path with
  | .file text => .ok text
  | .directory => .error .isDirectory

/-- The place of the entry that a path names; the place before the last step has to be a directory. A
last step that names nothing, or a slash behind it, is an error of its own. -/
def targetOf (tree : Tree) (current : Location) (path : Path) (nameless : DiskError) :
    Except DiskError Location :=
  match pathProblem? path with
  | some problem => .error problem
  | none => do
    let steps := nameSteps path
    let place ← tree.walk (startOf current path) steps.dropLast
    match steps.getLast? with
    | none => .error nameless
    | some step =>
      let target ← tree.advance place step
      match step with
      | .down _ => if endsInSlash path then .error nameless else .ok target
      | _ => .error nameless

def writeText (tree : Tree) (current : Location) (path : Path) (text : String) :
    Except DiskError Tree := do
  let target ← tree.targetOf current path .isDirectory
  match tree.node? target with
  | some .directory => .error .isDirectory
  | _ => .ok (tree.insert target (.file text))

def bare (path : Path) : Path :=
  let kept := (path.text.toList.reverse.dropWhile (· = '/')).reverse
  if kept.isEmpty then path else ⟨.ofList kept⟩

def makeDirectory (tree : Tree) (current : Location) (path : Path) : Except DiskError Tree := do
  let target ← tree.targetOf current (bare path) .present
  match tree.node? target with
  | some _ => .error .present
  | none => .ok (tree.insert target .directory)

def ensureDirectory (tree : Tree) (current : Location) (path : Path) : Except DiskError Tree :=
  match tree.makeDirectory current path with
  | .ok tree => .ok tree
  | .error error => if tree.isDirectory current path then .ok tree else .error error

def ensureChain (tree : Tree) (current : Location) : List Path → Except DiskError Unit × Tree
  | [] => (.ok (), tree)
  | path :: parents =>
    match tree.ensureDirectory current path with
    | .ok tree => (.ok (), tree)
    | .error .missing =>
      match ensureChain tree current parents with
      | (.ok (), tree) =>
        match tree.ensureDirectory current path with
        | .ok tree => (.ok (), tree)
        | .error error => (.error error, tree)
      | failed => failed
    | .error error => (.error error, tree)

/-- A path and the paths of the directories around it; the search ends with the path's length. -/
def chainOf : Nat → Path → List Path
  | 0, _ => []
  | bound + 1, path =>
    if path.text.isEmpty then []
    else path :: ((path.parent?.map (chainOf bound)).getD [])

/-- Makes a directory and those around it. What was made before an error stays. -/
def makeDirectories (tree : Tree) (current : Location) (path : Path) :
    Except DiskError Unit × Tree :=
  ensureChain tree current (chainOf (path.text.length + 1) path)

end Tree

end ThemeBlocks.Files
