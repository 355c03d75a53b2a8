import ThemeBlocks.Toml.Quoted
import ThemeBlocks.Toml.Scalar
import ThemeBlocks.Toml.Value

/-! Reading a TOML document. A document is a row of lines: an assignment, the header of a table, or
nothing, each with a comment or without. A document with an error is refused as a whole. -/

namespace ThemeBlocks.Toml

def skipBlanks (text : Chars) : Chars :=
  text.dropWhile isInlineBlank

def endLine (inComment : Bool) : Chars → Option Chars
  | [] => some []
  | '\n' :: rest => some rest
  | '\r' :: '\n' :: rest => some rest
  | c :: rest =>
    if inComment then (if isPlainChar c then endLine true rest else none)
    else if isInlineBlank c then endLine false rest
    else if c = '#' then endLine true rest
    else none

def skipVoid (inComment : Bool) : Chars → Option Chars
  | [] => some []
  | '\n' :: rest => skipVoid false rest
  | '\r' :: '\n' :: rest => skipVoid false rest
  | c :: rest =>
    if inComment then (if isPlainChar c then skipVoid true rest else none)
    else if isInlineBlank c then skipVoid false rest
    else if c = '#' then skipVoid true rest
    else some (c :: rest)

def isBareChar (c : Char) : Bool :=
  Text.isAsciiAlphanumeric c || c = '_' || c = '-'

def simpleKey : Chars → Option (String × Chars)
  | '"' :: rest => (basic 0 rest).map fun (key, rest) => (.ofList key, rest)
  | '\'' :: rest => (literal rest).map fun (key, rest) => (.ofList key, rest)
  | text =>
    match text.takeWhile isBareChar with
    | [] => none
    | key => some (.ofList key, text.dropWhile isBareChar)

/-- Keys with dots between them, and blanks around these; at most `bound` keys. -/
def dottedKey : Nat → Chars → Option (List String × Chars)
  | 0, _ => none
  | bound + 1, text => do
    let (key, rest) ← simpleKey (skipBlanks text)
    match skipBlanks rest with
    | '.' :: rest => do
      let (keys, rest) ← dottedKey bound rest
      some (key :: keys, rest)
    | rest => some ([key], rest)

def endsWord (c : Char) : Bool :=
  [' ', '\t', '\n', '\r', '#', ',', '[', ']', '\x7b', '\x7d', '=', '"', '\''].contains c

def splitWord (text : Chars) : Chars × Chars :=
  (text.takeWhile (!endsWord ·), text.dropWhile (!endsWord ·))

/-- A word, to which a time belongs that stands behind a date and one space. -/
def wordOf (text : Chars) : Chars × Chars :=
  let (word, rest) := splitWord text
  match rest with
  | ' ' :: c :: more =>
    if isDate word ∧ Text.isAsciiDigit c then
      let (time, rest) := splitWord (c :: more)
      (word ++ ' ' :: time, rest)
    else (word, rest)
  | _ => (word, rest)

def nestingLimit : Nat := 80

mutual

def readValue : Nat → Nat → Chars → Option (Value × Chars)
  | 0, _, _ => none
  | bound + 1, room, text =>
    let quoted (result : Option (Chars × Chars)) : Option (Value × Chars) :=
      result.map fun (value, rest) => (.text (.ofList value), rest)
    match text with
    | '"' :: '"' :: '"' :: rest => quoted (openBasic .plain (dropLineEnd rest))
    | '"' :: rest => quoted (basic 0 rest)
    | '\'' :: '\'' :: '\'' :: rest => quoted (openLiteral (dropLineEnd rest))
    | '\'' :: rest => quoted (literal rest)
    | '[' :: rest =>
      match room with
      | 0 => none
      | room + 1 => do
        let (items, rest) ← readItems bound room rest
        some (.array items, rest)
    | '{' :: rest =>
      match room with
      | 0 => none
      | room + 1 => do
        let (entries, rest) ← readMembers bound room [] rest
        some (.table (Draft.valuesOf entries), rest)
    | text =>
      let (word, rest) := wordOf text
      (scalar? word).map fun value => (value, rest)

def readItems : Nat → Nat → Chars → Option (List Value × Chars)
  | 0, _, _ => none
  | bound + 1, room, text => do
    match ← skipVoid false text with
    | ']' :: rest => some ([], rest)
    | text =>
      let (item, rest) ← readValue bound room text
      match ← skipVoid false rest with
      | ',' :: rest =>
        let (items, rest) ← readItems bound room rest
        some (item :: items, rest)
      | ']' :: rest => some ([item], rest)
      | _ => none

def readMembers : Nat → Nat → Draft.Entries → Chars → Option (Draft.Entries × Chars)
  | 0, _, _, _ => none
  | bound + 1, room, entries, text => do
    match ← skipVoid false text with
    | '}' :: rest => some (entries, rest)
    | text =>
      let (keys, rest) ← dottedKey (text.length + 1) text
      match rest with
      | '=' :: rest =>
        let (value, rest) ← readValue bound room (skipBlanks rest)
        let entries ← Draft.assign value keys entries
        match ← skipVoid false rest with
        | ',' :: rest => readMembers bound room entries rest
        | '}' :: rest => some (entries, rest)
        | _ => none
      | _ => none

end

structure Progress where
  entries : Draft.Entries := []
  header : List String := []

def openAt (openEntry : String → Draft.Entries → Option Draft.Entries) (path : List String)
    (entries : Draft.Entries) : Option Draft.Entries :=
  match path.getLast? with
  | none => none
  | some key => Draft.alongHeader (openEntry key) path.dropLast entries

def readHeader (progress : Progress) (text : Chars) : Option (Progress × Chars) :=
  match text with
  | '[' :: '[' :: rest => do
    let (path, rest) ← dottedKey (rest.length + 1) rest
    match rest with
    | ']' :: ']' :: rest =>
      some (⟨← openAt Draft.openItem path progress.entries, path⟩, ← endLine false rest)
    | _ => none
  | '[' :: rest => do
    let (path, rest) ← dottedKey (rest.length + 1) rest
    match rest with
    | ']' :: rest =>
      some (⟨← openAt Draft.openTable path progress.entries, path⟩, ← endLine false rest)
    | _ => none
  | _ => none

def readAssignment (progress : Progress) (text : Chars) : Option (Progress × Chars) := do
  let (keys, rest) ← dottedKey (text.length + 1) text
  match rest with
  | '=' :: rest =>
    let (value, rest) ← readValue (rest.length + 1) nestingLimit (skipBlanks rest)
    let entries ← Draft.alongHeader (Draft.assign value keys) progress.header progress.entries
    some ({ progress with entries }, ← endLine false rest)
  | _ => none

/-- Reads lines; every line but an empty one takes a character at least. -/
def readLines : Nat → Progress → Chars → Option Draft.Entries
  | 0, _, _ => none
  | bound + 1, progress, text => do
    match ← skipVoid false text with
    | [] => some progress.entries
    | '[' :: rest =>
      let (progress, rest) ← readHeader progress ('[' :: rest)
      readLines bound progress rest
    | text =>
      let (progress, rest) ← readAssignment progress text
      readLines bound progress rest

def withoutMark : Chars → Chars
  | '\ufeff' :: rest => rest
  | text => text

def parse? (text : String) : Option (List (String × Value)) :=
  (readLines (text.length + 1) {} (withoutMark text.toList)).map Draft.valuesOf

end ThemeBlocks.Toml
