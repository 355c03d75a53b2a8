import ThemeBlocks.Web.Percent

/-! Strings of TOML: on one line or on several, with escapes or without. Every reader starts behind the
opening quotes and gives the characters and what follows the closing quotes. -/

namespace ThemeBlocks.Toml

def isPlainChar (c : Char) : Bool :=
  c = '\t' || (' ' ≤ c && c ≠ '\x7f')

def isInlineBlank (c : Char) : Bool := c = ' ' || c = '\t'

def simpleEscape? : Char → Option Char
  | 'b' => some '\x08'
  | 't' => some '\t'
  | 'n' => some '\n'
  | 'f' => some '\x0c'
  | 'r' => some '\r'
  | 'e' => some '\x1b'
  | '"' => some '"'
  | '\\' => some '\\'
  | _ => none

def hexCount? : Char → Option Nat
  | 'x' => some 2
  | 'u' => some 4
  | 'U' => some 8
  | _ => none

def charOfHex? (digits : List Char) : Option Char := do
  let n ← digits.foldlM (fun n c => (Web.Percent.hexValue? c).map (16 * n + ·)) 0
  if n.isValidChar then some (Char.ofNat n) else none

/-- The character of an escape, and how many characters the escape has after the backslash. -/
def escape? : List Char → Option (Char × Nat)
  | [] => none
  | c :: rest =>
    match simpleEscape? c with
    | some value => some (value, 1)
    | none => do
      let count ← hexCount? c
      if rest.length < count then none
      else
        let value ← charOfHex? (rest.take count)
        some (value, count + 1)

abbrev Chars := List Char

def prepend (c : Char) (result : Option (Chars × Chars)) : Option (Chars × Chars) :=
  result.map fun (text, rest) => (c :: text, rest)

/-- A string with escapes on one line. The first `skipped` characters belong to an escape. -/
def basic (skipped : Nat) : Chars → Option (Chars × Chars)
  | [] => none
  | c :: rest =>
    match skipped with
    | more + 1 => basic more rest
    | 0 =>
      if c = '"' then some ([], rest)
      else if c = '\\' then do
        let (value, length) ← escape? rest
        prepend value (basic length rest)
      else if isPlainChar c then prepend c (basic 0 rest)
      else none

def literal : Chars → Option (Chars × Chars)
  | [] => none
  | c :: rest =>
    if c = '\'' then some ([], rest)
    else if isPlainChar c then prepend c (literal rest)
    else none

/-- A line end at the very start of a string on several lines does not count. -/
def dropLineEnd : Chars → Chars
  | '\n' :: rest => rest
  | '\r' :: '\n' :: rest => rest
  | text => text

/-- Up to two quotes right before the three closing ones belong to the string. -/
def closing? (quote : Char) (text : Chars) : Option (Chars × Chars) :=
  let count := (text.takeWhile (· = quote)).length
  if count < 3 then none
  else
    let inside := min (count - 3) 2
    some (List.replicate inside quote, text.drop (inside + 3))

def endsLine (text : Chars) : Bool :=
  match text.dropWhile isInlineBlank with
  | '\n' :: _ | '\r' :: '\n' :: _ => true
  | _ => false

def isOpenChar (c : Char) (rest : Chars) : Bool :=
  isPlainChar c || c = '\n' || (c = '\r' && rest.head? = some '\n')

inductive Reading
  | plain
  /-- Inside an escape, so many characters before its end. -/
  | escape (left : Nat)
  /-- Behind a backslash that ended its line: blanks and line ends are dropped. -/
  | dropping

def openBasic (reading : Reading) : Chars → Option (Chars × Chars)
  | [] => none
  | c :: rest =>
    match reading with
    | .escape (left + 1) => openBasic (if left = 0 then .plain else .escape left) rest
    | _ =>
      let isDropped :=
        match reading with
        | .dropping => isInlineBlank c || c = '\n' || (c = '\r' && rest.head? = some '\n')
        | _ => false
      if isDropped then openBasic .dropping rest
      else if c = '"' then
        match closing? '"' (c :: rest) with
        | some closed => some closed
        | none => prepend c (openBasic .plain rest)
      else if c = '\\' then
        if endsLine rest then openBasic .dropping rest
        else do
          let (value, length) ← escape? rest
          prepend value (openBasic (.escape length) rest)
      else if isOpenChar c rest then prepend c (openBasic .plain rest)
      else none

def openLiteral : Chars → Option (Chars × Chars)
  | [] => none
  | c :: rest =>
    if c = '\'' then
      match closing? '\'' (c :: rest) with
      | some closed => some closed
      | none => prepend c (openLiteral rest)
    else if isOpenChar c rest then prepend c (openLiteral rest)
    else none

end ThemeBlocks.Toml
