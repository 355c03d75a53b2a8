import ThemeBlocks.Decimal.Layout
import ThemeBlocks.Json.Value

/-! JSON values as text, without blanks or with one member or item a line. In a string only the quote,
the backslash and the characters below the blank are escaped. -/

namespace ThemeBlocks.Json

def lowerHex : Nat → Char
  | n => if n < 10 then Char.ofNat (48 + n) else Char.ofNat (87 + n)

def escapeChar (c : Char) : List Char :=
  match c with
  | '"' => ['\\', '"']
  | '\\' => ['\\', '\\']
  | '\n' => ['\\', 'n']
  | '\r' => ['\\', 'r']
  | '\t' => ['\\', 't']
  | '\x08' => ['\\', 'b']
  | '\x0c' => ['\\', 'f']
  | c =>
    if c < ' ' then ['\\', 'u', '0', '0', lowerHex (c.toNat / 16), lowerHex (c.toNat % 16)]
    else [c]

def escape (text : List Char) : List Char :=
  text.flatMap escapeChar

def quote (text : String) : String :=
  .ofList ('"' :: escape text.toList ++ ['"'])

def Number.text : Number → String
  | .int value => toString value
  | .float bits => Decimal.jsonText bits

namespace Value

mutual

def compact : Value → String
  | .null => "null"
  | .bool true => "true"
  | .bool false => "false"
  | .number n => n.text
  | .string s => quote s
  | .array items => "[" ++ compactItems items ++ "]"
  | .object members => "\x7b" ++ compactMembers members ++ "\x7d"
termination_by structural value => value

def compactItems : List Value → String
  | [] => ""
  | [item] => item.compact
  | item :: items => item.compact ++ "," ++ compactItems items
termination_by structural items => items

def compactMembers : List (String × Value) → String
  | [] => ""
  | [(key, value)] => quote key ++ ":" ++ value.compact
  | (key, value) :: members => quote key ++ ":" ++ value.compact ++ "," ++ compactMembers members
termination_by structural members => members

end

def newLine (depth : Nat) : String :=
  .ofList ('\n' :: List.replicate (2 * depth) ' ')

mutual

/-- The value with two blanks a level; empty arrays and objects stay on one line. -/
def pretty : Value → Nat → String
  | .null, _ => "null"
  | .bool true, _ => "true"
  | .bool false, _ => "false"
  | .number n, _ => n.text
  | .string s, _ => quote s
  | .array items, depth =>
    if items.isEmpty then "[]"
    else "[" ++ newLine (depth + 1) ++ prettyItems items (depth + 1) ++ newLine depth ++ "]"
  | .object members, depth =>
    if members.isEmpty then "\x7b\x7d"
    else
      "\x7b" ++ newLine (depth + 1) ++ prettyMembers members (depth + 1) ++ newLine depth ++ "\x7d"
termination_by structural value => value

def prettyItems : List Value → Nat → String
  | [], _ => ""
  | [item], depth => item.pretty depth
  | item :: items, depth => item.pretty depth ++ "," ++ newLine depth ++ prettyItems items depth
termination_by structural items => items

def prettyMembers : List (String × Value) → Nat → String
  | [], _ => ""
  | [(key, value)], depth => quote key ++ ": " ++ value.pretty depth
  | (key, value) :: members, depth =>
    quote key ++ ": " ++ value.pretty depth ++ "," ++ newLine depth ++ prettyMembers members depth
termination_by structural members => members

end

def render (value : Value) (isPretty : Bool) : String :=
  if isPretty then value.pretty 0 else value.compact

end Value

end ThemeBlocks.Json
