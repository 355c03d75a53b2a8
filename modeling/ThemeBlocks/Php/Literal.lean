import ThemeBlocks.Text.Class

/-! Texts inside PHP and HTML: single-quoted literals, identifiers made from free keys, and escaped
markup. In a single-quoted literal only the backslash and the quote are escaped; every other character,
line feeds included, stands for itself. -/

namespace ThemeBlocks.Php

open Text

def escapeChar (c : Char) : List Char :=
  if c = '\\' ∨ c = '\'' then ['\\', c] else [c]

def escapeLiteral (text : List Char) : List Char :=
  text.flatMap escapeChar

def quote (text : String) : String :=
  .ofList ('\'' :: escapeLiteral text.toList ++ ['\''])

def identifierChar (c : Char) : Char :=
  if isAsciiAlphanumeric c then c else '_'

def startIdentifier : List Char → List Char
  | [] => ['_']
  | c :: rest => if isAsciiDigit c then '_' :: c :: rest else c :: rest

/-- The variable name of a key: every character that is not an ASCII letter or digit is an underscore,
and a name that would be empty or start with a digit gets one in front. -/
def identifier (key : String) : String :=
  .ofList (startIdentifier (key.toList.map identifierChar))

def markupChar (c : Char) : List Char :=
  match c with
  | '&' => "&amp;".toList
  | '<' => "&lt;".toList
  | '>' => "&gt;".toList
  | '"' => "&quot;".toList
  | '\'' => "&#039;".toList
  | c => [c]

def escapeMarkup (text : String) : String :=
  .ofList (text.toList.flatMap markupChar)

end ThemeBlocks.Php
