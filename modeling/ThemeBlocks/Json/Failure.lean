import ThemeBlocks.Misfit
import ThemeBlocks.Text.Encoding

/-! Why a JSON text, or a value inside it, is refused, and where. A failure remembers how many bytes of
the text were left; `positionOf` turns that into a line and a column. A failure of the value's shape may
have no place of its own, then it takes the place where its container was left. -/

namespace ThemeBlocks.Json

open Text

inductive Cause
  | endInValue
  | endInList
  | endInObject
  | endInString
  | expectedValue
  | expectedWord
  | expectedColon
  | expectedListEnd
  | expectedObjectEnd
  | keyNotString
  | trailingComma
  | trailingCharacters
  | invalidNumber
  | numberOutOfRange
  | controlCharacter
  | invalidEscape
  | loneSurrogate
  | unfinishedSurrogate
  | invalidCodePoint
  | tooDeep
  /-- The text is JSON, but not of the wanted shape. -/
  | misfit (value : Misfit)
  deriving Repr, DecidableEq, Inhabited

namespace Cause

def text : Cause → String
  | .endInValue => "EOF while parsing a value"
  | .endInList => "EOF while parsing a list"
  | .endInObject => "EOF while parsing an object"
  | .endInString => "EOF while parsing a string"
  | .expectedValue => "expected value"
  | .expectedWord => "expected ident"
  | .expectedColon => "expected `:`"
  | .expectedListEnd => "expected `,` or `]`"
  | .expectedObjectEnd => "expected `,` or `\x7d`"
  | .keyNotString => "key must be a string"
  | .trailingComma => "trailing comma"
  | .trailingCharacters => "trailing characters"
  | .invalidNumber => "invalid number"
  | .numberOutOfRange => "number out of range"
  | .controlCharacter => "control character (\\u0000-\\u001F) found while parsing a string"
  | .invalidEscape => "invalid escape"
  | .loneSurrogate => "lone leading surrogate in hex escape"
  | .unfinishedSurrogate => "unexpected end of hex escape"
  | .invalidCodePoint => "invalid unicode code point"
  | .tooDeep => "recursion limit exceeded"
  | .misfit value => value.text

def isEnd : Cause → Bool
  | .endInValue | .endInList | .endInObject | .endInString => true
  | _ => false

def isShape : Cause → Bool
  | .misfit _ => true
  | _ => false

end Cause

/-- Where a failure belongs: in front of the last `left` bytes, or still to be settled by the container
in which reading stopped. -/
inductive Place
  | settled (left : Nat)
  | stopped (rest : Source)
  deriving Repr, DecidableEq, Inhabited

def Place.left : Place → Nat
  | .settled left => left
  | .stopped rest => rest.size

structure Failure where
  cause : Cause
  place : Place
  deriving Repr, DecidableEq, Inhabited

def Failure.here (cause : Cause) (rest : Source) : Failure :=
  ⟨cause, .settled rest.size⟩

def Failure.next (cause : Cause) (rest : Source) : Failure :=
  ⟨cause, .settled (rest.size - 1)⟩

/-- Lets the container of a failure without a place say where it is. -/
def Failure.settle (failure : Failure) (leave : Source → Source) : Failure :=
  match failure.place with
  | .settled _ => failure
  | .stopped rest => .here failure.cause (leave rest)

structure Position where
  line : Nat
  column : Nat
  deriving Repr, DecidableEq

/-- The position after so many bytes; columns count the bytes since the last line feed. -/
def Position.advance (p : Position) : Nat → Source → Position
  | _, [] => p
  | bytes, symbol :: rest =>
    if bytes < symbol.size then ⟨p.line, p.column + bytes⟩
    else
      let next : Position :=
        if symbol = .char '\n' then ⟨p.line + 1, 0⟩ else ⟨p.line, p.column + symbol.size⟩
      next.advance (bytes - symbol.size) rest

def positionOf (source : Source) (left : Nat) : Position :=
  Position.advance ⟨1, 0⟩ (source.size - left) source

def Failure.message (failure : Failure) (source : Source) : String :=
  let p := positionOf source failure.place.left
  failure.cause.text ++ " at line " ++ toString p.line ++ " column " ++ toString p.column

end ThemeBlocks.Json
