import ThemeBlocks.Json.Failure
import ThemeBlocks.Json.Value

/-! The words of JSON: blanks, literals, strings and numbers. Each reader takes what is left of the text
and gives a value with what is left after it. -/

namespace ThemeBlocks.Json

open Text

def fail {α : Type} (failure : Failure) : Except Failure α :=
  .error failure

def skipBlanks : Source → Source
  | .char ' ' :: rest | .char '\t' :: rest | .char '\n' :: rest | .char '\r' :: rest =>
    skipBlanks rest
  | source => source

def scanWord : List Char → Source → Except Failure Source
  | [], source => .ok source
  | _ :: _, [] => fail (.here .endInValue [])
  | letter :: letters, symbol :: rest =>
    if symbol = .char letter then scanWord letters rest
    else fail (.next .expectedWord (symbol :: rest))

def hexValue? (c : Char) : Option Nat :=
  if '0' ≤ c ∧ c ≤ '9' then some (c.toNat - 48)
  else if 'a' ≤ c ∧ c ≤ 'f' then some (c.toNat - 87)
  else if 'A' ≤ c ∧ c ≤ 'F' then some (c.toNat - 55)
  else none

def symbolHex? : Symbol → Option Nat
  | .char c => hexValue? c
  | .stray _ => none

/-- Four hexadecimal digits. A refusal stands behind the four bytes, whatever they are. -/
def scanHex (source : Source) : Except Failure (Nat × Source) :=
  match source with
  | a :: b :: c :: d :: rest =>
    match symbolHex? a, symbolHex? b, symbolHex? c, symbolHex? d with
    | some a, some b, some c, some d => .ok (((a * 16 + b) * 16 + c) * 16 + d, rest)
    | _, _, _, _ => fail ⟨.invalidEscape, .settled (source.size - 4)⟩
  | _ =>
    if source.size < 4 then fail ⟨.endInString, .settled 0⟩
    else fail ⟨.invalidEscape, .settled (source.size - 4)⟩

def isHighSurrogate (n : Nat) : Bool := 0xd800 ≤ n && n ≤ 0xdbff
def isLowSurrogate (n : Nat) : Bool := 0xdc00 ≤ n && n ≤ 0xdfff

def joinSurrogates (high low : Nat) : Char :=
  Char.ofNat ((high - 0xd800) * 0x400 + (low - 0xdc00) + 0x10000)

def scanLowSurrogate (high : Nat) : Source → Except Failure (Char × Source)
  | [] => fail (.here .endInString [])
  | .char '\\' :: [] => fail (.here .endInString [])
  | .char '\\' :: .char 'u' :: rest => do
    let (low, rest) ← scanHex rest
    if isLowSurrogate low then .ok (joinSurrogates high low, rest)
    else fail (.here .loneSurrogate rest)
  | .char '\\' :: rest => fail (.next .unfinishedSurrogate rest)
  | rest => fail (.next .unfinishedSurrogate rest)

def scanUnicode (source : Source) : Except Failure (Char × Source) := do
  let (n, rest) ← scanHex source
  if isLowSurrogate n then fail (.here .loneSurrogate rest)
  else if isHighSurrogate n then scanLowSurrogate n rest
  else .ok (Char.ofNat n, rest)

def simpleEscape? : Char → Option Char
  | '"' => some '"'
  | '\\' => some '\\'
  | '/' => some '/'
  | 'b' => some '\x08'
  | 'f' => some '\x0c'
  | 'n' => some '\n'
  | 'r' => some '\r'
  | 't' => some '\t'
  | _ => none

def scanEscape : Source → Except Failure (Char × Source)
  | [] => fail (.here .endInString [])
  | .char 'u' :: rest => scanUnicode rest
  | .char c :: rest =>
    match simpleEscape? c with
    | some c => .ok (c, rest)
    | none => fail (.next .invalidEscape (.char c :: rest))
  | source => fail (.next .invalidEscape source)

/-- The characters of a string up to its closing quote, which is read too. A byte that belongs to no
character is found out at the closing quote. -/
def scanChars : Nat → Bool → List Char → Source → Except Failure (String × Source)
  | 0, _, _, source => fail (.here .endInString source)
  | _ + 1, _, _, [] => fail (.here .endInString [])
  | fuel + 1, intact, acc, symbol :: rest =>
    match symbol with
    | .stray _ => scanChars fuel false acc rest
    | .char '"' =>
      if intact then .ok (.ofList acc.reverse, rest)
      else fail (.here .invalidCodePoint (symbol :: rest))
    | .char '\\' => do
      let (c, rest) ← scanEscape rest
      scanChars fuel intact (c :: acc) rest
    | .char c =>
      if c < ' ' then fail (.next .controlCharacter (symbol :: rest))
      else scanChars fuel intact (c :: acc) rest

def scanString (source : Source) : Except Failure (String × Source) :=
  scanChars (source.length + 1) true [] source

/-- A string that nobody looks at: escapes are only checked for their form. -/
def skipChars : Nat → Source → Except Failure Source
  | 0, source => fail (.here .endInString source)
  | _ + 1, [] => fail (.here .endInString [])
  | fuel + 1, symbol :: rest =>
    match symbol with
    | .char '"' => .ok rest
    | .char '\\' =>
      match rest with
      | [] => fail (.here .endInString [])
      | .char 'u' :: rest => do
        let (_, rest) ← scanHex rest
        skipChars fuel rest
      | .char c :: tail =>
        if (simpleEscape? c).isSome then skipChars fuel tail
        else fail (.next .invalidEscape rest)
      | _ => fail (.next .invalidEscape rest)
    | .char c => if c < ' ' then fail (.here .controlCharacter (symbol :: rest)) else skipChars fuel rest
    | .stray _ => skipChars fuel rest

def skipString (source : Source) : Except Failure Source :=
  skipChars (source.length + 1) source

def digitOf? : Symbol → Option Nat
  | .char c => if '0' ≤ c ∧ c ≤ '9' then some (c.toNat - 48) else none
  | .stray _ => none

def skipDigits : Source → Source
  | [] => []
  | symbol :: rest => if (digitOf? symbol).isSome then skipDigits rest else symbol :: rest

def maxSignificand : Nat := 0xffffffffffffffff
def maxExponent : Nat := 0x7fffffff

def powerOfTen (n : Nat) : Float :=
  Float.ofScientific 1 false n

/-- Scales a double by a power of ten, dividing by `10^308` as long as the exponent is below that;
`none` when the result is beyond the largest double. -/
def scaleFloat : Nat → Float → Int → Option Float
  | 0, f, _ => some f
  | fuel + 1, f, exponent =>
    if exponent.natAbs ≤ 308 then
      if 0 ≤ exponent then
        let scaled := f * powerOfTen exponent.natAbs
        if scaled.isInf then none else some scaled
      else some (f / powerOfTen exponent.natAbs)
    else if f == 0 then some f
    else if 0 ≤ exponent then none
    else scaleFloat fuel (f / powerOfTen 308) (exponent + 308)

/-- The bits of `± significand · 10^exponent`, in the steps that a reader of 64-bit words takes. -/
def floatOf (negative : Bool) (significand : Nat) (exponent : Int) (rest : Source) :
    Except Failure (Number × Source) :=
  match scaleFloat (exponent.natAbs + 2) (UInt64.ofNat significand).toFloat exponent with
  | none => fail (.here .numberOutOfRange rest)
  | some f => .ok (.float (if negative then -f else f).toBits, rest)

/-- An exponent too large for a word: the number is zero, or beyond all doubles. -/
def hugeExponent (negative : Bool) (significand : Nat) (up : Bool) (rest : Source) :
    Except Failure (Number × Source) :=
  if significand ≠ 0 ∧ up then fail (.here .numberOutOfRange rest)
  else .ok (.float (if negative then -(0 : Float) else 0).toBits, skipDigits rest)

def exponentDigits (negative : Bool) (significand : Nat) (start : Int) (up : Bool) (acc : Nat) :
    Source → Except Failure (Number × Source)
  | [] => floatOf negative significand (if up then start + acc else start - acc) []
  | symbol :: rest =>
    match digitOf? symbol with
    | none => floatOf negative significand (if up then start + acc else start - acc) (symbol :: rest)
    | some d =>
      if acc * 10 + d > maxExponent then hugeExponent negative significand up rest
      else exponentDigits negative significand start up (acc * 10 + d) rest

def exponentSign : Source → Bool × Source
  | .char '+' :: rest => (true, rest)
  | .char '-' :: rest => (false, rest)
  | rest => (true, rest)

def scanExponent (negative : Bool) (significand : Nat) (start : Int) (source : Source) :
    Except Failure (Number × Source) :=
  match exponentSign source with
  | (_, []) => fail (.here .endInValue [])
  | (up, symbol :: rest) =>
    match digitOf? symbol with
    | none => fail (.next .invalidNumber (symbol :: rest))
    | some d => exponentDigits negative significand start up d rest

def isExponentMark (symbol : Symbol) : Bool :=
  symbol = .char 'e' || symbol = .char 'E'

def afterFraction (negative : Bool) (significand : Nat) (exponent : Int) (source : Source) :
    Except Failure (Number × Source) :=
  match source with
  | symbol :: rest =>
    if isExponentMark symbol then scanExponent negative significand exponent rest
    else floatOf negative significand exponent source
  | [] => floatOf negative significand exponent []

/-- The digits behind the point; those that no longer fit are dropped. -/
def fractionDigits (negative : Bool) (significand : Nat) (before : Int) (taken : Nat) :
    Source → Except Failure (Number × Source)
  | [] =>
    if taken = 0 then fail (.here .endInValue [])
    else afterFraction negative significand (before - taken) []
  | symbol :: rest =>
    match digitOf? symbol with
    | some d =>
      if significand * 10 + d > maxSignificand then
        afterFraction negative significand (before - taken) (skipDigits rest)
      else fractionDigits negative (significand * 10 + d) before (taken + 1) rest
    | none =>
      if taken = 0 then fail (.next .invalidNumber (symbol :: rest))
      else afterFraction negative significand (before - taken) (symbol :: rest)

/-- The digits of an integer that no longer fit: each counts as one power of ten. -/
def longInteger (negative : Bool) (significand : Nat) (dropped : Nat) : Source → Except Failure (Number × Source)
  | [] => floatOf negative significand dropped []
  | symbol :: rest =>
    if (digitOf? symbol).isSome then longInteger negative significand (dropped + 1) rest
    else if symbol = .char '.' then fractionDigits negative significand dropped 0 rest
    else if isExponentMark symbol then scanExponent negative significand dropped rest
    else floatOf negative significand dropped (symbol :: rest)

/-- An integer without fraction or exponent: a word of 64 bits if it fits, else a double. -/
def integerOf (negative : Bool) (significand : Nat) : Number :=
  if negative then
    if significand = 0 ∨ significand > 0x8000000000000000 then
      .float (-(UInt64.ofNat significand).toFloat).toBits
    else .int (-(significand : Int))
  else .int significand

def afterInteger (negative : Bool) (significand : Nat) (source : Source) : Except Failure (Number × Source) :=
  match source with
  | .char '.' :: rest => fractionDigits negative significand 0 0 rest
  | symbol :: rest =>
    if isExponentMark symbol then scanExponent negative significand 0 rest
    else .ok (integerOf negative significand, source)
  | [] => .ok (integerOf negative significand, [])

def integerDigits (negative : Bool) (significand : Nat) : Source → Except Failure (Number × Source)
  | [] => afterInteger negative significand []
  | symbol :: rest =>
    match digitOf? symbol with
    | none => afterInteger negative significand (symbol :: rest)
    | some d =>
      if significand * 10 + d > maxSignificand then longInteger negative significand 0 (symbol :: rest)
      else integerDigits negative (significand * 10 + d) rest

def scanUnsigned (negative : Bool) : Source → Except Failure (Number × Source)
  | [] => fail (.here .endInValue [])
  | .char '0' :: rest =>
    match rest with
    | symbol :: _ =>
      if (digitOf? symbol).isSome then fail (.next .invalidNumber rest)
      else afterInteger negative 0 rest
    | [] => afterInteger negative 0 []
  | symbol :: rest =>
    match digitOf? symbol with
    | some d => integerDigits negative d rest
    | none => fail (.next .invalidNumber (symbol :: rest))

def scanNumber : Source → Except Failure (Number × Source)
  | .char '-' :: rest => scanUnsigned true rest
  | source => scanUnsigned false source

def skipExponent (source : Source) : Except Failure Source :=
  match (exponentSign source).2 with
  | [] => fail (.here .invalidNumber [])
  | symbol :: rest =>
    if (digitOf? symbol).isSome then .ok (skipDigits rest)
    else fail (.next .invalidNumber (symbol :: rest))

def skipAfterDigits (source : Source) : Except Failure Source :=
  match source with
  | symbol :: rest => if isExponentMark symbol then skipExponent rest else .ok source
  | [] => .ok []

def skipFraction (source : Source) : Except Failure Source :=
  match source with
  | .char '.' :: rest =>
    match rest with
    | symbol :: _ =>
      if (digitOf? symbol).isSome then skipAfterDigits (skipDigits rest)
      else fail (.next .invalidNumber rest)
    | [] => fail (.here .invalidNumber [])
  | source => skipAfterDigits source

def skipUnsigned : Source → Except Failure Source
  | [] => fail (.here .invalidNumber [])
  | .char '0' :: rest =>
    match rest with
    | symbol :: _ =>
      if (digitOf? symbol).isSome then fail (.next .invalidNumber rest) else skipFraction rest
    | [] => .ok []
  | symbol :: rest =>
    if (digitOf? symbol).isSome then skipFraction (skipDigits rest)
    else fail (.next .invalidNumber (symbol :: rest))

end ThemeBlocks.Json
