import ThemeBlocks.Text.Lines
import ThemeBlocks.Web.DomainName
import ThemeBlocks.Web.Percent

/-! Hosts of a URL: names, and addresses of version 4 and version 6. A name whose last label is a number
is an address of version 4, and has to be a good one. -/

namespace ThemeBlocks.Web

inductive UrlError
  | emptyHost
  | badDomainName
  | badPort
  | badAddress4
  | badAddress6
  | badDomainCharacter
  | noBase
  deriving Repr, DecidableEq, Inhabited

def UrlError.message : UrlError → String
  | .emptyHost => "empty host"
  | .badDomainName => "invalid international domain name"
  | .badPort => "invalid port number"
  | .badAddress4 => "invalid IPv4 address"
  | .badAddress6 => "invalid IPv6 address"
  | .badDomainCharacter => "invalid domain character"
  | .noBase => "relative URL without a base"

inductive Host
  | name (text : String)
  | address4 (value : Nat)
  | address6 (pieces : List Nat)
  deriving Repr, DecidableEq, Inhabited

def numberIn (base : Nat) (digits : List Char) : Option Nat :=
  digits.foldl
    (fun acc c => do
      let n ← acc
      let d ← Percent.hexValue? c
      if d < base then some (base * n + d) else none)
    (some 0)

/-- A part of an address: hexadecimal after `0x`, octal after `0`, else decimal. -/
def partOf4? : List Char → Option Nat
  | [] => none
  | '0' :: c :: rest =>
    if c = 'x' ∨ c = 'X' then numberIn 16 rest else numberIn 8 (c :: rest)
  | digits => numberIn 10 digits

/-- The labels of a name; a dot at the end starts no further label. -/
def labelsOf (name : List Char) : List (List Char) :=
  let labels := Text.splitAtChar '.' name
  if 1 < labels.length ∧ labels.getLast? = some [] then labels.dropLast else labels

def endsInNumber (name : List Char) : Bool :=
  match (labelsOf name).getLast? with
  | none | some [] => false
  | some label => (numberIn 10 label).isSome || (partOf4? label).isSome

def bytesWeight (count : Nat) : Nat :=
  Nat.pow 256 count

/-- The last part fills all the bytes that the parts before it leave. -/
def joinParts4 (parts : List Nat) : Option Nat :=
  match parts.reverse with
  | [] => none
  | last :: before =>
    if 3 < before.length ∨ before.any (255 < ·) ∨ bytesWeight (4 - before.length) ≤ last then none
    else
      some (before.reverse.foldl (fun acc part => 256 * acc + part) 0 *
        bytesWeight (4 - before.length) + last)

def address4? (name : List Char) : Option Nat := do
  joinParts4 (← (labelsOf name).mapM partOf4?)

def renderAddress4 (value : Nat) : String :=
  ".".intercalate ([3, 2, 1, 0].map fun place => toString (value / bytesWeight place % 256))

def piece6? (digits : List Char) : Option Nat :=
  if digits.isEmpty ∨ 4 < digits.length then none else numberIn 16 digits

def plainByte? (digits : List Char) : Option Nat :=
  if digits.isEmpty ∨ (1 < digits.length ∧ digits.head? = some '0') then none
  else (numberIn 10 digits).bind fun n => if n < 256 then some n else none

/-- Four bytes with dots between them, as two pieces. -/
def dottedPieces? (text : List Char) : Option (List Nat) := do
  match ← (Text.splitAtChar '.' text).mapM plainByte? with
  | [a, b, c, d] => some [256 * a + b, 256 * c + d]
  | _ => none

def pieces6? (text : List Char) : Option (List Nat) :=
  let parts := Text.splitAtChar ':' text
  match parts.getLast? with
  | some last =>
    if last.contains '.' then do
      some ((← parts.dropLast.mapM piece6?) ++ (← dottedPieces? last))
    else parts.mapM piece6?
  | none => none

def splitAtGap : List Char → Option (List Char × List Char)
  | ':' :: ':' :: rest => some ([], rest)
  | c :: rest => (splitAtGap rest).map fun (before, after) => (c :: before, after)
  | [] => none

/-- The pieces beside a gap; on its left none is written with dots. -/
def side6? (text : List Char) (isLeft : Bool) : Option (List Nat) :=
  if text.isEmpty then some []
  else if isLeft then (Text.splitAtChar ':' text).mapM piece6?
  else pieces6? text

def address6? (text : List Char) : Option (List Nat) :=
  match splitAtGap text with
  | none => (pieces6? text).bind fun pieces => if pieces.length = 8 then some pieces else none
  | some (before, after) => do
    let left ← side6? before true
    let right ← side6? after false
    if left.length + right.length ≤ 7 then
      some (left ++ List.replicate (8 - left.length - right.length) 0 ++ right)
    else none

def hexText (n : Nat) : String :=
  .ofList (Nat.toDigits 16 n)

def zerosAhead (pieces : List Nat) : Nat :=
  (pieces.takeWhile (· = 0)).length

/-- Where the longest run of zeros starts, and its length; of equal runs the first. -/
def longestRun (start : Nat) : List Nat → Nat × Nat
  | [] => (start, 0)
  | piece :: pieces =>
    let here := zerosAhead (piece :: pieces)
    let later := longestRun (start + 1) pieces
    if later.2 ≤ here then (start, here) else later

def joinPieces (pieces : List Nat) : String :=
  ":".intercalate (pieces.map hexText)

/-- The longest run of at least two zeros is left out. -/
def renderAddress6 (pieces : List Nat) : String :=
  let (start, length) := longestRun 0 pieces
  if length < 2 then joinPieces pieces
  else joinPieces (pieces.take start) ++ "::" ++ joinPieces (pieces.drop (start + length))

namespace Host

def render : Host → String
  | .name text => text
  | .address4 value => renderAddress4 value
  | .address6 pieces => "[" ++ renderAddress6 pieces ++ "]"

def isEmpty : Host → Bool
  | .name text => text.isEmpty
  | _ => false

def bracketed? (text : List Char) : Option (Except UrlError Host) :=
  match text with
  | '[' :: rest =>
    some <|
      if rest.getLast? = some ']' then
        match address6? rest.dropLast with
        | some pieces => .ok (.address6 pieces)
        | none => .error .badAddress6
      else .error .badAddress6
  | _ => none

def ofText (text : List Char) : Except UrlError Host :=
  match bracketed? text with
  | some result => result
  | none =>
    match DomainName.ofBytes? (Percent.decode text) with
    | none => .error .badDomainName
    | some domain =>
      if domain.isEmpty then .error .emptyHost
      else if endsInNumber domain then
        match address4? domain with
        | some value => .ok (.address4 value)
        | none => .error .badAddress4
      else .ok (.name (.ofList domain))

def forbidden : List Char :=
  ['\x00', '\t', '\n', '\r', ' ', '#', '/', ':', '<', '>', '?', '@', '[', '\\', ']', '^', '|']

def ofPlainText (text : List Char) : Except UrlError Host :=
  match bracketed? text with
  | some result => result
  | none =>
    if text.any forbidden.contains then .error .badDomainCharacter
    else .ok (.name (.ofList (Percent.encode [] text)))

end Host

end ThemeBlocks.Web
