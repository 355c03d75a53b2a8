/-! Encoded text. UTF-8 is read as a sequence of symbols: bytes that form a character give that
character; bytes that form none stay as they are. `charAfter` reads the longest start of a sequence that
is still possible, so a broken sequence ends before the first byte that cannot continue it. In received
bytes a byte order mark at the start tells UTF-16 from UTF-8 and is dropped; what cannot be decoded
becomes replacement characters. -/

namespace ThemeBlocks.Text

/-- A character, or a byte that belongs to none. -/
inductive Symbol
  | char (value : Char)
  | stray (byte : UInt8)
  deriving Repr, DecidableEq, Inhabited

namespace Symbol

def size : Symbol → Nat
  | .char c => c.utf8Size
  | .stray _ => 1

end Symbol

abbrev Source := List Symbol

namespace Source

def ofText (text : String) : Source :=
  text.toList.map .char

def size : Source → Nat
  | [] => 0
  | symbol :: source => symbol.size + size source

end Source

/-- How a first byte goes on: the number of bytes to come, the range of the next one, and its own share
of the character's number. -/
def leadOf (byte : Nat) : Option (Nat × Nat × Nat × Nat) :=
  if 0xc2 ≤ byte ∧ byte ≤ 0xdf then some (1, 0x80, 0xbf, byte % 0x20)
  else if byte = 0xe0 then some (2, 0xa0, 0xbf, 0)
  else if byte = 0xed then some (2, 0x80, 0x9f, 0xd)
  else if 0xe1 ≤ byte ∧ byte ≤ 0xef then some (2, 0x80, 0xbf, byte % 0x10)
  else if byte = 0xf0 then some (3, 0x90, 0xbf, 0)
  else if 0xf1 ≤ byte ∧ byte ≤ 0xf3 then some (3, 0x80, 0xbf, byte % 8)
  else if byte = 0xf4 then some (3, 0x80, 0x8f, 4)
  else none

/-- Takes `wanted` more bytes of a sequence. Gives the number of bytes taken and, if none was missing,
the character's number. -/
def continueSequence (wanted low high acc taken : Nat) : List UInt8 → Nat × Option Nat
  | [] => (taken, if wanted = 0 then some acc else none)
  | byte :: rest =>
    match wanted with
    | 0 => (taken, some acc)
    | more + 1 =>
      if low ≤ byte.toNat ∧ byte.toNat ≤ high then
        continueSequence more 0x80 0xbf (acc * 64 + byte.toNat % 64) (taken + 1) rest
      else (taken, none)

/-- The character that starts with `byte`, and how many of the bytes after it belong to it. -/
def charAfter (byte : UInt8) (rest : List UInt8) : Option Char × Nat :=
  if byte.toNat < 0x80 then (some (Char.ofNat byte.toNat), 0)
  else
    match leadOf byte.toNat with
    | none => (none, 0)
    | some (wanted, low, high, acc) =>
      let (taken, number?) := continueSequence wanted low high acc 0 rest
      (number?.map Char.ofNat, taken)

/-- The symbols of a byte sequence; the first `skipped` bytes belong to a symbol already given. -/
def symbolsOf (skipped : Nat) : List UInt8 → Source
  | [] => []
  | byte :: rest =>
    match skipped with
    | more + 1 => symbolsOf more rest
    | 0 =>
      match charAfter byte rest with
      | (some c, taken) => .char c :: symbolsOf taken rest
      | (none, taken) => .stray byte :: (rest.take taken).map .stray ++ symbolsOf taken rest

def Source.ofBytes (bytes : List UInt8) : Source :=
  symbolsOf 0 bytes

/-- The text of a byte sequence, with one replacement character for each broken sequence. -/
def replacingText (skipped : Nat) : List UInt8 → List Char
  | [] => []
  | byte :: rest =>
    match skipped with
    | more + 1 => replacingText more rest
    | 0 =>
      match charAfter byte rest with
      | (some c, taken) => c :: replacingText taken rest
      | (none, taken) => '\ufffd' :: replacingText taken rest

def bytesOf (text : String) : List UInt8 :=
  text.toList.flatMap String.utf8EncodeChar

def unitsOf (bigEndian : Bool) : List UInt8 → List Nat × Bool
  | a :: b :: rest =>
    let (units, isOdd) := unitsOf bigEndian rest
    ((if bigEndian then a.toNat * 256 + b.toNat else b.toNat * 256 + a.toNat) :: units, isOdd)
  | [_] => ([], true)
  | [] => ([], false)

def isHighSurrogate (unit : Nat) : Bool := 0xd800 ≤ unit && unit < 0xdc00
def isLowSurrogate (unit : Nat) : Bool := 0xdc00 ≤ unit && unit < 0xe000

/-- The characters of UTF-16 units; a surrogate without its partner is replaced. -/
def charsOfUnits : List Nat → List Char
  | [] => []
  | [unit] => [if isHighSurrogate unit || isLowSurrogate unit then '\ufffd' else Char.ofNat unit]
  | unit :: next :: rest =>
    if isHighSurrogate unit && isLowSurrogate next then
      Char.ofNat (0x10000 + (unit - 0xd800) * 0x400 + (next - 0xdc00)) :: charsOfUnits rest
    else if isHighSurrogate unit || isLowSurrogate unit then '\ufffd' :: charsOfUnits (next :: rest)
    else Char.ofNat unit :: charsOfUnits (next :: rest)

def decodeUnits (bigEndian : Bool) (bytes : List UInt8) : String :=
  let (units, isOdd) := unitsOf bigEndian bytes
  .ofList (charsOfUnits units ++ if isOdd then ['\ufffd'] else [])

def decodeBytes : List UInt8 → String
  | 0xef :: 0xbb :: 0xbf :: rest => .ofList (replacingText 0 rest)
  | 0xff :: 0xfe :: rest => decodeUnits false rest
  | 0xfe :: 0xff :: rest => decodeUnits true rest
  | bytes => .ofList (replacingText 0 bytes)

end ThemeBlocks.Text
