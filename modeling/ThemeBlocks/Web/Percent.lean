/-! Percent-encoding. A character outside the printable part of ASCII always stands as the bytes of its
UTF-8 form, each written `%XX`; which printable characters are written so too depends on the part of a
URL that they stand in. -/

namespace ThemeBlocks.Web.Percent

def hexDigit (n : Nat) : Char :=
  if n < 10 then Char.ofNat (48 + n) else Char.ofNat (55 + n)

def hexValue? (c : Char) : Option Nat :=
  if '0' ≤ c ∧ c ≤ '9' then some (c.toNat - 48)
  else if 'a' ≤ c ∧ c ≤ 'f' then some (c.toNat - 87)
  else if 'A' ≤ c ∧ c ≤ 'F' then some (c.toNat - 55)
  else none

def encodeByte (byte : UInt8) : List Char :=
  ['%', hexDigit (byte.toNat / 16), hexDigit (byte.toNat % 16)]

def isForeign (c : Char) : Bool :=
  c.toNat < 0x20 || 0x7f ≤ c.toNat

abbrev Marks := List Char

def fragmentMarks : Marks := [' ', '"', '<', '>', '\x60']
def queryMarks : Marks := [' ', '"', '#', '<', '>']
def specialQueryMarks : Marks := '\'' :: queryMarks
def pathMarks : Marks := fragmentMarks ++ ['#', '?', '^', '\x7b', '\x7d']
def userMarks : Marks := pathMarks ++ ['/', ':', ';', '=', '@', '[', '\\', ']', '|']

def encodeChar (marks : Marks) (c : Char) : List Char :=
  if isForeign c || marks.contains c then (String.utf8EncodeChar c).flatMap encodeByte else [c]

def encode (marks : Marks) (text : List Char) : List Char :=
  text.flatMap (encodeChar marks)

/-- The bytes that a text stands for. A percent sign without two hexadecimal digits is itself. -/
def decode : List Char → List UInt8
  | '%' :: high :: low :: rest =>
    match hexValue? high, hexValue? low with
    | some x, some y => UInt8.ofNat (16 * x + y) :: decode rest
    | _, _ => 0x25 :: decode (high :: low :: rest)
  | c :: rest => String.utf8EncodeChar c ++ decode rest
  | [] => []

end ThemeBlocks.Web.Percent
