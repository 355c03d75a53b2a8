import ThemeBlocks.Text.Class
import ThemeBlocks.Text.Encoding
import ThemeBlocks.Text.Lines
import ThemeBlocks.Web.Punycode

/-! Domain names in the form in which they are looked up: small letters of ASCII. A label with other
characters is written in Punycode behind a mark; a label that has the mark already has to be such a one. -/

namespace ThemeBlocks.Web.DomainName

def isForbidden (c : Char) : Bool :=
  c.toNat ≤ 0x20 || c = '\x7f' ||
    ['%', '#', '/', ':', '<', '>', '?', '@', '[', '\\', ']', '^', '|'].contains c

/-- Characters that only steer how others are shown, and are dropped. -/
def unseenRanges : Array (Nat × Nat) := #[
    (0xad, 0xad), (0x34f, 0x34f), (0x180b, 0x180f), (0x200b, 0x200b), (0x2060, 0x2060),
    (0x2064, 0x2064), (0xfe00, 0xfe0f), (0xfeff, 0xfeff), (0xe0100, 0xe01ef)]

def refusedRanges : Array (Nat × Nat) := #[
    (0x80, 0xa0), (0x1680, 0x1680), (0x2000, 0x200f), (0x2028, 0x202f), (0x205f, 0x206f),
    (0x3000, 0x3000), (0xe000, 0xf8ff), (0xfdd0, 0xfdef), (0xfff0, 0xffff), (0xe0000, 0x10ffff)]

def isStop (c : Char) : Bool :=
  c = '\u3002' || c = '\uff0e' || c = '\uff61'

def narrowed (c : Char) : Char :=
  if 0xff01 ≤ c.toNat ∧ c.toNat ≤ 0xff5e then Char.ofNat (c.toNat - 0xfee0) else c

/-- The characters that stand for a character of a name, if it may stand there. -/
def mapped? (c : Char) : Option (List Char) :=
  if isStop c then some ['.']
  else if Text.inRanges unseenRanges c.toNat then some []
  else
    let plain := Text.lowered (narrowed c)
    if isForbidden plain || Text.inRanges refusedRanges plain.toNat then none else some [plain]

def charsOf? : Text.Symbol → Option (List Char)
  | .char c => mapped? c
  | .stray _ => none

def mark : List Char := "xn--".toList

/-- Whether a label reads back from Punycode as a label that needs it. -/
def isEncodedLabel (label : List Char) : Bool :=
  match Punycode.decode? (label.drop mark.length) with
  | some text =>
    !text.all Punycode.isBasic && text.all (fun c => mapped? c = some [c]) &&
      mark ++ Punycode.encode text = label
  | none => false

def labelToAscii? (label : List Char) : Option (List Char) :=
  if label.all Punycode.isBasic then
    if mark.isPrefixOf label && !isEncodedLabel label then none else some label
  else if mark.isPrefixOf label then none
  else some (mark ++ Punycode.encode label)

def ofBytes? (bytes : List UInt8) : Option (List Char) := do
  let chars ← (Text.Source.ofBytes bytes).mapM charsOf?
  let labels ← (Text.splitAtChar '.' chars.flatten).mapM labelToAscii?
  some (List.intercalate ['.'] labels)

end ThemeBlocks.Web.DomainName
