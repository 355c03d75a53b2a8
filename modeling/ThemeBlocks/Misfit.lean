import ThemeBlocks.Text.Quoted

/-! Values that are not of the wanted shape: what was found, what was expected, and how it is said. Among
the wanted are the integers that machine words hold. -/

namespace ThemeBlocks

open Text

structure WordRange where
  low : Int
  high : Int
  deriving Repr, DecidableEq

namespace WordRange

def contains (range : WordRange) (n : Int) : Bool :=
  range.low ≤ n && n ≤ range.high

def signed32 : WordRange := ⟨-0x80000000, 0x7fffffff⟩
def signed64 : WordRange := ⟨-0x8000000000000000, 0x7fffffffffffffff⟩
def unsigned64 : WordRange := ⟨0, 0xffffffffffffffff⟩

def signed128 : WordRange :=
  ⟨-0x80000000000000000000000000000000, 0x7fffffffffffffffffffffffffffffff⟩

def unsigned128 : WordRange := ⟨0, 0xffffffffffffffffffffffffffffffff⟩

end WordRange

inductive Found
  | null
  | bool (value : Bool)
  | int (value : Int)
  /-- A number with a fraction, as it is written. -/
  | float (text : String)
  | string (value : String)
  | sequence
  | map
  | other (words : String)
  deriving Repr, DecidableEq, Inhabited

def Found.words : Found → String
  | .null => "null"
  | .bool value => "boolean `" ++ (if value then "true" else "false") ++ "`"
  | .int value => "integer `" ++ toString value ++ "`"
  | .float text => "floating point `" ++ text ++ "`"
  | .string value => "string " ++ quoted value
  | .sequence => "sequence"
  | .map => "map"
  | .other words => words

inductive Misfit
  | wrongType (found : Found) (expected : String)
  | wrongValue (found : Found) (expected : String)
  | wrongLength (length : Nat) (expected : String)
  | missingField (name : String)
  | duplicateField (name : String)
  | unknownVariant (name : String) (known : List String)
  | noVariant (type : String)
  /-- A number that no type can hold. -/
  | excessive
  | rejected (words : String)
  deriving Repr, DecidableEq, Inhabited

def listNames (names : List String) : String :=
  ", ".intercalate (names.map fun name => "`" ++ name ++ "`")

def Misfit.text : Misfit → String
  | .wrongType found expected => "invalid type: " ++ found.words ++ ", expected " ++ expected
  | .wrongValue found expected => "invalid value: " ++ found.words ++ ", expected " ++ expected
  | .wrongLength length expected =>
    "invalid length " ++ toString length ++ ", expected " ++ expected
  | .missingField name => "missing field `" ++ name ++ "`"
  | .duplicateField name => "duplicate field `" ++ name ++ "`"
  | .unknownVariant name known =>
    "unknown variant `" ++ name ++ "`, expected one of " ++ listNames known
  | .noVariant type => "data did not match any variant of untagged enum " ++ type
  | .excessive => "number out of range"
  | .rejected words => words

end ThemeBlocks
