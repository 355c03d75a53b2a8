import ThemeBlocks.Decimal.Shortest

/-! How a double is laid out as text: in full, or with an exponent. -/

namespace ThemeBlocks.Decimal

def zeros (n : Nat) : List Char :=
  List.replicate n '0'

/-- All places of `0.d₁d₂… · 10^(exponent+1)`, with `.0` at the end if there is no fraction. -/
def positional (digits : List Char) (exponent : Int) : List Char :=
  if exponent < 0 then
    '0' :: '.' :: zeros ((-exponent).toNat - 1) ++ digits
  else
    let whole := exponent.toNat + 1
    let front := digits.take whole
    let back := digits.drop whole
    front ++ zeros (whole - digits.length) ++ '.' :: (if back.isEmpty then ['0'] else back)

/-- One digit, the rest behind a point, and an exponent that always has a sign. -/
def scientific (digits : List Char) (exponent : Int) : List Char :=
  let mantissa :=
    match digits with
    | [] => ['0']
    | [d] => [d]
    | d :: rest => d :: '.' :: rest
  let sign := if exponent < 0 then '-' else '+'
  mantissa ++ 'e' :: sign :: Nat.toDigits 10 exponent.natAbs

def isNegative (bits : UInt64) : Bool :=
  signWeight ≤ bits.toNat

def signText (bits : UInt64) : List Char :=
  if isNegative bits then ['-'] else []

/-- A double in JSON: from `0.00001` to below `10^16` in full, else with an exponent. -/
def jsonText (bits : UInt64) : String :=
  .ofList <| signText bits ++
    match Binary.ofBits? bits with
    | none => ['0', '.', '0']
    | some value =>
      let (digits, exponent) := (shortest value).scientific
      if -5 ≤ exponent ∧ exponent ≤ 15 then positional digits exponent
      else scientific digits exponent

def fullText (bits : UInt64) : String :=
  let word := bits.toNat % signWeight
  if word > 0x7ff * exponentWeight then "NaN"
  else
    .ofList <| signText bits ++
      if word = 0x7ff * exponentWeight then ['i', 'n', 'f']
      else
        match Binary.ofBits? bits with
        | none => ['0', '.', '0']
        | some value =>
          let (digits, exponent) := (shortest value).scientific
          positional digits exponent

end ThemeBlocks.Decimal
