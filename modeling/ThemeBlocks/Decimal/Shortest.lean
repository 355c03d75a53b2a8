/-! The shortest decimal of a double. A finite double is `m · 2^q`; the reals that round to it form an
interval whose ends belong to it exactly when `m` is even. `shortest` looks, for 1, 2, … 17 digits, at
the two neighbours of the value on that decimal grid and takes the first grid with a neighbour in the
interval, of two neighbours the nearer one. All arithmetic is on natural numbers. -/

namespace ThemeBlocks.Decimal

/-- A positive double `mantissa · 2^exponent`. At a power of two the gap below is half the gap above. -/
structure Binary where
  mantissa : Nat
  exponent : Int
  halfGapBelow : Bool
  deriving Repr, DecidableEq

def signWeight : Nat := 0x8000000000000000
def exponentWeight : Nat := 0x10000000000000

def Binary.ofBits? (bits : UInt64) : Option Binary :=
  let word := bits.toNat % signWeight
  let biased : Nat := word / exponentWeight
  let fraction : Nat := word % exponentWeight
  if biased = 0x7ff then none
  else if biased = 0 then if fraction = 0 then none else some ⟨fraction, -1074, false⟩
  else some ⟨exponentWeight + fraction, (biased : Int) - 1075, fraction = 0 ∧ 1 < biased⟩

structure Scaled where
  digits : Nat
  exponent : Int
  deriving Repr, DecidableEq

def fractionOf (n b : Nat) (e : Int) : Nat × Nat :=
  if 0 ≤ e then (n * Nat.pow b e.toNat, 1) else (n, Nat.pow b (-e).toNat)

def fractionLt (x y : Nat × Nat) : Bool :=
  x.1 * y.2 < y.1 * x.2

def fractionLe (x y : Nat × Nat) : Bool :=
  x.1 * y.2 ≤ y.1 * x.2

/-- The largest `e` with `10^e ≤ x`, looked for downwards from `top`. -/
def leadingExponent (x : Nat × Nat) (top : Int) : Nat → Int
  | 0 => top
  | fuel + 1 => if fractionLe (fractionOf 1 10 top) x then top else leadingExponent x (top - 1) fuel

/-- The points of the grid `10^grid` right below and right above `x`. -/
def gridNeighbours (x : Nat × Nat) (grid : Int) : Nat × Nat :=
  let scale := fractionOf 1 10 grid
  let below := x.1 * scale.2 / (x.2 * scale.1)
  (below, below + 1)

/-- The nearer of the grid points that lie in the interval; a tie goes to the even one. -/
def nearestOnGrid (x low high : Nat × Nat) (closed : Bool) (grid : Int) : Option Nat :=
  let inside (n : Nat) : Bool :=
    let point := fractionOf n 10 grid
    if closed then fractionLe low point && fractionLe point high
    else fractionLt low point && fractionLt point high
  let (below, above) := gridNeighbours x grid
  match inside below, inside above with
  | false, false => none
  | true, false => some below
  | false, true => some above
  | true, true =>
    let middle := fractionOf (2 * below + 1) 10 grid
    let twice := (2 * x.1, x.2)
    if fractionLt twice middle then some below
    else if fractionLt middle twice then some above
    else some (if below % 2 = 0 then below else above)

def searchGrids (x low high : Nat × Nat) (closed : Bool) (grid : Int) : Nat → Scaled
  | 0 => ⟨0, 0⟩
  | fuel + 1 =>
    match nearestOnGrid x low high closed grid with
    | some n => ⟨n, grid⟩
    | none => searchGrids x low high closed (grid - 1) fuel

def shortest (value : Binary) : Scaled :=
  let x := fractionOf value.mantissa 2 value.exponent
  let high := fractionOf (2 * value.mantissa + 1) 2 (value.exponent - 1)
  let low :=
    if value.halfGapBelow then fractionOf (4 * value.mantissa - 1) 2 (value.exponent - 2)
    else fractionOf (2 * value.mantissa - 1) 2 (value.exponent - 1)
  let lead := leadingExponent x 309 640
  searchGrids x low high (value.mantissa % 2 = 0) lead 20

def Scaled.withoutTrailingZeros (s : Scaled) : Nat → Scaled
  | 0 => s
  | fuel + 1 =>
    if s.digits % 10 = 0 ∧ s.digits ≠ 0 then
      (Scaled.mk (s.digits / 10) (s.exponent + 1)).withoutTrailingZeros fuel
    else s

def Scaled.scientific (s : Scaled) : List Char × Int :=
  let s := s.withoutTrailingZeros 400
  let digits := Nat.toDigits 10 s.digits
  (digits, s.exponent + digits.length - 1)

end ThemeBlocks.Decimal
