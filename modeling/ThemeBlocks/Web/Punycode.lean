/-! Punycode: a label of any characters as a label of ASCII. The characters of ASCII come first; the others
are added in the order of their numbers, each as the number of places that insertion has to go on, round
after round, from the place of the one before. These distances are numbers with digits of 36 values whose
thresholds follow the distances seen so far. -/

namespace ThemeBlocks.Web.Punycode

def isBasic (c : Char) : Bool := c.toNat < 0x80

def digitChar (n : Nat) : Char :=
  if n < 26 then Char.ofNat (97 + n) else Char.ofNat (22 + n)

def digitValue? (c : Char) : Option Nat :=
  if 'a' ≤ c ∧ c ≤ 'z' then some (c.toNat - 97)
  else if 'A' ≤ c ∧ c ≤ 'Z' then some (c.toNat - 65)
  else if '0' ≤ c ∧ c ≤ '9' then some (c.toNat - 22)
  else none

/-- The least value that a digit at `place` must have for another one to follow; places count in 36s. -/
def threshold (bias place : Nat) : Nat :=
  max 1 (min 26 (place - bias))

theorem one_le_threshold (bias place : Nat) : 1 ≤ threshold bias place :=
  Nat.le_max_left 1 _

/-- Divides a distance until it is small, counting the divisions in 36s. -/
def reduceDistance (distance count : Nat) : Nat :=
  if 455 < distance then reduceDistance (distance / 35) (count + 36)
  else count + 36 * distance / (distance + 38)
termination_by distance
decreasing_by omega

/-- The bias after a distance; `points` characters stand by then. -/
def adapt (distance points : Nat) (isFirst : Bool) : Nat :=
  let part := if isFirst then distance / 700 else distance / 2
  reduceDistance (part + part / points) 0

def digits (bias place distance : Nat) : List Char :=
  let t := threshold bias place
  if distance < t then [digitChar distance]
  else digitChar (t + (distance - t) % (36 - t)) ::
    digits bias (place + 36) ((distance - t) / (36 - t))
termination_by distance
decreasing_by
  have := one_le_threshold bias place
  have := Nat.div_le_self (distance - threshold bias place) (36 - threshold bias place)
  omega

structure Writing where
  text : List Char := []
  distance : Nat := 0
  bias : Nat := 72
  /-- How many characters stand already, and how many of them are of ASCII. -/
  points : Nat
  basics : Nat

def Writing.see (number : Nat) (w : Writing) (c : Char) : Writing :=
  if c.toNat < number then { w with distance := w.distance + 1 }
  else if c.toNat = number then
    { w with
      text := w.text ++ digits w.bias 36 w.distance
      distance := 0
      bias := adapt w.distance (w.points + 1) (w.points = w.basics)
      points := w.points + 1 }
  else w

/-- Adds the characters with these numbers, which ascend; those below `next` are done. -/
def Writing.addAll (label : List Char) (w : Writing) (next : Nat) : List Nat → Writing
  | [] => w
  | number :: numbers =>
    let w := { w with distance := w.distance + (number - next) * (w.points + 1) }
    let w := label.foldl (Writing.see number) w
    Writing.addAll label { w with distance := w.distance + 1 } (number + 1) numbers

def foreignNumbers (label : List Char) : List Nat :=
  ((label.filter (!isBasic ·)).map Char.toNat).eraseDups.mergeSort fun a b => decide (a ≤ b)

def encode (label : List Char) : List Char :=
  let basics := label.filter isBasic
  let w : Writing := { points := basics.length, basics := basics.length }
  basics ++ (if basics.isEmpty then [] else ['-']) ++
    (w.addAll label 0x80 (foreignNumbers label)).text

structure Reading where
  text : List Char
  number : Nat := 0x80
  /-- Where the next character is inserted, and where the one before it was. -/
  place : Nat := 0
  start : Nat := 0
  bias : Nat := 72
  weight : Nat := 1
  digitPlace : Nat := 36
  isFirst : Bool := true

def Reading.insert (r : Reading) : Option Reading :=
  let points := r.text.length + 1
  let number := r.number + r.place / points
  if number.isValidChar then
    let place := r.place % points
    some
      { text := r.text.take place ++ Char.ofNat number :: r.text.drop place
        number
        place := place + 1
        start := place + 1
        bias := adapt (r.place - r.start) points r.isFirst
        isFirst := false }
  else none

def Reading.carryOn (r : Reading) (t : Nat) : Reading :=
  { r with weight := r.weight * (36 - t), digitPlace := r.digitPlace + 36 }

def Reading.readDigits (r : Reading) : List Char → Option (List Char)
  | [] => if r.digitPlace = 36 then some r.text else none
  | c :: rest => do
    let digit ← digitValue? c
    let t := threshold r.bias r.digitPlace
    let next : Reading := { r with place := r.place + digit * r.weight }
    if digit < t then (← next.insert).readDigits rest
    else (next.carryOn t).readDigits rest

def splitAtDash (label : List Char) : List Char × List Char :=
  let back := (label.reverse.takeWhile (· ≠ '-')).reverse
  (label.take (label.length - back.length - 1), back)

def decode? (label : List Char) : Option (List Char) :=
  let (basics, rest) := splitAtDash label
  if basics.all isBasic then
    let r : Reading := { text := basics }
    r.readDigits rest
  else none

end ThemeBlocks.Web.Punycode
