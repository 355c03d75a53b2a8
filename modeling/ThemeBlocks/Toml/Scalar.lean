import ThemeBlocks.Text.Class
import ThemeBlocks.Text.Lines
import ThemeBlocks.Toml.Value
import ThemeBlocks.Web.Percent

/-! Booleans, numbers, dates and times of TOML. Each reader takes a whole word and gives nothing if the
word is not well formed. -/

namespace ThemeBlocks.Toml

open Text (isAsciiDigit)

/-- Digits with single underscores between them; the underscores are dropped. -/
def plainDigits? (isDigit : Char → Bool) (word : List Char) : Option (List Char) :=
  let groups := Text.splitAtChar '_' word
  if groups.all fun group => !group.isEmpty && group.all isDigit then some groups.flatten else none

def valueIn (base : Nat) (digits : List Char) : Nat :=
  digits.foldl (fun n c => base * n + (Web.Percent.hexValue? c).getD 0) 0

/-- Decimal digits without a zero before others. -/
def wholeDigits? (word : List Char) : Option (List Char) := do
  let digits ← plainDigits? isAsciiDigit word
  if 1 < digits.length ∧ digits.head? = some '0' then none else some digits

def splitSign : List Char → Bool × List Char
  | '-' :: rest => (true, rest)
  | '+' :: rest => (false, rest)
  | word => (false, word)

def basedNumber? : List Char → Option Nat
  | '0' :: 'x' :: rest =>
    (plainDigits? (Web.Percent.hexValue? · |>.isSome) rest).map (valueIn 16)
  | '0' :: 'o' :: rest => (plainDigits? (fun c => '0' ≤ c && c ≤ '7') rest).map (valueIn 8)
  | '0' :: 'b' :: rest => (plainDigits? (fun c => c = '0' || c = '1') rest).map (valueIn 2)
  | _ => none

def boundedInteger (n : Int) : Value :=
  if WordRange.signed128.contains n || WordRange.unsigned128.contains n then .integer n
  else .excessive

def integer? (word : List Char) : Option Value :=
  match basedNumber? word with
  | some n => some (boundedInteger n)
  | none => do
    let (isNegative, rest) := splitSign word
    let n := valueIn 10 (← wholeDigits? rest)
    some (boundedInteger (if isNegative then -(n : Int) else n))

def nearestDouble? (isNegative : Bool) (significand : Nat) (exponent : Int) : Option UInt64 :=
  let places := (Nat.toDigits 10 significand).length
  let magnitude :=
    if significand = 0 ∨ exponent + places < -400 then some (0.0 : Float)
    else if 400 < exponent + places then none
    else
      let value := Float.ofScientific significand (exponent < 0) exponent.natAbs
      if value.isInf then none else some value
  magnitude.map fun value => (if isNegative then -value else value).toBits

def splitExponent (word : List Char) : List Char × Option (List Char) :=
  let isMark (c : Char) : Bool := c = 'e' || c = 'E'
  match word.dropWhile (!isMark ·) with
  | [] => (word, none)
  | _ :: exponent => (word.takeWhile (!isMark ·), some exponent)

def splitFraction (word : List Char) : List Char × Option (List Char) :=
  match word.dropWhile (· ≠ '.') with
  | [] => (word, none)
  | _ :: fraction => (word.takeWhile (· ≠ '.'), some fraction)

def partDigits? : Option (List Char) → Option (List Char)
  | none => some []
  | some word => plainDigits? isAsciiDigit word

def exponent? : Option (List Char) → Option Int
  | none => some 0
  | some word => do
    let (isNegative, rest) := splitSign word
    let n := valueIn 10 (← plainDigits? isAsciiDigit rest)
    some (if isNegative then -(n : Int) else n)

def infinity : UInt64 := 0x7ff0000000000000
def notANumber : UInt64 := 0x7ff8000000000000
def signBit (isNegative : Bool) : UInt64 := if isNegative then 0x8000000000000000 else 0

def float? (word : List Char) : Option Value :=
  let (isNegative, rest) := splitSign word
  if rest = ['i', 'n', 'f'] then some (.float (infinity ||| signBit isNegative))
  else if rest = ['n', 'a', 'n'] then some (.float (notANumber ||| signBit isNegative))
  else do
    let (body, exponentPart) := splitExponent rest
    let (whole, fractionPart) := splitFraction body
    if exponentPart.isNone ∧ fractionPart.isNone then none
    else
      let whole ← wholeDigits? whole
      let fraction ← partDigits? fractionPart
      let exponent ← exponent? exponentPart
      match nearestDouble? isNegative (valueIn 10 (whole ++ fraction)) (exponent - fraction.length) with
      | some bits => some (.float bits)
      | none => some .excessive

def fixedNumber? (digits low high : Nat) (word : List Char) : Option Nat :=
  if word.length = digits ∧ word.all isAsciiDigit then
    let n := valueIn 10 word
    if low ≤ n ∧ n ≤ high then some n else none
  else none

def isLeapYear (year : Nat) : Bool :=
  year % 4 = 0 && (year % 100 ≠ 0 || year % 400 = 0)

def daysIn (year month : Nat) : Nat :=
  if month = 2 then (if isLeapYear year then 29 else 28)
  else if [4, 6, 9, 11].contains month then 30
  else 31

def isDate (word : List Char) : Bool :=
  match Text.splitAtChar '-' word with
  | [year, month, day] =>
    match fixedNumber? 4 0 9999 year, fixedNumber? 2 1 12 month with
    | some y, some m => (fixedNumber? 2 1 (daysIn y m) day).isSome
    | _, _ => false
  | _ => false

/-- A fraction of a second: at most nine digits count, zeros at the end do not. -/
def normalFraction (digits : List Char) : List Char :=
  match ((digits.take 9).reverse.dropWhile (· = '0')).reverse with
  | [] => []
  | kept => '.' :: kept

def normalSecond? (word : List Char) : Option (List Char) :=
  let (second, fraction) := splitFraction word
  match fixedNumber? 2 0 60 second, fraction with
  | some _, none => some second
  | some _, some digits =>
    if !digits.isEmpty ∧ digits.all isAsciiDigit then some (second ++ normalFraction digits) else none
  | none, _ => none

def normalTime? (word : List Char) : Option (List Char) :=
  match Text.splitAtChar ':' word with
  | hour :: minute :: rest =>
    match fixedNumber? 2 0 23 hour, fixedNumber? 2 0 59 minute, rest with
    | some _, some _, [] => some (hour ++ ':' :: minute ++ ":00".toList)
    | some _, some _, [second] =>
      (normalSecond? second).map fun second => hour ++ ':' :: minute ++ ':' :: second
    | _, _, _ => none
  | _ => none

def normalOffset? : List Char → Option (List Char)
  | [] => some []
  | ['Z'] | ['z'] => some ['Z']
  | sign :: rest =>
    if sign = '+' ∨ sign = '-' then
      match Text.splitAtChar ':' rest with
      | [hour, minute] =>
        if (fixedNumber? 2 0 23 hour).isSome ∧ (fixedNumber? 2 0 59 minute).isSome then
          some (sign :: rest)
        else none
      | _ => none
    else none

def isOffsetMark (c : Char) : Bool :=
  c = 'Z' || c = 'z' || c = '+' || c = '-'

def dateLength : Nat := 10

/-- A date, a time of day, or a date and a time with or without an offset. -/
def moment? (word : List Char) : Option Value :=
  let date := word.take dateLength
  if isDate date then
    match word.drop dateLength with
    | [] => some (.moment (.ofList date))
    | mark :: rest =>
      if mark = 'T' ∨ mark = 't' ∨ mark = ' ' then do
        let time ← normalTime? (rest.takeWhile (!isOffsetMark ·))
        let offset ← normalOffset? (rest.dropWhile (!isOffsetMark ·))
        some (.moment (.ofList (date ++ 'T' :: time ++ offset)))
      else none
  else (normalTime? word).map fun time => .moment (.ofList time)

def boolean? (word : List Char) : Option Value :=
  if word = "true".toList then some (.boolean true)
  else if word = "false".toList then some (.boolean false)
  else none

def scalar? (word : List Char) : Option Value :=
  boolean? word <|> integer? word <|> float? word <|> moment? word

end ThemeBlocks.Toml
