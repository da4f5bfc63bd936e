import CodeRetrieval.Text.Blank
import CodeRetrieval.Text.Case
import CodeRetrieval.Text.Digit

/-!
# Reading numbers

Whole numbers and machine numbers are read from texts with blanks around them, a sign,
single underscores between digits, and the digits of any script. A whole number of more
than 4300 digits is refused.
-/

namespace CodeRetrieval.Decimal

/-- The most decimal digits that a whole number may be read from or written with. -/
def maxIntegerDigits : Nat := 4300

/-- The machine number nearest to `digits * 10 ^ exponent`. -/
def toFloat (negative : Bool) (digits : Nat) (exponent : Int) : Float :=
  let size : Int := (Nat.toDigits 10 digits).length
  let magnitude : Float :=
    if digits = 0 ∨ size + exponent < -400 then 0.0
    else if 400 < size + exponent then 1.0 / 0.0
    else Float.ofScientific digits (decide (exponent < 0)) exponent.natAbs
  if negative then -magnitude else magnitude

/-- Blanks that may surround a number: all but the information separators. -/
def isNumberBlank (c : Char) : Bool :=
  Text.isBlank c && !(decide (0x1C ≤ c.toNat) && decide (c.toNat ≤ 0x1F))

def trimNumber (s : List Char) : List Char :=
  Text.dropEndWhile isNumberBlank (s.dropWhile isNumberBlank)

/-- Splits a sign off; the first part tells whether it is a minus. -/
def splitSign : List Char → Bool × List Char
  | '-' :: s => (true, s)
  | '+' :: s => (false, s)
  | s => (false, s)

/-- Removes underscores, each of which must stand between two digits. The flag tells
whether a digit comes before. -/
def removeUnderscores? : Bool → List Char → Option (List Char)
  | _, [] => some []
  | afterDigit, '_' :: c :: s =>
    if afterDigit && c.isDigit then (removeUnderscores? true s).map (c :: ·) else none
  | afterDigit, c :: s =>
    if c = '_' then none
    else if afterDigit && c.isDigit then (removeUnderscores? true s).map (c :: ·)
    else (removeUnderscores? c.isDigit s).map (c :: ·)

def asciiDigits (s : List Char) : List Char :=
  s.map fun c => ((Text.digit? c).map fun d => Char.ofNat (48 + d)).getD c

/-- The text of a number without blanks, underscores and foreign digits. -/
def plain? (s : List Char) : Option (List Char) :=
  removeUnderscores? false (asciiDigits (trimNumber s))

def digitsValue (ds : List Char) : Nat :=
  Text.valueOf 10 (ds.map fun c => c.toNat - 48)

def readInteger? (s : List Char) : Option Int := do
  let (negative, ds) := splitSign (← plain? s)
  if ds.isEmpty || !ds.all Char.isDigit || decide (maxIntegerDigits < ds.length) then none
  else
    let n : Int := digitsValue ds
    return if negative then -n else n

def readExponent? : List Char → Option Int
  | [] => some 0
  | c :: s =>
    if c = 'e' ∨ c = 'E' then
      let (negative, ds) := splitSign s
      if ds.isEmpty || !ds.all Char.isDigit then none
      else
        let n : Int := digitsValue ds
        some (if negative then -n else n)
    else none

def readMagnitude? (negative : Bool) (s : List Char) : Option Float := do
  let whole := s.takeWhile Char.isDigit
  let rest := s.dropWhile Char.isDigit
  let (fraction, rest) :=
    match rest with
    | '.' :: r => (r.takeWhile Char.isDigit, r.dropWhile Char.isDigit)
    | _ => ([], rest)
  if whole.isEmpty && fraction.isEmpty then none
  else
    let exponent ← readExponent? rest
    return toFloat negative (digitsValue (whole ++ fraction)) (exponent - fraction.length)

/-- Reads a machine number; infinity and "not a number" are written in letters of either
case. -/
def readFloat? (s : List Char) : Option Float := do
  let (negative, s) := splitSign (← plain? s)
  let word := String.ofList (s.map Char.toLower)
  if word == "inf" || word == "infinity" then
    return if negative then -1.0 / 0.0 else 1.0 / 0.0
  else if word == "nan" then return 0.0 / 0.0
  else readMagnitude? negative s

end CodeRetrieval.Decimal
