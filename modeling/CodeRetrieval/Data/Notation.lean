import CodeRetrieval.Data.Basic

/-!
# Parts of notations

What the readers of different notations share: a word at the start of a text, and the
parts of a number in base ten. Notations differ in how digits are written, so the digits
are taken off a text by a function of their own.
-/

namespace CodeRetrieval.Data.Notation

/-- What follows a given start, if the text has it. -/
def after? (start : String) (s : List Char) : Option (List Char) :=
  if start.toList.isPrefixOf s then some (s.drop start.toList.length) else none

/-- Takes the digits off the front of a text. -/
abbrev TakeDigits := List Char → List Char × List Char

def plainDigits : TakeDigits := fun s =>
  (s.takeWhile Char.isDigit, s.dropWhile Char.isDigit)

/-- The fraction of a number: a point and at least one digit. -/
def splitFraction (digits : TakeDigits) : List Char → List Char × List Char
  | '.' :: s =>
    let (ds, rest) := digits s
    if ds.isEmpty then ([], '.' :: s) else (ds, rest)
  | s => ([], s)

/-- The exponent of a number: the letter, an optional sign and at least one digit. -/
def splitExponent (digits : TakeDigits) (s : List Char) : Option Int × List Char :=
  match s with
  | c :: r =>
    if c = 'e' ∨ c = 'E' then
      let (negative, r) := Decimal.splitSign r
      let (ds, rest) := digits r
      if ds.isEmpty then (none, s)
      else
        let n : Int := Decimal.digitsValue ds
        (some (if negative then -n else n), rest)
    else (none, s)
  | [] => (none, [])

/-- The number with the given digits, unless it is a whole number with too many of them. -/
def ofDigits? (negative : Bool) (whole fraction : List Char) (exponent : Option Int) :
    Option Data :=
  if fraction.isEmpty && exponent.isNone then
    if Decimal.maxIntegerDigits < whole.length then none
    else
      let n : Int := Decimal.digitsValue whole
      some (.int (if negative then -n else n))
  else
    some (.float (Decimal.toFloat negative (Decimal.digitsValue (whole ++ fraction))
      (exponent.getD 0 - fraction.length)))

end CodeRetrieval.Data.Notation
