import CodeRetrieval.Data.Basic
import CodeRetrieval.Decimal.Binary
import CodeRetrieval.Decimal.Reading

/-!
# Numbers from data

Whole numbers, truth values and texts that are written as numbers can stand for numbers.
A whole number beyond the range of machine numbers cannot, nor can a text of another
form, nor anything else. Where a whole number is asked for, a machine number gives its
whole part.
-/

namespace CodeRetrieval

namespace Data

/-- Why a value stands for no number. -/
inductive NumberError where
  /-- The text is not written as a number, or has too many digits for one. -/
  | unreadable
  /-- The value is neither a number nor a text. -/
  | wrongType
  /-- The number is beyond the range of machine numbers, or infinite where a whole one
  is needed. -/
  | outOfRange
  /-- What is no number has no whole part. -/
  | undefined
deriving DecidableEq, Repr

def toFloat : Data → Except NumberError Float
  | .int n =>
    let x := Decimal.toFloat (decide (n < 0)) n.natAbs 0
    if x.isInf then .error .outOfRange else .ok x
  | .float x => .ok x
  | .bool b => .ok (if b then 1.0 else 0.0)
  | .text s => ((Decimal.readFloat? s.toList).map Except.ok).getD (.error .unreadable)
  | _ => .error .wrongType

def toInteger : Data → Except NumberError Int
  | .int n => .ok n
  | .float x =>
    if x.isNaN then .error .undefined
    else if x.isInf then .error .outOfRange
    else .ok (Decimal.wholePart x)
  | .bool b => .ok (if b then 1 else 0)
  | .text s => ((Decimal.readInteger? s.toList).map Except.ok).getD (.error .unreadable)
  | _ => .error .wrongType

/-- The value counts as present: it is neither null nor false, zero or empty. -/
def isPresent : Data → Bool
  | .null => false
  | .bool b => b
  | .int n => n != 0
  | .float x => !(x == 0.0)
  | .text s => !s.isEmpty
  | .moment _ => true
  | .list items => !items.isEmpty
  | .table entries => !entries.isEmpty

/-- Two underscores stand side by side. -/
def hasDoubleUnderscore : List Char → Bool
  | '_' :: '_' :: _ => true
  | _ :: s => hasDoubleUnderscore s
  | [] => false

/-- Reads a number in ASCII. Blanks may surround it, or else single underscores may
stand inside it. -/
def readAscii? (s : List Char) : Option Float :=
  let trimmed := Decimal.trimNumber s
  if !trimmed.all fun c => decide (c.toNat < 128) then none
  else if !s.contains '_' then Decimal.readFloat? trimmed
  else if s.head? == some '_' || s.getLast? == some '_' || hasDoubleUnderscore s ||
    s.any Decimal.isNumberBlank then none
  else Decimal.readFloat? (s.filter (· != '_'))

/-- The number that a value stands for where only ASCII texts do. -/
def toAsciiFloat? : Data → Option Float
  | .text s => readAscii? s.toList
  | d => d.toFloat.toOption

end Data

end CodeRetrieval
