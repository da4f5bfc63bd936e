import CodeRetrieval.Text.Blank
import CodeRetrieval.Text.Lines

/-!
# The comment above a unit

The comment of a unit is the block of comment lines directly above it. The scan goes
upward for a limited number of rows: blank rows and attributes are passed over, comment
rows are taken, a row that starts with a triple quote is taken and ends the block, and
any other row ends it.
-/

namespace CodeRetrieval.DocComment

def defaultLookback : Int := 10

/-- What a row above a unit is to the scan. -/
inductive RowRole where
  /-- Blank rows and attributes. -/
  | passedOver
  /-- A row that starts with a triple quote. -/
  | opening
  /-- A comment row. -/
  | comment
  /-- Anything else. -/
  | other
deriving DecidableEq, Repr

def startsWithAny (starts : List String) (s : List Char) : Bool :=
  starts.any fun p => p.toList.isPrefixOf s

/-- The role of a row, by its text without surrounding blanks. -/
def roleOf (trimmed : List Char) : RowRole :=
  if trimmed.isEmpty || startsWithAny ["#[", "#!["] trimmed then .passedOver
  else if startsWithAny ["\"\"\"", "\x27\x27\x27"] trimmed then .opening
  else if startsWithAny ["/**", "/*", "*", "//", "#"] trimmed ||
    "*/".toList.isSuffixOf trimmed then .comment
  else .other

/-- The rows of the block, read upward from the first of `above`. -/
def block : List (List Char) → List (List Char)
  | [] => []
  | row :: above =>
    let row := Text.withoutReturns row
    match roleOf (Text.trim row) with
    | .passedOver => block above
    | .opening => [row]
    | .comment => row :: block above
    | .other => []

/-- The comment above the row `row` of a file, rows counted from 0. Nothing is an answer
when the scan would start outside the file. -/
def above? (lines : List String) (row lookback : Int) : Option (Option String) :=
  if row ≤ 0 ∨ lookback ≤ 0 then some none
  else if (lines.length : Int) < row then none
  else
    let above := ((lines.take row.toNat).reverse.take lookback.toNat).map String.toList
    match block above with
    | [] => some none
    | rows => some (some (Text.unlines (rows.reverse.map String.ofList)))

end CodeRetrieval.DocComment
