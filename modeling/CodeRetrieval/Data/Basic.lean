import CodeRetrieval.Data.Moment
import CodeRetrieval.Data.Table
import CodeRetrieval.Decimal.Reading
import CodeRetrieval.Decimal.Shortest
import CodeRetrieval.Text.Quoted

/-!
# Values of data files

The values that manifests, settings and replies are made of. A table keeps the order in
which its keys first came. Each value has a written form; a text inside a list or table
is quoted in it. A whole number of more than 4300 digits has none.
-/

namespace CodeRetrieval

/-- A value of a data file. -/
inductive Data where
  | null
  | bool (b : Bool)
  | int (n : Int)
  | float (x : Float)
  | text (s : String)
  | moment (m : Moment)
  | list (items : List Data)
  | table (entries : List (String × Data))
deriving Inhabited

namespace Data

def get? (d : Data) (key : String) : Option Data :=
  match d with
  | table entries => entries.lookup key
  | _ => none

def asText? : Data → Option String
  | text s => some s
  | _ => none

def asList? : Data → Option (List Data)
  | list items => some items
  | _ => none

def asTable? : Data → Option (List (String × Data))
  | table entries => some entries
  | _ => none

/-- A whole number has too many digits to be written. -/
structure TooManyDigits where
deriving DecidableEq, Repr

def TooManyDigits.message : String :=
  "Exceeds the limit (4300 digits) for integer string conversion; use sys.set_int_max_str_digits() to increase the limit"

/-- The digits of a whole number, if they are not too many. -/
def integerText (n : Int) : Except TooManyDigits String :=
  if Nat.pow 10 Decimal.maxIntegerDigits ≤ n.natAbs then .error {} else .ok (toString n)

mutual

/-- The form of a value inside a list or table. -/
def nested : Data → Except TooManyDigits String
  | null => .ok "None"
  | bool b => .ok (if b then "True" else "False")
  | int n => integerText n
  | float x => .ok (Decimal.shortestText x)
  | text s => .ok (Text.quoted s)
  | moment m => .ok m.description
  | list items => do return Text.bracketed (← nestedAll items)
  | table entries => do return "\x7b" ++ Text.join ", " (← nestedEntries entries) ++ "\x7d"

def nestedAll : List Data → Except TooManyDigits (List String)
  | [] => .ok []
  | d :: ds => do
    let first ← nested d
    return first :: (← nestedAll ds)

def nestedEntries : List (String × Data) → Except TooManyDigits (List String)
  | [] => .ok []
  | (key, d) :: entries => do
    let first ← nested d
    return (Text.quoted key ++ ": " ++ first) :: (← nestedEntries entries)

end

def written : Data → Except TooManyDigits String
  | text s => .ok s
  | moment m => .ok m.text
  | d => nested d

end Data

end CodeRetrieval
