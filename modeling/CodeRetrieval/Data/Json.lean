import CodeRetrieval.Data.Notation

/-!
# Reading JSON

A reader for JSON texts that also takes `NaN`, `Infinity` and `-Infinity`. Of two equal
keys the last value counts, in the place of the first. Raw control characters in texts,
a byte order mark, and whole numbers of more than 4300 digits are refused.
-/

namespace CodeRetrieval.Data.Json

open Notation

/-- Why a text is refused. -/
inductive ReadError where
  /-- The text is not JSON. -/
  | malformed
  /-- A whole number has too many digits. -/
  | tooManyDigits
deriving DecidableEq, Repr

/-- A reader takes a value from the front of a text. -/
abbrev Reader (α : Type) := List Char → Except ReadError (α × List Char)

/-- White space between the parts of a JSON text. -/
def isSpace (c : Char) : Bool :=
  c == ' ' || c == '\t' || c == '\n' || c == '\r'

def skip (s : List Char) : List Char :=
  s.dropWhile isSpace

def unit? : List Char → Option Nat
  | a :: b :: c :: d :: _ => do
    return Text.valueOf 16
      [← Text.hexDigit? a, ← Text.hexDigit? b, ← Text.hexDigit? c, ← Text.hexDigit? d]
  | _ => none

/-- The first half of a pair of units that stand for one character. -/
def isHighUnit (n : Nat) : Bool :=
  decide (0xD800 ≤ n) && decide (n ≤ 0xDBFF)

/-- The second half of such a pair. -/
def isLowUnit (n : Nat) : Bool :=
  decide (0xDC00 ≤ n) && decide (n ≤ 0xDFFF)

/-- The character of a unit; half of a pair that stands alone becomes the replacement
character. -/
def ofUnit (n : Nat) : Char :=
  if isHighUnit n || isLowUnit n then '\uFFFD' else Char.ofNat n

/-- The character of a numeric escape, whose digits come next, and how many characters
the escape has. -/
def escapedUnit? (s : List Char) : Option (Char × Nat) := do
  let first ← unit? s
  let second := (after? "\\u" (s.drop 4)).bind unit?
  match second with
  | some low =>
    if isHighUnit first && isLowUnit low then
      return (Char.ofNat (0x10000 + (first - 0xD800) * 0x400 + (low - 0xDC00)), 10)
    else return (ofUnit first, 4)
  | none => return (ofUnit first, 4)

def escapedLetter? : Char → Option Char
  | '\x22' => some '\x22'
  | '\\' => some '\\'
  | '/' => some '/'
  | 'b' => some '\x08'
  | 'f' => some '\x0c'
  | 'n' => some '\n'
  | 'r' => some '\r'
  | 't' => some '\t'
  | _ => none

/-- Reads the rest of a quoted text. The number bounds the characters that may be read. -/
def readQuoted : Nat → Reader (List Char)
  | 0, _ => .error .malformed
  | _ + 1, [] => .error .malformed
  | n + 1, c :: s =>
    if c = '\x22' then .ok ([], s)
    else if c = '\\' then
      match s with
      | 'u' :: s =>
        match escapedUnit? s with
        | some (c, length) =>
            (readQuoted n (s.drop length)).map fun (cs, rest) => (c :: cs, rest)
        | none => .error .malformed
      | l :: s =>
        match escapedLetter? l with
        | some c => (readQuoted n s).map fun (cs, rest) => (c :: cs, rest)
        | none => .error .malformed
      | [] => .error .malformed
    else if c.toNat < 0x20 then .error .malformed
    else (readQuoted n s).map fun (cs, rest) => (c :: cs, rest)

def readText : Reader String := fun s =>
  (readQuoted (s.length + 1) s).map fun (cs, rest) => (String.ofList cs, rest)

/-- The digits that a number starts with: a zero, or digits that start with another one. -/
def wholeDigits : List Char → List Char
  | '0' :: _ => ['0']
  | s => s.takeWhile Char.isDigit

def readMagnitude (negative : Bool) : Reader Data := fun s =>
  let whole := wholeDigits s
  let rest := s.drop whole.length
  if whole.isEmpty then .error .malformed
  else
    let (fraction, rest) := splitFraction plainDigits rest
    let (exponent, rest) := splitExponent plainDigits rest
    match ofDigits? negative whole fraction exponent with
    | some d => .ok (d, rest)
    | none => .error .tooManyDigits

def constants : List (String × Data) :=
  [("null", .null), ("true", .bool true), ("false", .bool false),
   ("NaN", .float (0.0 / 0.0)), ("Infinity", .float (1.0 / 0.0)),
   ("-Infinity", .float (-1.0 / 0.0))]

/-- Reads a value written as a word, or a number. -/
def readAtom : Reader Data := fun s =>
  match constants.findSome? fun (word, value) =>
    (after? word s).map fun rest => (value, rest) with
  | some read => .ok read
  | none =>
    match s with
    | '-' :: s => readMagnitude true s
    | s => readMagnitude false s

mutual

/-- Reads a value. The number bounds the values and entries that may be read. -/
def readValue : Nat → Reader Data
  | 0, _ => .error .malformed
  | n + 1, s =>
    match s with
    | '\x22' :: s => (readText s).map fun (t, rest) => (.text t, rest)
    | '[' :: s =>
      match skip s with
      | ']' :: rest => .ok (.list [], rest)
      | s => (readItems n s).map fun (items, rest) => (.list items, rest)
    | '\x7b' :: s =>
      match skip s with
      | '\x7d' :: rest => .ok (.table [], rest)
      | s => (readEntries n [] s).map fun (entries, rest) => (.table entries, rest)
    | s => readAtom s

def readItems : Nat → Reader (List Data)
  | 0, _ => .error .malformed
  | n + 1, s => do
    let (first, rest) ← readValue n s
    match skip rest with
    | ']' :: rest => return ([first], rest)
    | ',' :: rest => do
      let (items, rest) ← readItems n (skip rest)
      return (first :: items, rest)
    | _ => .error .malformed

/-- Reads the entries of a table up to its end, after those already read. -/
def readEntries : Nat → List (String × Data) → Reader (List (String × Data))
  | 0, _, _ => .error .malformed
  | n + 1, entries, s =>
    match s with
    | '\x22' :: s => do
      let (key, rest) ← readText s
      match skip rest with
      | ':' :: rest => do
        let (value, rest) ← readValue n (skip rest)
        let entries := Table.set key value entries
        match skip rest with
        | '\x7d' :: rest => return (entries, rest)
        | ',' :: rest => readEntries n entries (skip rest)
        | _ => .error .malformed
      | _ => .error .malformed
    | _ => .error .malformed

end

/-- What a value starts with decides how it is read. -/
theorem readValue_succ (n : Nat) (s : List Char) : readValue (n + 1) s =
    match s with
    | '\x22' :: s => (readText s).map fun (t, rest) => (.text t, rest)
    | '[' :: s =>
      match skip s with
      | ']' :: rest => .ok (.list [], rest)
      | s => (readItems n s).map fun (items, rest) => (.list items, rest)
    | '\x7b' :: s =>
      match skip s with
      | '\x7d' :: rest => .ok (.table [], rest)
      | s => (readEntries n [] s).map fun (entries, rest) => (.table entries, rest)
    | s => readAtom s := rfl

theorem readItems_succ (n : Nat) (s : List Char) : readItems (n + 1) s = (do
    let (first, rest) ← readValue n s
    match skip rest with
    | ']' :: rest => return ([first], rest)
    | ',' :: rest => do
      let (items, rest) ← readItems n (skip rest)
      return (first :: items, rest)
    | _ => .error .malformed) := rfl

theorem readEntries_succ (n : Nat) (entries : List (String × Data)) (s : List Char) :
    readEntries (n + 1) entries s =
    match s with
    | '\x22' :: s => do
      let (key, rest) ← readText s
      match skip rest with
      | ':' :: rest => do
        let (value, rest) ← readValue n (skip rest)
        let entries := Table.set key value entries
        match skip rest with
        | '\x7d' :: rest => return (entries, rest)
        | ',' :: rest => readEntries n entries (skip rest)
        | _ => .error .malformed
      | _ => .error .malformed
    | _ => .error .malformed := rfl

def read (s : List Char) : Except ReadError Data := do
  let (value, rest) ← readValue (2 * s.length + 2) (skip s)
  if (skip rest).isEmpty then return value else .error .malformed

end CodeRetrieval.Data.Json
