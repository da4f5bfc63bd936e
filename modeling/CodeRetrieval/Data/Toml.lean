import CodeRetrieval.Data.Notation

/-!
# Reading TOML

A reader for TOML 1.0 documents. A document is read statement by statement into a table.
Beside the table stand two lists of key paths: those that a statement has opened and no
header may open again, and those that hold an inline value and can no longer change.
-/

namespace CodeRetrieval.Data.Toml

open Notation

/-- A reader takes a value from the front of a text, or refuses it. -/
abbrev Reader (α : Type) := List Char → Option (α × List Char)

def isSpace (c : Char) : Bool :=
  c == ' ' || c == '\t'

def skip (s : List Char) : List Char :=
  s.dropWhile isSpace

/-- Control characters, which texts and comments may not hold. -/
def isControl (c : Char) : Bool :=
  (decide (c.toNat < 0x20) || c.toNat == 0x7F) && c != '\t'

def skipComment (s : List Char) : Option (List Char) :=
  match s with
  | '#' :: s =>
    if (s.takeWhile (· != '\n')).any isControl then none
    else some (s.dropWhile (· != '\n'))
  | _ => some s

/-- Passes over blanks, line ends and comments. The number bounds the comments. -/
def skipBetween : Nat → List Char → Option (List Char)
  | 0, _ => none
  | n + 1, s => do
    let rest := s.dropWhile fun c => isSpace c || c == '\n'
    let rest' ← skipComment rest
    if rest'.length == s.length then some rest' else skipBetween n rest'

/-! ## Texts -/

/-- Reads hexadecimal digits that stand for a character. -/
def readCodePoint (width : Nat) : Reader (List Char) := fun s => do
  let ds ← (s.take width).mapM Text.hexDigit?
  if ds.length != width then none
  else
    let n := Text.valueOf 16 ds
    if n.isValidChar then return ([Char.ofNat n], s.drop width) else none

/-- Reads an escape after its backslash. Where texts of several lines are read, a
backslash at the end of a line takes the line end and all blanks after it away. -/
def readEscape (multiline : Bool) : Reader (List Char) := fun s =>
  match s with
  | 'b' :: s => some (['\x08'], s)
  | 't' :: s => some (['\t'], s)
  | 'n' :: s => some (['\n'], s)
  | 'f' :: s => some (['\x0c'], s)
  | 'r' :: s => some (['\r'], s)
  | '\x22' :: s => some (['\x22'], s)
  | '\\' :: s => some (['\\'], s)
  | 'u' :: s => readCodePoint 4 s
  | 'U' :: s => readCodePoint 8 s
  | c :: _ =>
    if multiline && (isSpace c || c == '\n') then
      match skip s with
      | [] => some ([], [])
      | '\n' :: rest => some ([], rest.dropWhile fun c => isSpace c || c == '\n')
      | _ => none
    else none
  | [] => none

/-- Reads the rest of a text between double quotes. The number bounds the characters. -/
def readBasicFrom (multiline : Bool) : Nat → Reader (List Char)
  | 0, _ => none
  | _ + 1, [] => none
  | n + 1, c :: s =>
    if c = '\x22' then
      if multiline then
        match after? "\x22\x22" s with
        | some rest => some ([], rest)
        | none => (readBasicFrom multiline n s).map fun (cs, rest) => (c :: cs, rest)
      else some ([], s)
    else if c = '\\' then do
      let (start, rest) ← readEscape multiline s
      let (cs, rest) ← readBasicFrom multiline n rest
      return (start ++ cs, rest)
    else if isControl c && !(multiline && c == '\n') then none
    else (readBasicFrom multiline n s).map fun (cs, rest) => (c :: cs, rest)

def readBasic (multiline : Bool) : Reader (List Char) := fun s =>
  readBasicFrom multiline (s.length + 1) s

def readLiteral : Reader (List Char) := fun s =>
  let body := s.takeWhile (· != '\x27')
  match s.drop body.length with
  | [] => none
  | _ :: rest => if body.any isControl then none else some (body, rest)

def readLiteralLines : List Char → Option (List Char × List Char)
  | '\x27' :: '\x27' :: '\x27' :: rest => some ([], rest)
  | c :: s =>
    if isControl c && c != '\n' then none
    else (readLiteralLines s).map fun (cs, rest) => (c :: cs, rest)
  | [] => none

/-- Up to two more quotes belong to a text of several lines when they follow its end. -/
def takeExtraQuotes (quote : Char) (body rest : List Char) : List Char × List Char :=
  match rest with
  | a :: b :: r =>
    if a = quote then (if b = quote then (body ++ [quote, quote], r)
      else (body ++ [quote], b :: r))
    else (body, rest)
  | [a] => if a = quote then (body ++ [quote], []) else (body, rest)
  | [] => (body, rest)

/-- Reads the rest of a text of several lines, after its three quotes. -/
def readLines (quote : Char) : Reader (List Char) := fun s => do
  let s := (after? "\n" s).getD s
  let (body, rest) ← if quote = '\x27' then readLiteralLines s else readBasic true s
  return takeExtraQuotes quote body rest

/-! ## Keys -/

abbrev Path := List String

def isBareKeyChar (c : Char) : Bool :=
  c.isAlphanum || c == '-' || c == '_'

def readKeyPart : Reader String := fun s =>
  match s with
  | '\x27' :: s => (readLiteral s).map fun (cs, rest) => (String.ofList cs, rest)
  | '\x22' :: s => (readBasic false s).map fun (cs, rest) => (String.ofList cs, rest)
  | c :: _ =>
    if isBareKeyChar c then
      some (String.ofList (s.takeWhile isBareKeyChar), s.dropWhile isBareKeyChar)
    else none
  | [] => none

/-- Reads a path of keys with points between them. The number bounds the keys. -/
def readPathFrom : Nat → Reader Path
  | 0, _ => none
  | n + 1, s => do
    let (key, rest) ← readKeyPart s
    match skip rest with
    | '.' :: rest => do
      let (keys, rest) ← readPathFrom n (skip rest)
      return (key :: keys, rest)
    | rest => return ([key], rest)

def readPath : Reader Path := fun s =>
  readPathFrom (s.length + 1) s

/-! ## Numbers and moments -/

/-- The digits at the front of a text, with single underscores between them, and the
rest. The flag tells whether a digit comes before. -/
def digitsFrom (isDigit : Char → Bool) : Bool → List Char → List Char × List Char
  | true, '_' :: c :: s =>
    if isDigit c then
      let (ds, rest) := digitsFrom isDigit true s
      (c :: ds, rest)
    else ([], '_' :: c :: s)
  | _, c :: s =>
    if isDigit c then
      let (ds, rest) := digitsFrom isDigit true s
      (c :: ds, rest)
    else ([], c :: s)
  | _, [] => ([], [])

def readDigits? (isDigit : Char → Bool) (s : List Char) : Option (List Char × List Char) :=
  let (ds, rest) := digitsFrom isDigit false s
  if ds.isEmpty then none else some (ds, rest)

/-- The bases other than ten, with the letter that announces each and its digits. -/
def bases : List (Char × Nat × (Char → Bool)) :=
  [('x', 16, fun c => (Text.hexDigit? c).isSome),
   ('b', 2, fun c => c == '0' || c == '1'),
   ('o', 8, fun c => decide ('0' ≤ c) && decide (c ≤ '7'))]

/-- Reads a whole number in another base than ten. -/
def readBased : Reader Data := fun s =>
  match s with
  | '0' :: letter :: rest => do
    let (base, isDigit) ← bases.lookup letter
    let (ds, rest) ← readDigits? isDigit rest
    return (.int (Text.valueOf base (ds.filterMap Text.hexDigit?)), rest)
  | _ => none

/-- Reads the whole part of a number: a zero, or digits that start with another one. -/
def readWhole (s : List Char) : Option (List Char × List Char) :=
  match s with
  | '0' :: rest => some (['0'], rest)
  | _ => readDigits? Char.isDigit s

def readDecimal : Reader Data := fun s => do
  let (negative, s) := Decimal.splitSign s
  let (whole, rest) ← readWhole s
  let (fraction, rest) := splitFraction (digitsFrom Char.isDigit false) rest
  let (exponent, rest) := splitExponent (digitsFrom Char.isDigit false) rest
  let d ← ofDigits? negative whole fraction exponent
  return (d, rest)

def specialNumbers : List (String × Data) :=
  [("inf", .float (1.0 / 0.0)), ("nan", .float (0.0 / 0.0)), ("-inf", .float (-1.0 / 0.0)),
   ("+inf", .float (1.0 / 0.0)), ("-nan", .float (0.0 / 0.0)), ("+nan", .float (0.0 / 0.0))]

/-- Reads exactly `width` decimal digits as a number between two bounds. -/
def readFixed (width low high : Nat) : Reader Nat := fun s => do
  let ds := s.take width
  if ds.length == width && ds.all Char.isDigit then
    let n := Decimal.digitsValue ds
    if decide (low ≤ n) && decide (n ≤ high) then return (n, s.drop width) else none
  else none

/-- Reads a time of day. Of a fraction of a second six digits count. -/
def readTime : Reader ClockTime := fun s => do
  let (hour, s) ← readFixed 2 0 23 s
  let s ← after? ":" s
  let (minute, s) ← readFixed 2 0 59 s
  let s ← after? ":" s
  let (second, s) ← readFixed 2 0 59 s
  match s with
  | '.' :: rest =>
    let ds := rest.takeWhile Char.isDigit
    if ds.isEmpty then return (⟨hour, minute, second, 0⟩, s)
    else
      let six := ds.take 6
      return (⟨hour, minute, second, Decimal.digitsValue six * Nat.pow 10 (6 - six.length)⟩,
        rest.drop ds.length)
  | _ => return (⟨hour, minute, second, 0⟩, s)

/-- Reads a distance from universal time in minutes, if one comes next. -/
def readOffset (s : List Char) : Option Int × List Char :=
  match s with
  | c :: rest =>
    if c = 'Z' ∨ c = 'z' then (some 0, rest)
    else if c = '+' ∨ c = '-' then
      let read : Option (Int × List Char) := do
        let (hours, r) ← readFixed 2 0 23 rest
        let r ← after? ":" r
        let (minutes, r) ← readFixed 2 0 59 r
        let n : Int := hours * 60 + minutes
        return (if c = '-' then -n else n, r)
      match read with
      | some (n, r) => (some n, r)
      | none => (none, s)
    else (none, s)
  | [] => (none, [])

def readDay : Reader CalendarDay := fun s => do
  let (year, s) ← readFixed 4 0 9999 s
  let s ← after? "-" s
  let (month, s) ← readFixed 2 1 12 s
  let s ← after? "-" s
  let (day, s) ← readFixed 2 1 31 s
  return (⟨year, month, day⟩, s)

/-- Reads a date with an optional time after it. The answer is nothing inside when the
day does not exist. -/
def readDayTime (s : List Char) : Option (Option (Moment × List Char)) := do
  let (day, s) ← readDay s
  let time :=
    match s with
    | c :: rest => if c = 'T' ∨ c = 't' ∨ c = ' ' then readTime rest else none
    | [] => none
  if !day.isValid then return none
  else
    match time with
    | none => return some (.day day, s)
    | some (t, rest) =>
      let (offset, rest) := readOffset rest
      return some (.dayTime day t offset, rest)

def readAtom : Reader Data := fun s =>
  match readDayTime s with
  | some found => found.map fun (m, rest) => (.moment m, rest)
  | none =>
    match readTime s with
    | some (t, rest) => some (.moment (.time t), rest)
    | none =>
      match (readBased s).or (readDecimal s) with
      | some read => some read
      | none => specialNumbers.findSome? fun (word, value) =>
          (after? word s).map fun rest => (value, rest)

/-! ## Tables -/

/-- Changes the table at a path below a table. Missing tables are made; with
`throughLists` the last table of a list of tables stands for the list. Nothing if
something else is in the way or the change fails. -/
def changeAt? (throughLists : Bool)
    (change : List (String × Data) → Option (List (String × Data))) :
    Path → List (String × Data) → Option (List (String × Data))
  | [], entries => change entries
  | key :: path, entries =>
    match entries.lookup key with
    | none => do
      return Table.set key (.table (← changeAt? throughLists change path [])) entries
    | some (.table below) => do
      return Table.set key (.table (← changeAt? throughLists change path below)) entries
    | some (.list items) =>
      match throughLists, items.getLast? with
      | true, some (.table below) => do
        let last ← changeAt? throughLists change path below
        return Table.set key (.list (items.dropLast ++ [.table last])) entries
      | _, _ => none
    | some _ => none

/-- Adds a key that must be new. -/
def addKey? (key : String) (value : Data) (entries : List (String × Data)) :
    Option (List (String × Data)) :=
  if (entries.lookup key).isSome then none else some (entries ++ [(key, value)])

def isContainer : Data → Bool
  | .list _ | .table _ => true
  | _ => false

/-- Some path of the list leads to the key at `path` or to something above it. -/
def covers (paths : List Path) (path : Path) : Bool :=
  !path.isEmpty && paths.any fun p => p.isPrefixOf path

def splitLast : Path → Path × String
  | path => (path.dropLast, path.getLast?.getD "")

mutual

/-- Reads a value. The number bounds the values and entries that may be read. -/
def readValue : Nat → Reader Data
  | 0, _ => none
  | n + 1, s =>
    match s with
    | '\x22' :: '\x22' :: '\x22' :: rest =>
      (readLines '\x22' rest).map fun (cs, rest) => (.text (String.ofList cs), rest)
    | '\x22' :: rest => (readBasic false rest).map fun (cs, rest) =>
        (.text (String.ofList cs), rest)
    | '\x27' :: '\x27' :: '\x27' :: rest =>
      (readLines '\x27' rest).map fun (cs, rest) => (.text (String.ofList cs), rest)
    | '\x27' :: rest => (readLiteral rest).map fun (cs, rest) =>
        (.text (String.ofList cs), rest)
    | '[' :: rest => do
      match ← skipBetween (rest.length + 1) rest with
      | ']' :: rest => return (.list [], rest)
      | rest => (readItems n rest).map fun (items, rest) => (.list items, rest)
    | '\x7b' :: rest =>
      match skip rest with
      | '\x7d' :: rest => some (.table [], rest)
      | rest => (readInline n [] [] rest).map fun (entries, rest) => (.table entries, rest)
    | s =>
      match after? "true" s, after? "false" s with
      | some rest, _ => some (.bool true, rest)
      | _, some rest => some (.bool false, rest)
      | none, none => readAtom s

def readItems : Nat → Reader (List Data)
  | 0, _ => none
  | n + 1, s => do
    let (first, rest) ← readValue n s
    match ← skipBetween (rest.length + 1) rest with
    | ']' :: rest => return ([first], rest)
    | ',' :: rest =>
      match ← skipBetween (rest.length + 1) rest with
      | ']' :: rest => return ([first], rest)
      | rest => do
        let (items, rest) ← readItems n rest
        return (first :: items, rest)
    | _ => none

def readPair : Nat → Reader (Path × Data)
  | 0, _ => none
  | n + 1, s => do
    let (path, rest) ← readPath s
    let rest ← after? "=" rest
    let (value, rest) ← readValue n (skip rest)
    return ((path, value), rest)

/-- Reads the entries of an inline table up to its end, after those already read, of
which some cannot change. -/
def readInline : Nat → List Path → List (String × Data) → Reader (List (String × Data))
  | 0, _, _, _ => none
  | n + 1, frozen, entries, s => do
    let ((path, value), rest) ← readPair n s
    if covers frozen path then none
    else
      let (parent, key) := splitLast path
      let entries ← changeAt? false (addKey? key value) parent entries
      let frozen := if isContainer value then path :: frozen else frozen
      match skip rest with
      | '\x7d' :: rest => return (entries, rest)
      | ',' :: rest => readInline n frozen entries (skip rest)
      | _ => none

end

/-! ## Documents -/

/-- A document as far as it has been read. -/
structure Document where
  entries : List (String × Data)
  /-- The table that the last header opened. -/
  header : Path
  /-- Tables that no header may open again. -/
  opened : List Path
  /-- Tables that join them at the next header. -/
  pending : List Path
  /-- Lists and tables written inline. -/
  frozen : List Path

namespace Document

def empty : Document := ⟨[], [], [], [], []⟩

/-- Settles the tables that the statements before a header have opened. -/
def settle (d : Document) : Document :=
  { d with opened := d.pending ++ d.opened, pending := [] }

def openTable? (d : Document) (path : Path) : Option Document :=
  if d.opened.contains path || covers d.frozen path then none
  else do
    let entries ← changeAt? true some path d.entries
    return { d with entries, header := path, opened := path :: d.opened }

def openListTable? (d : Document) (path : Path) : Option Document :=
  if covers d.frozen path then none
  else
    let (parent, key) := splitLast path
    let append (entries : List (String × Data)) : Option (List (String × Data)) :=
      match entries.lookup key with
      | none => some (entries ++ [(key, .list [.table []])])
      | some (.list items) => some (Table.set key (.list (items ++ [.table []])) entries)
      | some _ => none
    do
      let entries ← changeAt? true append parent d.entries
      let outside (paths : List Path) := paths.filter fun p => !path.isPrefixOf p
      return { d with
        entries, header := path, opened := path :: outside d.opened,
        frozen := outside d.frozen }

/-- The tables that a path of keys passes through on the way to its last key. -/
def passedThrough (header path : Path) : List Path :=
  (List.range (path.length - 1)).map fun i => header ++ path.take (i + 1)

/-- Sets the value at a path below the open table. -/
def set? (d : Document) (path : Path) (value : Data) : Option Document :=
  let passed := passedThrough d.header path
  let (parent, key) := splitLast path
  let parent := d.header ++ parent
  if passed.any d.opened.contains || covers d.frozen parent then none
  else do
    let entries ← changeAt? true (addKey? key value) parent d.entries
    return { d with
      entries
      pending := passed ++ d.pending
      frozen := if isContainer value then (d.header ++ path) :: d.frozen else d.frozen }

/-- Reads the statement that starts a line, if there is one. -/
def readStatement? (d : Document) (s : List Char) : Option (Document × List Char) :=
  match s with
  | '[' :: '[' :: rest => do
    let (path, rest) ← readPath (skip rest)
    let d ← d.settle.openListTable? path
    return (d, ← after? "]]" rest)
  | '[' :: rest => do
    let (path, rest) ← readPath (skip rest)
    let d ← d.settle.openTable? path
    return (d, ← after? "]" rest)
  | c :: _ =>
    if isBareKeyChar c || c == '\x22' || c == '\x27' then do
      let ((path, value), rest) ← readPair (2 * s.length + 2) s
      return (← d.set? path value, rest)
    else some (d, s)
  | [] => some (d, [])

/-- Reads the lines of a document. The number bounds them. -/
def readFrom : Nat → Document → List Char → Option Document
  | 0, _, _ => none
  | n + 1, d, s => do
    let (d, rest) ← d.readStatement? (skip s)
    match ← skipComment (skip rest) with
    | [] => return d
    | '\n' :: rest => readFrom n d rest
    | _ => none

end Document

def unifyLineEnds : List Char → List Char
  | '\r' :: '\n' :: s => '\n' :: unifyLineEnds s
  | c :: s => c :: unifyLineEnds s
  | [] => []

def read? (s : List Char) : Option (List (String × Data)) :=
  let s := unifyLineEnds s
  (Document.readFrom (s.length + 1) .empty s).map Document.entries

end CodeRetrieval.Data.Toml
