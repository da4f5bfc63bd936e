import CodeRetrieval.Grammar.Lexicon

/-!
# Words, signs and lines of indented languages

In an indented language a line end ends a statement unless a bracket is open, and the
indentation of a line tells the block it belongs to. A comment behind a block belongs to
the block if it is indented at least as far.
-/

namespace CodeRetrieval.Grammar.Indented

open Syntax

inductive Part where
  /-- A statement on a line with the given indentation. -/
  | statement (indent : Nat)
  /-- What is subordinate to a statement on a line with the given indentation. -/
  | suite (indent : Nat)
  | expression
  /-- Operands with operators between them, without conditions. -/
  | disjunction
  | unary
  | interpolation
deriving DecidableEq

/-- The length of a backslash with the line end that it hides; zero if there is none. -/
def continuationLength (c : Cursor) : Nat :=
  if c.startsWith ['\\', '\n'] 0 then 2
  else if c.startsWith ['\\', '\r', '\n'] 0 then 3
  else 0

/-- Passes over white space, comments and hidden line ends; over other line ends only
inside brackets. The number bounds them. -/
def skipFrom : Nat → Cursor → Cursor
  | 0, c => c
  | n + 1, c =>
    match c.peek? with
    | none => c
    | some '\n' => if 0 < c.brackets then skipFrom n c.step else c
    | some '#' => skipFrom n (c.skipWhile (· != '\n') c.remaining)
    | some '\\' =>
      let k := continuationLength c
      if 0 < k then skipFrom n (c.steps k) else c
    | some ch => if isBlank ch then skipFrom n c.step else c

/-- Passes over white space and comments up to the next token of the line. -/
def skip : Parser Unit :=
  modify fun c => skipFrom (c.remaining + 1) c

/-- White space, comments and words of indented languages. -/
def lexicon : Lexicon :=
  ⟨skip, isLetter⟩

abbrev isWordPart (c : Char) : Bool := lexicon.continuesWord c

abbrev peekWord : Parser String := lexicon.peekWord

abbrev keyword (w : String) : Parser Unit := lexicon.keyword w

abbrev sign (s : String) : Parser Unit := lexicon.sign s

abbrev signAhead (s : String) : Parser Bool := lexicon.signAhead s

abbrev tree (type : String) (p : Parser (List Tree)) : Parser Tree := lexicon.tree type p

def reserved : List String :=
  ["and", "as", "assert", "break", "class", "continue", "def", "del", "elif", "else",
   "except", "finally", "for", "from", "global", "if", "import", "in", "is", "lambda",
   "nonlocal", "not", "or", "pass", "raise", "return", "try", "while", "with", "yield"]

def name : Parser Tree := lexicon.word "identifier"

/-- Reads what comes between two brackets: items, each followed by whatever `more`
reads, and separated by signs of the given list. -/
def bracketed (open_ close : String) (separators : List String) (item : Parser Tree)
    (more : Parser (List Tree)) : Parser (List Tree) := do
  sign open_
  enterBrackets
  let items ← many do
    require (!(← signAhead close))
    let first ← optional item
    let rest ← more
    let _ ← optional (firstOf (separators.map sign))
    return first.toList ++ rest
  sign close
  leaveBrackets
  return items.flatten

/-! ## Lines -/

/-- The next token that is not on the present line, with the indentation of its line.
Blank lines and comments are passed over. A tab counts eight columns. The number bounds
the characters. -/
def nextLineFrom : Nat → Cursor → Nat → Cursor × Nat
  | 0, c, indent => (c, indent)
  | n + 1, c, indent =>
    match c.peek? with
    | none => (c, 0)
    | some ' ' => nextLineFrom n c.step (indent + 1)
    | some '\t' => nextLineFrom n c.step (indent + 8)
    | some '#' => nextLineFrom n (c.skipWhile (· != '\n') c.remaining) 0
    | some '\\' =>
      let k := continuationLength c
      if 0 < k then nextLineFrom n (c.steps k) indent else (c, indent)
    | some ch => if isBlank ch then nextLineFrom n c.step 0 else (c, indent)

def nextLine (c : Cursor) : Cursor × Nat :=
  nextLineFrom (c.remaining + 1) c 0

def atLineEnd : Parser Bool := do
  skip
  let c ← get
  return c.peek?.all (· == '\n')

/-- Goes on to the next line, whose indentation must be accepted. The result is the
indentation. -/
def startLine (accept : Nat → Bool) : Parser Nat := do
  require (← atLineEnd)
  let (c, indent) := nextLine (← get)
  require (c.peek?.isSome && accept indent)
  set c
  return indent

/-- The end of the next comment line, if the next line that is not blank holds nothing
but a comment and is indented at least as far as `indent`. The number bounds the
characters. -/
def commentLine? (indent : Nat) : Nat → Cursor → Nat → Option Cursor
  | 0, _, _ => none
  | n + 1, c, found =>
    match c.peek? with
    | none => none
    | some ' ' => commentLine? indent n c.step (found + 1)
    | some '\t' => commentLine? indent n c.step (found + 8)
    | some '#' => if indent ≤ found then some (c.skipWhile (· != '\n') c.remaining)
      else none
    | some ch => if isBlank ch then commentLine? indent n c.step 0 else none

/-- Takes the comments that belong to a block with the given indentation and stand
behind its last statement. The number bounds them. -/
def closeBlockFrom (indent : Nat) : Nat → Cursor → Cursor
  | 0, c => c
  | n + 1, c =>
    match commentLine? indent (c.remaining + 1) c 0 with
    | some c' => closeBlockFrom indent n { c' with stop := c'.point }
    | none => c

/-- Takes the comments that belong to a block with the given indentation and stand
behind its last statement. -/
def closeBlock (indent : Nat) : Parser Unit := do
  skip
  modify fun c => closeBlockFrom indent c.remaining c

/-! ## Numbers and texts -/

/-- A number, with a base letter, or with a fraction, an exponent and a suffix. -/
def number : Parser Tree := do
  skip
  let c ← get
  let based := c.peek? == some '0' && (c.ahead? 1).any fun l => "xXoObB".toList.contains l
  require (c.peek?.any Char.isDigit ||
    (c.peek? == some '.' && (c.ahead? 1).any Char.isDigit))
  leaf "number" do
    if based then takeWhile isWordPart
    else do
      let digit := fun c : Char => c.isDigit || c == '_'
      takeWhile digit
      let _ ← optional do
        exactly "."
        takeWhile digit
      let _ ← optional do
        require (← nextIs fun l => l == 'e' || l == 'E')
        take 1
        let _ ← optional do
          require (← nextIs fun l => l == '+' || l == '-')
          take 1
        require (← nextIs Char.isDigit)
        takeWhile digit
      takeWhile fun l => "jJlL".toList.contains l

/-- How a text starts. -/
structure Opening where
  /-- The length of the letters before the quote. -/
  letters : Nat
  /-- The text holds expressions in braces. -/
  formatted : Bool
  quote : Char
  /-- The quote is written three times at both ends. -/
  tripled : Bool

def Opening.close (o : Opening) : List Char :=
  if o.tripled then [o.quote, o.quote, o.quote] else [o.quote]

def opening? (c : Cursor) : Option Opening := do
  let letters := c.spanLength (fun l => "rRbBuUfFtT".toList.contains l) 3 0
  let quote ← c.ahead? letters
  if quote == '\x22' || quote == '\x27' then
    let formatted := (c.textOf letters).toList.any fun l => "fFtT".toList.contains l
    return ⟨letters, formatted, quote, c.startsWith [quote, quote, quote] letters⟩
  else none

/-- Reads the rest of a text up to its quotes. The number bounds its characters. -/
def textFrom (p : Rules Part) (o : Opening) : Nat → List Tree → Parser (List Tree)
  | 0, _ => failure
  | n + 1, found => do
    let c ← get
    match c.peek? with
    | none => failure
    | some ch =>
      if c.startsWith o.close 0 then do
        take o.close.length
        return found.reverse
      else if ch = '\\' then do
        let held := o.formatted && c.ahead? 1 == some '\x7b'
        let named := o.formatted && c.startsWith ['\\', 'N', '\x7b'] 0
        take (if held then 1 else if named then 3 else 2)
        textFrom p o n found
      else if o.formatted && ch = '\x7b' then
        if c.ahead? 1 == some '\x7b' then do
          take 2
          textFrom p o n found
        else do
          let inner ← p .interpolation
          textFrom p o n (inner :: found)
      else if ch = '\n' && !o.tripled then failure
      else do
        take 1
        textFrom p o n found

def text (p : Rules Part) : Parser Tree :=
  tree "string" do
    let c ← get
    let some o := opening? c | failure
    take (o.letters + o.close.length)
    textFrom p o c.remaining []

end CodeRetrieval.Grammar.Indented
