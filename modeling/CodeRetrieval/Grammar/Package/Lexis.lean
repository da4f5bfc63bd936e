import CodeRetrieval.Grammar.Lexicon

/-!
# Words and signs of packages

The text of a package of functions, methods with receivers, and types. A line end ends a
statement, so that an operator, a call or a selection stands on the line of its operand.
-/

namespace CodeRetrieval.Grammar.Package

open Syntax

inductive Part where
  | statement
  | block
  /-- An expression. In the head of a statement no literal of a named type can start, as
  its brace opens the block. -/
  | expression (literals : Bool)
  | unary (literals : Bool)
  | literalValue
  | type
deriving DecidableEq

/-- White space, comments and words of packages. -/
def lexicon : Lexicon :=
  ⟨skipSlashed false, isLetter⟩

abbrev skip : Parser Unit := lexicon.skip

abbrev newlineAhead : Parser Bool := lexicon.newlineAhead

abbrev peekWord : Parser String := lexicon.peekWord

abbrev keyword (w : String) : Parser Unit := lexicon.keyword w

abbrev sign (s : String) : Parser Unit := lexicon.sign s

abbrev signAhead (s : String) : Parser Bool := lexicon.signAhead s

abbrev charAhead (p : Char → Bool) : Parser Bool := lexicon.charAhead p

abbrev tree (type : String) (p : Parser (List Tree)) : Parser Tree := lexicon.tree type p

abbrev listOf (open_ close : String) (p : Parser Tree) : Parser (List Tree) :=
  lexicon.listOf open_ close p

/-- Words that name nothing. -/
def reserved : List String :=
  ["break", "case", "chan", "const", "continue", "default", "defer", "else", "fallthrough",
   "for", "func", "go", "goto", "if", "import", "interface", "map", "package", "range",
   "return", "select", "struct", "switch", "type", "var"]

def name (type : String) : Parser Tree := do
  require (!reserved.contains (← peekWord))
  lexicon.word type

def quotedText : Parser Tree := do
  skip
  leaf "string" do
    match (← get).peek? with
    | some '\x60' => do
      take 1
      takeWhile (· != '\x60')
      exactly "\x60"
    | some q => do
      require (q == '\x22' || q == '\x27')
      take 1
      takeQuotedFrom q (← get).remaining
    | none => failure

/-- A number, possibly with a base letter, a fraction, an exponent and a suffix. -/
def number : Parser Tree := do
  skip
  let c ← get
  require (c.peek?.any Char.isDigit ||
    (c.peek? == some '.' && (c.ahead? 1).any Char.isDigit))
  let based := c.startsWith ['0', 'x'] 0 || c.startsWith ['0', 'X'] 0
  let exponents := if based then ['p', 'P'] else ['e', 'E']
  leaf "number" do
    takeWhile fun l => lexicon.continuesWord l || l == '.'
    let c ← get
    let last := (c.text[c.pos - 1]?).any exponents.contains
    if last && (c.peek? == some '-' || c.peek? == some '+') then do
      take 1
      takeWhile lexicon.continuesWord

/-- Takes the end of a statement or declaration: a semicolon, or nothing where a line or
a bracket ends. -/
def terminator : Parser Unit := do
  let ended ← charAhead fun c => c == ')' || c == '\x7d'
  if ← signAhead ";" then take 1
  else require (ended || (← newlineAhead) || (← atEnd))

/-- Reads members between two brackets, each with its terminator. -/
def terminated (open_ close : String) (p : Parser Tree) : Parser (List Tree) := do
  sign open_
  let items ← many do
    require (!(← signAhead close))
    let t ← p
    terminator
    return t
  sign close
  return items

end CodeRetrieval.Grammar.Package
