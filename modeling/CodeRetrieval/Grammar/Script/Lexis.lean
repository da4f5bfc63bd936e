import CodeRetrieval.Grammar.Lexicon

/-!
# Words and signs of script languages

White space, comments, words, numbers, texts and patterns of the script languages. Three
dialects differ in whether types may be written and whether markup may stand in
expressions.
-/

namespace CodeRetrieval.Grammar.Script

open Syntax

/-- A dialect: whether types are written, and whether markup stands in expressions. -/
structure Dialect where
  typed : Bool
  markup : Bool

inductive Part where
  | statement
  | block
  | expression
  | assignment
  | unary
  | binding
  | type
  | classBody
  | markup
deriving DecidableEq

def isWordStart (c : Char) : Bool :=
  isLetter c || c == '$' || c == '\\'

/-- White space, comments and words of script languages. -/
def lexicon : Lexicon :=
  ⟨skipSlashed false, isWordStart⟩

abbrev isWordPart (c : Char) : Bool := lexicon.continuesWord c

abbrev skip : Parser Unit := lexicon.skip

abbrev newlineAhead : Parser Bool := lexicon.newlineAhead

abbrev peekWord : Parser String := lexicon.peekWord

abbrev keyword (w : String) : Parser Unit := lexicon.keyword w

abbrev sign (s : String) : Parser Unit := lexicon.sign s

abbrev signAhead (s : String) : Parser Bool := lexicon.signAhead s

abbrev charAhead (p : Char → Bool) : Parser Bool := lexicon.charAhead p

abbrev tree (type : String) (p : Parser (List Tree)) : Parser Tree := lexicon.tree type p

abbrev word (type : String) : Parser Tree := lexicon.word type

abbrev listOf (open_ close : String) (p : Parser Tree) : Parser (List Tree) :=
  lexicon.listOf open_ close p

def reserved : List String :=
  ["break", "case", "catch", "class", "const", "continue", "debugger", "default", "delete",
   "do", "else", "export", "extends", "finally", "for", "function", "if", "import", "in",
   "instanceof", "new", "return", "super", "switch", "this", "throw", "try", "typeof",
   "var", "void", "while", "with", "null", "true", "false", "enum"]

/-! ## Literals -/

def takeQuoted : Parser Unit := do
  let c ← get
  match c.peek? with
  | some quote =>
    require (quote == '\x22' || quote == '\x27')
    take 1
    takeQuotedFrom quote c.remaining
  | none => failure

def quoted : Parser Tree := do
  skip
  leaf "string" takeQuoted

/-- A number, possibly with a base letter, a fraction, an exponent and a suffix. -/
def number : Parser Tree := do
  skip
  let c ← get
  let pointed := c.peek? == some '.' && (c.ahead? 1).any Char.isDigit
  require (c.peek?.any Char.isDigit || pointed)
  leaf "number" do
    takeWhile fun c => isWordPart c || c == '.'
    let c ← get
    let last := (c.text[c.pos - 1]?).any fun l => l == 'e' || l == 'E'
    if last && (c.peek? == some '-' || c.peek? == some '+') &&
        (c.ahead? 1).any Char.isDigit then do
      take 1
      takeWhile isWordPart

/-- Takes the rest of a pattern between slashes. A slash inside a class does not end it. -/
def takePatternFrom : Nat → Bool → Parser Unit
  | 0, _ => failure
  | n + 1, inClass => do
    match (← get).peek? with
    | none => failure
    | some c =>
      if c = '\n' then failure
      else if c = '\\' then do
        take 2
        takePatternFrom n inClass
      else if c = '/' && !inClass then take 1
      else do
        take 1
        takePatternFrom n (if c = '[' then true else if c = ']' then false else inClass)

def pattern : Parser Tree := do
  skip
  leaf "regex" do
    exactly "/"
    takePatternFrom (← get).remaining false
    takeWhile isWordPart

/-- Reads the parts of a template between backquotes. The number bounds its characters. -/
def templateFrom (p : Rules Part) (part : Part) : Nat → List Tree → Parser (List Tree)
  | 0, _ => failure
  | n + 1, found => do
    match (← get).peek? with
    | none => failure
    | some c =>
      if c = '\x60' then do
        take 1
        return found.reverse
      else if c = '\\' then do
        take 2
        templateFrom p part n found
      else if ← lookingAt "$\x7b" then do
        let inner ← node "template_substitution" do
          take 2
          let e ← p part
          sign "\x7d"
          return [e]
        templateFrom p part n (inner :: found)
      else do
        take 1
        templateFrom p part n found

/-- A template between backquotes. Its substitutions are read with the given member of
the grammar. -/
def template (p : Rules Part) (part : Part) : Parser Tree :=
  tree "template_string" do
    exactly "\x60"
    templateFrom p part (← get).remaining []

end CodeRetrieval.Grammar.Script
