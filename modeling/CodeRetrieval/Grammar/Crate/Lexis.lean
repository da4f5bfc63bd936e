import CodeRetrieval.Grammar.Lexicon

/-!
# Words and signs of crates

The text of a crate of functions, types and implementations. What stands between the
brackets of a macro or an attribute is no syntax of its own, but a tree of tokens; the
same reading passes over patterns, in which nothing is called.
-/

namespace CodeRetrieval.Grammar.Crate

open Syntax

inductive Part where
  | statement
  | block
  /-- An expression. In the head of a statement no literal of a structure can start, as
  its brace opens the block. -/
  | expression (literals : Bool)
  | unary (literals : Bool)
  | type
  | item
deriving DecidableEq

/-- White space, comments and words of crates. Comments nest. -/
def lexicon : Lexicon :=
  ⟨skipSlashed true, isLetter⟩

abbrev isWordPart (c : Char) : Bool := lexicon.continuesWord c

abbrev skip : Parser Unit := lexicon.skip

abbrev keyword (w : String) : Parser Unit := lexicon.keyword w

abbrev sign (s : String) : Parser Unit := lexicon.sign s

abbrev signAhead (s : String) : Parser Bool := lexicon.signAhead s

abbrev charAhead (p : Char → Bool) : Parser Bool := lexicon.charAhead p

abbrev tree (type : String) (p : Parser (List Tree)) : Parser Tree := lexicon.tree type p

abbrev listOf (open_ close : String) (p : Parser Tree) : Parser (List Tree) :=
  lexicon.listOf open_ close p

/-- The next word, empty if no word comes next. A word that would be a keyword may be
written with a mark before it. -/
def peekWord : Parser String := do
  skip
  let c ← get
  if c.startsWith ['r', '#'] 0 && (c.ahead? 2).any isLetter then
    return c.textOf (c.spanLength isWordPart c.remaining 2)
  else lexicon.peekWord

/-- Words that name nothing. -/
def reserved : List String :=
  ["as", "break", "const", "continue", "else", "enum", "extern", "false", "fn", "for", "if",
   "impl", "in", "let", "loop", "match", "mod", "move", "mut", "pub", "ref", "return",
   "static", "struct", "trait", "true", "type", "unsafe", "use", "where", "while"]

def name (type : String) : Parser Tree := do
  let w ← peekWord
  require (w != "" && !reserved.contains w)
  leaf type (take w.length)

/-! ## Literals -/

/-- Takes the rest of a text whose end is written `close`. The number bounds its
characters. -/
def takeRawFrom (close : List Char) : Nat → Parser Unit
  | 0 => failure
  | n + 1 => do
    let c ← get
    if c.startsWith close 0 then take close.length
    else if c.peek?.isNone then failure
    else do
      take 1
      takeRawFrom close n

/-- Takes a text: between double quotes with escapes, or as it stands between quotes
with as many number signs. -/
def takeText : Parser Unit := do
  let c ← get
  let letters := c.spanLength (fun l => l == 'b' || l == 'r' || l == 'c') 2 0
  let raw := 0 < letters && c.ahead? (letters - 1) == some 'r'
  let marks := if raw then c.spanLength (· == '#') c.remaining letters - letters else 0
  require (c.ahead? (letters + marks) == some '\x22')
  take (letters + marks + 1)
  if raw then takeRawFrom ('\x22' :: List.replicate marks '#') (← get).remaining
  else takeQuotedFrom '\x22' (← get).remaining

/-- Takes a character between single quotes, or the octet that it stands for. -/
def takeCharacter : Parser Unit := do
  let _ ← optional (exactly "b")
  let c ← get
  require (c.peek? == some '\x27')
  require (c.ahead? 1 == some '\\' || c.ahead? 2 == some '\x27')
  take 1
  takeQuotedFrom '\x27' c.remaining

def text : Parser Tree := do
  skip
  leaf "string_literal" takeText

def character : Parser Tree := do
  skip
  leaf "char_literal" takeCharacter

def lifetime : Parser Tree := do
  skip
  leaf "lifetime" do
    exactly "\x27"
    require (← nextIs isLetter)
    takeWhile isWordPart

/-- A number. A point belongs to it unless a range or a selection starts with it. -/
def number : Parser Tree := do
  skip
  let c ← get
  require (c.peek?.any Char.isDigit)
  let based := c.peek? == some '0' && (c.ahead? 1).any fun l => l == 'x' ||
    l == 'b' || l == 'o'
  leaf "number" do
    takeWhile isWordPart
    let _ ← optional do
      let c ← get
      require (!based && c.peek? == some '.')
      require (!(c.ahead? 1).any fun l => l == '.' || isLetter l)
      take 1
      takeWhile isWordPart
    let c ← get
    let last := (c.text[c.pos - 1]?).any fun l => l == 'e' || l == 'E'
    if !based && last && (c.peek? == some '-' || c.peek? == some '+') then do
      take 1
      takeWhile isWordPart

/-! ## Trees of tokens -/

def token : Parser Unit := do
  skip
  firstOf
    [takeText,
     takeCharacter,
     do let _ ← lifetime,
     do let _ ← number,
     do
      let w ← peekWord
      require (w != "")
      take w.length,
     firstOf (["..=", "=>", "==", "::", "->", "<=", ">=", "!="].map exactly),
     do
      require (!(← atEnd))
      require (!(← nextIs fun c => "()[]\x7b\x7d".toList.contains c))
      take 1]

/-- Takes tokens up to the bracket that closes the last of the open ones. The number
bounds the tokens. -/
def tokensFrom : Nat → List Char → Parser Unit
  | 0, _ => failure
  | _ + 1, [] => pure ()
  | n + 1, close :: rest => do
    skip
    match (← get).peek? with
    | some '(' => open_ n ')' (close :: rest)
    | some '[' => open_ n ']' (close :: rest)
    | some '\x7b' => open_ n '\x7d' (close :: rest)
    | some c =>
      if c = close then do
        take 1
        tokensFrom n rest
      else do
        token
        tokensFrom n (close :: rest)
    | none => failure
where
  /-- Takes an opening bracket. -/
  open_ (n : Nat) (close : Char) (closes : List Char) : Parser Unit := do
    take 1
    tokensFrom n (close :: closes)

def tokenTree : Parser Tree :=
  tree "token_tree" do
    let close ←
      match (← get).peek? with
      | some '(' => pure ')'
      | some '[' => pure ']'
      | some '\x7b' => pure '\x7d'
      | _ => failure
    take 1
    tokensFrom (← get).remaining [close]
    return []

/-- Passes over tokens and trees of tokens up to where `stop` holds: a pattern, in which
nothing is called. -/
def pattern (stop : Parser Bool) : Parser Unit := do
  let _ ← many do
    require (!(← stop))
    firstOf [do let _ ← tokenTree, token]

def attributes : Parser Unit := do
  let _ ← many do
    sign "#"
    let _ ← optional (sign "!")
    let _ ← tokenTree

end CodeRetrieval.Grammar.Crate
