import CodeRetrieval.Grammar.Cursor
import CodeRetrieval.Text.Blank

/-!
# Words and signs

What languages differ in before any grammar: what may be passed over between two tokens,
and which characters make a word. Everything else about words and signs follows from
that.
-/

namespace CodeRetrieval.Grammar

open Syntax

/-- What stands between tokens, and what words are made of. -/
structure Lexicon where
  /-- Passes over white space and comments. -/
  skip : Parser Unit
  startsWord : Char → Bool

namespace Lexicon

def continuesWord (l : Lexicon) (c : Char) : Bool :=
  l.startsWord c || c.isDigit

/-- A line ends between the last character taken and the next one to take. -/
def newlineAhead (l : Lexicon) : Parser Bool := do
  l.skip
  let c ← get
  return decide (c.stop.row < c.row)

def peekWord (l : Lexicon) : Parser String := do
  l.skip
  let c ← get
  if c.peek?.any l.startsWord then
    return c.textOf (c.spanLength l.continuesWord c.remaining 0)
  else return ""

/-- Takes the next word, which must be `w`. -/
def keyword (l : Lexicon) (w : String) : Parser Unit := do
  require ((← l.peekWord) == w)
  take w.length

/-- Takes the next sign, which must start with `s`. -/
def sign (l : Lexicon) (s : String) : Parser Unit := do
  l.skip
  exactly s

def signAhead (l : Lexicon) (s : String) : Parser Bool := do
  l.skip
  lookingAt s

def charAhead (l : Lexicon) (p : Char → Bool) : Parser Bool := do
  l.skip
  nextIs p

/-- Reads a node after white space and comments. -/
def tree (l : Lexicon) (type : String) (p : Parser (List Tree)) : Parser Tree := do
  l.skip
  node type p

def word (l : Lexicon) (type : String) : Parser Tree := do
  let w ← l.peekWord
  require (w != "")
  leaf type (take w.length)

/-- Reads with `p` what comes between two signs, separated by commas, the last of which
may be followed by a comma. Nothing may stand between two commas. -/
def listOf (l : Lexicon) (open_ close : String) (p : Parser Tree) : Parser (List Tree) := do
  l.sign open_
  let items ← many do
    require (!(← l.signAhead close))
    let item ← optional (do require (!(← l.signAhead ",")); p)
    if !(← l.signAhead close) then l.sign ","
    return item.toList
  l.sign close
  return items.flatten

end Lexicon

/-! ## White space and comments -/

def isBlank (c : Char) : Bool :=
  Text.isBlank c || c == '\uFEFF' || c == '\u2060' || c == '\u200B'

/-- A letter, an underscore, or any character beyond ASCII that is not white space. -/
def isLetter (c : Char) : Bool :=
  c.isAlpha || c == '_' || (decide (128 ≤ c.toNat) && !isBlank c)

/-- Passes over the rest of a comment between slashes and stars, `depth` of which are
open. Where comments nest, a comment in a comment must be closed as well. The number
bounds the characters. -/
def skipStarComment (nested : Bool) : Nat → Nat → Cursor → Cursor
  | 0, _, c => c
  | n + 1, depth, c =>
    if c.startsWith ['*', '/'] 0 then
      if depth ≤ 1 then c.steps 2 else skipStarComment nested n (depth - 1) (c.steps 2)
    else if nested && c.startsWith ['/', '*'] 0 then
      skipStarComment nested n (depth + 1) (c.steps 2)
    else skipStarComment nested n depth c.step

/-- Passes over white space and comments that start with a slash. The number bounds them. -/
def skipSlashedFrom (nested : Bool) : Nat → Cursor → Cursor
  | 0, c => c
  | n + 1, c =>
    if c.peek?.any isBlank then skipSlashedFrom nested n c.step
    else if c.startsWith ['/', '/'] 0 then
      skipSlashedFrom nested n (c.skipWhile (· != '\n') c.remaining)
    else if c.startsWith ['/', '*'] 0 then
      skipSlashedFrom nested n (skipStarComment nested c.remaining 1 (c.steps 2))
    else c

/-- Passes over white space and comments that start with a slash. -/
def skipSlashed (nested : Bool) : Parser Unit :=
  modify fun c => skipSlashedFrom nested (c.remaining + 1) c

/-! ## Quotes -/

/-- Takes the rest of a text up to its quote. The number bounds its characters. -/
def takeQuotedFrom (quote : Char) : Nat → Parser Unit
  | 0 => failure
  | n + 1 => do
    match (← get).peek? with
    | none => failure
    | some c =>
      if c = quote then take 1
      else if c = '\\' then do
        take 2
        takeQuotedFrom quote n
      else do
        take 1
        takeQuotedFrom quote n

end CodeRetrieval.Grammar
