import CodeRetrieval.Syntax.Tree

/-!
# Reading source code

A cursor is a place in a text with its row and octet column. A parser moves the cursor
forward and makes syntax trees of what it passes; where it does not fit it fails and the
cursor stays. Every loop of a parser ends because each round must move the cursor. White
space and comments are passed over without moving the place where the last node stops.

A grammar is a family of parsers that refer to each other. It is written as one step
that may refer to all members of the family, and closed by nesting that step as deep as
the text is long.
-/

namespace CodeRetrieval.Grammar

open Syntax

/-- A place in a text. -/
structure Cursor where
  text : Array Char
  pos : Nat
  row : Nat
  column : Nat
  /-- The place behind the last character that is neither white space nor comment. -/
  stop : Point
  /-- The number of open brackets inside which line ends do not count. -/
  brackets : Nat

/-- What reads a value and moves the cursor, or fails. -/
abbrev Parser := StateT Cursor Option

namespace Cursor

def ofString (s : String) : Cursor :=
  ⟨s.toList.toArray, 0, 0, 0, ⟨0, 0⟩, 0⟩

def peek? (c : Cursor) : Option Char :=
  c.text[c.pos]?

def ahead? (c : Cursor) (n : Nat) : Option Char :=
  c.text[c.pos + n]?

def point (c : Cursor) : Point :=
  ⟨c.row, c.column⟩

def step (c : Cursor) : Cursor :=
  match c.peek? with
  | none => c
  | some ch =>
    if ch = '\n' then { c with pos := c.pos + 1, row := c.row + 1, column := 0 }
    else { c with pos := c.pos + 1, column := c.column + ch.utf8Size }

def steps : Nat → Cursor → Cursor
  | 0, c => c
  | n + 1, c => steps n c.step

def startsWith (c : Cursor) (s : List Char) (offset : Nat) : Bool :=
  match s with
  | [] => true
  | a :: s => c.ahead? offset == some a && c.startsWith s (offset + 1)

/-- Moves on while the next character satisfies `p`. The number bounds the characters. -/
def skipWhile (p : Char → Bool) : Nat → Cursor → Cursor
  | 0, c => c
  | n + 1, c => if c.peek?.any p then skipWhile p n c.step else c

def remaining (c : Cursor) : Nat :=
  c.text.size - c.pos

/-- The characters that satisfy `p`, from the cursor on. The number bounds them. -/
def spanLength (p : Char → Bool) : Nat → Cursor → Nat → Nat
  | 0, _, k => k
  | n + 1, c, k => if (c.ahead? k).any p then spanLength p n c (k + 1) else k

def textOf (c : Cursor) (n : Nat) : String :=
  String.ofList (c.text.extract c.pos (c.pos + n)).toList

end Cursor

/-! ## Characters -/

/-- Goes on only if the condition holds. -/
def require (b : Bool) : Parser Unit :=
  if b then pure () else failure

def nextIs (p : Char → Bool) : Parser Bool :=
  return (← get).peek?.any p

def lookingAt (s : String) : Parser Bool :=
  return (← get).startsWith s.toList 0

def atEnd : Parser Bool :=
  return (← get).peek?.isNone

/-- Takes `n` characters as part of a node. -/
def take (n : Nat) : Parser Unit :=
  modify fun c =>
    let c := c.steps n
    { c with stop := c.point }

/-- Takes the characters that satisfy `p` as part of a node. -/
def takeWhile (p : Char → Bool) : Parser Unit :=
  modify fun c =>
    let c' := c.skipWhile p c.remaining
    if c.pos < c'.pos then { c' with stop := c'.point } else c

def exactly (s : String) : Parser Unit := do
  require (← lookingAt s)
  take s.length

/-! ## Choices and loops -/

/-- Reads with `p`, or nothing where `p` fails. -/
def optional {α : Type} (p : Parser α) : Parser (Option α) := fun c =>
  match p c with
  | some (a, c') => some (some a, c')
  | none => some (none, c)

/-- Whether `p` reads here; the cursor stays. -/
def follows {α : Type} (p : Parser α) : Parser Bool := fun c =>
  some ((p c).isSome, c)

/-- Reads as often as `p` goes on and moves the cursor. The number bounds the rounds. -/
def manyFrom {α : Type} (p : Parser α) : Nat → List α → Parser (List α)
  | 0, found => pure found.reverse
  | n + 1, found => fun c =>
    match p c with
    | some (a, c') => if c.pos < c'.pos then manyFrom p n (a :: found) c'
      else some (found.reverse, c)
    | none => some (found.reverse, c)

/-- Reads as often as `p` goes on and moves the cursor. -/
def many {α : Type} (p : Parser α) : Parser (List α) := fun c =>
  manyFrom p (c.remaining + 1) [] c

/-- Extends a value as often as `p` goes on and moves the cursor. The number bounds the
rounds. -/
def extendFrom {α : Type} (p : α → Parser α) : Nat → α → Parser α
  | 0, a => pure a
  | n + 1, a => fun c =>
    match p a c with
    | some (a', c') => if c.pos < c'.pos then extendFrom p n a' c' else some (a, c)
    | none => some (a, c)

/-- Extends a value as often as `p` goes on and moves the cursor. -/
def extend {α : Type} (p : α → Parser α) (a : α) : Parser α := fun c =>
  extendFrom p (c.remaining + 1) a c

def firstOf {α : Type} : List (Parser α) → Parser α
  | [] => failure
  | p :: ps => fun c => (p c).or (firstOf ps c)

/-! ## Nodes -/

/-- Reads a node of the given type with `p`, from the cursor to the end of the last
character taken. -/
def node (type : String) (p : Parser (List Tree)) : Parser Tree := do
  let start := (← get).point
  let children ← p
  return ⟨type, start, (← get).stop, none, children⟩

/-- Reads a node whose type shows only once it has been read. -/
def nodeOf (p : Parser (String × List Tree)) : Parser Tree := do
  let start := (← get).point
  let (type, children) ← p
  return ⟨type, start, (← get).stop, none, children⟩

/-- A node of the given type that starts where another one does. -/
def nodeFrom (type : String) (first : Tree) (children : List Tree) : Parser Tree := do
  return ⟨type, first.start, (← get).stop, none, children⟩

def leaf (type : String) (p : Parser Unit) : Parser Tree :=
  node type do
    p
    return []

/-- Several trees as one: a single one is itself, others stand below a node of the given
type. -/
def group (type : String) (trees : List Tree) : Parser Tree :=
  match trees with
  | [t] => pure t
  | [] => do
    let here := (← get).stop
    return ⟨type, here, here, none, []⟩
  | t :: _ => nodeFrom type t trees

def enterBrackets : Parser Unit :=
  modify fun c => { c with brackets := c.brackets + 1 }

def leaveBrackets : Parser Unit :=
  modify fun c => { c with brackets := c.brackets - 1 }

end CodeRetrieval.Grammar

namespace CodeRetrieval.Syntax.Tree

def inField (t : Tree) (field : String) : Tree :=
  { t with field := some field }

end CodeRetrieval.Syntax.Tree

namespace CodeRetrieval.Grammar

open Syntax

/-- The members of a grammar with the given names. -/
abbrev Rules (N : Type) := N → Parser Tree

/-- A grammar nested to the given depth. -/
def nest {N : Type} (step : Rules N → Rules N) : Nat → Rules N
  | 0 => fun _ => failure
  | n + 1 => step (nest step n)

/-- Reads a whole text with one member of a grammar. The nesting suffices for every
text, since between two characters fewer than sixty-four members can start one inside
the other. -/
def parseWith {N : Type} (step : Rules N → Rules N) (start : N)
    (s : String) : Option Tree :=
  let c := Cursor.ofString s
  match nest step (64 * (c.text.size + 1)) start c with
  | some (t, c') => if c'.pos = c.text.size then some t else none
  | none => none

end CodeRetrieval.Grammar
