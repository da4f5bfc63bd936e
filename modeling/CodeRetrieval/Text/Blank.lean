/-!
# Blanks

The white space that trimming and word splitting recognise: the Unicode white space
characters and the four information separators U+001C to U+001F. Words are the maximal
runs of other characters.
-/

namespace CodeRetrieval.Text

def blankRanges : List (Nat × Nat) :=
  [(0x09, 0x0D), (0x1C, 0x20), (0x85, 0x85), (0xA0, 0xA0), (0x1680, 0x1680),
  (0x2000, 0x200A), (0x2028, 0x2029), (0x202F, 0x202F), (0x205F, 0x205F),
  (0x3000, 0x3000)]

def inRanges (ranges : List (Nat × Nat)) (n : Nat) : Bool :=
  ranges.any fun r => decide (r.1 ≤ n) && decide (n ≤ r.2)

def isBlank (c : Char) : Bool :=
  inRanges blankRanges c.toNat

/-- The text without the characters at its end that satisfy `p`. -/
def dropEndWhile (p : Char → Bool) (s : List Char) : List Char :=
  (s.reverse.dropWhile p).reverse

def trimStart (s : List Char) : List Char :=
  s.dropWhile isBlank

def trim (s : List Char) : List Char :=
  dropEndWhile isBlank (trimStart s)

def withoutReturns (line : List Char) : List Char :=
  dropEndWhile (· == '\r') line

/-- Adds `c` to the words of what follows it: a blank closes a word, any other character
extends one. The flag tells whether the first word of what follows starts at its first
character. -/
def addToWords (p : Char → Bool) (c : Char) :
    Bool × List (List Char) → Bool × List (List Char)
  | (true, w :: ws) => if p c then (false, w :: ws) else (true, (c :: w) :: ws)
  | (_, ws) => if p c then (false, ws) else (true, [c] :: ws)

/-- The maximal runs of characters that do not satisfy `p`. -/
def runsOutside (p : Char → Bool) (s : List Char) : List (List Char) :=
  (s.foldr (addToWords p) (false, [])).2

/-- The words of a text: its maximal runs of characters that are no blanks. -/
def words (s : List Char) : List (List Char) :=
  runsOutside isBlank s

/-- Only blanks, or nothing at all. -/
def allBlank (s : List Char) : Bool :=
  s.all isBlank

end CodeRetrieval.Text
