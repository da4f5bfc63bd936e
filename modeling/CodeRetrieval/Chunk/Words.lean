import CodeRetrieval.Chunk.Kind
import CodeRetrieval.Syntax.Language
import CodeRetrieval.Text.Blank
import CodeRetrieval.Text.Lines

/-!
# The words of a unit

An identifier is cut into lower-case words. Two patterns put spaces into it, one after
the other: between a lower-case letter or digit and an upper-case letter, and before the
last letter of a run of capitals that a lower-case letter follows. Then it is cut at
everything that is no ASCII letter or digit. The keywords of a unit are its name, its
kind, the stem of its file, the longer words of its name and its class.
-/

namespace CodeRetrieval

namespace Identifier

/-- An ASCII lower-case letter or digit. -/
def endsWord (c : Char) : Bool :=
  c.isLower || c.isDigit

/-- What a pattern with two groups matches at the start of a text: the numbers of
characters in the groups. -/
abbrev Pattern := List Char → Option (Nat × Nat)

/-- A lower-case letter or digit, and an upper-case letter. -/
def beforeCapital : Pattern
  | a :: b :: _ => if endsWord a && b.isUpper then some (1, 1) else none
  | _ => none

/-- The text starts with an upper-case and a lower-case letter. -/
def startsCapitalized : List Char → Bool
  | a :: b :: _ => a.isUpper && b.isLower
  | _ => false

/-- The number of upper-case letters, as many as possible but at least one, that an
upper-case and a lower-case letter follow. -/
def acronymLength? : List Char → Option Nat
  | [] => none
  | a :: s =>
    if a.isUpper then
      -- a letter is given back only where the longer run is not followed in this way
      match acronymLength? s with
      | some n => some (n + 1)
      | none => if startsCapitalized s then some 1 else none
    else none

/-- Upper-case letters, as many as possible, and behind them an upper-case and a
lower-case letter. -/
def afterAcronym : Pattern := fun s =>
  (acronymLength? s).map fun n => (n, 2)

/-- The text with a space between the two groups of every match. Matches are sought from
left to right, each behind the one before. The number bounds the characters that are
looked at. -/
def spacedFrom (pattern : Pattern) : Nat → List Char → List Char
  | 0, s => s
  | _, [] => []
  | n + 1, c :: s =>
    match pattern (c :: s) with
    | none => c :: spacedFrom pattern n s
    | some (first, second) =>
      (c :: s).take first ++ ' ' :: ((c :: s).drop first).take second
        ++ spacedFrom pattern n ((c :: s).drop (first + second))

def spaced (pattern : Pattern) (s : List Char) : List Char :=
  spacedFrom pattern s.length s

def splitWords (name : List Char) : List (List Char) :=
  (Text.runsOutside (fun c => !c.isAlphanum)
    (spaced afterAcronym (spaced beforeCapital name))).map (·.map Char.toLower)

def words (name : String) : List String :=
  (splitWords name.toList).map String.ofList

end Identifier

def fileStem (path : String) : String :=
  String.ofList ((Language.baseName path.toList).takeWhile (· != '.'))

/-- The entry, unless it is the empty text. -/
def nonEmpty (s : String) : List String :=
  if s.isEmpty then [] else [s]

/-- The keywords of a unit, each once, in order. -/
def unitKeywords (name : String) (kind : ChunkKind) (path : String)
    (parentClass : Option String) : List String :=
  ([name, kind.text] ++ nonEmpty (fileStem path)
    ++ (Identifier.words name).filter (fun w => decide (2 < w.length))
    ++ (parentClass.elim [] nonEmpty)).eraseDups

def importStarts : List String :=
  ["import ", "import(", "from ", "use "]

def containsText (part s : List Char) : Bool :=
  match s with
  | [] => part.isEmpty
  | c :: r => part.isPrefixOf (c :: r) || containsText part r

/-- The line looks like an import. -/
def isImportLine (line : List Char) : Bool :=
  importStarts.any (fun p => p.toList.isPrefixOf line) ||
    containsText "require(".toList line

/-- The lines of a unit that look like imports, without surrounding blanks. -/
def importLines (code : String) : List String :=
  (((Text.splitAtChar '\n' code.toList).map Text.trim).filter isImportLine).map
    String.ofList

end CodeRetrieval
