import CodeRetrieval.Chunk.Basic
import CodeRetrieval.Text.Alphanumeric
import CodeRetrieval.Text.Blank
import CodeRetrieval.Text.Case
import CodeRetrieval.Text.Lines

/-!
# Tokens

The tokens of a text are the maximal runs of letters and digits in its lower-case form.
A chunk has two texts that can be searched: its code, and a description of where it is
and what it is called.
-/

namespace CodeRetrieval.Lexical

def tokens (s : List Char) : List (List Char) :=
  Text.runsOutside (fun c => !Text.isAlphanumeric c) (Text.lower s)

def tokenize (s : String) : List String :=
  (tokens s.toList).map String.ofList

/-- An optional text as a list, without the empty text. -/
def present (s : Option String) : List String :=
  (s.filter fun t => !t.isEmpty).toList

def descriptionParts (c : Chunk) : List String :=
  [c.path, c.kind.text, c.name, c.language] ++ present c.docComment ++
    present c.parentClass ++ c.keywords

def description (c : Chunk) : String :=
  Text.join " " (descriptionParts c)

end CodeRetrieval.Lexical
