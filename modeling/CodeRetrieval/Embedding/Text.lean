import CodeRetrieval.Lexical.Tokens

/-!
# Texts to embed

The text that a chunk is embedded by: where it is, what it is, what is said about it,
and its code, which is cut where it is long.
-/

namespace CodeRetrieval.Embedding

def maxCodeSize : Nat := 10000

def codeSection (code : String) : String :=
  if maxCodeSize < code.length then
    s!"Code (truncated to {maxCodeSize} chars):\n" ++
      String.ofList (code.toList.take maxCodeSize) ++ "..."
  else "Code:\n" ++ code

def sections (c : Chunk) : List String :=
  ["File: " ++ c.path, "Type: " ++ c.kind.text, "Name: " ++ c.name,
   "Language: " ++ c.language]
    ++ (Lexical.present c.docComment).map ("Documentation: " ++ ·)
    ++ (Lexical.present c.parentClass).map ("Class: " ++ ·)
    ++ [codeSection c.code]

/-- The text that a chunk is embedded by. -/
def text (c : Chunk) : String :=
  Text.join "\n\n" (sections c)

end CodeRetrieval.Embedding
