import CodeRetrieval.Chunk.Kind

/-!
# Chunks

A chunk is a contiguous unit of code or documentation taken from one file. It knows the
lines it came from, counted from 1 with both ends included, and carries what the later
stages need: the text, the names it calls, its keywords and, once made, an embedding. A
span of lines is never empty and never starts before line 1.
-/

namespace CodeRetrieval

/-- Why no span can be made of two line numbers. -/
inductive SpanError where
  /-- The first line is not at least 1. -/
  | startBelowOne (first : Int)
  /-- The last line comes before the first. -/
  | startAfterEnd (first last : Int)
deriving DecidableEq, Repr

/-- Lines `first` to `last` of a file, counted from 1. -/
structure LineSpan where
  first : Nat
  last : Nat
  one_le_first : 1 ≤ first
  first_le_last : first ≤ last

namespace LineSpan

/-- The span from line `first` to line `last`, if there is one. -/
def ofInts (first last : Int) : Except SpanError LineSpan :=
  if h : 1 ≤ first then
    if h' : first ≤ last then
      .ok ⟨first.toNat, last.toNat, by omega, by omega⟩
    else .error (.startAfterEnd first last)
  else .error (.startBelowOne first)

/-- The lines of a file from its first to its `count`-th, for a file with at least one
line. -/
def ofCount (count : Nat) (h : 1 ≤ count) : LineSpan :=
  ⟨1, count, Nat.le_refl 1, h⟩

def count (s : LineSpan) : Nat :=
  s.last - s.first + 1

end LineSpan

/-- The identifier of the unit that starts on the given line of a file. It is the same
whenever the same content is indexed again. -/
def chunkId (path : String) (line : Int) : String :=
  path ++ ":" ++ toString line

/-- A unit of code or documentation extracted from one file. -/
structure Chunk where
  id : String
  path : String
  span : LineSpan
  kind : ChunkKind
  name : String
  language : String
  code : String
  docComment : Option String
  parentClass : Option String
  imports : List String
  calls : List String
  keywords : List String
  dependencies : List String
  /-- The vector that stands for the chunk, once it has been made. -/
  embedding : Option (List Float)
  /-- The size of the code that the present code was compressed from, when it was. -/
  fullSize : Option Nat

namespace Chunk

def withEmbedding (c : Chunk) (vector : List Float) : Chunk :=
  { c with embedding := some vector }

/-- The chunk with shorter code in place of its own. Identifier and lines still point at
the unit as it was cut. -/
def withCompressedCode (c : Chunk) (code : String) : Chunk :=
  { c with code := code, fullSize := some c.code.length }

/-- The code is no longer what stands in the file. -/
def compressed (c : Chunk) : Bool :=
  c.fullSize.isSome

def isCode (c : Chunk) : Bool :=
  c.kind.isCode

def lineCount (c : Chunk) : Nat :=
  c.span.count

/-- Two chunks agree in everything except their embeddings. -/
def agrees (a b : Chunk) : Bool :=
  a.id == b.id && a.path == b.path && a.span.first == b.span.first &&
    a.span.last == b.span.last
    && a.kind == b.kind && a.name == b.name && a.language == b.language && a.code == b.code
    && a.docComment == b.docComment && a.parentClass == b.parentClass &&
      a.imports == b.imports
    && a.calls == b.calls && a.keywords == b.keywords && a.dependencies == b.dependencies
    && a.fullSize == b.fullSize

end Chunk

namespace SpanError

def message (id : String) : SpanError → String
  | startBelowOne first => s!"chunk {id}: start_line must be >= 1, got {first}"
  | startAfterEnd first last => s!"chunk {id}: start_line {first} > end_line {last}"

end SpanError

end CodeRetrieval
