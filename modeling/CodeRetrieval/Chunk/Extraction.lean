import CodeRetrieval.Chunk.Basic
import CodeRetrieval.Chunk.DocComment
import CodeRetrieval.Chunk.Words
import CodeRetrieval.Syntax.Definition

/-!
# Chunks of a syntax tree

Each definition of a tree becomes one chunk, except that of several definitions starting
on one line only the first does. The chunk spans the lines from the definition's first
decorator, if it has one, to its last line. A file whose tree cannot be cut gives no
chunks at all.
-/

namespace CodeRetrieval

open Syntax

/-- Why a tree gives no chunks. -/
inductive ExtractionError where
  /-- A scope is left that was not open. -/
  | unbalancedScopes
  /-- A definition spans no lines. -/
  | span (id : String) (cause : SpanError)
  /-- A definition starts outside the file. -/
  | outsideFile (row : Nat)

/-- The file that chunks are taken from. -/
structure SourceFile where
  path : String
  language : Language
  source : Source

namespace Syntax.Place

/-- The row that a unit starts on: that of its decorators, where its parent holds any. -/
def startRow (p : Place) : Nat :=
  match p.parent with
  | some parent =>
    if parent.type == "decorated_definition" then parent.start.row else p.node.start.row
  | none => p.node.start.row

/-- The last row of a unit. One that stops before the first character of a row ends on
the row before. -/
def endRow (p : Place) : Nat :=
  if p.node.stop.column == 0 && decide (p.startRow < p.node.stop.row) then
    p.node.stop.row - 1
  else p.node.stop.row

end Syntax.Place

namespace SourceFile

def chunkOf (f : SourceFile) (d : Definition) : Except ExtractionError Chunk := do
  let first := d.place.startRow
  let last := d.place.endRow
  let id := chunkId f.path (first + 1)
  let code := Text.unlines ((f.source.lines.take (last + 1)).drop first)
  let some docComment := DocComment.above? f.source.lines first DocComment.defaultLookback
    | .error (.outsideFile first)
  let span ← (LineSpan.ofInts (first + 1) (last + 1)).mapError (.span id)
  return {
    id
    path := f.path
    span
    kind := d.kind
    name := d.name
    language := f.language.name
    code
    docComment
    parentClass := d.parentClass
    imports := importLines code
    calls := calledNames f.source d.node
    keywords := unitKeywords d.name d.kind f.path d.parentClass
    dependencies := []
    embedding := none
    fullSize := none }

/-- The chunks of a list of definitions. `taken` holds the rows that a chunk already
starts on. -/
def chunksOf (f : SourceFile) (taken : List Nat) :
    List Definition → Except ExtractionError (List Chunk)
  | [] => .ok []
  | d :: ds =>
    if taken.contains d.place.startRow then chunksOf f taken ds
    else do
      let chunk ← f.chunkOf d
      return chunk :: (← chunksOf f (d.place.startRow :: taken) ds)

def extract (f : SourceFile) (root : Tree) : Except ExtractionError (List Chunk) :=
  match definitions? f.language f.source root with
  | none => .error .unbalancedScopes
  | some ds => f.chunksOf [] ds

end SourceFile

end CodeRetrieval
