import CodeRetrieval.Chunk.Basic
import CodeRetrieval.Data.Basic
import CodeRetrieval.Decimal.Rounding

/-!
# Figures about a list of chunks

Counts by kind and by language, and sizes. The average size is rounded to the nearest
whole number, a half going to the even neighbour.
-/

namespace CodeRetrieval

/-- How often each value occurs, in order of first occurrence. -/
def tally {α : Type} [BEq α] (xs : List α) : List (α × Nat) :=
  xs.eraseDups.map fun x => (x, xs.count x)

def Data.countTable (counts : List (String × Nat)) : Data :=
  .table (counts.map fun (name, n) => (name, .int n))

/-- Figures about a list of chunks. -/
structure ChunkStats where
  total : Nat
  byKind : List (String × Nat)
  byLanguage : List (String × Nat)
  averageSize : Nat
  totalSize : Nat

namespace ChunkStats

def ofChunks (chunks : List Chunk) : ChunkStats :=
  let totalSize := chunks.foldr (fun c n => c.code.length + n) 0
  { total := chunks.length
    byKind := tally (chunks.map fun c => c.kind.text)
    byLanguage := tally (chunks.map Chunk.language)
    averageSize :=
      if chunks.isEmpty then 0 else Decimal.roundedQuotient totalSize chunks.length
    totalSize }

def fields (s : ChunkStats) : List (String × Data) :=
  [("total_chunks", .int s.total), ("by_kind", .countTable s.byKind),
   ("by_language", .countTable s.byLanguage), ("average_size", .int s.averageSize),
   ("total_size", .int s.totalSize)]

end ChunkStats

end CodeRetrieval
