import CodeRetrieval.Chunk.Basic

/-!
# What to embed first

Where not all chunks can be embedded, functions come first, then classes, then methods,
then all others. Of one kind the chunks with more code come first, and chunks of equal
rank keep their order.
-/

namespace CodeRetrieval

namespace ChunkKind

/-- How much it matters that a chunk of this kind is embedded. -/
def embeddingPriority : ChunkKind → Nat
  | function => 4
  | class_ => 3
  | method => 2
  | _ => 1

end ChunkKind

namespace Chunk

/-- The first chunk may be embedded before the second. -/
def mayEmbedBefore (a b : Chunk) : Bool :=
  if a.kind.embeddingPriority = b.kind.embeddingPriority then
    decide (b.code.length ≤ a.code.length)
  else decide (b.kind.embeddingPriority < a.kind.embeddingPriority)

end Chunk

/-- The `limit` chunks that matter most; none where the limit is negative. -/
def prioritized (chunks : List Chunk) (limit : Int) : List Chunk :=
  (chunks.mergeSort Chunk.mayEmbedBefore).take limit.toNat

/-- The chunks to embed within a budget. Within a budget that suffices, and without one,
all keep their order. -/
def selected (chunks : List Chunk) (budget : Option Int) : List Chunk :=
  match budget with
  | some limit => if limit < chunks.length then prioritized chunks limit else chunks
  | none => chunks

end CodeRetrieval
