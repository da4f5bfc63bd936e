import CodeRetrieval.Ranking.Basic
import CodeRetrieval.Vector.Cosine

/-!
# Vector index

Ranks items by the angle between their vectors and the vector of a query. Items without
a vector are not in the index. The index keeps vectors in storage numbers and computes
products and norms with them; scores are computed with the numbers of scores.
-/

namespace CodeRetrieval

/-- An item with its vector and the norm that its scores are divided by. -/
structure VectorEntry (S ι : Type) where
  item : ι
  vector : List S
  norm : S

/-- Items with vectors of one length. -/
structure VectorIndex (S ι : Type) where
  entries : List (VectorEntry S ι)
  dimension : Nat

namespace VectorIndex

variable {S R ι : Type} [Scalar S] [Scalar R] [Storage S R]

/-- The entry of an item. A vector of norm zero divides by one, so that its scores are
zero. -/
def entryOf (item : ι) (vector : List R) : VectorEntry S ι :=
  let stored := vector.map Storage.store
  let n : S := Vector.norm stored
  ⟨item, stored, if Scalar.isZero n then Scalar.ofInt 1 else n⟩

def ofItems (embedding : ι → Option (List R)) (items : List ι) :
    Except DimensionError (VectorIndex S ι) :=
  let embedded := items.filterMap fun item => (embedding item).map fun v => (item, v)
  let lengths := (embedded.map fun e => e.2.length).eraseDups
  if 1 < lengths.length then .error (.mixed (lengths.mergeSort fun a b => decide (a ≤ b)))
  else .ok ⟨embedded.map fun e => entryOf e.1 e.2, lengths.headD 0⟩

def size (index : VectorIndex S ι) : Nat :=
  index.entries.length

/-- The score of an entry for a query with the given norm. -/
def score (query : List S) (queryNorm : S) (e : VectorEntry S ι) : R :=
  if Scalar.isZero queryNorm then 0
  else Storage.load (Vector.dot e.vector query) / Storage.load (e.norm * queryNorm)

/-- The first `topK` items, the most similar to the query first. -/
def search (index : VectorIndex S ι) (query : List R) (topK : Int) :
    Except DimensionError (List (Ranked R ι)) :=
  if index.entries.isEmpty || decide (topK ≤ 0) then .ok []
  else if query.length ≠ index.dimension then .error (.query query.length index.dimension)
  else
    let stored := query.map Storage.store
    let queryNorm : S := Vector.norm stored
    let scored :=
      index.entries.map fun e => (⟨e.item, score stored queryNorm e⟩ : Ranked R ι)
    .ok ((Ranking.descending Ranked.score scored).take topK.toNat)

end VectorIndex

end CodeRetrieval
