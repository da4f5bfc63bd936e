import CodeRetrieval.Lexical.Index
import CodeRetrieval.Vector.Index

/-!
# Hybrid search

One query against three indexes: the vectors of the chunks, their code, and their
descriptions. The three rankings are fused into one.
-/

namespace CodeRetrieval

/-- Why a search fails. -/
inductive SearchError where
  | dimension (e : DimensionError)
  | lexical (e : LexicalIndex.SearchError)
  | fusion (e : Ranking.FusionError)
deriving DecidableEq, Repr

/-- The three indexes of a hybrid search. -/
structure HybridIndex (S R ι : Type) where
  code : LexicalIndex R ι
  descriptions : LexicalIndex R ι
  vectors : VectorIndex S ι

/-- The three rankings of a hybrid search and the fused one. -/
structure HybridRankings (R ι : Type) where
  vector : List (Ranked R ι)
  code : List (Ranked R ι)
  descriptions : List (Ranked R ι)
  fused : List (Ranked R ι)

namespace HybridIndex

variable {S R ι : Type} [Scalar S] [Scalar R] [Storage S R]

/-- The rankings of a query, each cut to `topK` entries. -/
def search (index : HybridIndex S R ι) (id : ι → String) (query : String)
    (vector : List R) (topK : Int) : Except SearchError (HybridRankings R ι) := do
  let byVector ← (index.vectors.search vector topK).mapError .dimension
  let byCode ← (index.code.search query topK).mapError .lexical
  let byDescription ← (index.descriptions.search query topK).mapError .lexical
  let fused ← (Ranking.fuse id Ranking.defaultDamping topK [byVector, byCode,
      byDescription]).mapError .fusion
  return ⟨byVector, byCode, byDescription, fused⟩

end HybridIndex

end CodeRetrieval
