import CodeRetrieval.Ranking.Scalar
import CodeRetrieval.Text.Quoted

/-!
# Cosine similarity

The cosine of the angle between two vectors of one length. With a vector of norm zero
nothing is similar.
-/

namespace CodeRetrieval

/-- Why vectors cannot be compared. -/
inductive DimensionError where
  /-- Two vectors differ in length. -/
  | lengths (a b : Nat)
  /-- A query differs in length from the vectors of an index. -/
  | query (query index : Nat)
  /-- The vectors of an index differ in length. -/
  | mixed (lengths : List Nat)
deriving DecidableEq, Repr

def DimensionError.message : DimensionError → String
  | lengths a b => s!"vector lengths differ: {a} != {b}"
  | query q index => s!"query has dimension {q}, index has {index}"
  | mixed ls =>
      s!"chunks carry embeddings of mixed dimensions: {Text.bracketed (ls.map toString)}"

namespace Vector

variable {R : Type} [Scalar R]

def dot (a b : List R) : R :=
  Scalar.sum (List.zipWith (· * ·) a b)

def norm (a : List R) : R :=
  Scalar.sqrt (dot a a)

def cosine (a b : List R) : Except DimensionError R :=
  if a.length ≠ b.length then .error (.lengths a.length b.length)
  else
    let n := norm a * norm b
    .ok (if Scalar.isZero n then 0 else dot a b / n)

end Vector

end CodeRetrieval
