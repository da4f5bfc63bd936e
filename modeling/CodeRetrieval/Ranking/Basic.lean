import CodeRetrieval.Ranking.Scalar

/-!
# Rankings

A ranking lists items with their scores, the highest first. Items with equal scores keep
the order in which they came, and an item whose score is no number comes last.
-/

namespace CodeRetrieval

/-- An item with a score. Scores compare only within one ranking. -/
structure Ranked (R ι : Type) where
  item : ι
  score : R

namespace Ranking

variable {R ι α : Type} [Scalar R]

/-- In a ranking an item with score `a` may stand before one with score `b`. -/
def mayPrecede (a b : R) : Bool :=
  !Scalar.le b b || Scalar.le b a

/-- The entries from the highest score to the lowest. -/
def descending (score : α → R) (xs : List α) : List α :=
  xs.mergeSort fun a b => mayPrecede (score a) (score b)

/-- The first `k` entries; where `k` is negative, all but the last `-k`. -/
def cut (k : Int) (xs : List α) : List α :=
  if 0 ≤ k then xs.take k.toNat else xs.take (xs.length - k.natAbs)

/-- The entries before the first one whose score is not positive, at most `k` of them. -/
def takePositive : Nat → List (Ranked R ι) → List (Ranked R ι)
  | k + 1, r :: ranking => if Scalar.le r.score 0 then [] else r :: takePositive k ranking
  | _, _ => []

end Ranking

end CodeRetrieval
