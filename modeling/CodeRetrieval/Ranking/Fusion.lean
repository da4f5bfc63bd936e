import CodeRetrieval.Data.Table
import CodeRetrieval.Ranking.Basic

/-!
# Reciprocal rank fusion

Several rankings become one. An item gets the sum of `1 / (k + rank)` over all its
places, ranks counted from 1. Only places matter, so that rankings whose scores do not
compare can be fused. The larger `k` is, the less the first places weigh.
-/

namespace CodeRetrieval.Ranking

inductive FusionError where
  /-- Some rank and the constant add up to zero. -/
  | weightless
deriving DecidableEq, Repr

/-- What has been read of the rankings: the score of each identifier, and the item that
had it first. -/
structure Tally (R ι : Type) where
  scores : Table R
  firstSeen : Table ι

variable {R ι : Type} [Scalar R]

/-- What a place adds to the score of the item in it. -/
def weight (k : Int) (rank : Nat) : Except FusionError R :=
  if k + rank = 0 then .error .weightless else .ok (Scalar.ratio 1 (k + rank))

namespace Tally

def empty : Tally R ι := ⟨[], []⟩

def add (key : String) (item : ι) (w : R) (t : Tally R ι) : Tally R ι where
  scores := t.scores.update key fun score => score.getD 0 + w
  firstSeen := t.firstSeen.setDefault key item

def addPlace (id : ι → String) (k : Int) (t : Tally R ι) (place : Ranked R ι × Nat) :
    Except FusionError (Tally R ι) := do
  let w ← weight k place.2
  return t.add (id place.1.item) place.1.item w

/-- Reads one ranking after the other, place by place. -/
def ofRankings (id : ι → String) (k : Int) (rankings : List (List (Ranked R ι))) :
    Except FusionError (Tally R ι) :=
  rankings.foldlM (fun t ranking => (ranking.zipIdx 1).foldlM (addPlace id k) t) empty

def best (topK : Int) (t : Tally R ι) : List (Ranked R ι) :=
  (cut topK (descending Prod.snd t.scores)).filterMap fun (key, score) =>
    (t.firstSeen.lookup key).map fun item => ⟨item, score⟩

end Tally

/-- The first `topK` entries of the fused ranking. -/
def fuse (id : ι → String) (k topK : Int) (rankings : List (List (Ranked R ι))) :
    Except FusionError (List (Ranked R ι)) := do
  return (← Tally.ofRankings id k rankings).best topK

def defaultDamping : Int := 60

def defaultHybridSize : Int := 100

end CodeRetrieval.Ranking
