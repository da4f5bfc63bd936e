import CodeRetrieval.Data.Number
import CodeRetrieval.Ranking.Funnel

/-!
# Relevance

How well a chunk fits a query, between 0 and 10, and why. A total beyond these limits is
brought to the nearer one.
-/

namespace CodeRetrieval.Scoring

/-- How well a chunk fits. -/
structure Relevance where
  total : Float
  explanation : String

/-- Why fields make no relevance. -/
inductive RelevanceError where
  /-- The total is missing or is no number, or the explanation is no text. -/
  | invalid
  /-- The total has a type that no number can be made of. -/
  | wrongType
  /-- The total is beyond the range of machine numbers. -/
  | outOfRange
deriving DecidableEq, Repr

namespace Relevance

/-- The relevance with the given total, brought between the limits. -/
def make (total : Float) (explanation : String) : Relevance :=
  ⟨Funnel.clamp total, explanation⟩

/-- The relevance that a table of fields holds. A total of a wrong type is found before
anything else. -/
def ofFields (fields : Data) : Except RelevanceError Relevance :=
  match fields.get? "total" with
  | none => .error .invalid
  | some d =>
    match d.toFloat with
    | .error .wrongType => .error .wrongType
    | .error .outOfRange => .error .outOfRange
    | .error _ => .error .invalid
    | .ok total =>
      match fields.get? "explanation" with
      | none => .ok (make total "")
      | some (.text explanation) => .ok (make total explanation)
      | some _ => .error .invalid

def toVerdict (r : Relevance) : Verdict Float :=
  ⟨r.total, r.explanation⟩

end Relevance

end CodeRetrieval.Scoring
