import CodeRetrieval.Log.Notice
import CodeRetrieval.Ranking.Basic
import CodeRetrieval.Vector.Cosine

/-!
# The funnel

Candidates are narrowed in two steps: by the angle between their vectors and that of the
query, and by the verdicts of a judge. Each step ranks what the step before it kept and
keeps the best of it. A candidate about which the judge gives no verdict gets the lowest
score, so that it never sinks the others.
-/

namespace CodeRetrieval

/-- What a judge says about one candidate. -/
structure Verdict (T : Type) where
  total : T
  explanation : String

/-- Asks about the fit of an item to a query. The answer is a verdict, or the reason why
there is none. -/
abbrev Judge (T ι : Type) := String → ι → Noted (Except String (Verdict T))

/-- A candidate with its score and the reason for it. -/
structure Judged (R ι : Type) extends Ranked R ι where
  explanation : String

namespace Funnel

variable {R T E ι : Type} [Scalar R]

def defaultSimilar : Int := 30

def defaultRelevant : Int := 10

def greatest : R := Scalar.ofInt 10

/-- The relevance nearest to a number; zero for what is no number. -/
def clamp (x : R) : R :=
  if Scalar.lt greatest x then greatest else if Scalar.lt 0 x then x else 0

/-- The candidates that have a vector, ranked by its angle to the vector of the query
and cut to `topK`. -/
def rerankBySimilarity (embedding : ι → Option (List R)) (query : List R)
    (candidates : List (Ranked R ι)) (topK : Int) :
    Except DimensionError (List (Ranked R ι)) := do
  let scored ← candidates.filterMapM fun c => do
    match embedding c.item with
    | some v => return some ⟨c.item, ← Vector.cosine query v⟩
    | none => return none
  return Ranking.cut topK (Ranking.descending Ranked.score scored)

def failureText (reason : String) : String :=
  "Ranking failed: " ++ reason

/-- The score that a candidate gets from the judge's answer. The totals of verdicts are
numbers if `amount` says so. -/
def judgedAs (amount : T → Except E R) (item : ι) :
    Except String (Verdict T) → Except E (Judged R ι)
  | .error reason => .ok ⟨⟨item, 0⟩, failureText reason⟩
  | .ok verdict => do
    let total ← amount verdict.total
    return ⟨⟨item, clamp total⟩, verdict.explanation⟩

/-- Asks the judge about one candidate. A missing verdict is noticed. -/
def judgeOne (id : ι → String) (judge : Judge T ι) (amount : T → Except E R)
    (query : String) (item : ι) :
    Noted (Except E (Judged R ι)) :=
  (judge query item).andThen fun answer =>
    ⟨judgedAs amount item answer, match answer with
      | .error _ => [.scoringFailed (id item)]
      | .ok _ => []⟩

/-- The candidates ranked by the verdicts of a judge and cut to `topK`. -/
def rerankByRelevance (id : ι → String) (judge : Judge T ι) (amount : T → Except E R)
    (query : String) (candidates : List (Ranked R ι)) (topK : Int) :
    Noted (Except E (List (Judged R ι))) :=
  (Noted.sequence (candidates.map fun c => judgeOne id judge amount query c.item)).map
      fun answers => do
    let scored ← answers.mapM (fun a => a)
    return Ranking.cut topK (Ranking.descending (fun j => j.score) scored)

/-! ## Stages -/

/-- What each step of the funnel kept. -/
structure Stages (R ι : Type) where
  stage1 : List (Ranked R ι)
  stage2 : List (Ranked R ι)
  stage3 : List (Judged R ι)

/-- Why the funnel fails. -/
inductive Error (E : Type) where
  | dimension (e : DimensionError)
  | total (e : E)

def run (id : ι → String) (embedding : ι → Option (List R)) (judge : Judge T ι)
    (amount : T → Except E R) (query : String) (vector : List R)
    (candidates : List (Ranked R ι)) (similar relevant : Int) :
    Noted (Except (Error E) (Stages R ι)) :=
  match rerankBySimilarity embedding vector candidates similar with
  | .error e => .silent (.error (.dimension e))
  | .ok stage2 =>
    (rerankByRelevance id judge amount query stage2 relevant).map fun stage3 =>
      match stage3 with
      | .error e => .error (.total e)
      | .ok stage3 => .ok ⟨candidates, stage2, stage3⟩

/-- Sizes of the stages, how many entries of a stage were in the stage before it, and
the winner. -/
structure Analysis where
  count1 : Nat
  count2 : Nat
  count3 : Nat
  overlap2 : Nat
  overlap3 : Nat
  winner : Option String

def analyze (stage1 stage2 stage3 : List String) : Analysis :=
  ⟨stage1.length, stage2.length, stage3.length, stage2.countP stage1.contains,
   stage3.countP stage2.contains,
    stage3.head?⟩

end Funnel

end CodeRetrieval
