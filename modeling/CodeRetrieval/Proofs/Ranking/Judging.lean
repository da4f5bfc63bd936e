import CodeRetrieval.Data.Number
import CodeRetrieval.Proofs.Ranking.Funnel
import CodeRetrieval.Proofs.Ranking.Machine

/-!
# Candidates before a judge

What the judge says about one candidate decides its score and the reason for it, and
nothing about the others. Totals come as data, and only those that a machine number
stands for can be judged by: a whole number beyond the range of machine numbers takes
the answer away from all candidates.
-/

namespace CodeRetrieval.Funnel

open Ranking Scalar

/-- The relevance `y` is the one nearest to the total `x`; it is zero if `x` is no
number. -/
structure IsNearest (x y : Float) : Prop where
  above : lt 10.0 x → y = 10.0
  inside : lt 0.0 x → x ≤ 10.0 → y = x
  below : x ≤ 0.0 → y = 0.0
  undefined : x.isNaN → y = 0.0

/-- Score and explanation of a candidate are what the judge's answer about it makes of
them. -/
def IsJudgedBy {ι : Type} (answer : Except String (Verdict Data))
    (j : Judged Float ι) : Prop :=
  match answer with
  | .error reason => j.score = 0.0 ∧ j.explanation = "Ranking failed: " ++ reason
  | .ok verdict => ∃ x, verdict.total.toFloat = .ok x ∧ IsNearest x j.score ∧
    j.explanation = verdict.explanation

/-! ## One candidate -/

theorem isNumber_iff_isNaN {x : Float} : IsNumber x ↔ x.isNaN = false := by
  have hnan : x.isNaN = true ↔ x.toModel.unpack = .notANumber := by
    show x.toModel.unpack.isNaN = true ↔ x.toModel.unpack = .notANumber
    cases x.toModel.unpack <;> simp [Float.Model.UnpackedFloat.isNaN]
  have hle : IsNumber x ↔ ¬ x.toModel.unpack = .notANumber := by
    show le x x = true ↔ ¬ x.toModel.unpack = .notANumber
    rw [Machine.le_iff]
    constructor
    · intro h
      exact h.1
    · intro h
      exact ⟨h, h, le_rfl⟩
  rw [hle, ← hnan, Bool.not_eq_true]

theorem isNearest_clamp (x : Float) : IsNearest x (clamp x) where
  above h := clamp_of_lt h
  inside hzero hten := clamp_of_mem hzero (decide_eq_true hten)
  below h := clamp_of_le (decide_eq_true h)
  undefined h := by
    apply clamp_of_not_isNumber
    rw [isNumber_iff_isNaN, h]
    decide

variable {ι : Type} {judge : Judge Data ι} {query : String}
  {candidates : List (Ranked Float ι)}

theorem isJudgedBy_of_judgedAs {item : ι} {answer : Except String (Verdict Data)}
    {j : Judged Float ι} (h : judgedAs Data.toFloat item answer = .ok j) :
    IsJudgedBy answer j := by
  cases answer with
  | error reason =>
      obtain rfl := Except.ok.inj h
      exact ⟨rfl, rfl⟩
  | ok verdict =>
      obtain ⟨x, hx, h⟩ := bind_eq_ok.mp h
      obtain rfl := Except.ok.inj h
      exact ⟨x, hx, isNearest_clamp x, rfl⟩

/-! ## All candidates -/

theorem mem_judged_iff {judged : List (Judged Float ι)}
    (h : List.Forall₂ (fun c j => judgedAs Data.toFloat c.item (judge query c.item).value =
    .ok j) candidates judged) {j : Judged Float ι} :
    j ∈ judged ↔ j.item ∈ candidates.map Ranked.item ∧
      judgedAs Data.toFloat j.item (judge query j.item).value = .ok j := by
  constructor
  · intro hj
    obtain ⟨c, hc, hcj⟩ := exists_of_mem_right h hj
    rw [item_of_judgedAs hcj]
    exact ⟨List.mem_map_of_mem hc, hcj⟩
  · rintro ⟨hitem, hj⟩
    obtain ⟨c, hc, hsame⟩ := List.mem_map.mp hitem
    obtain ⟨j', hj', hcj'⟩ := exists_of_mem_left h hc
    rw [hsame, hj] at hcj'
    exact Except.ok.inj hcj' ▸ hj'

theorem pairwise_descending_judged {judged : List (Judged Float ι)}
    (h : List.Forall₂ (fun c j => judgedAs Data.toFloat c.item (judge query c.item).value =
    .ok j) candidates judged) :
    (descending (fun j => j.score) judged).Pairwise fun a b =>
      b.score ≤ a.score ∧ (a.score ≤ b.score →
        [a.item, b.item].Sublist (candidates.map Ranked.item)) := by
  apply (pairwise_descending (fun j => j.score) judged).imp_of_mem
  intro a b _ hb hab
  obtain ⟨hle, htie⟩ := hab
  have hnumber : IsNumber b.score := by
    obtain ⟨-, hj⟩ := (mem_judged_iff h).mp (mem_descending.mp hb)
    exact (LawfulScalar.isNumber_of_le (limits_of_judgedAs hj).1).2
  refine ⟨of_decide_eq_true (mayPrecede_iff.mp hle hnumber), fun hequal => ?_⟩
  have hpair : [a, b].Sublist judged :=
    htie (mayPrecede_iff.mpr fun _ => decide_eq_true hequal)
  rw [← map_item_of_judged h]
  exact hpair.map fun j => j.item

/-- An answer of the judge about one candidate has no effect on another. There is no
ranking if the total of some verdict stands for no machine number. Otherwise all
candidates are ranked, each with the score and the explanation that the judge's answer
about it makes, the highest score first and equal scores in the order of the candidates;
then the ranking is cut. Under another judge, entries about whose items both judges say
the same are the same. -/
theorem relevance_isolates_candidates {ι : Type} (id : ι → String) (judge : Judge Data ι)
    (query : String) (candidates : List (Ranked Float ι)) :
    (∀ size, (∃ e, (rerankByRelevance id judge Data.toFloat query candidates size).value =
      .error e) ↔
      ∃ c ∈ candidates, ∃ v e, (judge query c.item).value = .ok v ∧
        v.total.toFloat = .error e) ∧
    ((∀ c ∈ candidates, ∀ v, (judge query c.item).value = .ok v →
      ∃ x, v.total.toFloat = .ok x) →
      ∃ ranked : List (Judged Float ι),
        (∀ size, 0 ≤ size →
          (rerankByRelevance id judge Data.toFloat query candidates size).value =
            .ok (ranked.take size.toNat)) ∧
        (ranked.map fun j => j.item).Perm (candidates.map Ranked.item) ∧
        (∀ j ∈ ranked, IsJudgedBy (judge query j.item).value j) ∧
        (ranked.Pairwise fun a b =>
          b.score ≤ a.score ∧ (a.score ≤ b.score →
            [a.item, b.item].Sublist (candidates.map Ranked.item))) ∧
        ∀ (judge' : Judge Data ι) (ranked' : List (Judged Float ι)),
          (rerankByRelevance id judge' Data.toFloat query candidates
            candidates.length).value = .ok ranked' →
          ∀ j, (judge' query j.item).value = (judge query j.item).value →
            (j ∈ ranked' ↔ j ∈ ranked)) := by
  refine ⟨fun size => exists_rerankByRelevance_eq_error, fun htotals => ?_⟩
  obtain ⟨judged, hjudged⟩ := exists_judged (R := Float) htotals
  have hperm : (descending (fun j => j.score) judged).Perm judged :=
    perm_descending _ judged
  refine ⟨descending (fun j => j.score) judged, ?_, ?_, ?_,
    pairwise_descending_judged hjudged, ?_⟩
  · intro size hsize
    exact rerankByRelevance_eq_ok.mpr ⟨judged, hjudged, (cut_of_nonneg hsize _).symm⟩
  · rw [← map_item_of_judged hjudged]
    exact hperm.map fun j => j.item
  · intro j hj
    obtain ⟨-, hj⟩ := (mem_judged_iff hjudged).mp (mem_descending.mp hj)
    exact isJudgedBy_of_judgedAs hj
  · intro judge' ranked' hranked' j hsame
    obtain ⟨judged', hjudged', rfl⟩ := rerankByRelevance_eq_ok.mp hranked'
    -- with room for all candidates nothing is cut
    have hlength : candidates.length = (descending (fun j => j.score) judged').length := by
      rw [(perm_descending _ judged').length_eq, hjudged'.length_eq]
    rw [hlength, cut_length, mem_descending, mem_descending, mem_judged_iff hjudged',
      mem_judged_iff hjudged, hsame]

/-- Four candidates that are judged in all ways: not at all, by NaN, by infinity and by
a whole number. -/
def sampleCandidates : List (Ranked Float String) :=
  [⟨"silent", 0.4⟩, ⟨"nan", 0.3⟩, ⟨"infinite", 0.2⟩, ⟨"seven", 0.1⟩]

def sampleJudge : Judge Data String := fun _ name =>
  if name == "silent" then .silent (.error "no answer")
  else if name == "nan" then .silent (.ok ⟨.float (0.0 / 0.0), ""⟩)
  else if name == "infinite" then .silent (.ok ⟨.float (1.0 / 0.0), ""⟩)
  else .silent (.ok ⟨.int 7, "fits"⟩)

theorem relevance_isolates_sampleCandidates :
    (∀ c ∈ sampleCandidates, ∀ v, (sampleJudge "query" c.item).value = .ok v →
      ∃ x, v.total.toFloat = .ok x) ∧
      ∃ ranked, (rerankByRelevance (fun name => name) sampleJudge Data.toFloat "query"
        sampleCandidates 4).value
          = .ok ranked ∧
        (ranked.map fun j => j.item).Perm ["silent", "nan", "infinite", "seven"] ∧
        ∀ j ∈ ranked, (j.item = "silent" → j.score = 0.0 ∧
          j.explanation = "Ranking failed: no answer") ∧
          (j.item = "nan" → j.score = 0.0) ∧ (j.item = "infinite" → j.score = 10.0) ∧
          (j.item = "seven" → j.score = 7.0 ∧ j.explanation = "fits") := by
  have htotals : ∀ c ∈ sampleCandidates, ∀ v, (sampleJudge "query" c.item).value = .ok v →
      ∃ x, v.total.toFloat = .ok x := by
    have hnumbers : ∀ c ∈ sampleCandidates,
        ((sampleJudge "query" c.item).value.toOption.all fun v => v.total.toFloat.isOk) =
          true := by decide +kernel
    intro c hc v hv
    have hok := hnumbers c hc
    rw [hv] at hok
    exact exists_eq_ok hok
  obtain ⟨-, hisolated⟩ :=
    relevance_isolates_candidates (fun name : String => name) sampleJudge
      "query" sampleCandidates
  obtain ⟨ranked, hcut, hperm, hjudged, -⟩ := hisolated htotals
  have hall : ranked.take 4 = ranked := by
    apply List.take_of_length_le
    have hlength := hperm.length_eq
    rw [List.length_map, List.length_map] at hlength
    exact hlength.le
  refine ⟨htotals, ranked, hall ▸ hcut 4 (by decide), hperm, fun j hj => ?_⟩
  have hj := hjudged j hj
  refine ⟨?_, ?_, ?_, ?_⟩ <;> intro hitem <;> rw [hitem] at hj
  · exact hj
  · obtain ⟨x, hx, hnearest, -⟩ := hj
    obtain rfl := Except.ok.inj hx
    exact hnearest.undefined (by decide +kernel)
  · obtain ⟨x, hx, hnearest, -⟩ := hj
    obtain rfl := Except.ok.inj hx
    exact hnearest.above (by decide +kernel)
  · obtain ⟨x, hx, hnearest, hexplanation⟩ := hj
    have hseven : (Data.int 7).toFloat = .ok 7.0 := by decide +kernel
    obtain rfl := Except.ok.inj (hseven.symm.trans hx)
    exact ⟨hnearest.inside (by decide +kernel) (by decide +kernel), hexplanation⟩

/-- The judge likes one candidate beyond the range of machine numbers: its total has 401
digits. -/
def overflowingJudge : Judge Data String := fun _ name =>
  .silent (.ok ⟨if name == "huge" then .int (10 ^ 400) else .float 3.0, ""⟩)

/-- One total beyond the range of machine numbers takes the answer away from all
candidates: it is not brought down to the greatest relevance, nor does it count as a
verdict that is missing. -/
theorem hugeTotal_stops_ranking :
    (overflowingJudge "query" "huge").value = .ok ⟨.int (10 ^ 400), ""⟩ ∧
      (rerankByRelevance (fun name => name) overflowingJudge Data.toFloat "query"
        [⟨"huge", 0.5⟩, ⟨"modest", 0.4⟩] 10).value = .error .outOfRange := by
  have hoverflow : (Data.int (10 ^ 400)).toFloat = .error .outOfRange := by decide +kernel
  have hjudged : judgedAs Data.toFloat "huge" (overflowingJudge "query" "huge").value =
      .error .outOfRange :=
    bind_eq_error.mpr (.inl hoverflow)
  refine ⟨rfl, ?_⟩
  rw [rerankByRelevance, Noted.value_map, Noted.value_sequence, List.map_map]
  exact bind_eq_error.mpr (.inl (mapM_eq_error.mpr ⟨[], _, _, rfl, hjudged, by simp⟩))

end CodeRetrieval.Funnel
