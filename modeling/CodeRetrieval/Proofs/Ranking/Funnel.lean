import CodeRetrieval.Proofs.Data.Results
import CodeRetrieval.Proofs.Ranking.Order
import CodeRetrieval.Ranking.Funnel

/-!
# What the steps of the funnel keep

Both steps of the funnel do the same with different scores: they rank the candidates
that have a score and keep the best of them. What a step keeps is among its candidates,
and what it drops has no higher score.
-/

namespace CodeRetrieval.Funnel

open Ranking Scalar

variable {R T E ι : Type}

/-! ## One step -/

/-- The candidates that have a score, with their scores. -/
def scoredBy (score? : ι → Option R) (candidates : List ι) : List (Ranked R ι) :=
  candidates.filterMap fun item => (score? item).map (Ranked.mk item)

theorem scoredBy_cons_none {score? : ι → Option R} {item : ι}
    (h : score? item = none) (items : List ι) :
    scoredBy score? (item :: items) = scoredBy score? items :=
  List.filterMap_cons_none (by rw [h]; rfl)

theorem scoredBy_cons_some {score? : ι → Option R} {item : ι} {score : R}
    (h : score? item = some score) (items : List ι) :
    scoredBy score? (item :: items) = ⟨item, score⟩ :: scoredBy score? items :=
  List.filterMap_cons_some (by rw [h]; rfl)

theorem mem_scoredBy {score? : ι → Option R} {candidates : List ι} {r : Ranked R ι} :
    r ∈ scoredBy score? candidates ↔ r.item ∈ candidates ∧
      score? r.item = some r.score := by
  rw [scoredBy, List.mem_filterMap]
  constructor
  · rintro ⟨item, hitem, hr⟩
    obtain ⟨score, hscore, rfl⟩ := Option.map_eq_some_iff.mp hr
    exact ⟨hitem, hscore⟩
  · rintro ⟨hitem, hscore⟩
    exact ⟨r.item, hitem, by rw [hscore]; rfl⟩

theorem map_item_scoredBy (score? : ι → Option R) (candidates : List ι) :
    (scoredBy score? candidates).map Ranked.item = candidates.filter fun item =>
      (score? item).isSome := by
  induction candidates with
  | nil => rfl
  | cons item candidates ih =>
      cases h : score? item with
      | none => rw [scoredBy_cons_none h, ih, List.filter_cons_of_neg (by simp [h])]
      | some score =>
          rw [scoredBy_cons_some h, List.map_cons, ih,
            List.filter_cons_of_pos (by simp [h])]

theorem map_item_scoredBy_sublist (score? : ι → Option R) (candidates : List ι) :
    ((scoredBy score? candidates).map Ranked.item).Sublist candidates := by
  rw [map_item_scoredBy]
  exact List.filter_sublist

variable [Scalar R]

/-- A step keeps the best `size` of its candidates by their scores, the best first, and
those with equal scores in the order in which they came. A candidate without a score is
not kept. -/
structure Narrows (id : ι → String) (score? : ι → Option R) (candidates : List ι)
    (size : Int) (kept : List (Ranked R ι)) : Prop where
  among : ∀ r ∈ kept, r.item ∈ candidates ∧ score? r.item = some r.score
  nodup_id : (kept.map fun r => id r.item).Nodup
  length_le : (kept.length : Int) ≤ size
  ordered : kept.Pairwise fun a b => le b.score a.score ∧
    (le a.score b.score → [a.item, b.item].Sublist candidates)
  best : ∀ item ∈ candidates, item ∉ kept.map Ranked.item →
    ∀ score, score? item = some score →
    ∀ r ∈ kept, le score r.score

/-- Ranking candidates by their scores and keeping the first ones narrows. -/
theorem narrows_cut [LawfulScalar R] {id : ι → String} {score? : ι → Option R}
    {candidates : List ι} {size : Int} (hsize : 0 ≤ size) (hids : (candidates.map id).Nodup)
    (hnumbers : ∀ item ∈ candidates, ∀ score, score? item = some score → IsNumber score) :
    Narrows id score? candidates size
      (cut size (descending Ranked.score (scoredBy score? candidates))) := by
  let scored := scoredBy score? candidates
  let kept := cut size (descending Ranked.score scored)
  have hkept : kept <+: descending Ranked.score scored := isPrefix_cut _ _
  have hmem : ∀ r ∈ kept, r ∈ scored := fun r hr => mem_descending.mp (mem_of_mem_cut hr)
  have hnumber : ∀ r ∈ kept, IsNumber r.score := by
    intro r hr
    obtain ⟨hitem, hscore⟩ := mem_scoredBy.mp (hmem r hr)
    exact hnumbers r.item hitem r.score hscore
  refine ⟨fun r hr => mem_scoredBy.mp (hmem r hr), ?_, length_cut_le hsize _, ?_, ?_⟩
  · have hscored : (scored.map fun r => id r.item).Nodup := by
      have hsub := (map_item_scoredBy_sublist score? candidates).map id
      rw [List.map_map] at hsub
      exact hids.sublist hsub
    have hranked :=
      ((perm_descending Ranked.score scored).map fun r => id r.item).nodup_iff.mpr hscored
    exact hranked.sublist (hkept.sublist.map _)
  · have hordered := (pairwise_descending Ranked.score scored).sublist hkept.sublist
    refine hordered.imp_of_mem fun {a b} ha hb h => ?_
    obtain ⟨hab, htie⟩ := h
    refine ⟨mayPrecede_iff.mp hab (hnumber b hb), fun hle => ?_⟩
    have hpair := (htie (mayPrecede_iff.mpr fun _ => hle)).map Ranked.item
    exact hpair.trans (map_item_scoredBy_sublist score? candidates)
  · -- what is dropped has a score, so it was ranked, and all that is kept stands before it
    intro item hitem hcut score hscore r hr
    have hdropped : (⟨item, score⟩ : Ranked R ι) ∉ kept :=
      fun h => hcut (List.mem_map_of_mem h)
    have hprecede :=
      mayPrecede_of_not_mem_cut hr (mem_scoredBy.mpr ⟨hitem, hscore⟩) hdropped
    exact mayPrecede_iff.mp hprecede (hnumbers item hitem score hscore)

/-! ## The first step -/

/-- The score of an item in the first step, if it has a vector. -/
def similarity? (embedding : ι → Option (List R)) (query : List R) (item : ι) : Option R :=
  (embedding item).bind fun v => (Vector.cosine query v).toOption

theorem rerankBySimilarity_eq {embedding : ι → Option (List R)} {query : List R}
    {candidates : List (Ranked R ι)}
    (hlengths : ∀ c ∈ candidates, ∀ v, embedding c.item = some v → query.length = v.length)
    (size : Int) :
    rerankBySimilarity embedding query candidates size =
      .ok (cut size (descending Ranked.score
      (scoredBy (similarity? embedding query) (candidates.map Ranked.item)))) := by
  rw [rerankBySimilarity, scoredBy, List.filterMap_map]
  refine bind_eq_ok.mpr ⟨_, filterMapM_eq_ok ?_, rfl⟩
  intro c hc
  cases hv : embedding c.item with
  | none => simp [similarity?, hv, pure, Except.pure]
  | some v =>
      have hcosine : ∃ x, Vector.cosine query v = .ok x := by
        rw [Vector.cosine, if_neg (not_not.mpr (hlengths c hc v hv))]
        exact ⟨_, rfl⟩
      obtain ⟨x, hx⟩ := hcosine
      simp [similarity?, hv, hx, bind, Except.bind, pure, Except.pure, Except.toOption]

theorem exists_rerankBySimilarity_eq_error {embedding : ι → Option (List R)}
    {query : List R} {candidates : List (Ranked R ι)} {c : Ranked R ι} (hc : c ∈ candidates)
    {v : List R} (hv : embedding c.item = some v)
    (hlength : query.length ≠ v.length) (size : Int) :
    ∃ e, rerankBySimilarity embedding query candidates size = .error e := by
  cases h : rerankBySimilarity embedding query candidates size with
  | error e => exact ⟨e, rfl⟩
  | ok kept =>
      obtain ⟨scored, hscored, -⟩ := bind_eq_ok.mp h
      obtain ⟨r?, hr⟩ := exists_eq_ok_of_filterMapM hscored hc
      have hcosine : Vector.cosine query v = .error (.lengths query.length v.length) :=
        if_pos hlength
      simp only [hv, hcosine] at hr
      cases hr

/-- The first step keeps the candidates whose vectors are most similar to that of the
query. -/
theorem exists_rerankBySimilarity_narrows [LawfulScalar R] {id : ι → String}
    {embedding : ι → Option (List R)} {query : List R} {candidates : List (Ranked R ι)}
    {size : Int} (hsize : 0 ≤ size) (hids : (candidates.map fun c => id c.item).Nodup)
    (hlengths : ∀ c ∈ candidates, ∀ v, embedding c.item = some v → query.length = v.length)
    (hnumbers : ∀ c ∈ candidates, ∀ score, similarity? embedding query c.item =
    some score → IsNumber score) :
    ∃ kept, rerankBySimilarity embedding query candidates size = .ok kept ∧
      Narrows id (similarity? embedding query) (candidates.map Ranked.item) size kept := by
  refine ⟨_, rerankBySimilarity_eq hlengths size,
    narrows_cut hsize (by rwa [List.map_map]) ?_⟩
  intro item hitem
  obtain ⟨c, hc, rfl⟩ := List.mem_map.mp hitem
  exact hnumbers c hc

theorem exists_of_mem_rerankBySimilarity {embedding : ι → Option (List R)} {query : List R}
    {candidates kept : List (Ranked R ι)} {size : Int}
    (h : rerankBySimilarity embedding query candidates size = .ok kept)
    {r : Ranked R ι} (hr : r ∈ kept) :
    ∃ c ∈ candidates, c.item = r.item := by
  obtain ⟨scored, hscored, h⟩ := bind_eq_ok.mp h
  obtain rfl := Except.ok.inj h
  obtain ⟨c, hc, hcr⟩ :=
    exists_of_mem_filterMapM hscored (mem_descending.mp (mem_of_mem_cut hr))
  refine ⟨c, hc, ?_⟩
  split at hcr
  · obtain ⟨x, -, hcr⟩ := bind_eq_ok.mp hcr
    obtain rfl := Option.some.inj (Except.ok.inj hcr)
    rfl
  · cases hcr

theorem isSome_of_similarity? {embedding : ι → Option (List R)} {query : List R} {item : ι}
    {score : R} (h : similarity? embedding query item = some score) :
    (embedding item).isSome := by
  obtain ⟨v, hv, -⟩ := Option.bind_eq_some_iff.mp h
  rw [hv]
  rfl

/-! ## The second step -/

/-- The relevance of an item by the answer of the judge, unless the verdict's total is
no number. -/
def relevance? (judge : Judge T ι) (amount : T → Except E R) (query : String)
    (item : ι) : Option R :=
  (judgedAs amount item (judge query item).value).toOption.map fun j => j.score

theorem item_of_judgedAs {amount : T → Except E R} {item : ι}
    {answer : Except String (Verdict T)} {j : Judged R ι}
    (h : judgedAs amount item answer = .ok j) : j.item = item := by
  cases answer with
  | error reason =>
      obtain rfl := Except.ok.inj h
      rfl
  | ok verdict =>
      obtain ⟨total, -, h⟩ := bind_eq_ok.mp h
      obtain rfl := Except.ok.inj h
      rfl

theorem not_lt_of_le {a b : R} (h : le a b) : ¬ lt b a := by
  simp [lt, h]

theorem clamp_of_lt {x : R} (h : lt greatest x) : clamp x = greatest :=
  if_pos h

theorem clamp_of_mem {x : R} (hzero : lt 0 x)
    (hgreatest : le x greatest) : clamp x = x := by
  rw [clamp, if_neg (not_lt_of_le hgreatest), if_pos hzero]

theorem clamp_of_le [LawfulScalar R] {x : R} (h : le x 0) : clamp x = 0 := by
  have hgreatest : le x greatest := LawfulScalar.le_trans h LawfulScalar.zero_le_ten
  rw [clamp, if_neg (not_lt_of_le hgreatest), if_neg (not_lt_of_le h)]

theorem clamp_of_not_isNumber [LawfulScalar R] {x : R}
    (h : ¬ IsNumber x) : clamp x = 0 := by
  -- what is no number is greater than nothing
  have hnot : ∀ y : R, ¬ lt y x := by
    intro y hy
    rw [lt, Bool.and_eq_true] at hy
    exact h (LawfulScalar.isNumber_of_le hy.1).2
  rw [clamp, if_neg (hnot greatest), if_neg (hnot 0)]

theorem le_clamp [LawfulScalar R] (x : R) : le 0 (clamp x) ∧ le (clamp x) greatest := by
  have hlimits : le (0 : R) greatest := LawfulScalar.zero_le_ten
  obtain ⟨hzero, hgreatest⟩ := LawfulScalar.isNumber_of_le hlimits
  rw [clamp]
  split
  · exact ⟨hlimits, hgreatest⟩
  · rename_i habove
    split
    · rename_i hbelow
      have hx : le 0 x := by
        rw [lt, Bool.and_eq_true] at hbelow
        exact hbelow.1
      refine ⟨hx, ?_⟩
      rcases LawfulScalar.le_total (LawfulScalar.isNumber_of_le hx).2 hgreatest with h | h
      · exact h
      · by_contra hnot
        exact habove (by simp [lt, h, hnot])
    · exact ⟨hzero, hlimits⟩

/-- A candidate is judged between the limits of relevance. -/
theorem limits_of_judgedAs [LawfulScalar R] {amount : T → Except E R} {item : ι}
    {answer : Except String (Verdict T)} {j : Judged R ι}
    (h : judgedAs amount item answer = .ok j) :
    le 0 j.score ∧ le j.score greatest := by
  have hlimits : le (0 : R) greatest := LawfulScalar.zero_le_ten
  cases answer with
  | error reason =>
      obtain rfl := Except.ok.inj h
      exact ⟨(LawfulScalar.isNumber_of_le hlimits).1, hlimits⟩
  | ok verdict =>
      obtain ⟨total, -, h⟩ := bind_eq_ok.mp h
      obtain rfl := Except.ok.inj h
      exact le_clamp total

theorem isNumber_of_relevance? [LawfulScalar R] {judge : Judge T ι}
    {amount : T → Except E R} {query : String} {item : ι} {score : R}
    (h : relevance? judge amount query item = some score) : IsNumber score := by
  obtain ⟨j, hj, rfl⟩ := Option.map_eq_some_iff.mp h
  cases hanswer : judgedAs amount item (judge query item).value with
  | error e =>
      rw [hanswer] at hj
      cases hj
  | ok j' =>
      rw [hanswer] at hj
      obtain rfl := Option.some.inj hj
      exact (LawfulScalar.isNumber_of_le (limits_of_judgedAs hanswer).1).2

theorem map_toRanked_of_judged {judge : Judge T ι} {amount : T → Except E R}
    {query : String} {candidates : List (Ranked R ι)} {judged : List (Judged R ι)}
    (h : List.Forall₂ (fun c j => judgedAs amount c.item (judge query c.item).value = .ok j)
    candidates judged) :
    judged.map Judged.toRanked =
      scoredBy (relevance? judge amount query) (candidates.map Ranked.item) := by
  induction h with
  | nil => rfl
  | @cons c j candidates judged hj _ ih =>
      have hrelevance : relevance? judge amount query c.item = some j.score := by
        rw [relevance?, hj]
        rfl
      rw [List.map_cons, List.map_cons, ih,
        scoredBy_cons_some hrelevance, ← item_of_judgedAs hj]

theorem map_item_of_judged {judge : Judge T ι} {amount : T → Except E R} {query : String}
    {candidates : List (Ranked R ι)} {judged : List (Judged R ι)}
    (h : List.Forall₂ (fun c j => judgedAs amount c.item (judge query c.item).value = .ok j)
    candidates judged) :
    judged.map (fun j => j.item) = candidates.map Ranked.item := by
  induction h with
  | nil => rfl
  | cons hj _ ih => rw [List.map_cons, List.map_cons, ih, item_of_judgedAs hj]

theorem exists_judgedAs_eq_error {amount : T → Except E R} {item : ι}
    {answer : Except String (Verdict T)} :
    (∃ e, judgedAs amount item answer = .error e) ↔ ∃ v e, answer = .ok v ∧
      amount v.total = .error e := by
  cases answer with
  | error reason => simp [judgedAs]
  | ok verdict =>
      rw [judgedAs, exists_map_eq_error]
      constructor
      · rintro ⟨e, he⟩
        exact ⟨verdict, e, rfl, he⟩
      · rintro ⟨v, e, hv, he⟩
        obtain rfl := Except.ok.inj hv
        exact ⟨e, he⟩

/-- The second step judges the candidates one by one and ranks what comes of it. -/
theorem rerankByRelevance_eq_ok {id : ι → String} {judge : Judge T ι}
    {amount : T → Except E R} {query : String} {candidates : List (Ranked R ι)} {size : Int}
    {kept : List (Judged R ι)} :
    (rerankByRelevance id judge amount query candidates size).value = .ok kept ↔
      ∃ judged, List.Forall₂ (fun c j => judgedAs amount c.item (judge query c.item).value =
        .ok j) candidates judged ∧
        kept = cut size (descending (fun j => j.score) judged) := by
  rw [rerankByRelevance, Noted.value_map, Noted.value_sequence, List.map_map, bind_eq_ok]
  apply exists_congr
  intro judged
  rw [mapM_eq_ok, List.forall₂_map_left_iff]
  apply and_congr_right
  intro _
  constructor
  · intro h
    exact (Except.ok.inj h).symm
  · rintro rfl
    rfl

/-- The second step fails when some verdict's total is no number, and not otherwise. -/
theorem exists_rerankByRelevance_eq_error {id : ι → String} {judge : Judge T ι}
    {amount : T → Except E R} {query : String}
    {candidates : List (Ranked R ι)} {size : Int} :
    (∃ e, (rerankByRelevance id judge amount query candidates size).value = .error e) ↔
      ∃ c ∈ candidates, ∃ v e, (judge query c.item).value = .ok v ∧
        amount v.total = .error e := by
  rw [rerankByRelevance, Noted.value_map, Noted.value_sequence, List.map_map,
    exists_map_eq_error, exists_mapM_eq_error]
  constructor
  · rintro ⟨_, hanswer, he⟩
    obtain ⟨c, hc, rfl⟩ := List.mem_map.mp hanswer
    exact ⟨c, hc, exists_judgedAs_eq_error.mp he⟩
  · rintro ⟨c, hc, h⟩
    exact ⟨_, List.mem_map_of_mem hc, exists_judgedAs_eq_error.mpr h⟩

theorem exists_judged {judge : Judge T ι} {amount : T → Except E R} {query : String}
    {candidates : List (Ranked R ι)}
    (htotals : ∀ c ∈ candidates, ∀ v, (judge query c.item).value = .ok v →
    ∃ x, amount v.total = .ok x) :
    ∃ judged, List.Forall₂ (fun c j => judgedAs amount c.item (judge query c.item).value =
      .ok j) candidates judged := by
  have hanswers : ∀ c ∈ candidates, ∃ j, judgedAs amount c.item (judge query c.item).value =
      .ok j := by
    intro c hc
    cases hanswer : (judge query c.item).value with
    | error reason => exact ⟨_, rfl⟩
    | ok verdict =>
        obtain ⟨x, hx⟩ := htotals c hc verdict hanswer
        exact ⟨⟨⟨c.item, clamp x⟩, verdict.explanation⟩, by rw [judgedAs, hx]; rfl⟩
  obtain ⟨judged, hjudged⟩ := exists_mapM_eq_ok hanswers
  exact ⟨judged, mapM_eq_ok.mp hjudged⟩

theorem rerankByRelevance_eq (id : ι → String) {judge : Judge T ι} {amount : T → Except E R}
    {query : String} {candidates : List (Ranked R ι)} (size : Int)
    (htotals : ∀ c ∈ candidates, ∀ v, (judge query c.item).value = .ok v →
    ∃ x, amount v.total = .ok x) :
    ∃ kept, (rerankByRelevance id judge amount query candidates size).value = .ok kept ∧
      (∀ j ∈ kept, ∃ answer, judgedAs amount j.item answer = .ok j) ∧
      kept.map Judged.toRanked = cut size (descending Ranked.score
        (scoredBy (relevance? judge amount query) (candidates.map Ranked.item))) := by
  obtain ⟨judged, hjudged⟩ := exists_judged htotals
  refine ⟨cut size (descending (fun j => j.score) judged),
    rerankByRelevance_eq_ok.mpr ⟨judged, hjudged, rfl⟩, ?_, ?_⟩
  · intro j hj
    obtain ⟨c, -, hc⟩ := exists_of_mem_right hjudged (mem_descending.mp (mem_of_mem_cut hj))
    exact ⟨_, item_of_judgedAs hc ▸ hc⟩
  · rw [map_cut, map_descending Ranked.score fun _ => rfl, map_toRanked_of_judged hjudged]

/-- The second step keeps the candidates that the judge likes best. -/
theorem exists_rerankByRelevance_narrows [LawfulScalar R] {id : ι → String}
    {judge : Judge T ι} {amount : T → Except E R} {query : String}
    {candidates : List (Ranked R ι)} {size : Int} (hsize : 0 ≤ size)
    (hids : (candidates.map fun c => id c.item).Nodup)
    (htotals : ∀ c ∈ candidates, ∀ v, (judge query c.item).value = .ok v →
    ∃ x, amount v.total = .ok x) :
    ∃ kept, (rerankByRelevance id judge amount query candidates size).value = .ok kept ∧
      Narrows id (relevance? judge amount query) (candidates.map Ranked.item) size
        (kept.map Judged.toRanked) ∧
      ∀ j ∈ kept, le 0 j.score ∧ le j.score greatest := by
  obtain ⟨kept, hkept, hjudged, hranked⟩ := rerankByRelevance_eq id size htotals
  refine ⟨kept, hkept, ?_, ?_⟩
  · rw [hranked]
    exact narrows_cut hsize (by rwa [List.map_map]) fun item _ score h =>
      isNumber_of_relevance? h
  · intro j hj
    obtain ⟨answer, hanswer⟩ := hjudged j hj
    exact limits_of_judgedAs hanswer

theorem exists_of_mem_rerankByRelevance {id : ι → String} {judge : Judge T ι}
    {amount : T → Except E R} {query : String} {candidates : List (Ranked R ι)} {size : Int}
    {kept : List (Judged R ι)}
    (h : (rerankByRelevance id judge amount query candidates size).value = .ok kept)
    {j : Judged R ι} (hj : j ∈ kept) :
    ∃ c ∈ candidates, c.item = j.item := by
  obtain ⟨judged, hjudged, rfl⟩ := rerankByRelevance_eq_ok.mp h
  obtain ⟨c, hc, hcj⟩ := exists_of_mem_right hjudged (mem_descending.mp (mem_of_mem_cut hj))
  exact ⟨c, hc, (item_of_judgedAs hcj).symm⟩

/-! ## Both steps -/

theorem countP_contains_eq_length {xs ys : List String} (h : ∀ x ∈ xs, x ∈ ys) :
    xs.countP ys.contains = xs.length :=
  List.countP_eq_length.mpr fun x hx => List.contains_iff_mem.mpr (h x hx)

/-- Both steps one after the other, where the first failure counts. -/
theorem value_run {id : ι → String} {embedding : ι → Option (List R)} {judge : Judge T ι}
    {amount : T → Except E R} {query : String} {vector : List R}
    {candidates : List (Ranked R ι)} {similar relevant : Int} :
    (run id embedding judge amount query vector candidates similar relevant).value = (do
      let stage2 ← (rerankBySimilarity embedding vector candidates similar).mapError
        .dimension
      let stage3 ← (rerankByRelevance id judge amount query stage2 relevant).value.mapError
        .total
      return ⟨candidates, stage2, stage3⟩) := by
  rw [run]
  cases rerankBySimilarity embedding vector candidates similar with
  | error e => rfl
  | ok stage2 =>
      simp only [Noted.value_map]
      cases h : (rerankByRelevance id judge amount query stage2 relevant).value with
      | error e => simp [Except.mapError, bind, Except.bind, h]
      | ok stage3 => simp [Except.mapError, bind, Except.bind, pure, Except.pure, h]

theorem run_of_eq_ok {id : ι → String} {embedding : ι → Option (List R)} {judge : Judge T ι}
    {amount : T → Except E R} {query : String} {vector : List R}
    {candidates stage2 : List (Ranked R ι)} {stage3 : List (Judged R ι)}
    {similar relevant : Int}
    (hstage2 : rerankBySimilarity embedding vector candidates similar = .ok stage2)
    (hstage3 : (rerankByRelevance id judge amount query stage2 relevant).value =
    .ok stage3) :
    (run id embedding judge amount query vector candidates similar relevant).value
      = .ok ⟨candidates, stage2, stage3⟩ := by
  rw [value_run]
  exact bind_eq_ok.mpr ⟨stage2, mapError_eq_ok.mpr hstage2,
    bind_eq_ok.mpr ⟨stage3, mapError_eq_ok.mpr hstage3, rfl⟩⟩

theorem run_eq_ok {id : ι → String} {embedding : ι → Option (List R)} {judge : Judge T ι}
    {amount : T → Except E R} {query : String} {vector : List R}
    {candidates : List (Ranked R ι)} {similar relevant : Int} {stages : Stages R ι}
    (h : (run id embedding judge amount query vector candidates similar relevant).value =
    .ok stages) :
    stages.stage1 = candidates ∧
      rerankBySimilarity embedding vector candidates similar = .ok stages.stage2 ∧
      (rerankByRelevance id judge amount query stages.stage2 relevant).value =
        .ok stages.stage3 := by
  rw [value_run] at h
  obtain ⟨stage2, hstage2, h⟩ := bind_eq_ok.mp h
  obtain ⟨stage3, hstage3, h⟩ := bind_eq_ok.mp h
  obtain rfl := Except.ok.inj h
  exact ⟨rfl, mapError_eq_ok.mp hstage2, mapError_eq_ok.mp hstage3⟩

end CodeRetrieval.Funnel
