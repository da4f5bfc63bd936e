import CodeRetrieval.Proofs.Ranking.Exact
import CodeRetrieval.Proofs.Ranking.Fusion

/-!
# Fused scores

In exact numbers the score of an item in a fused ranking is the sum of `1 / (k + rank)`
over all places at which its identifier stands. It depends on the places alone: not on
the scores in the rankings, and not on the order of the rankings. Between items with
equal sums the one that was seen first comes first.
-/

namespace CodeRetrieval.Ranking

variable {ι : Type}

/-! ## Sums over places -/

/-- The sum of `1 / (k + rank)` over the places of one list at which the given
identifier stands. -/
noncomputable def reciprocalSum (id : ι → String) (k : ℤ) (key : String)
    (items : List ι) : ℝ :=
  (((items.zipIdx 1).filter fun p => id p.1 == key).map fun p => 1 / ((k : ℝ) + p.2)).sum

/-- The sum of `1 / (k + rank)` over the places of all lists at which the given
identifier stands. -/
noncomputable def reciprocalScore (id : ι → String) (k : ℤ) (lists : List (List ι))
    (key : String) : ℝ :=
  (lists.map (reciprocalSum id k key)).sum

/-- The first item of each identifier with the sum over all of its places, in the order
in which they are seen. -/
noncomputable def reciprocalEntries (id : ι → String) (k : ℤ) (lists : List (List ι)) :
    List (Ranked Exact ι) :=
  (firstByKey id lists.flatten).map fun item =>
    ⟨item, ⟨reciprocalScore id k lists (id item)⟩⟩

variable {id : ι → String} {k : ℤ} {key : String} {items : List ι} {lists : List (List ι)}

theorem exists_place {item : ι} (h : item ∈ items) (n : ℕ) :
    ∃ p ∈ items.zipIdx n, p.1 = item := by
  have hplace : item ∈ (items.zipIdx n).map Prod.fst := by rwa [List.zipIdx_map_fst]
  exact List.mem_map.mp hplace

/-- Where identifiers are distinct, each has one place at most. -/
theorem length_places_le_one (hids : (items.map id).Nodup) :
    ((items.zipIdx 1).filter fun p => id p.1 == key).length ≤ 1 := by
  have hcount : (items.map id).count key =
      ((items.zipIdx 1).filter fun p => id p.1 == key).length := by
    rw [← List.countP_eq_length_filter, List.count, List.countP_map]
    nth_rewrite 1 [← List.zipIdx_map_fst 1 items]
    rw [List.countP_map]
    rfl
  rw [← hcount]
  exact List.nodup_iff_count_le_one.mp hids key

theorem reciprocalSum_of_mem_zipIdx (hids : (items.map id).Nodup) {p : ι × ℕ}
    (hp : p ∈ items.zipIdx 1) :
    reciprocalSum id k (id p.1) items = 1 / ((k : ℝ) + p.2) := by
  have hkept : p ∈ (items.zipIdx 1).filter fun q => id q.1 == id p.1 :=
    List.mem_filter.mpr ⟨hp, by simp⟩
  have honce : ((items.zipIdx 1).filter fun q => id q.1 == id p.1).length = 1 := by
    have hpos := List.length_pos_of_mem hkept
    have hle : ((items.zipIdx 1).filter fun q => id q.1 == id p.1).length ≤ 1 :=
      length_places_le_one hids
    omega
  obtain ⟨q, hq⟩ := List.length_eq_one_iff.mp honce
  rw [hq, List.mem_singleton] at hkept
  rw [reciprocalSum, hq, ← hkept, List.map_singleton, List.sum_singleton]

theorem reciprocalSum_of_not_mem (h : key ∉ items.map id) :
    reciprocalSum id k key items = 0 := by
  have hnone : ((items.zipIdx 1).filter fun p => id p.1 == key) = [] := by
    rw [List.filter_eq_nil_iff]
    intro p hp hkey
    apply h
    rw [← beq_iff_eq.mp hkey]
    exact List.mem_map_of_mem (List.fst_mem_of_mem_zipIdx hp)
  rw [reciprocalSum, hnone, List.map_nil, List.sum_nil]

section

variable (hk : 0 ≤ k)
include hk

/-- What a place adds is positive, and at most what the first place adds. -/
theorem reciprocal_mem_Ioc {p : ι × ℕ} (hp : p ∈ items.zipIdx 1) :
    0 < 1 / ((k : ℝ) + p.2) ∧ 1 / ((k : ℝ) + p.2) ≤ 1 / (k + 1) := by
  have hk' : (0 : ℝ) ≤ k := by exact_mod_cast hk
  have hrank : (1 : ℝ) ≤ p.2 := by exact_mod_cast List.le_snd_of_mem_zipIdx hp
  constructor
  · exact one_div_pos.mpr (by linarith)
  · exact one_div_le_one_div_of_le (by linarith) (by linarith)

theorem reciprocalSum_nonneg : 0 ≤ reciprocalSum id k key items := by
  apply List.sum_nonneg
  intro x hx
  obtain ⟨p, hp, rfl⟩ := List.mem_map.mp hx
  exact (reciprocal_mem_Ioc hk (List.mem_of_mem_filter hp)).1.le

theorem reciprocalSum_pos {item : ι} (hitem : item ∈ items) :
    0 < reciprocalSum id k (id item) items := by
  obtain ⟨p, hp, rfl⟩ := exists_place hitem 1
  apply List.sum_pos
  · intro x hx
    obtain ⟨q, hq, rfl⟩ := List.mem_map.mp hx
    exact (reciprocal_mem_Ioc hk (List.mem_of_mem_filter hq)).1
  · have hkept : p ∈ (items.zipIdx 1).filter fun q => id q.1 == id p.1 :=
      List.mem_filter.mpr ⟨hp, by simp⟩
    exact List.ne_nil_of_mem (List.mem_map_of_mem hkept)

/-- An identifier that stands in a list at most once gets no more from it than the first
place adds. -/
theorem reciprocalSum_le (hids : (items.map id).Nodup) :
    reciprocalSum id k key items ≤ 1 / (k + 1) := by
  have hpos : (0 : ℝ) ≤ 1 / (k + 1) := by
    have hk' : (0 : ℝ) ≤ k := by exact_mod_cast hk
    positivity
  calc reciprocalSum id k key items
      ≤ (((items.zipIdx 1).filter fun p => id p.1 == key).map fun p =>
        1 / ((k : ℝ) + p.2)).length • (1 / ((k : ℝ) + 1)) := by
        apply List.sum_le_card_nsmul
        intro x hx
        obtain ⟨p, hp, rfl⟩ := List.mem_map.mp hx
        exact (reciprocal_mem_Ioc hk (List.mem_of_mem_filter hp)).2
    _ ≤ 1 • (1 / ((k : ℝ) + 1)) := by
        rw [List.length_map]
        exact nsmul_le_nsmul_left hpos (length_places_le_one hids)
    _ = 1 / (k + 1) := one_nsmul _

theorem reciprocalScore_pos {item : ι} (hitem : item ∈ lists.flatten) :
    0 < reciprocalScore id k lists (id item) := by
  obtain ⟨items, hitems, hmem⟩ := List.mem_flatten.mp hitem
  have hnonneg : ∀ x ∈ lists.map (reciprocalSum id k (id item)), 0 ≤ x := by
    intro x hx
    obtain ⟨items, -, rfl⟩ := List.mem_map.mp hx
    exact reciprocalSum_nonneg hk
  exact (reciprocalSum_pos hk hmem).trans_le
    (List.single_le_sum hnonneg _ (List.mem_map_of_mem hitems))

theorem reciprocalScore_le (hids : ∀ items ∈ lists, (items.map id).Nodup) :
    reciprocalScore id k lists key ≤ lists.length / (k + 1) := by
  calc reciprocalScore id k lists key
      ≤ (lists.map (reciprocalSum id k key)).length • (1 / ((k : ℝ) + 1)) := by
        apply List.sum_le_card_nsmul
        intro x hx
        obtain ⟨items, hitems, rfl⟩ := List.mem_map.mp hx
        exact reciprocalSum_le hk (hids items hitems)
    _ = lists.length / (k + 1) := by rw [List.length_map, nsmul_eq_mul, mul_one_div]

end

theorem reciprocalScore_perm {lists' : List (List ι)} (h : lists'.Perm lists) :
    reciprocalScore id k lists' key = reciprocalScore id k lists key :=
  (h.map _).sum_eq

/-! ## The fused ranking -/

variable {rankings rankings' : List (List (Ranked Exact ι))}

def itemsOf {R : Type} (rankings : List (List (Ranked R ι))) : List (List ι) :=
  rankings.map fun ranking => ranking.map Ranked.item

theorem places_eq {R : Type} [Scalar R] (rankings : List (List (Ranked R ι))) :
    places k rankings
      = (itemsOf rankings).flatMap fun items => (items.zipIdx 1).map fun p =>
        ⟨p.1, Scalar.ratio 1 (k + p.2)⟩ := by
  rw [places, itemsOf, List.flatMap_map]
  apply List.flatMap_congr
  intro ranking _
  rw [List.zipIdx_map, List.map_map]
  rfl

theorem map_item_places {R : Type} [Scalar R] (rankings : List (List (Ranked R ι))) :
    (places k rankings).map Ranked.item = (itemsOf rankings).flatten := by
  have hitems : ∀ items : List ι,
      ((items.zipIdx 1).map fun p =>
      (⟨p.1, Scalar.ratio 1 (k + p.2)⟩ : Ranked R ι)).map Ranked.item
      = items := by
    intro items
    rw [List.map_map]
    exact List.zipIdx_map_fst 1 items
  rw [places_eq, List.map_flatMap]
  simp only [hitems]
  exact List.flatMap_id

theorem val_fusedScore (rankings : List (List (Ranked Exact ι))) (key : String) :
    (fusedScore id (places k rankings) key).val =
      reciprocalScore id k (itemsOf rankings) key := by
  have hlist : ∀ items : List ι,
      (((((items.zipIdx 1).map fun p =>
        (⟨p.1, Scalar.ratio 1 (k + p.2)⟩ : Ranked Exact ι)).filter
        fun p => id p.item == key).map Ranked.score).map Exact.val).sum =
          reciprocalSum id k key items := by
    intro items
    rw [List.filter_map, List.map_map, List.map_map, reciprocalSum]
    congr 1
    apply List.map_congr_left
    intro p _
    simp
  rw [fusedScore, Exact.val_sum, places_eq, List.filter_flatMap, List.map_flatMap,
    List.map_flatMap, List.flatMap_def, List.sum_flatten, List.map_map, reciprocalScore]
  exact congrArg List.sum (List.map_congr_left fun items _ => hlist items)

theorem fused_eq (rankings : List (List (Ranked Exact ι))) :
    fused id k rankings = descending Ranked.score
      (reciprocalEntries id k (itemsOf rankings)) := by
  have hitems : firstByKey id ((places k rankings).map Ranked.item) =
      firstByKey id (itemsOf rankings).flatten := by
    rw [map_item_places]
  rw [fused, reciprocalEntries, ← hitems]
  refine congrArg (descending Ranked.score) (List.map_congr_left fun item _ => ?_)
  rw [← val_fusedScore rankings (id item)]

theorem mem_fused_iff {r : Ranked Exact ι} : r ∈ fused id k rankings ↔
    IsFirstOfKey id (itemsOf rankings).flatten r.item ∧
      r.score.val = reciprocalScore id k (itemsOf rankings) (id r.item) := by
  rw [fused_eq, mem_descending, reciprocalEntries, List.mem_map]
  constructor
  · rintro ⟨item, hitem, rfl⟩
    exact ⟨mem_firstByKey.mp hitem, rfl⟩
  · rintro ⟨hfirst, hscore⟩
    exact ⟨r.item, mem_firstByKey.mpr hfirst, by rw [← hscore]⟩

/-- An identifier is in the fused ranking with its sum if it is in any of the rankings,
and not otherwise. -/
theorem mem_scores_fused_iff {score : Exact} :
    (key, score) ∈ (fused id k rankings).map (fun r => (id r.item, r.score)) ↔
      (∃ item ∈ (itemsOf rankings).flatten, id item = key) ∧
        score.val = reciprocalScore id k (itemsOf rankings) key := by
  rw [List.mem_map]
  constructor
  · rintro ⟨r, hr, hpair⟩
    obtain ⟨rfl, rfl⟩ := Prod.mk.inj hpair
    obtain ⟨⟨before, after, hsplit, -⟩, hscore⟩ := mem_fused_iff.mp hr
    exact ⟨⟨r.item, by simp [hsplit], rfl⟩, hscore⟩
  · rintro ⟨⟨item, hitem, rfl⟩, hscore⟩
    obtain ⟨first, hfirst, hid⟩ : ∃ first ∈ firstByKey id
        (itemsOf rankings).flatten, id first = id item :=
      exists_mem_firstByKey hitem
    refine ⟨⟨first, score⟩, mem_fused_iff.mpr ⟨mem_firstByKey.mp hfirst, ?_⟩, by rw [hid]⟩
    rw [hid]
    exact hscore

/-- The identifiers of a fused ranking and their scores do not depend on the order of
the rankings. -/
theorem perm_scores_fused (h : rankings'.Perm rankings) :
    ((fused id k rankings').map fun r => (id r.item, r.score)).Perm
      ((fused id k rankings).map fun r => (id r.item, r.score)) := by
  have hnodup : ∀ rankings : List (List (Ranked Exact ι)),
      ((fused id k rankings).map fun r => (id r.item, r.score)).Nodup := by
    intro rankings
    apply List.Nodup.of_map Prod.fst
    rw [List.map_map]
    exact nodup_id_fused
  have hitems : (itemsOf rankings').Perm (itemsOf rankings) := h.map _
  -- no identifier is in either list twice, so it is enough that they have the same members
  refine (List.perm_ext_iff_of_nodup (hnodup _) (hnodup _)).mpr ?_
  rintro ⟨key, score⟩
  rw [mem_scores_fused_iff, mem_scores_fused_iff, reciprocalScore_perm hitems]
  simp only [hitems.flatten.mem_iff]

/-- Fusion keeps the first entries of the ranking of all identifiers by the sums of `1 /
(k + rank)` over their places, where those with equal sums stand in the order in which
they are seen. Each identifier is there once, with the item that is seen first. The
scores in the rankings play no part, and the order of the rankings only decides what is
seen first. No score is above what first places in all rankings give, unless an
identifier stands in a ranking twice. -/
theorem fuse_sums_reciprocals (id : ι → String) {k : ℤ} (hk : 0 ≤ k)
    (rankings : List (List (Ranked Exact ι))) :
    let lists := itemsOf rankings
    let ranked := fused id k rankings
    (∀ topK : ℤ, 0 ≤ topK → fuse id k topK rankings = .ok (ranked.take topK.toNat)) ∧
    IsRanking (fun r => r.score.val) (reciprocalEntries id k lists) ranked ∧
    (ranked.map fun r => id r.item).Nodup ∧
    (∀ key, (∃ r ∈ ranked, id r.item = key) ↔ ∃ item ∈ lists.flatten, id item = key) ∧
    (∀ r ∈ ranked, IsFirstOfKey id lists.flatten r.item ∧
      r.score.val = reciprocalScore id k lists (id r.item)) ∧
    (∀ rankings', itemsOf rankings' = lists → ∀ topK, fuse id k topK rankings' =
      fuse id k topK rankings) ∧
    (∀ rankings', rankings'.Perm rankings →
      ((fused id k rankings').map fun r => (id r.item, r.score)).Perm (ranked.map fun r =>
        (id r.item, r.score))) ∧
    (∀ r ∈ ranked, 0 < r.score.val) ∧
    ((∀ items ∈ lists, (items.map id).Nodup) →
      ∀ r ∈ ranked, r.score.val ≤ rankings.length / (k + 1)) := by
  intro lists ranked
  refine ⟨?_, ?_, nodup_id_fused, ?_, ?_, ?_, ?_, ?_, ?_⟩
  · intro topK htopK
    rw [fuse_of_nonneg hk, cut_of_nonneg htopK]
  · have hranking := Exact.isRanking_descending Ranked.score (reciprocalEntries id k lists)
    rwa [← fused_eq] at hranking
  · intro key
    have hkeys : (∃ r ∈ ranked, id r.item = key) ↔
        ∃ score, (key, score) ∈ ranked.map fun r => (id r.item, r.score) := by
      simp [List.mem_map]
    rw [hkeys]
    constructor
    · rintro ⟨score, hscore⟩
      exact (mem_scores_fused_iff.mp hscore).1
    · intro hkey
      exact ⟨⟨reciprocalScore id k lists key⟩, mem_scores_fused_iff.mpr ⟨hkey, rfl⟩⟩
  · intro r hr
    exact mem_fused_iff.mp hr
  · intro rankings' hitems topK
    rw [fuse_of_nonneg hk, fuse_of_nonneg hk, fused_eq, fused_eq, hitems]
  · intro rankings' hperm
    exact perm_scores_fused hperm
  · intro r hr
    obtain ⟨⟨before, after, hsplit, -⟩, hscore⟩ := mem_fused_iff.mp hr
    rw [hscore]
    exact reciprocalScore_pos hk (by simp [hsplit])
  · intro hids r hr
    obtain ⟨-, hscore⟩ := mem_fused_iff.mp hr
    have hlength : lists.length = rankings.length := List.length_map _
    rw [hscore, ← hlength]
    exact reciprocalScore_le hk hids

noncomputable def sampleRankings : List (List (Ranked Exact String)) :=
  [[⟨"a", 0⟩, ⟨"b", 0⟩], [⟨"b", 0⟩, ⟨"c", 0⟩]]

/-- The common name gets what a second and a first place add, and the other two what one
of these does. -/
theorem fuse_sampleRankings :
    (0 : ℤ) ≤ 60 ∧ (∀ items ∈ itemsOf sampleRankings, (items.map fun name => name).Nodup) ∧
      let ranked := fused (fun name => name) 60 sampleRankings
      fuse (fun name => name) 60 2 sampleRankings = .ok (ranked.take 2) ∧
        (∃ r ∈ ranked, r.item = "b") ∧
        (∀ r ∈ ranked, r.item = "b" → r.score.val = 1 / 62 + 1 / 61) ∧
        ∀ r ∈ ranked, 0 < r.score.val ∧ r.score.val ≤ 2 / 61 := by
  have hk : (0 : ℤ) ≤ 60 := by decide
  have hids : ∀ items ∈ itemsOf sampleRankings, (items.map fun name => name).Nodup := by
    decide
  obtain ⟨hfuse, -, -, hkeys, hscores, -, -, hpos, hle⟩ :=
    fuse_sums_reciprocals (fun name => name) hk sampleRankings
  refine ⟨hk, hids, hfuse 2 (by decide), (hkeys "b").mpr ⟨"b", by decide, rfl⟩, ?_, ?_⟩
  · intro r hr hitem
    have hab : "a" ≠ "b" := by decide
    have hcb : "c" ≠ "b" := by decide
    rw [(hscores r hr).2, hitem]
    norm_num [reciprocalScore, reciprocalSum, itemsOf, sampleRankings, List.zipIdx_cons,
      List.filter_cons, hab, hcb]
  · intro r hr
    have hbound := hle hids r hr
    norm_num [sampleRankings] at hbound
    exact ⟨hpos r hr, hbound⟩

end CodeRetrieval.Ranking
