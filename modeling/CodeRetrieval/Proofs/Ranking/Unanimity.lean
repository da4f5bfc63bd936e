import CodeRetrieval.Proofs.Ranking.Reciprocal

/-!
# Rankings that agree

Where every ranking that holds an identifier holds another one before it, so does the
fused ranking, and no cut keeps the first one without the other. Hence a ranking that is
fused with copies of itself keeps its order.
-/

namespace CodeRetrieval.Ranking

variable {ι : Type} {id : ι → String} {k : ℤ} {a b : String} {items : List ι}
  {lists : List (List ι)} {rankings : List (List (Ranked Exact ι))}

/-- Some list holds the identifier `b`, and every list that does holds the identifier
`a` before it. -/
structure Prefers (id : ι → String) (lists : List (List ι)) (a b : String) : Prop where
  held : ∃ items ∈ lists, b ∈ items.map id
  before : ∀ items ∈ lists, b ∈ items.map id → [a, b].Sublist (items.map id)

/-! ## Sums over places -/

section

variable (hk : 0 ≤ k)
include hk

theorem reciprocalSum_lt (hids : (items.map id).Nodup) (h : [a, b].Sublist (items.map id)) :
    reciprocalSum id k b items < reciprocalSum id k a items := by
  obtain ⟨_, _, hsplit, ha, hb⟩ := List.cons_sublist_iff.mp h
  obtain ⟨front, back, rfl, rfl, rfl⟩ := List.map_eq_append_iff.mp hsplit
  obtain ⟨x, hx, rfl⟩ := List.mem_map.mp ha
  obtain ⟨y, hy, rfl⟩ := List.mem_map.mp (List.singleton_sublist.mp hb)
  obtain ⟨p, hp, rfl⟩ := exists_place hx 1
  obtain ⟨q, hq, rfl⟩ := exists_place hy (1 + front.length)
  have hplaces : (front ++ back).zipIdx 1 =
      front.zipIdx 1 ++ back.zipIdx (1 + front.length) := List.zipIdx_append
  have hp' : p ∈ (front ++ back).zipIdx 1 := hplaces ▸ List.mem_append_left _ hp
  have hq' : q ∈ (front ++ back).zipIdx 1 := hplaces ▸ List.mem_append_right _ hq
  have hrank : p.2 < q.2 := by
    have hlast := List.snd_lt_of_mem_zipIdx hp
    have hfirst := List.le_snd_of_mem_zipIdx hq
    omega
  have hpos : (0 : ℝ) < k + p.2 := by
    have hk' : (0 : ℝ) ≤ k := by exact_mod_cast hk
    have hone : (1 : ℝ) ≤ p.2 := by exact_mod_cast List.le_snd_of_mem_zipIdx hp
    linarith
  have hlt : (k : ℝ) + p.2 < k + q.2 := by
    have hrank' : (p.2 : ℝ) < q.2 := by exact_mod_cast hrank
    linarith
  rw [reciprocalSum_of_mem_zipIdx hids hp', reciprocalSum_of_mem_zipIdx hids hq']
  exact one_div_lt_one_div_of_lt hpos hlt

/-- Lists that hold only the preferred identifier can but raise its sum. -/
theorem reciprocalScore_lt (hids : ∀ items ∈ lists, (items.map id).Nodup)
    (h : Prefers id lists a b) :
    reciprocalScore id k lists b < reciprocalScore id k lists a := by
  apply List.sum_lt_sum
  · intro items hitems
    by_cases hb : b ∈ items.map id
    · exact (reciprocalSum_lt hk (hids items hitems) (h.before items hitems hb)).le
    · rw [reciprocalSum_of_not_mem hb]
      exact reciprocalSum_nonneg hk
  · obtain ⟨items, hitems, hb⟩ := h.held
    exact ⟨items, hitems, reciprocalSum_lt hk (hids items hitems)
      (h.before items hitems hb)⟩

end

/-! ## The preferred item -/

theorem pairwise_fused :
    (fused id k rankings).Pairwise fun r s => s.score.val ≤ r.score.val := by
  rw [fused_eq]
  apply (pairwise_descending Ranked.score _).imp
  intro r s h
  exact Exact.mayPrecede_iff.mp h.1

theorem exists_mem_fused {items : List ι} (hitems : items ∈ itemsOf rankings) {key : String}
    (hkey : key ∈ items.map id) :
    ∃ r ∈ fused id k rankings, id r.item = key ∧
      r.score.val = reciprocalScore id k (itemsOf rankings) key := by
  obtain ⟨item, hitem, hid⟩ := List.mem_map.mp hkey
  have hscore : (key, (⟨reciprocalScore id k (itemsOf rankings) key⟩ : Exact)) ∈
      (fused id k rankings).map fun r => (id r.item, r.score) :=
    mem_scores_fused_iff.mpr ⟨⟨item, List.mem_flatten.mpr ⟨items, hitems, hitem⟩, hid⟩, rfl⟩
  obtain ⟨r, hr, hpair⟩ := List.mem_map.mp hscore
  obtain ⟨hid, hscore⟩ := Prod.mk.inj hpair
  exact ⟨r, hr, hid, by rw [hscore]⟩

theorem exists_preferred (hk : 0 ≤ k)
    (hids : ∀ items ∈ itemsOf rankings, (items.map id).Nodup)
    (h : Prefers id (itemsOf rankings) a b) {rb : Ranked Exact ι}
    (hrb : rb ∈ fused id k rankings) (hb : id rb.item = b) :
    ∃ ra ∈ fused id k rankings, id ra.item = a ∧ rb.score.val < ra.score.val := by
  obtain ⟨items, hitems, hheld⟩ := h.held
  have ha : a ∈ items.map id := (h.before items hitems hheld).subset List.mem_cons_self
  obtain ⟨ra, hra, hida, hscore⟩ := exists_mem_fused (k := k) hitems ha
  refine ⟨ra, hra, hida, ?_⟩
  rw [(mem_fused_iff.mp hrb).2, hb, hscore]
  exact reciprocalScore_lt hk hids h

/-- What scores higher than an entry that is kept is kept before it. -/
theorem pair_sublist_take_fused {ra rb : Ranked Exact ι} {n : ℕ}
    (hra : ra ∈ fused id k rankings) (hrb : rb ∈ (fused id k rankings).take n)
    (hlt : rb.score.val < ra.score.val) :
    [ra, rb].Sublist ((fused id k rankings).take n) := by
  have hordered : (fused id k rankings).Pairwise fun r s => s.score.val ≤ r.score.val :=
    pairwise_fused
  rw [← List.take_append_drop n (fused id k rankings)] at hra hordered
  obtain ⟨hkept, -, hcut⟩ := List.pairwise_append.mp hordered
  have hra : ra ∈ (fused id k rankings).take n := by
    rcases List.mem_append.mp hra with h | h
    · exact h
    · exact absurd (hcut rb hrb ra h) (not_le.mpr hlt)
  have hne : ra ≠ rb := by
    rintro rfl
    exact lt_irrefl _ hlt
  exact pair_sublist_of_pairwise hkept hra hrb hne (not_le.mpr hlt)

/-! ## Copies of one ranking -/

theorem firstByKey_flatten_replicate (hids : (items.map id).Nodup) (n : ℕ) :
    firstByKey id (List.replicate (n + 1) items).flatten = items := by
  rw [List.replicate_succ, List.flatten_cons, firstByKey_append_of_subset,
    firstByKey_eq_self hids]
  intro y hy
  obtain ⟨copy, hcopy, hy⟩ := List.mem_flatten.mp hy
  rw [List.eq_of_mem_replicate hcopy] at hy
  exact List.mem_map_of_mem hy

theorem prefers_replicate {x y : ι} (h : [x, y].Sublist items) (n : ℕ) :
    Prefers id (List.replicate (n + 1) items) (id x) (id y) where
  held := ⟨items, by simp, List.mem_map_of_mem (h.subset (by simp))⟩
  before copy hcopy _ := by
    rw [List.eq_of_mem_replicate hcopy]
    exact h.map id

theorem map_item_fused_replicate (hk : 0 ≤ k) {ranking : List (Ranked Exact ι)}
    (hids : (ranking.map fun r => id r.item).Nodup) (n : ℕ) :
    (fused id k (List.replicate (n + 1) ranking)).map Ranked.item =
      ranking.map Ranked.item := by
  let items := ranking.map Ranked.item
  let lists := List.replicate (n + 1) items
  have hids : (items.map id).Nodup := by rwa [List.map_map]
  have hlists : ∀ copy ∈ lists, (copy.map id).Nodup := by
    intro copy hcopy
    rwa [List.eq_of_mem_replicate hcopy]
  have hitems : itemsOf (List.replicate (n + 1) ranking) = lists := List.map_replicate
  have hentries : reciprocalEntries id k lists
      = items.map fun item => ⟨item, ⟨reciprocalScore id k lists (id item)⟩⟩ := by
    rw [reciprocalEntries, firstByKey_flatten_replicate hids]
  -- each item scores higher than those behind it, so there is nothing left to be sorted
  have hordered : (reciprocalEntries id k lists).Pairwise fun r s =>
      mayPrecede r.score s.score := by
    rw [hentries, List.pairwise_map]
    apply List.pairwise_iff_forall_sublist.mpr
    intro x y hxy
    apply Exact.mayPrecede_iff.mpr
    exact (reciprocalScore_lt hk hlists (prefers_replicate hxy n)).le
  rw [fused_eq, hitems, descending_eq_self hordered, hentries, List.map_map]
  exact List.map_id items

/-- Fusion respects a preference that all rankings share. If every ranking that holds
the identifier `b` holds `a` before it, and some ranking does, then `a` has the higher
score, and wherever the fused ranking is cut, an entry of `b` that is kept has one of
`a` before it. Fused alone or with copies of itself, a ranking keeps its order. -/
theorem fuse_respects_unanimity (id : ι → String) {k : ℤ} (hk : 0 ≤ k) :
    (∀ (rankings : List (List (Ranked Exact ι))) (a b : String),
      (∀ items ∈ itemsOf rankings, (items.map id).Nodup) →
        Prefers id (itemsOf rankings) a b →
      (∃ ra ∈ fused id k rankings, ∃ rb ∈ fused id k rankings,
        id ra.item = a ∧ id rb.item = b ∧ rb.score.val < ra.score.val) ∧
      ∀ topK : ℤ, 0 ≤ topK → ∃ kept, fuse id k topK rankings = .ok kept ∧
        ∀ rb ∈ kept, id rb.item = b →
          ∃ ra, id ra.item = a ∧ rb.score.val < ra.score.val ∧ [ra, rb].Sublist kept) ∧
    (∀ (ranking : List (Ranked Exact ι)) (copies : ℕ),
      (ranking.map fun r => id r.item).Nodup → 0 < copies →
      ∀ topK : ℤ, 0 ≤ topK →
        ∃ kept, fuse id k topK (List.replicate copies ranking) = .ok kept ∧
        kept.map Ranked.item = (ranking.map Ranked.item).take topK.toNat) := by
  constructor
  · intro rankings a b hids hprefers
    constructor
    · obtain ⟨items, hitems, hheld⟩ := hprefers.held
      obtain ⟨rb, hrb, hb, -⟩ := exists_mem_fused (k := k) hitems hheld
      obtain ⟨ra, hra, ha, hlt⟩ := exists_preferred hk hids hprefers hrb hb
      exact ⟨ra, hra, rb, hrb, ha, hb, hlt⟩
    · intro topK htopK
      refine ⟨(fused id k rankings).take topK.toNat, by rw [fuse_of_nonneg hk,
        cut_of_nonneg htopK], ?_⟩
      intro rb hrb hb
      obtain ⟨ra, hra, ha, hlt⟩ :=
        exists_preferred hk hids hprefers (List.mem_of_mem_take hrb) hb
      exact ⟨ra, ha, hlt, pair_sublist_take_fused hra hrb hlt⟩
  · intro ranking copies hids hcopies topK htopK
    obtain ⟨n, rfl⟩ : ∃ n, copies = n + 1 := ⟨copies - 1, by omega⟩
    refine ⟨_, fuse_of_nonneg hk, ?_⟩
    rw [cut_of_nonneg htopK, List.map_take, map_item_fused_replicate hk hids]

/-- Two rankings that agree on two names, of which the second also holds a third one
before them. -/
noncomputable def agreeingRankings : List (List (Ranked Exact String)) :=
  [[⟨"a", 0⟩, ⟨"b", 0⟩], [⟨"c", 0⟩, ⟨"a", 0⟩, ⟨"b", 0⟩]]

theorem fuse_agreeingRankings :
    let ranking : List (Ranked Exact String) := [⟨"c", 0⟩, ⟨"a", 0⟩, ⟨"b", 0⟩]
    (0 : ℤ) ≤ 60 ∧ (∀ items ∈ itemsOf agreeingRankings,
      (items.map fun name => name).Nodup) ∧
      Prefers (fun name => name) (itemsOf agreeingRankings) "a" "b" ∧
      (∃ kept, fuse (fun name => name) 60 2 agreeingRankings = .ok kept ∧
        ∀ rb ∈ kept, rb.item = "b" → ∃ ra, ra.item = "a" ∧ rb.score.val < ra.score.val ∧
          [ra, rb].Sublist kept) ∧
      ∃ kept, fuse (fun name => name) 60 2 [ranking, ranking, ranking] = .ok kept ∧
        kept.map Ranked.item = ["c", "a"] := by
  intro ranking
  have hk : (0 : ℤ) ≤ 60 := by decide
  have hids : ∀ items ∈ itemsOf agreeingRankings, (items.map fun name => name).Nodup := by
    decide
  have hprefers : Prefers (fun name => name) (itemsOf agreeingRankings) "a" "b" := by
    constructor
    · exact ⟨["a", "b"], by simp [itemsOf, agreeingRankings], by decide⟩
    · decide
  obtain ⟨hunanimous, hcopies⟩ := fuse_respects_unanimity (fun name : String => name) hk
  refine ⟨hk, hids, hprefers,
    (hunanimous agreeingRankings "a" "b" hids hprefers).2 2 (by decide), ?_⟩
  exact hcopies ranking 3 (by decide) (by decide) 2 (by decide)

end CodeRetrieval.Ranking
