import CodeRetrieval.Proofs.Ranking.Funnel
import CodeRetrieval.Proofs.Ranking.Hybrid
import CodeRetrieval.Proofs.Vector.Similarity

/-!
# Two ways to rank by similarity

The vector index and the first step of the funnel compare vectors with a query in
different ways: the index divides by norms in which zero is replaced by one and looks at
the norm of the query first, the funnel looks at the product of both norms. In exact
numbers the scores are the same, so both rank alike, and both refuse the same queries.
-/

namespace CodeRetrieval.VectorIndex

open Ranking

variable {ι : Type} {embedding : ι → Option (List Exact)} {items : List ι}
  {query v : List Exact} {d : ℕ}

theorem cosine_eq_score (item : ι) (hlength : query.length = v.length) :
    Vector.cosine query v =
      .ok (score (query.map Storage.store) (Vector.norm (query.map Storage.store))
      (entryOf item v : VectorEntry Exact ι)) := by
  have hstored : ∀ w : List Exact, w.map Storage.store = w := fun w => List.map_id w
  rw [Vector.cosine, if_neg (not_not.mpr hlength)]
  refine congrArg Except.ok ?_
  simp only [hstored, entryOf, score]
  by_cases hquery : Scalar.isZero (Vector.norm query)
  · have hproduct : Scalar.isZero (Vector.norm query * Vector.norm v) := by
      rw [Exact.isZero_iff] at hquery ⊢
      rw [Exact.val_mul, hquery, zero_mul]
    rw [if_pos hquery, if_pos hproduct]
  · by_cases hv : Scalar.isZero (Vector.norm v)
    · have hproduct : Scalar.isZero (Vector.norm query * Vector.norm v) := by
        rw [Exact.isZero_iff] at hv ⊢
        rw [Exact.val_mul, hv, mul_zero]
      -- the index has one in place of the norm here, and the product that it divides is
      -- zero
      rw [if_pos hproduct, if_neg hquery]
      apply Exact.ext
      rw [Exact.val_div, Exact.load_eq, Vector.dot_eq_zero (Exact.isZero_iff.mp hv),
        zero_div, Exact.val_zero]
    · have hproduct : ¬ Scalar.isZero (Vector.norm query * Vector.norm v) := by
        rw [Exact.isZero_iff] at hquery hv ⊢
        rw [Exact.val_mul]
        exact mul_ne_zero hquery hv
      rw [if_neg hproduct, if_neg hquery, if_neg hv, Vector.dot_comm]
      apply Exact.ext
      rw [Exact.val_div, Exact.val_div, Exact.load_eq, Exact.load_eq, Exact.val_mul,
        Exact.val_mul, mul_comm]

/-! ## The index of vectors of one length -/

theorem exists_ofItems_eq_ok {R S : Type} [Scalar S] [Storage S R]
    {embedding : ι → Option (List R)}
    (hd : ∀ item ∈ items, ∀ v, embedding item = some v → v.length = d) :
    ∃ index : VectorIndex S ι, ofItems embedding items = .ok index ∧
      index.entries = items.filterMap fun item => (embedding item).map (entryOf item) := by
  have hlengths : ((items.filterMap fun item => (embedding item).map fun v => (item, v)).map
      fun e => e.2.length).eraseDups.length ≤ 1 := by
    apply length_eraseDups_le_one (a := d)
    intro n hn
    obtain ⟨⟨item, v⟩, he, rfl⟩ := List.mem_map.mp hn
    obtain ⟨item', hitem, hv⟩ := List.mem_filterMap.mp he
    obtain ⟨w, hw, hpair⟩ := Option.map_eq_some_iff.mp hv
    obtain ⟨rfl, rfl⟩ := Prod.mk.inj hpair
    exact hd item' hitem w hw
  refine ⟨_, if_neg (Nat.not_lt.mpr hlengths), ?_⟩
  simp only [List.map_filterMap, Option.map_map]
  rfl

theorem search_eq_error_iff {R S : Type} [Scalar S] [Scalar R] [Storage S R]
    {index : VectorIndex S ι} {query : List R} {topK : ℤ} (htopK : 1 ≤ topK) :
    (∃ e, (index.search query topK : Except _ (List (Ranked R ι))) = .error e) ↔
      index.entries ≠ [] ∧ query.length ≠ index.dimension := by
  constructor
  · rintro ⟨e, he⟩
    obtain ⟨hentries, -, hlength, -⟩ := search_eq_error.mp he
    exact ⟨hentries, hlength⟩
  · rintro ⟨hentries, hlength⟩
    exact ⟨_, search_eq_error.mpr ⟨hentries, by omega, hlength, rfl⟩⟩

theorem search_eq_ok {R S : Type} [Scalar S] [Scalar R] [Storage S R]
    {index : VectorIndex S ι} {query : List R} {topK : ℤ} (htopK : 1 ≤ topK)
    (hlength : index.entries ≠ [] → query.length = index.dimension) :
    index.search query topK = .ok ((descending Ranked.score (index.entries.map fun e =>
      (⟨e.item, score (query.map Storage.store) (Vector.norm (query.map Storage.store)) e⟩ :
      Ranked R ι))).take
        topK.toNat) := by
  have hpos : ¬ topK ≤ 0 := by omega
  rw [search]
  by_cases hentries : index.entries = []
  · simp [hentries, descending]
  · rw [if_neg (by simp [hentries, hpos]), if_neg (not_not.mpr (hlength hentries))]

theorem map_score_entries
    (hlengths : ∀ item ∈ items, ∀ v, embedding item = some v → query.length = v.length) :
    ((items.filterMap fun item => (embedding item).map (entryOf item)).map
      fun e : VectorEntry Exact ι =>
        (⟨e.item, score (query.map Storage.store) (Vector.norm (query.map Storage.store))
          e⟩ : Ranked Exact ι))
      = Funnel.scoredBy (Funnel.similarity? embedding query) items := by
  rw [List.map_filterMap, Funnel.scoredBy]
  apply List.filterMap_congr
  intro item hitem
  cases hv : embedding item with
  | none => simp [Funnel.similarity?, hv]
  | some v =>
      have hcosine := cosine_eq_score item (hlengths item hitem v hv)
      simp [Funnel.similarity?, hv, hcosine, Except.toOption, entryOf]

theorem entries_ne_nil_iff {R S : Type} {embedding : ι → Option (List R)}
    {index : VectorIndex S ι} {entry : ι → List R → VectorEntry S ι}
    (hentries : index.entries = items.filterMap fun item =>
    (embedding item).map (entry item)) :
    index.entries ≠ [] ↔ ∃ item ∈ items, (embedding item).isSome := by
  rw [hentries, Ne, List.filterMap_eq_nil_iff]
  simp [Option.isSome_iff_ne_none]

theorem entries_ne_nil_of_ofItems {R S : Type} [Scalar S] [Storage S R]
    {embedding : ι → Option (List R)} {index : VectorIndex S ι}
    (h : ofItems embedding items = .ok index) :
    index.entries ≠ [] ↔ ∃ item ∈ items, (embedding item).isSome := by
  obtain ⟨index', hindex', hentries⟩ :=
    exists_ofItems_eq_ok (S := S) fun _ hitem _ hv => length_eq_dimension h hitem hv
  obtain rfl := Except.ok.inj (hindex'.symm.trans h)
  exact entries_ne_nil_iff hentries

/-- Where all vectors have one length, the index and the first step of the funnel find
the same items with the same scores, the first ones in the ranking of the items by their
cosines. Both fail for the same queries, those of another length than the vectors of
which there is at least one. -/
theorem search_agrees_with_funnel
    (hd : ∀ item ∈ items, ∀ v, embedding item = some v → v.length = d) (query : List Exact)
    {topK : ℤ} (htopK : 1 ≤ topK) {candidates : List (Ranked Exact ι)}
    (hcandidates : candidates.map Ranked.item = items) :
    ∃ index : VectorIndex Exact ι, ofItems embedding items = .ok index ∧
      (∀ found, index.search query topK = .ok found ↔
        Funnel.rerankBySimilarity embedding query candidates topK = .ok found) ∧
      ((∃ e, (index.search query topK : Except _ (List (Ranked Exact ι))) = .error e) ↔
        (∃ item ∈ items, (embedding item).isSome) ∧ query.length ≠ d) ∧
      ((∃ e, Funnel.rerankBySimilarity embedding query candidates topK = .error e) ↔
        (∃ item ∈ items, (embedding item).isSome) ∧ query.length ≠ d) ∧
      ∀ found, index.search query topK = .ok found → ∃ ranked,
        IsRanking (fun r => r.score.val)
          (Funnel.scoredBy (Funnel.similarity? embedding query) items) ranked ∧
          found = ranked.take topK.toNat := by
  obtain ⟨index, hindex, hentries⟩ := exists_ofItems_eq_ok (S := Exact) hd
  refine ⟨index, hindex, ?_⟩
  have hsome := entries_ne_nil_iff hentries
  have hdimension : (∃ item ∈ items, (embedding item).isSome) → index.dimension = d := by
    rintro ⟨item, hitem, hv⟩
    obtain ⟨v, hv⟩ := Option.isSome_iff_exists.mp hv
    rw [← length_eq_dimension hindex hitem hv, hd item hitem v hv]
  by_cases hrefused : (∃ item ∈ items, (embedding item).isSome) ∧ query.length ≠ d
  · obtain ⟨hembedded, hquery⟩ := hrefused
    have hsearch : ∃ e, (index.search query topK : Except _ (List (Ranked Exact ι))) =
        .error e :=
      (search_eq_error_iff htopK).mpr ⟨hsome.mpr hembedded, by rwa [hdimension hembedded]⟩
    have hfunnel : ∃ e, Funnel.rerankBySimilarity embedding query candidates topK =
        .error e := by
      obtain ⟨item, hitem, hv⟩ := hembedded
      obtain ⟨v, hv⟩ := Option.isSome_iff_exists.mp hv
      rw [← hcandidates] at hitem
      obtain ⟨c, hc, rfl⟩ := List.mem_map.mp hitem
      have hlength : v.length = d := hd c.item (hcandidates ▸ List.mem_map_of_mem hc) v hv
      exact Funnel.exists_rerankBySimilarity_eq_error hc hv (hlength ▸ hquery) topK
    obtain ⟨e, he⟩ := hsearch
    obtain ⟨e', he'⟩ := hfunnel
    simp [he, he', hembedded, hquery]
  · have hlengths : ∀ item ∈ items, ∀ v, embedding item = some v →
        query.length = v.length := by
      intro item hitem v hv
      by_contra hne
      exact hrefused ⟨⟨item, hitem, by simp [hv]⟩,
        fun h => hne (h.trans (hd item hitem v hv).symm)⟩
    have hsearch : index.search query topK = .ok _ := search_eq_ok htopK fun hne => by
      by_contra hquery
      exact hrefused ⟨hsome.mp hne,
        fun h => hquery (h.trans (hdimension (hsome.mp hne)).symm)⟩
    have hfunnel : Funnel.rerankBySimilarity embedding query candidates topK = .ok _ :=
      Funnel.rerankBySimilarity_eq (fun c hc =>
        hlengths c.item (hcandidates ▸ List.mem_map_of_mem hc)) topK
    rw [hcandidates, cut_of_nonneg (by omega)] at hfunnel
    rw [hentries, map_score_entries hlengths] at hsearch
    have hranking := Exact.isRanking_descending Ranked.score
      (Funnel.scoredBy (Funnel.similarity? embedding query) items)
    rw [hsearch, hfunnel]
    refine ⟨fun found => Iff.rfl, ?_, ?_, ?_⟩
    · simpa using hrefused
    · simpa using hrefused
    · intro found hfound
      exact ⟨_, hranking, (Except.ok.inj hfound).symm⟩

/-- Of three items one has a vector, one has a vector of zeros, and one has none. -/
noncomputable def sampleEmbedding : String → Option (List Exact)
  | "a" => some [⟨3⟩, ⟨4⟩]
  | "b" => some [⟨0⟩, ⟨0⟩]
  | _ => none

/-- Both ways find the same for a query of the right length, and both refuse a shorter
one. -/
theorem search_sampleEmbedding :
    let items := ["a", "b", "c"]
    let candidates : List (Ranked Exact String) := [⟨"a", 0⟩, ⟨"b", 0⟩, ⟨"c", 0⟩]
    (∀ item ∈ items, ∀ v, sampleEmbedding item = some v → v.length = 2) ∧ (1 : ℤ) ≤ 2 ∧
      candidates.map Ranked.item = items ∧
      ∃ index : VectorIndex Exact String, ofItems sampleEmbedding items = .ok index ∧
        (∃ found, index.search [⟨1⟩, ⟨2⟩] 2 = .ok found ∧
          Funnel.rerankBySimilarity sampleEmbedding [⟨1⟩, ⟨2⟩] candidates 2 = .ok found) ∧
        (∃ e, (index.search [⟨1⟩] 2 : Except _ (List (Ranked Exact String))) = .error e) ∧
        ∃ e, Funnel.rerankBySimilarity sampleEmbedding [⟨1⟩] candidates 2 = .error e := by
  intro items candidates
  have hd : ∀ item ∈ items, ∀ v, sampleEmbedding item = some v → v.length = 2 := by
    intro item hitem v hv
    have hitem : item = "a" ∨ item = "b" ∨ item = "c" := by simpa [items] using hitem
    rcases hitem with rfl | rfl | rfl
    · obtain rfl := Option.some.inj hv
      rfl
    · obtain rfl := Option.some.inj hv
      rfl
    · cases hv
  have htopK : (1 : ℤ) ≤ 2 := by decide
  have hcandidates : candidates.map Ranked.item = items := rfl
  have hembedded : ∃ item ∈ items, (sampleEmbedding item).isSome := ⟨"a", by decide, rfl⟩
  obtain ⟨index, hindex, hsame, hfails, -, -⟩ :=
    search_agrees_with_funnel hd [⟨1⟩, ⟨2⟩] htopK hcandidates
  obtain ⟨index', hindex', -, hfails', hfails'', -⟩ :=
    search_agrees_with_funnel hd [⟨1⟩] htopK hcandidates
  obtain rfl : index' = index := Except.ok.inj (hindex'.symm.trans hindex)
  refine ⟨hd, htopK, hcandidates, index', hindex, ?_, hfails'.mpr ⟨hembedded, by decide⟩,
    hfails''.mpr ⟨hembedded, by decide⟩⟩
  cases hsearch : (index'.search [⟨1⟩, ⟨2⟩] 2 : Except _ (List (Ranked Exact String))) with
  | error e => exact absurd rfl (hfails.mp ⟨e, hsearch⟩).2
  | ok found => exact ⟨found, rfl, (hsame found).mp hsearch⟩

end CodeRetrieval.VectorIndex
