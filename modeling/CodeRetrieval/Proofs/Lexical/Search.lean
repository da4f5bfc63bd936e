import CodeRetrieval.Proofs.Lexical.Index

/-!
# What a lexical search finds

A search finds the items whose texts share a token with the query, the best first, and
cuts their ranking to the size asked for. Tokens of the query that no text holds make no
difference.
-/

namespace CodeRetrieval.LexicalIndex

variable {ι : Type} {name : String} {text : ι → String} {items : List ι} {query : String}

def shares (text : ι → String) (query : String) (item : ι) : Bool :=
  (Lexical.tokenize query).any fun token => (Lexical.tokenize (text item)).contains token

/-- The items that share a token with a query, with their scores. -/
noncomputable def sharing (text : ι → String) (items : List ι) (query : String) :
    List (Ranked Exact ι) :=
  (items.filter (shares text query)).map fun item =>
    ⟨item, ⟨bm25 (corpus text items) (Lexical.tokenize query)
      (Lexical.tokenize (text item))⟩⟩

theorem shares_iff {item : ι} :
    shares text query item ↔
      ∃ token ∈ Lexical.tokenize query, token ∈ Lexical.tokenize (text item) := by
  simp [shares]

/-! ## The index of a corpus -/

/-- Where only tokens are left out that no text holds, a text keeps its score. -/
theorem val_score_knownTokens (text : ι → String) (items : List ι) (query : String)
    (tokens : List String) :
    (Corpus.score (corpus text items) (knownTokens text items query) tokens : Exact).val
      = bm25 (corpus text items) (Lexical.tokenize query) tokens := by
  rw [Corpus.val_score]
  apply bm25_filter
  intro token _ hany tokens htokens hmem
  exact List.any_eq_false.mp hany tokens htokens (List.contains_iff_mem.mpr hmem)

/-- The positive scores are those of the items that share a token with the query. -/
theorem filter_scoredByTokens (text : ι → String) (items : List ι) (query : String) :
    (scoredByTokens text items (knownTokens text items query)).filter
        (fun r : Ranked Exact ι => !Scalar.le r.score 0) = sharing text items query := by
  have hpositive : ∀ item ∈ items, (!Scalar.le (Corpus.score (corpus text items)
      (knownTokens text items query) (Lexical.tokenize (text item)) : Exact) 0) =
        shares text query item := by
    intro item hitem
    have htokens : Lexical.tokenize (text item) ∈ corpus text items :=
      List.mem_map_of_mem hitem
    rw [Bool.eq_iff_iff, Bool.not_eq_true', ← Bool.not_eq_true, Exact.le_iff,
      val_score_knownTokens, Exact.val_zero, not_le, bm25_pos_iff htokens, shares_iff]
  rw [scoredByTokens, List.filter_map, sharing]
  refine (congrArg (List.map _) (List.filter_congr hpositive)).trans ?_
  apply List.map_congr_left
  intro item _
  exact congrArg (Ranked.mk item) (Exact.ext (val_score_knownTokens text items query _))

/-- A token that an item shares with a query is known. -/
theorem sharing_eq_nil (h : knownTokens text items query = []) :
    sharing text items query = [] := by
  have hnone : items.filter (shares text query) = [] := by
    rw [List.filter_eq_nil_iff]
    intro item hitem hshares
    obtain ⟨token, htoken, hmem⟩ := shares_iff.mp hshares
    have hany : ((corpus text items).any fun tokens => tokens.contains token) = true :=
      List.any_eq_true.mpr ⟨_, List.mem_map_of_mem hitem, List.contains_iff_mem.mpr hmem⟩
    exact List.filter_eq_nil_iff.mp h token htoken hany
  rw [sharing, hnone, List.map_nil]

theorem answer_eq_sharing (name : String) (text : ι → String) (hitems : items ≠ [])
    (query : String) (topK : ℤ) :
    answer name text items query topK =
      .ok ((Ranking.descending Ranked.score (sharing text items query)).take
        topK.toNat) := by
  rw [answer, if_neg (mt List.isEmpty_iff.mp hitems)]
  by_cases hempty : knownTokens text items query = []
  · -- without a known token nothing is scored, and nothing would have a positive score
    have hranked : Ranking.descending Ranked.score (sharing text items query) = [] := by
      rw [sharing_eq_nil hempty]
      exact List.mergeSort_nil
    rw [if_pos (List.isEmpty_iff.mpr hempty), hranked, List.take_nil]
  · rw [if_neg (mt List.isEmpty_iff.mp hempty)]
    apply congrArg Except.ok
    rw [Ranking.takePositive_descending, filter_scoredByTokens]
    intro r _
    exact Exact.le_iff.mpr le_rfl

theorem search_build_eq_sharing (name : String) (text : ι → String) (hitems : items ≠ [])
    (query : String) (topK : ℤ) :
    ((empty name text).build items).search query topK =
      .ok ((Ranking.descending Ranked.score (sharing text items query)).take topK.toNat) :=
  (search_build (empty name text) items query topK).trans
    (answer_eq_sharing name text hitems query topK)

/-! ## Results of a search -/

/-- A search finds the first ones in the ranking of all items that share a token with
the query, by BM25, where items with equal scores stand in their order. All their scores
are positive, and none of them comes from a division by zero. Only the tokens of a query
that some text holds matter, and a greater size adds at the end. -/
theorem search_ranks_sharing (name : String) (text : ι → String) {items : List ι}
    (hitems : items ≠ []) (query : String) :
    let index : LexicalIndex Exact ι := (empty name text).build items
    ∃ ranked : List (Ranked Exact ι),
      IsRanking (fun r => r.score.val) (sharing text items query) ranked ∧
      (∀ topK : ℤ, 1 ≤ topK → index.search query topK = .ok (ranked.take topK.toNat)) ∧
      (∀ r ∈ ranked, r.item ∈ items ∧
        (∃ token ∈ Lexical.tokenize query, token ∈ Lexical.tokenize (text r.item)) ∧
        0 < r.score.val ∧ 0 < meanLength (corpus text items)) ∧
      (∀ query', knownTokens text items query' = knownTokens text items query →
        sharing text items query' = sharing text items query ∧
          ∀ topK : ℤ, (index.search query' topK : Except _ (List (Ranked Exact ι))) =
            index.search query topK) ∧
      (∀ topK topK' : ℤ, 1 ≤ topK → topK ≤ topK' → ∃ found found' : List (Ranked Exact ι),
        index.search query topK = .ok found ∧ index.search query topK' = .ok found' ∧
          found <+: found') := by
  intro index
  have hranking := Exact.isRanking_descending Ranked.score (sharing text items query)
  refine ⟨_, hranking, fun topK _ =>
    search_build_eq_sharing name text hitems query topK, ?_, ?_, ?_⟩
  · intro r hr
    obtain ⟨item, hitem, rfl⟩ := List.mem_map.mp (hranking.perm.mem_iff.mp hr)
    obtain ⟨hitem, hshares⟩ := List.mem_filter.mp hitem
    obtain ⟨token, htoken, hmem⟩ := shares_iff.mp hshares
    have htokens : Lexical.tokenize (text item) ∈ corpus text items :=
      List.mem_map_of_mem hitem
    exact ⟨hitem, ⟨token, htoken, hmem⟩, (bm25_pos_iff htokens).mpr ⟨token, htoken, hmem⟩,
      meanLength_pos htokens hmem⟩
  · intro query' hknown
    have hsame : sharing text items query' = sharing text items query := by
      rw [← filter_scoredByTokens, ← filter_scoredByTokens, hknown]
    refine ⟨hsame, fun topK => ?_⟩
    rw [search_build_eq_sharing name text hitems,
      search_build_eq_sharing name text hitems, hsame]
  · intro topK topK' _ hle
    have hle : topK.toNat ≤ topK'.toNat := Int.toNat_le_toNat hle
    exact ⟨_, _, search_build_eq_sharing name text hitems query topK,
      search_build_eq_sharing name text hitems query topK',
      List.take_prefix_take_left hle⟩

/-- Two of three texts share a word with a query in which there is also a word that none
of them holds. -/
theorem search_sampleTexts :
    let texts := ["red apple", "green apple", "stone"]
    texts ≠ [] ∧ ∃ found : List (Ranked Exact String),
      ((empty "sample" fun text => text).build texts).search "an apple, red" 2 =
        .ok found ∧ found.length = 2 ∧
        ∀ r ∈ found, r.item ≠ "stone" ∧ 0 < r.score.val := by
  intro texts
  have htexts : texts ≠ [] := by decide
  obtain ⟨ranked, hranking, hsearch, hranked, -, -⟩ :=
    search_ranks_sharing "sample" (fun text => text) htexts "an apple, red"
  have hitems : texts.filter (shares (fun text => text) "an apple, red") =
      ["red apple", "green apple"] := by
    decide +kernel
  have hlength : ranked.length = 2 := by
    rw [hranking.perm.length_eq, sharing, hitems]
    rfl
  refine ⟨htexts, ranked.take 2,
    hsearch 2 (by decide), by rw [List.length_take, hlength]; rfl, ?_⟩
  intro r hr
  have hr := List.mem_of_mem_take hr
  obtain ⟨-, -, hpos, -⟩ := hranked r hr
  refine ⟨?_, hpos⟩
  intro hstone
  have hmem := List.mem_map_of_mem (f := Ranked.item) (hranking.perm.mem_iff.mp hr)
  rw [sharing, hitems, hstone] at hmem
  simp at hmem

end CodeRetrieval.LexicalIndex
