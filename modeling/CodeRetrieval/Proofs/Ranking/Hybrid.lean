import CodeRetrieval.Proofs.Data.Results
import CodeRetrieval.Proofs.Ranking.Fusion
import CodeRetrieval.Ranking.Hybrid

/-!
# What a hybrid search finds

Each index finds only items that it holds. A query with a vector of the right length
always has an answer from an index that holds anything.
-/

namespace CodeRetrieval

open Ranking

/-! ## Vectors -/

theorem eq_headD_of_mem {α : Type} {x : α} {xs : List α} (hx : x ∈ xs)
    (hlength : xs.length ≤ 1) (d : α) :
    x = xs.headD d := by
  match xs, hx, hlength with
  | [y], hx, _ => exact List.mem_singleton.mp hx

namespace VectorIndex

variable {S R ι : Type} [Scalar S] [Storage S R]
  {embedding : ι → Option (List R)} {items : List ι} {index : VectorIndex S ι}

theorem item_mem_of_ofItems_eq_ok (h : ofItems embedding items = .ok index)
    {e : VectorEntry S ι} (he : e ∈ index.entries) : e.item ∈ items := by
  rw [ofItems] at h
  split at h
  · cases h
  · obtain rfl := Except.ok.inj h
    obtain ⟨⟨item, v⟩, hentry, rfl⟩ := List.mem_map.mp he
    obtain ⟨item', hitem, hv⟩ := List.mem_filterMap.mp hentry
    obtain ⟨w, -, hw⟩ := Option.map_eq_some_iff.mp hv
    obtain ⟨rfl, -⟩ := Prod.mk.inj hw
    exact hitem

theorem length_eq_dimension (h : ofItems embedding items = .ok index) {item : ι}
    (hitem : item ∈ items) {v : List R} (hv : embedding item = some v) :
    v.length = index.dimension := by
  rw [ofItems] at h
  split at h
  · cases h
  · rename_i hlengths
    obtain rfl := Except.ok.inj h
    have hentry : (item, v) ∈ items.filterMap fun item =>
        (embedding item).map fun v => (item, v) :=
      List.mem_filterMap.mpr ⟨item, hitem, by rw [hv]; rfl⟩
    -- vectors of two lengths would have been refused, so there is no length but the first
    have hlength :=
      List.mem_eraseDups.mpr
        (List.mem_map_of_mem (f := fun e : ι × List R => e.2.length) hentry)
    exact eq_headD_of_mem hlength (by omega) 0

variable [Scalar R]

theorem exists_of_mem_search {query : List R} {topK : Int} {found : List (Ranked R ι)}
    (h : index.search query topK = .ok found) {r : Ranked R ι} (hr : r ∈ found) :
    ∃ e ∈ index.entries, e.item = r.item := by
  rw [search] at h
  split at h
  · obtain rfl := Except.ok.inj h
    cases hr
  · split at h
    · cases h
    · obtain rfl := Except.ok.inj h
      obtain ⟨e, he, rfl⟩ := List.mem_map.mp (mem_descending.mp (List.mem_of_mem_take hr))
      exact ⟨e, he, rfl⟩

theorem eq_nil_of_search_eq_ok {query : List R} {topK : Int} {found : List (Ranked R ι)}
    (h : index.search query topK = .ok found) (htopK : topK ≤ 0) : found = [] := by
  rw [search, if_pos (by simp [htopK])] at h
  exact (Except.ok.inj h).symm

theorem exists_search_eq_ok {query : List R}
    (hquery : query.length = index.dimension) (topK : Int) :
    ∃ found : List (Ranked R ι), index.search query topK = .ok found := by
  rw [search]
  split
  · exact ⟨_, rfl⟩
  · rw [if_neg (not_not.mpr hquery)]
    exact ⟨_, rfl⟩

/-- A search refuses exactly the queries of another length than the vectors, unless
there is nothing to find. -/
theorem search_eq_error {query : List R} {topK : Int} {e : DimensionError} :
    (index.search query topK : Except _ (List (Ranked R ι))) = .error e ↔
      index.entries ≠ [] ∧ 0 < topK ∧ query.length ≠ index.dimension ∧
        e = .query query.length index.dimension := by
  rw [search]
  by_cases hentries : index.entries = []
  · simp [hentries]
  · by_cases htopK : topK ≤ 0
    · simp [htopK, Int.not_lt.mpr htopK]
    · by_cases hlength : query.length = index.dimension
      · simp [hentries, htopK, hlength]
      · have hsame : DimensionError.query query.length index.dimension = e ↔
            e = .query query.length index.dimension :=
          eq_comm
        simp [hentries, htopK, hlength, Int.not_le.mp htopK, hsame]

end VectorIndex

/-! ## Texts -/

namespace LexicalIndex

variable {R ι : Type} [Scalar R] {index : LexicalIndex R ι} {query : String} {topK : Int}

/-- The index has been built, and for some items. -/
structure IsSearchable (index : LexicalIndex R ι) : Prop where
  isBuilt : index.isBuilt = true
  items_ne_nil : index.items ≠ []

theorem isSearchable_build {items : List ι} (index : LexicalIndex R ι)
    (hitems : items ≠ []) :
    (index.build items).IsSearchable :=
  ⟨rfl, hitems⟩

theorem search_of_isSearchable (h : index.IsSearchable) (query : String) (topK : Int) :
    ∃ found, index.search query topK = .ok found ∧
      (∀ r ∈ found, r.item ∈ index.items) ∧ (topK ≤ 0 → found = []) := by
  rw [search, if_neg (by simp [h.isBuilt, h.items_ne_nil])]
  cases index.searcher with
  | none => exact ⟨[], rfl, by simp, fun _ => rfl⟩
  | some searcher =>
      simp only
      split
      · exact ⟨[], rfl, by simp, fun _ => rfl⟩
      · rename_i hsome
        refine ⟨_, rfl, fun r hr => ?_, fun htopK => absurd (by simp [htopK]) hsome⟩
        rw [takePositive_eq] at hr
        have hscored :=
          mem_descending.mp (List.takeWhile_subset _ (List.mem_of_mem_take hr))
        obtain ⟨⟨item, score⟩, hentry, rfl⟩ := List.mem_map.mp hscored
        exact (List.of_mem_zip hentry).1

theorem isSearchable_of_search_eq_ok {found : List (Ranked R ι)}
    (h : index.search query topK = .ok found) : index.IsSearchable := by
  rw [search] at h
  split at h
  · cases h
  · rename_i hbuilt
    simp only [Bool.or_eq_true, Bool.not_eq_true', not_or, Bool.not_eq_false,
      List.isEmpty_iff] at hbuilt
    exact ⟨hbuilt.1, hbuilt.2⟩

theorem item_mem_of_mem_search {found : List (Ranked R ι)}
    (h : index.search query topK = .ok found) {r : Ranked R ι} (hr : r ∈ found) :
    r.item ∈ index.items := by
  obtain ⟨found', hfound, hitems, -⟩ :=
    search_of_isSearchable (isSearchable_of_search_eq_ok h) query topK
  obtain rfl := Except.ok.inj (h.symm.trans hfound)
  exact hitems r hr

theorem eq_nil_of_search_eq_ok {found : List (Ranked R ι)}
    (h : index.search query topK = .ok found) (htopK : topK ≤ 0) : found = [] := by
  obtain ⟨found', hfound, -, hnil⟩ :=
    search_of_isSearchable (isSearchable_of_search_eq_ok h) query topK
  obtain rfl := Except.ok.inj (h.symm.trans hfound)
  exact hnil htopK

theorem exists_search_eq_ok (h : index.IsSearchable) (query : String) (topK : Int) :
    ∃ found : List (Ranked R ι), index.search query topK = .ok found :=
  (search_of_isSearchable h query topK).imp fun _ hfound => hfound.1

end LexicalIndex

/-! ## All indexes together -/

namespace HybridIndex

variable {S R ι : Type} [Scalar S] [Scalar R] [Storage S R] {index : HybridIndex S R ι}
  {id : ι → String} {query : String} {vector : List R} {topK : Int}

theorem search_eq_ok {r : HybridRankings R ι}
    (h : index.search id query vector topK = .ok r) :
    index.vectors.search vector topK = .ok r.vector ∧
      index.code.search query topK = .ok r.code ∧
      index.descriptions.search query topK = .ok r.descriptions ∧
      r.fused = cut topK (fused id defaultDamping [r.vector, r.code, r.descriptions]) := by
  obtain ⟨byVector, hvector, h⟩ := bind_eq_ok.mp h
  obtain ⟨byCode, hcode, h⟩ := bind_eq_ok.mp h
  obtain ⟨byDescription, hdescription, h⟩ := bind_eq_ok.mp h
  obtain ⟨all, hall, h⟩ := bind_eq_ok.mp h
  obtain rfl := Except.ok.inj h
  rw [mapError_eq_ok, fuse_of_nonneg (by decide)] at hall
  exact ⟨mapError_eq_ok.mp hvector, mapError_eq_ok.mp hcode, mapError_eq_ok.mp hdescription,
    (Except.ok.inj hall).symm⟩

/-- A search fails only in the first of its rankings, that of the vectors. -/
theorem exists_search_eq_ok_of_vectors {byVector : List (Ranked R ι)}
    (hvector : index.vectors.search vector topK = .ok byVector)
    (hcode : index.code.IsSearchable) (hdescriptions : index.descriptions.IsSearchable)
    (id : ι → String) (query : String) :
    ∃ r : HybridRankings R ι, index.search id query vector topK = .ok r := by
  obtain ⟨byCode, hcode⟩ : ∃ found : List (Ranked R ι), _ :=
    LexicalIndex.exists_search_eq_ok hcode query topK
  obtain ⟨byDescription, hdescription⟩ : ∃ found : List (Ranked R ι), _ :=
    LexicalIndex.exists_search_eq_ok hdescriptions query topK
  have hfuse : fuse id defaultDamping topK [byVector, byCode, byDescription] = .ok _ :=
    fuse_of_nonneg (by decide)
  refine ⟨⟨byVector, byCode, byDescription,
    cut topK (fused id defaultDamping [byVector, byCode, byDescription])⟩, ?_⟩
  refine bind_eq_ok.mpr ⟨_, mapError_eq_ok.mpr hvector, ?_⟩
  refine bind_eq_ok.mpr ⟨_, mapError_eq_ok.mpr hcode,
    bind_eq_ok.mpr ⟨_, mapError_eq_ok.mpr hdescription, ?_⟩⟩
  exact bind_eq_ok.mpr ⟨_, mapError_eq_ok.mpr hfuse, rfl⟩

theorem exists_search_eq_ok (hvector : vector.length = index.vectors.dimension)
    (hcode : index.code.IsSearchable) (hdescriptions : index.descriptions.IsSearchable)
    (id : ι → String) (query : String) (topK : Int) :
    ∃ r : HybridRankings R ι, index.search id query vector topK = .ok r := by
  obtain ⟨byVector, hvector⟩ : ∃ found : List (Ranked R ι), _ :=
    VectorIndex.exists_search_eq_ok hvector topK
  exact exists_search_eq_ok_of_vectors hvector hcode hdescriptions id query

end HybridIndex

end CodeRetrieval
