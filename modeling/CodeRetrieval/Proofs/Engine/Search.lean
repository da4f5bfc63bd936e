import CodeRetrieval.Engine.Basic
import CodeRetrieval.Proofs.Engine.Build
import CodeRetrieval.Proofs.Ranking.Funnel
import CodeRetrieval.Proofs.Ranking.Hybrid

/-!
# What a query finds in an index

All rankings on the way to an answer hold chunks of the index. The query is embedded,
then the indexes are searched, then the funnel runs, and each of these may fail.
-/

namespace CodeRetrieval

namespace Index

/-- The search indexes of an assembled index hold its chunks. -/
theorem IsAssembled.hybrid_eq {index : Index} (h : index.IsAssembled) :
    VectorIndex.ofItems Chunk.embedding index.chunks = .ok index.hybrid.vectors ∧
      index.hybrid.code = .ofCode index.chunks ∧ index.hybrid.descriptions =
        .ofDescriptions index.chunks := by
  obtain ⟨vectors, hvectors, hindex⟩ := bind_eq_ok.mp h
  have hhybrid := congrArg Index.hybrid (Except.ok.inj hindex)
  rw [← hhybrid]
  exact ⟨hvectors, rfl, rfl⟩

theorem IsAssembled.isSearchable {index : Index} (h : index.IsAssembled)
    (hchunks : index.chunks ≠ []) :
    index.hybrid.code.IsSearchable ∧ index.hybrid.descriptions.IsSearchable := by
  obtain ⟨-, hcode, hdescriptions⟩ := h.hybrid_eq
  rw [hcode, hdescriptions]
  exact ⟨LexicalIndex.isSearchable_build _ hchunks,
    LexicalIndex.isSearchable_build _ hchunks⟩

end Index

def Breakdown.chunks (b : Breakdown) : List Chunk :=
  (b.vector ++ b.code ++ b.descriptions ++ b.stages.stage1 ++ b.stages.stage2).map
    Ranked.item
    ++ b.stages.stage3.map fun j => j.item

namespace Engine

variable {E T X : Type} {e : Engine} {c : Collaborators E T X} {index : Index}
  {query : String} {b : Breakdown}

/-! ## The phases of a query -/

theorem value_rank {vector : List Float} : (e.rank c index query vector).value = (do
    let r ← (index.hybrid.search Chunk.id query vector e.settings.hybridSize).mapError
      .search
    let stages ← (Funnel.run Chunk.id Chunk.embedding c.judge c.amount query vector r.fused
      e.settings.similarSize
      e.settings.relevantSize).value.mapError .funnel
    return ⟨r.vector, r.code, r.descriptions, stages⟩) := by
  rw [rank]
  cases index.hybrid.search Chunk.id query vector e.settings.hybridSize with
  | error fault => rfl
  | ok r =>
      rw [Noted.value_map]
      simp only [Except.mapError, bind, Except.bind, pure, Except.pure]
      split
      · rename_i fault hfault
        rw [hfault]
      · rename_i stages hstages
        rw [hstages]

theorem value_breakdown_of_none (hindex : e.index = none) :
    (e.breakdown c query).value = .error .notBuilt := by
  simp only [breakdown, hindex, Noted.value_silent]

theorem value_breakdown_of_size_eq_zero (hindex : e.index = some index)
    (hnone : index.hybrid.vectors.size = 0) :
    (e.breakdown c query).value = .ok ⟨[], [], [], ⟨[], [], []⟩⟩ := by
  simp only [breakdown, hindex, if_pos hnone, Noted.value_silent]

/-- The query of an index with vectors is embedded, and then ranks the chunks. -/
theorem value_breakdown (hindex : e.index = some index)
    (hsome : index.hybrid.vectors.size ≠ 0) :
    (e.breakdown c query).value = (do
      let vector ← (c.embedQuery query).value.mapError .embedding
      (e.rank c index query vector).value) := by
  simp only [breakdown, hindex, if_neg hsome, Noted.value_andThen]
  cases (c.embedQuery query).value with
  | error fault => rfl
  | ok vector => rfl

/-- The rankings of a query are empty, or come from a hybrid search and the funnel. -/
theorem breakdown_eq_ok (hindex : e.index = some index)
    (h : (e.breakdown c query).value = .ok b) :
    b = ⟨[], [], [], ⟨[], [], []⟩⟩ ∨
      ∃ vector r, (c.embedQuery query).value = .ok vector ∧
        index.hybrid.search Chunk.id query vector e.settings.hybridSize = .ok r ∧
        (Funnel.run Chunk.id Chunk.embedding c.judge c.amount query vector r.fused
          e.settings.similarSize
          e.settings.relevantSize).value = .ok b.stages ∧
        b.vector = r.vector ∧ b.code = r.code ∧ b.descriptions = r.descriptions := by
  by_cases hsize : index.hybrid.vectors.size = 0
  · rw [value_breakdown_of_size_eq_zero hindex hsize] at h
    exact .inl (Except.ok.inj h).symm
  · rw [value_breakdown hindex hsize] at h
    obtain ⟨vector, hvector, h⟩ := bind_eq_ok.mp h
    rw [value_rank] at h
    obtain ⟨r, hr, h⟩ := bind_eq_ok.mp h
    obtain ⟨stages, hstages, h⟩ := bind_eq_ok.mp h
    obtain rfl := Except.ok.inj h
    exact .inr ⟨vector, r, mapError_eq_ok.mp hvector, mapError_eq_ok.mp hr,
      mapError_eq_ok.mp hstages, rfl, rfl, rfl⟩

/-! ## Where the ranked chunks come from -/

theorem item_mem_of_mem_rankings (hassembled : index.IsAssembled) {vector : List Float}
    {topK : Int} {r : HybridRankings Float Chunk}
    (h : index.hybrid.search Chunk.id query vector topK = .ok r)
    {ranking : List (Ranked Float Chunk)}
    (hranking : ranking ∈ [r.vector, r.code, r.descriptions]) {k : Ranked Float Chunk}
    (hk : k ∈ ranking) : k.item ∈ index.chunks := by
  obtain ⟨hvectors, hcode, hdescriptions⟩ := hassembled.hybrid_eq
  obtain ⟨hbyVector, hbyCode, hbyDescription, -⟩ := HybridIndex.search_eq_ok h
  simp only [List.mem_cons, List.not_mem_nil, or_false] at hranking
  rcases hranking with rfl | rfl | rfl
  · obtain ⟨entry, hentry, hitem⟩ := VectorIndex.exists_of_mem_search hbyVector hk
    rw [← hitem]
    exact VectorIndex.item_mem_of_ofItems_eq_ok hvectors hentry
  · rw [hcode] at hbyCode
    exact LexicalIndex.item_mem_of_mem_search hbyCode hk
  · rw [hdescriptions] at hbyDescription
    exact LexicalIndex.item_mem_of_mem_search hbyDescription hk

theorem exists_of_mem_stage1 {vector : List Float} {topK : Int}
    {r : HybridRankings Float Chunk}
    (h : index.hybrid.search Chunk.id query vector topK = .ok r) {k : Ranked Float Chunk}
    (hk : k ∈ r.fused) :
    ∃ ranking ∈ [r.vector, r.code, r.descriptions], ∃ k' ∈ ranking, k'.item = k.item := by
  obtain ⟨-, -, -, hfused⟩ := HybridIndex.search_eq_ok h
  rw [hfused] at hk
  exact Ranking.exists_of_mem_fused (Ranking.mem_of_mem_cut hk)

theorem mem_chunks_of_mem_breakdown (hindex : e.index = some index)
    (hassembled : index.IsAssembled) (h : (e.breakdown c query).value = .ok b) {k : Chunk}
    (hk : k ∈ b.chunks) : k ∈ index.chunks := by
  rcases breakdown_eq_ok hindex h with rfl | ⟨vector, r, -, hr, hrun, hvector,
    hcode, hdescriptions⟩
  · cases hk
  obtain ⟨hstage1, hstage2, hstage3⟩ := Funnel.run_eq_ok hrun
  have hrankings : ∀ ranking ∈ [r.vector, r.code, r.descriptions], ∀ k ∈ ranking,
      k.item ∈ index.chunks :=
    fun ranking hranking k hk => item_mem_of_mem_rankings hassembled hr hranking hk
  have hmem1 : ∀ k ∈ b.stages.stage1, k.item ∈ index.chunks := by
    intro k hk
    rw [hstage1] at hk
    obtain ⟨ranking, hranking, k', hk', hsame⟩ := exists_of_mem_stage1 hr hk
    exact hsame ▸ hrankings ranking hranking k' hk'
  have hmem2 : ∀ k ∈ b.stages.stage2, k.item ∈ index.chunks := by
    intro k hk
    obtain ⟨k', hk', hsame⟩ := Funnel.exists_of_mem_rerankBySimilarity hstage2 hk
    exact hsame ▸ hmem1 k' (hstage1 ▸ hk')
  have hmem3 : ∀ j ∈ b.stages.stage3, j.item ∈ index.chunks := by
    intro j hj
    obtain ⟨k, hk, hsame⟩ := Funnel.exists_of_mem_rerankByRelevance hstage3 hj
    exact hsame ▸ hmem2 k hk
  simp only [Breakdown.chunks, hvector, hcode, hdescriptions,
    List.mem_append, List.mem_map] at hk
  rcases hk with ⟨k, (((hk | hk) | hk) | hk) | hk, rfl⟩ | ⟨j, hj, rfl⟩
  · exact hrankings r.vector (by simp) k hk
  · exact hrankings r.code (by simp) k hk
  · exact hrankings r.descriptions (by simp) k hk
  · exact hmem1 k hk
  · exact hmem2 k hk
  · exact hmem3 j hj

end Engine

end CodeRetrieval
