import CodeRetrieval.Proofs.Engine.History
import CodeRetrieval.Proofs.Engine.Search
import CodeRetrieval.Proofs.Vector.Search

/-!
# What a query can be refused for

The indexes of an engine come from one list of chunks, whose vectors have one length. A
query for which there is nothing to find is not searched at all, and one that the
vectors accept is not refused by anything after them, although most candidates may come
from the texts.
-/

namespace CodeRetrieval

namespace Index

variable {index : Index} {query : String} {vector : List Float} {topK : Int}
  {r : HybridRankings Float Chunk}

theorem IsAssembled.size_ne_zero_iff (h : index.IsAssembled) :
    index.hybrid.vectors.size ≠ 0 ↔ ∃ k ∈ index.chunks, k.embedding.isSome := by
  obtain ⟨hvectors, -, -⟩ := h.hybrid_eq
  rw [← VectorIndex.entries_ne_nil_of_ofItems hvectors, VectorIndex.size, Ne,
    List.length_eq_zero_iff]

/-- A search for which there is something to find fails only if the vectors refuse the
query. -/
theorem IsAssembled.exists_search_eq_ok (h : index.IsAssembled)
    (hsome : index.hybrid.vectors.size ≠ 0) {found : List (Ranked Float Chunk)}
    (hfound : index.hybrid.vectors.search vector topK = .ok found) (query : String) :
    ∃ r, index.hybrid.search Chunk.id query vector topK = .ok r := by
  obtain ⟨k, hk, -⟩ := h.size_ne_zero_iff.mp hsome
  obtain ⟨hcode, hdescriptions⟩ := h.isSearchable (List.ne_nil_of_mem hk)
  exact HybridIndex.exists_search_eq_ok_of_vectors hfound hcode hdescriptions Chunk.id query

theorem IsAssembled.search_eq_error (h : index.IsAssembled)
    (hsome : index.hybrid.vectors.size ≠ 0) {fault : SearchError} :
    index.hybrid.search Chunk.id query vector topK = .error fault ↔
      0 < topK ∧ vector.length ≠ index.hybrid.vectors.dimension ∧
        fault = .dimension (.query vector.length index.hybrid.vectors.dimension) := by
  have hentries : index.hybrid.vectors.entries ≠ [] :=
    fun hnil => hsome (by rw [VectorIndex.size, hnil]; rfl)
  cases hvector :
    (index.hybrid.vectors.search vector topK : Except _ (List (Ranked Float Chunk))) with
  | error e =>
      obtain ⟨-, htopK, hlength, rfl⟩ := VectorIndex.search_eq_error.mp hvector
      have hsearch : index.hybrid.search Chunk.id query vector topK
          = .error (.dimension (.query vector.length index.hybrid.vectors.dimension)) :=
        bind_eq_error.mpr (.inl (mapError_eq_error.mpr ⟨_, hvector, rfl⟩))
      rw [hsearch, Except.error.injEq, eq_comm]
      exact ⟨fun hfault => ⟨htopK, hlength, hfault⟩, fun ⟨_, _, hfault⟩ => hfault⟩
  | ok found =>
      obtain ⟨r, hr⟩ := h.exists_search_eq_ok hsome hvector query
      refine iff_of_false (fun hfault => by cases hr.symm.trans hfault) ?_
      rintro ⟨htopK, hlength, -⟩
      cases hvector.symm.trans
        (VectorIndex.search_eq_error.mpr ⟨hentries, htopK, hlength, rfl⟩)

/-- A search of no entries keeps nothing, whichever index they would come from. -/
theorem fused_eq_nil (h : index.hybrid.search Chunk.id query vector topK = .ok r)
    (htopK : topK ≤ 0) :
    r.fused = [] := by
  obtain ⟨hvector, hcode, hdescriptions, -⟩ := HybridIndex.search_eq_ok h
  have hvector := VectorIndex.eq_nil_of_search_eq_ok hvector htopK
  have hcode := LexicalIndex.eq_nil_of_search_eq_ok hcode htopK
  have hdescriptions := LexicalIndex.eq_nil_of_search_eq_ok hdescriptions htopK
  refine List.eq_nil_iff_forall_not_mem.mpr fun k hk => ?_
  obtain ⟨ranking, hranking, k', hk', -⟩ := Engine.exists_of_mem_stage1 h hk
  simp only [hvector, hcode, hdescriptions, List.mem_cons, List.not_mem_nil, or_false,
    or_self] at hranking
  rw [hranking] at hk'
  cases hk'

/-- Wherever a candidate comes from, its vector has the length of a query that was not
refused. -/
theorem IsAssembled.length_eq_of_mem_fused (h : index.IsAssembled)
    (hr : index.hybrid.search Chunk.id query vector topK = .ok r) {k : Ranked Float Chunk}
    (hk : k ∈ r.fused) {v : List Float} (hv : k.item.embedding = some v) :
    vector.length = v.length := by
  obtain ⟨hvectors, -, -⟩ := h.hybrid_eq
  obtain ⟨ranking, hranking, k', hk', hsame⟩ := Engine.exists_of_mem_stage1 hr hk
  have hmem : k.item ∈ index.chunks :=
    hsame ▸ Engine.item_mem_of_mem_rankings h hr hranking hk'
  have hentries : index.hybrid.vectors.entries ≠ [] :=
    (VectorIndex.entries_ne_nil_of_ofItems hvectors).mpr ⟨k.item, hmem, by rw [hv]; rfl⟩
  have htopK : 0 < topK := by
    by_contra hnone
    rw [fused_eq_nil hr (Int.not_lt.mp hnone)] at hk
    cases hk
  rw [VectorIndex.length_eq_dimension hvectors hmem hv]
  by_contra hlength
  cases (HybridIndex.search_eq_ok hr).1.symm.trans
    (VectorIndex.search_eq_error.mpr ⟨hentries, htopK, hlength, rfl⟩)

theorem IsAssembled.exists_rerank_eq_ok (h : index.IsAssembled)
    (hr : index.hybrid.search Chunk.id query vector topK = .ok r) (size : Int) :
    ∃ kept, Funnel.rerankBySimilarity Chunk.embedding vector r.fused size = .ok kept :=
  ⟨_, Funnel.rerankBySimilarity_eq (fun _ hk _ hv =>
    h.length_eq_of_mem_fused hr hk hv) size⟩

end Index

namespace Engine

variable {E T X : Type} {e : Engine} {c : Collaborators E T X}
  {index : Index} {query : String}

/-- A ranking fails in the search of the indexes, or in the verdicts of the judge. -/
theorem value_rank_eq_error (hassembled : index.IsAssembled) {vector : List Float}
    {fault : QueryError E X} (h : (e.rank c index query vector).value = .error fault) :
    (∃ s, index.hybrid.search Chunk.id query vector e.settings.hybridSize = .error s ∧
      fault = .search s) ∨
      ∃ x, fault = .funnel (.total x) := by
  rw [value_rank] at h
  rcases bind_eq_error.mp h with h | ⟨r, hr, h⟩
  · obtain ⟨s, hs, rfl⟩ := mapError_eq_error.mp h
    exact .inl ⟨s, hs, rfl⟩
  rw [mapError_eq_ok] at hr
  rcases bind_eq_error.mp h with h | ⟨stages, -, h⟩
  · obtain ⟨s, hs, rfl⟩ := mapError_eq_error.mp h
    rw [Funnel.value_run] at hs
    rcases bind_eq_error.mp hs with hs | ⟨stage2, -, hs⟩
    · obtain ⟨d, hd, -⟩ := mapError_eq_error.mp hs
      obtain ⟨kept, hkept⟩ := hassembled.exists_rerank_eq_ok hr e.settings.similarSize
      cases hkept.symm.trans hd
    · rcases bind_eq_error.mp hs with hs | ⟨stage3, -, hs⟩
      · obtain ⟨x, -, rfl⟩ := mapError_eq_error.mp hs
        exact .inr ⟨x, rfl⟩
      · cases hs
  · cases h

/-- The searches refuse a query exactly if there are vectors of another length than that
of the query. -/
theorem value_breakdown_eq_search (hindex : e.index = some index)
    (hassembled : index.IsAssembled) {fault : SearchError} :
    (e.breakdown c query).value = .error (.search fault) ↔
      (∃ k ∈ index.chunks, k.embedding.isSome) ∧
        ∃ vector, (c.embedQuery query).value = .ok vector ∧
        0 < e.settings.hybridSize ∧ vector.length ≠ index.stats.dimension ∧
        fault = .dimension (.query vector.length index.stats.dimension) := by
  rw [← hassembled.size_ne_zero_iff]
  by_cases hsome : index.hybrid.vectors.size = 0
  · refine iff_of_false (fun h => ?_) (fun h => h.1 hsome)
    rw [value_breakdown_of_size_eq_zero hindex hsome] at h
    cases h
  rw [value_breakdown hindex hsome, bind_eq_error, mapError_eq_error]
  constructor
  · rintro (⟨_, -, h⟩ | ⟨vector, hvector, h⟩)
    · cases h
    rw [mapError_eq_ok] at hvector
    rcases value_rank_eq_error hassembled h with ⟨s, hs, hfault⟩ | ⟨x, hx⟩
    · obtain rfl := QueryError.search.inj hfault
      exact ⟨hsome, vector, hvector, (hassembled.search_eq_error hsome).mp hs⟩
    · cases hx
  · rintro ⟨-, vector, hvector, hrefused⟩
    have hsearch : index.hybrid.search Chunk.id query vector e.settings.hybridSize =
        .error fault :=
      (hassembled.search_eq_error hsome).mpr hrefused
    refine .inr ⟨vector, mapError_eq_ok.mpr hvector, ?_⟩
    rw [value_rank]
    exact bind_eq_error.mpr (.inl (mapError_eq_error.mpr ⟨fault, hsearch, rfl⟩))

theorem value_breakdown_ne_funnel_dimension (hindex : e.index = some index)
    (hassembled : index.IsAssembled) (d : DimensionError) :
    (e.breakdown c query).value ≠ .error (.funnel (.dimension d)) := by
  intro h
  by_cases hsome : index.hybrid.vectors.size = 0
  · rw [value_breakdown_of_size_eq_zero hindex hsome] at h
    cases h
  rw [value_breakdown hindex hsome] at h
  rcases bind_eq_error.mp h with h | ⟨vector, -, h⟩
  · obtain ⟨_, -, h⟩ := mapError_eq_error.mp h
    cases h
  · rcases value_rank_eq_error hassembled h with ⟨_, -, h⟩ | ⟨_, h⟩
    · cases h
    · cases h

/-! ## Reachable engines -/

/-- Whatever an engine was asked before, its searches refuse a query only if some chunk
has a vector and the vector of the query has another length than those of the chunks:
never for want of texts, and never after the vectors accepted the query. Then both the
search of all indexes and the first step of the funnel succeed, whatever their sizes. -/
theorem queries_refused_by_length_only {E T X E' T' X' : Type} (settings : Settings)
    (chunker : Chunker) (calls : List (Call E T X))
    (c : Collaborators E' T' X') (query : String) :
    let e := (make settings chunker).afterAll calls
    (∀ fault, (e.breakdown c query).value = .error (.search fault) ↔
      ∃ index, e.index = some index ∧ (∃ k ∈ index.chunks, k.embedding.isSome) ∧
        ∃ vector, (c.embedQuery query).value = .ok vector ∧ 0 < settings.hybridSize ∧
          vector.length ≠ index.stats.dimension ∧
          fault = .dimension (.query vector.length index.stats.dimension)) ∧
    (∀ d, (e.breakdown c query).value ≠ .error (.funnel (.dimension d))) ∧
    ∀ index, e.index = some index → index.stats.embeddedCount ≠ 0 →
      ∀ (vector : List Float) (topK : Int) (found : List (Ranked Float Chunk)),
        index.hybrid.vectors.search vector topK = .ok found →
        ∃ r, index.hybrid.search Chunk.id query vector topK = .ok r ∧ r.vector = found ∧
          ∀ size, ∃ kept, Funnel.rerankBySimilarity Chunk.embedding vector r.fused size =
            .ok kept := by
  intro e
  have hsound : e.Sound := sound_afterAll (sound_make settings chunker) calls
  obtain ⟨hsettings, -⟩ := agrees_afterAll (make settings chunker) calls
  have hsettings : e.settings = settings := hsettings
  refine ⟨fun fault => ?_, fun d => ?_, ?_⟩
  · cases hindex : e.index with
    | none =>
        refine iff_of_false (fun h => ?_) (fun ⟨_, h, _⟩ => by cases h)
        rw [value_breakdown_of_none hindex] at h
        cases h
    | some index =>
        rw [value_breakdown_eq_search hindex (hsound index hindex), hsettings]
        exact ⟨fun h => ⟨index, rfl, h⟩, fun ⟨_, hsame, h⟩ => Option.some.inj hsame ▸ h⟩
  · cases hindex : e.index with
    | none =>
        rw [value_breakdown_of_none hindex]
        intro h
        cases h
    | some index => exact value_breakdown_ne_funnel_dimension hindex (hsound index hindex) d
  · intro index hindex hsome vector topK found hfound
    have hassembled := hsound index hindex
    obtain ⟨r, hr⟩ := hassembled.exists_search_eq_ok hsome hfound query
    have hvector := (HybridIndex.search_eq_ok hr).1
    exact ⟨r, hr, Except.ok.inj (hvector.symm.trans hfound),
      hassembled.exists_rerank_eq_ok hr⟩

/-- A query with two coordinates is refused by chunks with one. A query with one is not,
and reaches the judge. -/
theorem sample_queries_refused_by_length_only :
    let e := sampleEngine.afterAll [.build sampleCollaborators sampleFiles none]
    let longer :=
      { sampleCollaborators with embedQuery := fun _ => .silent (.ok [1.0, 2.0]) }
    (e.breakdown longer "demo").value = .error (.search (.dimension (.query 2 1))) ∧
      ∃ index r, e.index = some index ∧
        index.hybrid.search Chunk.id "demo" [1.0] 10 = .ok r ∧
        ∃ kept, Funnel.rerankBySimilarity Chunk.embedding [1.0] r.fused 5 = .ok kept := by
  intro e longer
  have hfigures : e.index.map (fun index =>
      (index.stats.dimension, index.stats.embeddedCount,
      index.chunks.map fun k => k.embedding.isSome)) =
        some (1, 2, [true, true]) := by decide +kernel
  obtain ⟨index, hindex, hfigures⟩ := Option.map_eq_some_iff.mp hfigures
  simp only [Prod.mk.injEq] at hfigures
  obtain ⟨hdimension, hcount, hembedded⟩ := hfigures
  have hsome : ∃ k ∈ index.chunks, k.embedding.isSome := by
    have hmem : true ∈ index.chunks.map fun k => k.embedding.isSome := by simp [hembedded]
    obtain ⟨k, hk, hsome⟩ := List.mem_map.mp hmem
    exact ⟨k, hk, hsome⟩
  obtain ⟨hrefused, -, haccepted⟩ :=
    queries_refused_by_length_only sampleEngine.settings sampleEngine.chunker
    [.build sampleCollaborators sampleFiles none] longer "demo"
  have hlength : [(1.0 : Float)].length = index.hybrid.vectors.dimension := hdimension.symm
  obtain ⟨found, hfound⟩ : ∃ found : List (Ranked Float Chunk), _ :=
    VectorIndex.exists_search_eq_ok hlength 10
  obtain ⟨r, hr, -, hkept⟩ := haccepted index hindex (by omega) [1.0] 10 found hfound
  refine ⟨(hrefused _).mpr ⟨index, hindex, hsome, [1.0, 2.0], rfl, by decide, ?_, ?_⟩,
    index, r, hindex, hr, hkept 5⟩
  · rw [hdimension]
    decide
  · rw [hdimension]
    rfl

end Engine

end CodeRetrieval
