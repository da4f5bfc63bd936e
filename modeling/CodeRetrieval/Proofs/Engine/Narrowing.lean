import CodeRetrieval.Proofs.Engine.History
import CodeRetrieval.Proofs.Engine.Search
import CodeRetrieval.Proofs.Ranking.Machine

/-!
# The funnel of an engine

In an engine whose settings were loaded every stage of a search narrows the one before it.
-/

namespace CodeRetrieval

open Scalar

/-- Each stage of a search keeps the best of the one before it by its own scores: fusion
some of what the three searches found, the first step those that have vectors similar to
that of the query, the second those that the judge likes. -/
structure Breakdown.Narrows {E T X : Type} (settings : Settings) (c : Collaborators E T X)
    (query : String) (vector : List Float) (b : Breakdown) : Prop where
  nodup_stage1 : (b.stages.stage1.map fun r => r.item.id).Nodup
  found : ∀ r ∈ b.stages.stage1, ∃ ranking ∈ [b.vector, b.code, b.descriptions],
    ∃ r' ∈ ranking, r'.item = r.item
  length_stage1 : (b.stages.stage1.length : Int) ≤ settings.hybridSize
  stage2 : Funnel.Narrows Chunk.id (Funnel.similarity? Chunk.embedding vector)
    (b.stages.stage1.map Ranked.item)
    settings.similarSize b.stages.stage2
  embedded : ∀ r ∈ b.stages.stage2, r.item.embedding.isSome
  stage3 : Funnel.Narrows Chunk.id (Funnel.relevance? c.judge c.amount query)
    (b.stages.stage2.map Ranked.item)
    settings.relevantSize (b.stages.stage3.map Judged.toRanked)
  limits : ∀ j ∈ b.stages.stage3, 0.0 ≤ j.score ∧ j.score ≤ 10.0

def Breakdown.analysis (b : Breakdown) : Funnel.Analysis :=
  Funnel.analyze (b.stages.stage1.map fun r => r.item.id)
    (b.stages.stage2.map fun r => r.item.id)
    (b.stages.stage3.map fun j => j.item.id)

namespace Engine

section

variable {E T X : Type} {settings : Settings} {c : Collaborators E T X} {query : String}
  {vector : List Float}

theorem narrows_nil (hsizes : Settings.narrows settings.hybridSize settings.similarSize
    settings.relevantSize = true) :
    Breakdown.Narrows settings c query vector ⟨[], [], [], ⟨[], [], []⟩⟩ := by
  obtain ⟨hsimilar, hrelevant, hone⟩ := Settings.narrows_iff.mp hsizes
  have hempty : ∀ (score? : Chunk → Option Float) (size : Int), 0 ≤ size →
      Funnel.Narrows Chunk.id score? [] size [] :=
    fun score? size hsize => ⟨by simp, List.nodup_nil, hsize, List.Pairwise.nil, by simp⟩
  exact ⟨List.nodup_nil, by simp, show (0 : Int) ≤ settings.hybridSize by omega,
    hempty _ _ (by omega), by simp,
    hempty _ _ (by omega), by simp⟩

/-- The stages of a search in an index with vectors. -/
theorem exists_rank_narrows {e : Engine} {index : Index} (hassembled : index.IsAssembled)
    (hsizes : Settings.narrows e.settings.hybridSize e.settings.similarSize
    e.settings.relevantSize = true) (hentries :
    index.hybrid.vectors.entries ≠ []) (hlength :
    vector.length = index.hybrid.vectors.dimension) (htotals :
    ∀ k v, (c.judge query k).value = .ok v → ∃ x, c.amount v.total = .ok x) (hcosines :
    ∀ k ∈ index.chunks, ∀ s, Funnel.similarity? Chunk.embedding vector k =
    some s → IsNumber s) :
    ∃ b, (e.rank c index query vector).value = .ok b ∧
      b.Narrows e.settings c query vector := by
  obtain ⟨hsimilar, hrelevant, hone⟩ := Settings.narrows_iff.mp hsizes
  obtain ⟨hvectors, -, -⟩ := hassembled.hybrid_eq
  -- vectors belong to chunks, so the texts to search are not empty either
  have hchunks : index.chunks ≠ [] := by
    obtain ⟨entry, entries, hcons⟩ := List.exists_cons_of_ne_nil hentries
    exact List.ne_nil_of_mem
      (VectorIndex.item_mem_of_ofItems_eq_ok hvectors (e := entry) (by simp [hcons]))
  obtain ⟨hcode, hdescriptions⟩ := hassembled.isSearchable hchunks
  obtain ⟨r, hr⟩ :=
    HybridIndex.exists_search_eq_ok hlength hcode hdescriptions Chunk.id query
    e.settings.hybridSize
  have hfound : ∀ k ∈ r.fused, ∃ ranking ∈ [r.vector, r.code, r.descriptions],
      ∃ k' ∈ ranking, k'.item = k.item :=
    fun k hk => exists_of_mem_stage1 hr hk
  have hmem : ∀ k ∈ r.fused, k.item ∈ index.chunks := by
    intro k hk
    obtain ⟨ranking, hranking, k', hk', hsame⟩ := hfound k hk
    exact hsame ▸ item_mem_of_mem_rankings hassembled hr hranking hk'
  -- the vectors of an index have one length, which is that of the query
  have hlengths : ∀ k ∈ r.fused, ∀ v, k.item.embedding = some v →
      vector.length = v.length :=
    fun k hk v hv =>
      hlength.trans (VectorIndex.length_eq_dimension hvectors (hmem k hk) hv).symm
  have hids : (r.fused.map fun k => k.item.id).Nodup := by
    obtain ⟨-, -, -, hfused⟩ := HybridIndex.search_eq_ok hr
    rw [hfused]
    exact Ranking.nodup_id_fused.sublist ((Ranking.isPrefix_cut _ _).sublist.map _)
  have hlength1 : (r.fused.length : Int) ≤ e.settings.hybridSize := by
    obtain ⟨-, -, -, hfused⟩ := HybridIndex.search_eq_ok hr
    rw [hfused]
    exact Ranking.length_cut_le (by omega) _
  obtain ⟨stage2, hstage2, hnarrows2⟩ := Funnel.exists_rerankBySimilarity_narrows
    (show 0 ≤ e.settings.similarSize by omega) hids hlengths fun k hk =>
      hcosines k.item (hmem k hk)
  obtain ⟨stage3, hstage3, hnarrows3, hlimits⟩ := Funnel.exists_rerankByRelevance_narrows
    (show 0 ≤ e.settings.relevantSize by omega) hnarrows2.nodup_id fun k _ => htotals k.item
  have hrun := Funnel.run_of_eq_ok hstage2 hstage3
  refine ⟨⟨r.vector, r.code, r.descriptions, ⟨r.fused, stage2, stage3⟩⟩, ?_, ?_⟩
  · rw [rank, hr]
    simp only [Noted.value_map, hrun]
  · refine ⟨hids, hfound, hlength1, hnarrows2, ?_, hnarrows3, ?_⟩
    · intro k hk
      exact Funnel.isSome_of_similarity? (hnarrows2.among k hk).2
    · intro j hj
      obtain ⟨hzero, hten⟩ := hlimits j hj
      exact ⟨of_decide_eq_true hzero, of_decide_eq_true hten⟩

/-- What narrows overlaps entirely with what it was narrowed from. -/
theorem overlaps_of_narrows {b : Breakdown} (h : b.Narrows settings c query vector) :
    b.analysis.overlap2 = b.analysis.count2 ∧ b.analysis.overlap3 = b.analysis.count3 := by
  constructor
  · refine Funnel.countP_contains_eq_length fun id hid => ?_
    obtain ⟨r, hr, rfl⟩ := List.mem_map.mp hid
    obtain ⟨r', hr', hsame⟩ := List.mem_map.mp (h.stage2.among r hr).1
    exact List.mem_map.mpr ⟨r', hr', by rw [hsame]⟩
  · refine Funnel.countP_contains_eq_length fun id hid => ?_
    obtain ⟨j, hj, rfl⟩ := List.mem_map.mp hid
    obtain ⟨r', hr', hsame⟩ :=
      List.mem_map.mp (h.stage3.among j.toRanked (List.mem_map_of_mem hj)).1
    exact List.mem_map.mpr ⟨r', hr', by rw [hsame]⟩

end

/-- In every engine that was reached with loaded settings and is built, a query with a
vector of the right length has an answer, unless a verdict's total is no number, and the
stages of the search narrow. -/
theorem search_narrows {E T X E' T' X' : Type} {env : Environment}
    {given : List (String × Data)} {settings : Settings}
    (hsettings : Settings.load env given = .ok settings) (chunker : Chunker)
    (calls : List (Call E T X)) {index : Index}
    (hindex : ((make settings chunker).afterAll calls).index = some index)
    {c : Collaborators E' T' X'} {query : String} {vector : List Float}
    (hquery : (c.embedQuery query).value = .ok vector)
    (hlength : vector.length = index.hybrid.vectors.dimension)
    (htotals : ∀ k v, (c.judge query k).value = .ok v → ∃ x, c.amount v.total = .ok x)
    (hcosines : ∀ k ∈ index.chunks, ∀ v, k.embedding = some v →
    ∀ x, Vector.cosine vector v = .ok x → IsNumber x) :
    ∃ b, (((make settings chunker).afterAll calls).breakdown c query).value = .ok b ∧
      b.Narrows settings c query vector ∧
      b.analysis.overlap2 = b.analysis.count2 ∧
        b.analysis.overlap3 = b.analysis.count3 := by
  have hsizes := Settings.narrows_of_load hsettings
  have hassembled := sound_afterAll (sound_make settings chunker) calls index hindex
  obtain ⟨hsame, -⟩ := agrees_afterAll (make settings chunker) calls
  generalize (make settings chunker).afterAll calls = e at *
  obtain rfl : e.settings = settings := hsame
  have hnumbers : ∀ k ∈ index.chunks, ∀ s, Funnel.similarity? Chunk.embedding vector k =
      some s → IsNumber s := by
    intro k hk s hs
    obtain ⟨v, hv, hcosine⟩ := Option.bind_eq_some_iff.mp hs
    cases hx : Vector.cosine vector v with
    | error e =>
        rw [hx] at hcosine
        cases hcosine
    | ok x =>
        rw [hx] at hcosine
        obtain rfl := Option.some.inj hcosine
        exact hcosines k hk v hv x hx
  by_cases hsize : index.hybrid.vectors.size = 0
  · -- without vectors the query is not even embedded
    refine ⟨⟨[], [], [], ⟨[], [], []⟩⟩, ?_, narrows_nil hsizes, rfl, rfl⟩
    simp only [breakdown, hindex, if_pos hsize, Noted.value_silent]
  · have hentries : index.hybrid.vectors.entries ≠ [] :=
      fun h => hsize (by rw [VectorIndex.size, h]; rfl)
    obtain ⟨b, hb, hnarrows⟩ :=
      exists_rank_narrows hassembled hsizes hentries hlength htotals hnumbers
    refine ⟨b, ?_, hnarrows, overlaps_of_narrows hnarrows⟩
    simp only [breakdown, hindex, if_neg hsize, Noted.value_andThen, hquery]
    exact hb

theorem sample_search_narrows :
    Settings.load [] [] = .ok .defaults ∧
      ∃ b, ((sampleEngine.afterAll [.build sampleCollaborators sampleFiles none]).breakdown
        sampleCollaborators
          "demo").value = .ok b ∧
        b.Narrows .defaults sampleCollaborators "demo" [1.0] ∧
        b.analysis.overlap2 = b.analysis.count2 ∧
          b.analysis.overlap3 = b.analysis.count3 := by
  refine ⟨Settings.load_nil, ?_⟩
  have hfigures :
      (sampleEngine.afterAll [.build sampleCollaborators sampleFiles none]).index.map
      (fun index => (index.hybrid.vectors.dimension, index.chunks.map Chunk.embedding))
      = some (1, [some [1.0], some [1.0]]) := by decide +kernel
  obtain ⟨index, hindex, hfigures⟩ := Option.map_eq_some_iff.mp hfigures
  obtain ⟨hdimension, hembeddings⟩ := Prod.mk.inj hfigures
  have hcosine : Vector.cosine [(1.0 : Float)] [1.0] = .ok 1.0 := by decide +kernel
  refine search_narrows Settings.load_nil ⟨.all, fun _ _ => some sampleTree⟩
    _ hindex rfl hdimension.symm
    (fun k v _ => ⟨v.total, rfl⟩) fun k hk v hv x hx => ?_
  have hvector : some v ∈ [some [(1.0 : Float)], some [1.0]] := by
    rw [← hembeddings, ← hv]
    exact List.mem_map_of_mem hk
  obtain rfl : v = [1.0] := by simpa using hvector
  obtain rfl := Except.ok.inj (hcosine.symm.trans hx)
  decide +kernel

end Engine

end CodeRetrieval
