import CodeRetrieval.Proofs.Data.Distinct
import CodeRetrieval.Proofs.Engine.Search
import CodeRetrieval.Proofs.Engine.Units
import CodeRetrieval.Proofs.Lexical.Index
import Mathlib.Algebra.BigOperators.Group.Finset.Basic
import Mathlib.Algebra.GroupWithZero.Nat

/-!
# Figures about an index

Each figure of a build is read off a part of the index: the list of chunks, the vector
index or one of the lexical indexes. All parts are made of one list of chunks, so the
figures fit together, and they stay until another build succeeds.
-/

namespace CodeRetrieval

/-! ## Counts -/

section

variable {α : Type} [DecidableEq α]

theorem length_eraseDups (xs : List α) : xs.eraseDups.length = xs.toFinset.card := by
  rw [← List.toFinset_card_of_nodup (nodup_eraseDups xs)]
  congr 1
  ext x
  simp

theorem mem_tally {xs : List α} {x : α} {n : ℕ} :
    (x, n) ∈ tally xs ↔ 0 < n ∧ xs.count x = n := by
  rw [tally, List.mem_map]
  constructor
  · rintro ⟨y, hy, hpair⟩
    obtain ⟨rfl, rfl⟩ := Prod.mk.inj hpair
    exact ⟨List.count_pos_iff.mpr (List.mem_eraseDups.mp hy), rfl⟩
  · rintro ⟨hpos, rfl⟩
    exact ⟨x, List.mem_eraseDups.mpr (List.count_pos_iff.mp hpos), rfl⟩

theorem sum_tally (xs : List α) : ((tally xs).map Prod.snd).sum = xs.length := by
  have hdistinct : xs.eraseDups.toFinset = xs.toFinset := by
    ext x
    simp
  calc ((tally xs).map Prod.snd).sum
      = (xs.eraseDups.map fun x => xs.count x).sum := by rw [tally, List.map_map]; rfl
    _ = ∑ x ∈ xs.toFinset, xs.count x := by
      rw [← List.sum_toFinset _ (nodup_eraseDups xs), hdistinct]
    _ = xs.length := List.sum_toFinset_count_eq_length xs

end

namespace VectorIndex

variable {S R ι : Type} [Scalar S] [Storage S R] {embedding : ι → Option (List R)}
  {items : List ι} {index : VectorIndex S ι}

theorem size_of_ofItems_eq_ok (h : ofItems embedding items = .ok index) :
    index.size = items.countP fun item => (embedding item).isSome := by
  rw [ofItems] at h
  split at h
  · cases h
  · obtain rfl := Except.ok.inj h
    rw [size, List.length_map, List.length_filterMap_eq_countP]
    simp

theorem dimension_of_ofItems_eq_ok (h : ofItems embedding items = .ok index)
    (hnone : ∀ item ∈ items, embedding item = none) : index.dimension = 0 := by
  have hempty : (items.filterMap fun item => (embedding item).map fun v => (item, v)) =
      [] :=
    List.filterMap_eq_nil_iff.mpr fun item hitem => by rw [hnone item hitem]; rfl
  rw [ofItems, hempty] at h
  obtain rfl := Except.ok.inj h
  rfl

end VectorIndex

/-- An index numbers as many tokens as there are different ones in its texts. -/
theorem LexicalIndex.length_numbers_build {R ι : Type} [Scalar R] (index : LexicalIndex R ι)
    (items : List ι) : (index.build items).numbers.length =
      (items.flatMap fun item => Lexical.tokenize (index.text item)).toFinset.card := by
  rw [numbers_build, List.length_zipIdx, TokenTables.vocabulary, length_eraseDups, corpus,
    List.flatMap_def]

/-! ## Figures of an index -/

/-- The figures are those of the chunks. -/
structure IndexStats.Describe (figures : IndexStats) (chunks : List Chunk) : Prop where
  chunkCount_eq : figures.chunkCount = chunks.length
  mem_byKind : ∀ kind n, (kind, n) ∈ figures.byKind ↔ 0 < n ∧
    (chunks.map fun k => k.kind.text).count kind = n
  sum_byKind : (figures.byKind.map Prod.snd).sum = figures.chunkCount
  mem_byLanguage : ∀ language n,
    (language, n) ∈ figures.byLanguage ↔ 0 < n ∧
      (chunks.map Chunk.language).count language = n
  sum_byLanguage : (figures.byLanguage.map Prod.snd).sum = figures.chunkCount
  embeddedCount_eq : figures.embeddedCount = chunks.countP fun k => k.embedding.isSome
  compressedCount_eq : figures.compressedCount = chunks.countP Chunk.compressed
  length_embedding : ∀ k ∈ chunks, ∀ vector, k.embedding = some vector →
    vector.length = figures.dimension
  dimension_eq_zero : (∀ k ∈ chunks, k.embedding = none) → figures.dimension = 0
  status_eq_empty : figures.status = "empty" ↔ figures.chunkCount = 0
  codeVocabulary_eq : figures.codeVocabulary =
    (chunks.flatMap fun k => Lexical.tokenize k.code).toFinset.card
  descriptionVocabulary_eq :
    figures.descriptionVocabulary =
      (chunks.flatMap fun k => Lexical.tokenize (Lexical.description k)).toFinset.card

theorem Index.IsAssembled.describe_stats {index : Index} (h : index.IsAssembled) :
    index.stats.Describe index.chunks := by
  obtain ⟨hvectors, hcode, hdescriptions⟩ := h.hybrid_eq
  constructor
  · rfl
  · exact fun kind n => mem_tally
  · exact (sum_tally _).trans (List.length_map _)
  · exact fun language n => mem_tally
  · exact (sum_tally _).trans (List.length_map _)
  · exact VectorIndex.size_of_ofItems_eq_ok hvectors
  · rfl
  · exact fun k hk vector hvector => VectorIndex.length_eq_dimension hvectors hk hvector
  · exact VectorIndex.dimension_of_ofItems_eq_ok hvectors
  · rw [IndexStats.status]
    split
    · simp [*]
    · simp [*]
  · rw [Index.stats, hcode]
    exact LexicalIndex.length_numbers_build _ _
  · rw [Index.stats, hdescriptions]
    exact LexicalIndex.length_numbers_build _ _

namespace Engine

variable {E T X : Type} {e : Engine} {c : Collaborators E T X} {files : List IndexFile}
  {budget : Option Int}

/-- Calls none of which is a build that succeeds leave an engine as it is. -/
theorem afterAll_of_lastAccepted?_eq_none {calls : List (Call E T X)}
    (h : e.lastAccepted? calls = none) :
    e.afterAll calls = e := by
  rw [(e.afterAll_eq calls).1, h]
  rfl

/-- The figures that a successful build returns are those of the chunks that it indexes,
and the engine gives them back until another build succeeds. -/
theorem figures_describe_chunks {figures : IndexStats}
    (h : (e.build c files budget).2.value = .ok figures) :
    let now := (e.build c files budget).1
    ∃ chunks, now.chunks = .ok chunks ∧ figures.Describe chunks ∧
      ∀ later : List (Call E T X), now.lastAccepted? later = none →
        (now.afterAll later).stats = .ok figures := by
  intro now
  obtain ⟨index, -, hbuild, hindex, -, -⟩ := exists_index_of_build_eq_ok h
  obtain rfl := Except.ok.inj ((build_of_eq_ok hbuild).2.symm.trans h)
  refine ⟨index.chunks, chunks_of_index hindex,
    (Index.isAssembled_of_build_eq_ok hbuild).describe_stats,
    fun later hlater => ?_⟩
  rw [afterAll_of_lastAccepted?_eq_none hlater, stats, built, hindex]
  rfl

def compressingEngine : Engine :=
  { sampleEngine with settings :=
    { sampleEngine.settings with compressionThreshold := 10 } }

/-- Vectors have two components, and every compressed code is a call. -/
def compressingCollaborators : Collaborators Empty Float Empty :=
  { sampleCollaborators with
    source := fun _ texts => .silent (.ok (texts.map fun _ => [1.0, 0.5]))
    compressor := some fun _ _ _ => .silent (.ok "f(f, 1)") }

/-- A build of two files that compresses the code of one of two chunks. A query and a
build without vectors that follow leave its figures. -/
theorem figures_describe_compressed :
    let now := (compressingEngine.build compressingCollaborators sampleFiles none).1
    let failing := { compressingCollaborators with source := fun _ _ => .silent (.ok []) }
    ∃ figures chunks,
      (compressingEngine.build compressingCollaborators sampleFiles none).2.value =
        .ok figures ∧
      (figures.chunkCount, figures.embeddedCount, figures.compressedCount,
       figures.dimension) = (2, 2, 1, 2) ∧
      now.chunks = .ok chunks ∧ figures.Describe chunks ∧
      (now.afterAll [.query failing .stats, .build failing sampleFiles none]).stats =
        .ok figures := by
  intro now failing
  have hcounts :
      (compressingEngine.build compressingCollaborators sampleFiles
          none).2.value.toOption.map
        (fun figures =>
          (figures.chunkCount, figures.embeddedCount, figures.compressedCount,
            figures.dimension)) = some (2, 2, 1, 2) := by
    decide +kernel
  have hlater :
      (now.lastAccepted? [.query failing .stats, .build failing sampleFiles none]).isNone =
      true := by
    decide +kernel
  obtain ⟨figures, hfigures⟩ : ∃ figures,
      (compressingEngine.build compressingCollaborators sampleFiles none).2.value =
        .ok figures :=
    exists_eq_ok (by decide +kernel)
  rw [hfigures] at hcounts
  obtain ⟨chunks, hchunks, hdescribe, hstays⟩ := figures_describe_chunks hfigures
  exact ⟨figures, chunks, hfigures, Option.some.inj hcounts, hchunks, hdescribe,
    hstays _ (Option.isNone_iff_eq_none.mp hlater)⟩

end Engine

end CodeRetrieval
