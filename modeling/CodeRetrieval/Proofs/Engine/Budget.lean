import CodeRetrieval.Proofs.Data.Sorting
import CodeRetrieval.Proofs.Embedding.Places
import CodeRetrieval.Proofs.Engine.Search
import CodeRetrieval.Proofs.Engine.Units
import CodeRetrieval.Proofs.Lexical.Index
import CodeRetrieval.Proofs.Vector.Search

/-!
# The budget of a build

A build embeds as many chunks as its budget allows, and no chunk that is left out comes
before one that is embedded in the order of what matters most. The chunks that are left
out stay in their places in the index.
-/

namespace CodeRetrieval

/-! ## The order of embedding -/

namespace ChunkKind

def embeddingRank (k : ChunkKind) : Nat :=
  [function, class_, method].idxOf k

theorem embeddingPriority_eq (k : ChunkKind) :
    k.embeddingPriority = 4 - k.embeddingRank := by
  cases k <;> rfl

theorem embeddingRank_le (k : ChunkKind) : k.embeddingRank ≤ 3 := by
  cases k <;> decide

end ChunkKind

namespace Chunk

/-- In the order of embedding the chunk `a` at place `i` comes before the chunk `b` at
place `j`: its kind comes first, or of one rank of kinds its code is longer, or as long
and its place comes first. -/
def EmbedsBefore (a : Chunk) (i : Nat) (b : Chunk) (j : Nat) : Prop :=
  a.kind.embeddingRank < b.kind.embeddingRank ∨
    a.kind.embeddingRank = b.kind.embeddingRank ∧
      (b.code.length < a.code.length ∨ a.code.length = b.code.length ∧ i < j)

theorem mayEmbedBefore_iff {a b : Chunk} : a.mayEmbedBefore b ↔
    a.kind.embeddingRank < b.kind.embeddingRank ∨
      a.kind.embeddingRank = b.kind.embeddingRank ∧ b.code.length ≤ a.code.length := by
  have ha := a.kind.embeddingRank_le
  have hb := b.kind.embeddingRank_le
  rw [mayEmbedBefore, a.kind.embeddingPriority_eq, b.kind.embeddingPriority_eq]
  split <;> rw [decide_eq_true_iff] <;> omega

theorem mayEmbedBefore_trans (a b c : Chunk) (hab : a.mayEmbedBefore b)
    (hbc : b.mayEmbedBefore c) :
    a.mayEmbedBefore c := by
  rw [mayEmbedBefore_iff] at *
  omega

theorem mayEmbedBefore_total (a b : Chunk) : a.mayEmbedBefore b || b.mayEmbedBefore a := by
  rw [Bool.or_eq_true, mayEmbedBefore_iff, mayEmbedBefore_iff]
  omega

theorem embedsBefore_of_mayEmbedBefore {a b : Chunk} {i j : Nat} (h : a.mayEmbedBefore b)
    (htie : b.mayEmbedBefore a → i < j) : a.EmbedsBefore i b j := by
  rw [mayEmbedBefore_iff] at *
  rw [EmbedsBefore]
  by_cases hback : b.kind.embeddingRank < a.kind.embeddingRank ∨
      b.kind.embeddingRank = a.kind.embeddingRank ∧ a.code.length ≤ b.code.length
  · have hplace := htie hback
    omega
  · omega

end Chunk

/-! ## What is selected -/

/-- How many of `count` chunks a budget allows to embed. -/
def allowed (budget : Option Int) (count : Nat) : Nat :=
  match budget with
  | some limit => min count limit.toNat
  | none => count

theorem allowed_le (budget : Option Int) (count : Nat) : allowed budget count ≤ count := by
  cases budget with
  | none => exact Nat.le_refl _
  | some limit => exact Nat.min_le_left _ _

theorem exists_places_selected (chunks : List Chunk) (budget : Option Int) :
    ∃ places : List (Chunk × Nat), places.Perm chunks.zipIdx ∧
      (places.Pairwise fun p q => p.1.EmbedsBefore p.2 q.1 q.2) ∧
      (selected chunks budget).Perm
        ((places.take (allowed budget chunks.length)).map Prod.fst) := by
  obtain ⟨places, hperm, hsorted, hordered⟩ :=
    exists_places_mergeSort Chunk.mayEmbedBefore_trans Chunk.mayEmbedBefore_total chunks
  refine ⟨places, hperm, hordered.imp fun h =>
    Chunk.embedsBefore_of_mayEmbedBefore h.1 h.2, ?_⟩
  have hall : chunks.Perm ((places.take chunks.length).map Prod.fst) := by
    have hlength : places.length = chunks.length := by
      rw [hperm.length_eq, List.length_zipIdx]
    rw [← hlength, List.take_length, ← hsorted]
    exact (List.mergeSort_perm chunks _).symm
  cases budget with
  | none => exact hall
  | some limit =>
      rw [selected, allowed]
      split
      · rw [prioritized, hsorted, ← List.map_take, Nat.min_eq_right (by omega)]
      · rw [Nat.min_eq_left (by omega)]
        exact hall

theorem mem_selected_iff {chunks : List Chunk} {budget : Option Int}
    {places : List (Chunk × Nat)}
    (hselected : (selected chunks budget).Perm
    ((places.take (allowed budget chunks.length)).map Prod.fst)) {c : Chunk} : c ∈
    selected chunks budget ↔ ∃ i, (c, i) ∈ places.take (allowed budget chunks.length) := by
  rw [hselected.mem_iff, List.mem_map]
  constructor
  · rintro ⟨⟨c, i⟩, hp, rfl⟩
    exact ⟨i, hp⟩
  · rintro ⟨i, hp⟩
    exact ⟨(c, i), hp, rfl⟩

theorem length_selected (chunks : List Chunk) (budget : Option Int) :
    (selected chunks budget).length = allowed budget chunks.length := by
  obtain ⟨places, hperm, -, hselected⟩ := exists_places_selected chunks budget
  rw [hselected.length_eq, List.length_map, List.length_take, hperm.length_eq,
    List.length_zipIdx, Nat.min_eq_left (allowed_le _ _)]

theorem nodup_id_selected {chunks : List Chunk} (hids : (chunks.map Chunk.id).Nodup)
    (budget : Option Int) :
    ((selected chunks budget).map Chunk.id).Nodup := by
  obtain ⟨places, hperm, -, hselected⟩ := exists_places_selected chunks budget
  have hplaces : ((places.map Prod.fst).map Chunk.id).Nodup := by
    have hchunks := (hperm.map Prod.fst).map Chunk.id
    rw [List.zipIdx_map_fst] at hchunks
    exact hchunks.nodup_iff.mpr hids
  refine (hselected.map Chunk.id).nodup_iff.mpr (hplaces.sublist ?_)
  exact ((List.take_sublist _ _).map _).map _

/-- A chunk that is not selected comes behind every chunk that is. -/
theorem embedsBefore_of_mem_selected {chunks : List Chunk}
    (hids : (chunks.map Chunk.id).Nodup) {budget : Option Int} {i j : Nat} {a b : Chunk}
    (ha : chunks[i]? = some a) (hb : chunks[j]? = some b)
    (hout : a ∉ selected chunks budget) (hin : b ∈ selected chunks budget) :
    b.EmbedsBefore j a i := by
  obtain ⟨places, hperm, hordered, hselected⟩ := exists_places_selected chunks budget
  obtain ⟨j', htaken⟩ := (mem_selected_iff hselected).mp hin
  have hsame : chunks[j']? = some b :=
    List.mem_zipIdx_iff_getElem?.mp (hperm.mem_iff.mp (List.mem_of_mem_take htaken))
  obtain rfl : j = j' := by
    obtain ⟨hj, -⟩ := List.getElem?_eq_some_iff.mp hb
    exact (List.getElem?_inj hj (List.Nodup.of_map _ hids)).mp (hb.trans hsame.symm)
  have hleft : (a, i) ∈ places.drop (allowed budget chunks.length) := by
    have hplace : (a, i) ∈ places := hperm.mem_iff.mpr (List.mem_zipIdx_iff_getElem?.mpr ha)
    rw [← List.take_append_drop (allowed budget chunks.length) places,
      List.mem_append] at hplace
    exact hplace.resolve_left fun h => hout ((mem_selected_iff hselected).mpr ⟨i, h⟩)
  rw [← List.take_append_drop (allowed budget chunks.length) places,
    List.pairwise_append] at hordered
  exact hordered.2.2 _ htaken _ hleft

/-! ## Back in their places -/

namespace Index

section

variable {chunks selection embedded : List Chunk}

/-- Of chunks with different identifiers those that were embedded get their vectors, and
all others stay as they are. -/
theorem forall₂_withEmbedded_of_nodup (hids : (chunks.map Chunk.id).Nodup)
    (hmem : ∀ c ∈ selection, c ∈ chunks)
    (hembedded : List.Forall₂ (fun c e => e.IsEmbeddingOf c) selection embedded) :
    List.Forall₂ (fun c d => c ∈ selection ∧ d.IsEmbeddingOf c ∨
      c ∉ selection ∧ d = c) chunks
      (withEmbedded embedded chunks) := by
  rw [withEmbedded, List.forall₂_map_right_iff, List.forall₂_same]
  intro c hc
  cases h : embedded.reverse.find? fun e => e.id == c.id with
  | none =>
      refine .inr ⟨fun hin => ?_, rfl⟩
      obtain ⟨e, he, vector, rfl⟩ := exists_of_mem_left hembedded hin
      exact List.find?_eq_none.mp h _ (List.mem_reverse.mpr he) (beq_self_eq_true c.id)
  | some e =>
      obtain ⟨c', hc', vector, rfl⟩ :=
        exists_of_mem_right hembedded (List.mem_reverse.mp (List.mem_of_find?_eq_some h))
      have hid : (c'.withEmbedding vector).id = c.id := by simpa using List.find?_some h
      obtain rfl : c' = c := List.inj_on_of_nodup_map hids (hmem c' hc') hc hid
      exact .inl ⟨hc', vector, rfl⟩

theorem countP_withEmbedded (hids : (chunks.map Chunk.id).Nodup)
    (hnone : ∀ c ∈ chunks, c.embedding = none) (hmem : ∀ c ∈ selection, c ∈ chunks)
    (hselection : (selection.map Chunk.id).Nodup)
    (hembedded : List.Forall₂ (fun c e => e.IsEmbeddingOf c) selection embedded) :
    (withEmbedded embedded chunks).countP (fun d => d.embedding.isSome) =
      selection.length := by
  have hplaces := forall₂_withEmbedded_of_nodup hids hmem hembedded
  rw [List.countP_eq_length_filter, ← List.length_map Chunk.id, ← @List.length_map
    _ _ selection Chunk.id]
  -- both lists name every chunk that was embedded, and name it once
  refine List.Perm.length_eq ((List.perm_ext_iff_of_nodup ?_ hselection).mpr fun id => ?_)
  · rw [← map_id_withEmbedded embedded chunks] at hids
    exact hids.sublist (List.filter_sublist.map _)
  · simp only [List.mem_map, List.mem_filter]
    constructor
    · rintro ⟨d, ⟨hd, hvector⟩, rfl⟩
      obtain ⟨c, hc, ⟨hin, vector, rfl⟩ | ⟨-, rfl⟩⟩ := exists_of_mem_right hplaces hd
      · exact ⟨c, hin, rfl⟩
      · rw [hnone d hc] at hvector
        cases hvector
    · rintro ⟨c, hin, rfl⟩
      obtain ⟨d, hd, ⟨-, vector, rfl⟩ | ⟨hout, -⟩⟩ :=
        exists_of_mem_left hplaces (hmem c hin)
      · exact ⟨_, ⟨hd, rfl⟩, rfl⟩
      · exact absurd hin hout

end

section

variable {E : Type} {settings : Settings} {chunker : Chunker}
  {compressor : Option Compressor} {source : Embedding.Source E} {files : List IndexFile}
  {budget : Option Int} {index : Index}

/-- The indexed chunks are prepared ones, of which the selected ones got vectors. -/
theorem exists_prepared (hpaths : (files.map IndexFile.path).Nodup)
    (h : (build settings chunker compressor source files budget).value = .ok index) :
    ∃ chunks, (chunks.map Chunk.id).Nodup ∧ (∀ c ∈ chunks, c.embedding = none) ∧
      List.Forall₂ (fun c d => c ∈ selected chunks budget ∧ d.IsEmbeddingOf c ∨
        c ∉ selected chunks budget ∧ d = c)
        chunks index.chunks ∧
      index.chunks.countP (fun d => d.embedding.isSome) =
        (selected chunks budget).length := by
  obtain ⟨perFile, chunks, embedded, hperFile, hchunks, hembedded, hindex⟩ :=
    exists_phases h
  obtain ⟨-, -, -, hindexed⟩ := assemble_eq_ok hindex
  have hids : (chunks.map Chunk.id).Nodup := by
    rw [map_id_of_prepared_eq_ok hchunks]
    exact chunker.nodup_id_chunkFiles hpaths hperFile
  have hnone : ∀ c ∈ chunks, c.embedding = none :=
    fun c hc => embedding_of_mem_prepared hperFile hchunks hc
  have hmem : ∀ c ∈ selected chunks budget, c ∈ chunks := fun c hc => mem_of_mem_selected hc
  have hvectors := Embedding.forall₂_of_embed_eq_ok hembedded
  rw [hindexed]
  exact ⟨chunks, hids, hnone, forall₂_withEmbedded_of_nodup hids hmem hvectors,
    countP_withEmbedded hids hnone hmem (nodup_id_selected hids budget) hvectors⟩

/-- A chunk without a vector comes behind every chunk that has one. -/
theorem embedsBefore_of_build_eq_ok (hpaths : (files.map IndexFile.path).Nodup)
    (h : (build settings chunker compressor source files budget).value = .ok index)
    {i j : Nat} {a b : Chunk} (ha : index.chunks[i]? = some a)
    (hb : index.chunks[j]? = some b) (hout : a.embedding = none)
    (hin : b.embedding.isSome = true) : b.EmbedsBefore j a i := by
  obtain ⟨chunks, hids, hnone, hplaces, -⟩ := exists_prepared hpaths h
  obtain ⟨a', ha', ⟨-, vector, rfl⟩ | ⟨hleft, rfl⟩⟩ := exists_of_getElem?_right hplaces ha
  · cases hout
  obtain ⟨b', hb', ⟨hchosen, vector, rfl⟩ | ⟨-, rfl⟩⟩ := exists_of_getElem?_right hplaces hb
  · -- a vector changes neither the kind nor the code
    have hbefore : b'.EmbedsBefore j a i :=
      embedsBefore_of_mem_selected hids ha' hb' hleft hchosen
    exact hbefore
  · rw [hnone b (List.mem_of_getElem? hb')] at hin
    cases hin

theorem countP_of_build_eq_ok (hpaths : (files.map IndexFile.path).Nodup)
    (h : (build settings chunker compressor source files budget).value = .ok index) :
    index.chunks.countP (fun c => c.embedding.isSome) =
      allowed budget index.chunks.length := by
  obtain ⟨chunks, -, -, hplaces, hcount⟩ := exists_prepared hpaths h
  rw [hcount, length_selected, hplaces.length_eq]

/-! ## Builds that succeed -/

/-- A build succeeds where the files can be cut, the chunks can be prepared, and every
batch gets its vectors, all of one length. -/
theorem exists_build_eq_ok {d : Nat} {perFile : List (List Chunk)} {chunks : List Chunk}
    (budget : Option Int) (hsize : 1 ≤ settings.batchSize)
    (hsource : ∀ number texts, ∃ vectors, (source number texts).value = .ok vectors ∧
    vectors.length = texts.length ∧ ∀ vector ∈ vectors, vector.length = d) (hperFile :
    (chunker.chunkFiles files).value = .ok perFile) (hchunks :
    (prepared settings compressor perFile.flatten).value = .ok chunks) :
    ∃ index, (build settings chunker compressor source files budget).value = .ok index := by
  obtain ⟨embedded, hembedded, hembeddings⟩ :=
    Embedding.exists_embed_eq_ok_of_length hsize (selected chunks budget) hsource
  have hlengths : ∀ k ∈ withEmbedded embedded chunks, ∀ v, k.embedding =
      some v → v.length = d := by
    intro k hk v hv
    rcases mem_of_mem_withEmbedded hk with hk | hk
    · exact hembeddings k hk v hv
    · rw [embedding_of_mem_prepared hperFile hchunks hk] at hv
      cases hv
  obtain ⟨vectors, hvectors, -⟩ := VectorIndex.exists_ofItems_eq_ok (S := Float32) hlengths
  have hassemble : ∃ index, assemble files.length perFile.flatten
      (withEmbedded embedded chunks) = .ok index :=
    ⟨_, bind_eq_ok.mpr ⟨vectors, hvectors, rfl⟩⟩
  exact hassemble.imp fun index hindex =>
    build_eq_ok_of_phases hperFile hchunks hembedded hindex

end

end Index

namespace Engine

variable {E T X : Type}

/-- A budget is kept and spent on the best chunks. After a successful build of files
with different paths as many chunks have a vector as the budget allows, and all of them
without a budget. Every chunk without a vector comes behind every one with a vector in
the order of embedding. All chunks are listed, each in the place in which it was cut.
Each lexical index is that of all of them, with or without a vector: one of the tokens
of their code, the other one of those of their descriptions. -/
theorem budget_spent_on_best (e : Engine) (c : Collaborators E T X) {files : List IndexFile}
    {budget : Option Int} {figures : IndexStats} (hpaths : (files.map IndexFile.path).Nodup)
    (h : (e.build c files budget).2.value = .ok figures) :
    let now := (e.build c files budget).1
    ∃ index perFile, now.index = some index ∧ now.chunks = .ok index.chunks ∧
      ((index.chunks.countP fun k => k.embedding.isSome : Nat) : Int) =
        (match budget with
          | some limit => min (index.chunks.length : Int) (max 0 limit)
          | none => index.chunks.length) ∧
      (∀ (i j : Nat) (a b : Chunk), index.chunks[i]? = some a → index.chunks[j]? = some b →
        a.embedding = none →
        b.embedding.isSome = true → b.EmbedsBefore j a i) ∧
      (e.chunker.chunkFiles files).value = .ok perFile ∧
      List.Forall₂ (fun o k => k.IsVersionOf o) perFile.flatten index.chunks ∧
      index.hybrid.code.IsIndexOf Chunk.code index.chunks ∧
      index.hybrid.descriptions.IsIndexOf Lexical.description index.chunks := by
  intro now
  obtain ⟨index, perFile, hbuild, hindex, hperFile, hextracted⟩ :=
    exists_index_of_build_eq_ok h
  obtain ⟨-, hcode, hdescriptions⟩ := (Index.isAssembled_of_build_eq_ok hbuild).hybrid_eq
  have hplaces := Index.forall₂_isVersionOf hpaths hbuild
  rw [hextracted] at hplaces
  refine ⟨index, perFile, hindex, chunks_of_index hindex, ?_, ?_, hperFile, hplaces, ?_, ?_⟩
  · rw [Index.countP_of_build_eq_ok hpaths hbuild]
    cases budget with
    | none => rfl
    | some limit =>
        show ((min index.chunks.length limit.toNat : Nat) : Int) =
          min (index.chunks.length : Int) (max 0 limit)
        omega
  · intro i j a b ha hb hout hin
    exact Index.embedsBefore_of_build_eq_ok hpaths hbuild ha hb hout hin
  · rw [hcode]
    exact LexicalIndex.isIndexOf_build _ index.chunks
  · rw [hdescriptions]
    exact LexicalIndex.isIndexOf_build _ index.chunks

/-- Of a readme and a function a budget of one chunk is spent on the function. The
readme stays in both lexical indexes. -/
theorem sample_budget_spent_on_best :
    (sampleFiles.map IndexFile.path).Nodup ∧
      (∃ figures,
        (sampleEngine.build sampleCollaborators sampleFiles (some 1)).2.value =
          .ok figures) ∧
      ∃ index,
        (sampleEngine.build sampleCollaborators sampleFiles (some 1)).1.index =
          some index ∧
        index.chunks.map (fun k => (k.kind, k.embedding.isSome)) =
          [(.readme, false), (.function, true)] ∧
        index.hybrid.code.items = index.chunks ∧
        index.hybrid.descriptions.items = index.chunks := by
  have hpaths : (sampleFiles.map IndexFile.path).Nodup := by decide
  have hkinds : (sampleEngine.chunker.chunkFiles sampleFiles).value.map
      (fun perFile => perFile.flatten.map Chunk.kind) = .ok [.readme, .function] := by
        decide +kernel
  obtain ⟨perFile, hperFile, hkinds⟩ := map_eq_ok.mp hkinds
  have hsource : ∀ number texts, ∃ vectors,
      (sampleCollaborators.source number texts).value = .ok vectors ∧
      vectors.length = texts.length ∧ ∀ vector ∈ vectors, vector.length = 1 :=
    fun _ texts => ⟨texts.map fun _ => [1.0], rfl, List.length_map _, by simp⟩
  have hprepared : (Index.prepared sampleEngine.settings none perFile.flatten).value =
      .ok perFile.flatten := rfl
  have hsize : 1 ≤ sampleEngine.settings.batchSize := by decide
  obtain ⟨built, hbuilt⟩ :=
    Index.exists_build_eq_ok (some 1) hsize hsource hperFile hprepared
  have hfigures := (build_of_eq_ok (e := sampleEngine) (c := sampleCollaborators) hbuilt).2
  obtain ⟨index, perFile', hindex, -, hcount, hbest, hperFile', hplaces,
      hcode, hdescriptions⟩ :=
    budget_spent_on_best sampleEngine sampleCollaborators hpaths hfigures
  obtain rfl := Except.ok.inj (hperFile.symm.trans hperFile')
  have hkinds' : index.chunks.map Chunk.kind = [.readme, .function] := by
    rw [← hkinds]
    exact (map_eq_of_forall₂ hplaces fun _ _ hk => hk.kind_eq.symm).symm
  obtain ⟨a, rest, hchunks, ha, hrest⟩ := List.map_eq_cons_iff.mp hkinds'
  obtain ⟨b, others, rfl, hb, hothers⟩ := List.map_eq_cons_iff.mp hrest
  obtain rfl := List.map_eq_nil_iff.mp hothers
  have hitems := And.intro hcode.items_eq hdescriptions.items_eq
  rw [hchunks] at hcount hbest
  have hone : [a, b].countP (fun k => k.embedding.isSome) = 1 := Int.ofNat_inj.mp hcount
  -- the readme does not come before the function, so it cannot be the one that has the
  -- vector
  have hnotBefore : ¬ a.EmbedsBefore 0 b 1 := by
    have hrank : ChunkKind.function.embeddingRank < ChunkKind.readme.embeddingRank := by
      decide
    rw [Chunk.EmbedsBefore, ha, hb]
    omega
  refine ⟨hpaths, ⟨_, hfigures⟩, index, hindex, ?_, hitems⟩
  rw [hchunks]
  cases hvector : a.embedding with
  | some v =>
      have hother : b.embedding = none := by simpa [hvector] using hone
      exact absurd (hbest 1 0 b a rfl rfl hother (by rw [hvector]; rfl)) hnotBefore
  | none =>
      have hother : b.embedding.isSome = true :=
        Option.isSome_iff_ne_none.mpr (by simpa [List.countP_cons, hvector] using hone)
      simp [ha, hb, hvector, hother]

end Engine

end CodeRetrieval
