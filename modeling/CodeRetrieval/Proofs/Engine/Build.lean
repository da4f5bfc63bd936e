import CodeRetrieval.Engine.Index
import CodeRetrieval.Proofs.Chunk.Chunker
import CodeRetrieval.Proofs.Embedding.Batches
import CodeRetrieval.Proofs.Engine.Compression

/-!
# The phases of a build

A build cuts, compresses, embeds and assembles, and the first phase that fails decides
its error. In a build that succeeds the indexed chunks are versions of the extracted
ones, one for one.
-/

namespace CodeRetrieval.Index

section

variable {E : Type} (settings : Settings) (chunker : Chunker)
  (compressor : Option Compressor) (source : Embedding.Source E) (files : List IndexFile)
  (budget : Option Int)

theorem value_ofChunks (fileCount : Nat) (extracted : List Chunk) :
    (ofChunks settings compressor source fileCount extracted budget).value = (do
      let chunks ← (prepared settings compressor extracted).value.mapError fun reason =>
        .failed (.compression reason)
      let embedded ← (Embedding.embed source settings.batchSize
        (selected chunks budget)).value.mapError .ofEmbedding
      (assemble fileCount extracted (withEmbedded embedded chunks)).mapError fun e =>
        .failed (.dimensions e)) := by
  rw [ofChunks, Noted.value_andThen]
  cases (prepared settings compressor extracted).value with
  | error reason => rfl
  | ok chunks =>
      rw [Noted.value_map]
      cases h : (Embedding.embed source settings.batchSize (selected chunks budget)).value
        with
      | error e => simp [Except.mapError, bind, Except.bind, h]
      | ok embedded => simp [Except.mapError, bind, Except.bind, h]

theorem value_build :
    (build settings chunker compressor source files budget).value = (do
      let perFile ← (chunker.chunkFiles files).value.mapError fun _ =>
        .failed .tooManyDigits
      (ofChunks settings compressor source files.length perFile.flatten budget).value) := by
  rw [build]
  -- whether or not the failure is reported, the result is that of the phases
  split
  all_goals
    rw [Noted.value_andThen]
    cases (chunker.chunkFiles files).value with
    | error e => rfl
    | ok perFile => rfl

end

/-- An index that is made of its own chunks. -/
def IsAssembled (index : Index) : Prop :=
  assemble index.fileCount index.extracted index.chunks = .ok index

theorem assemble_eq_ok {fileCount : Nat} {extracted chunks : List Chunk} {index : Index}
    (h : assemble fileCount extracted chunks = .ok index) :
    index.IsAssembled ∧ index.fileCount = fileCount ∧ index.extracted = extracted ∧
      index.chunks = chunks := by
  obtain ⟨vectors, hvectors, hindex⟩ := bind_eq_ok.mp h
  obtain rfl := Except.ok.inj hindex
  exact ⟨h, rfl, rfl, rfl⟩

section

variable {E : Type} {settings : Settings} {chunker : Chunker}
  {compressor : Option Compressor} {source : Embedding.Source E} {files : List IndexFile}
  {budget : Option Int} {index : Index}

/-- What the phases of a successful build give. -/
theorem exists_phases (h : (build settings chunker compressor source files budget).value =
    .ok index) :
    ∃ perFile chunks embedded, (chunker.chunkFiles files).value = .ok perFile ∧
      (prepared settings compressor perFile.flatten).value = .ok chunks ∧
      (Embedding.embed source settings.batchSize (selected chunks budget)).value =
        .ok embedded ∧
      assemble files.length perFile.flatten (withEmbedded embedded chunks) = .ok index := by
  rw [value_build] at h
  obtain ⟨perFile, hperFile, h⟩ := bind_eq_ok.mp h
  rw [value_ofChunks] at h
  obtain ⟨chunks, hchunks, h⟩ := bind_eq_ok.mp h
  obtain ⟨embedded, hembedded, h⟩ := bind_eq_ok.mp h
  exact ⟨perFile, chunks, embedded, mapError_eq_ok.mp hperFile, mapError_eq_ok.mp hchunks,
    mapError_eq_ok.mp hembedded, mapError_eq_ok.mp h⟩

theorem build_eq_ok_of_phases {perFile : List (List Chunk)} {chunks embedded : List Chunk}
    (hperFile : (chunker.chunkFiles files).value = .ok perFile)
    (hchunks : (prepared settings compressor perFile.flatten).value = .ok chunks)
    (hembedded :
    (Embedding.embed source settings.batchSize (selected chunks budget)).value =
    .ok embedded) (hassemble :
    assemble files.length perFile.flatten (withEmbedded embedded chunks) = .ok index) :
    (build settings chunker compressor source files budget).value = .ok index := by
  rw [value_build]
  refine bind_eq_ok.mpr ⟨perFile, mapError_eq_ok.mpr hperFile, ?_⟩
  rw [value_ofChunks]
  refine bind_eq_ok.mpr ⟨chunks, mapError_eq_ok.mpr hchunks, ?_⟩
  exact bind_eq_ok.mpr ⟨embedded, mapError_eq_ok.mpr hembedded,
    mapError_eq_ok.mpr hassemble⟩

theorem isAssembled_of_build_eq_ok
    (h : (build settings chunker compressor source files budget).value = .ok index) :
    index.IsAssembled := by
  obtain ⟨_, _, _, -, -, -, hassemble⟩ := exists_phases h
  exact (assemble_eq_ok hassemble).1

/-- The chunks of the files can be cut and prepared, but some batch of those to embed
fails. -/
def EmbeddingFails (settings : Settings) (chunker : Chunker)
    (compressor : Option Compressor) (source : Embedding.Source E) (files : List IndexFile)
    (budget : Option Int) : Prop :=
  ∃ perFile chunks, (chunker.chunkFiles files).value = .ok perFile ∧
    (prepared settings compressor perFile.flatten).value = .ok chunks ∧
    Embedding.SomeBatchFails source settings.batchSize (selected chunks budget)

/-- A build fails in embedding exactly if some batch fails, and fails otherwise for a
reason of its own. -/
theorem exists_eq_embedding_iff {e : BuildError E}
    (h : (build settings chunker compressor source files budget).value = .error e) :
    (∃ fault, e = .embedding fault) ↔
      EmbeddingFails settings chunker compressor source files budget := by
  rw [value_build] at h
  rcases bind_eq_error.mp h with h | ⟨perFile, hperFile, h⟩
  · obtain ⟨tooMany, hcut, rfl⟩ := mapError_eq_error.mp h
    refine iff_of_false (by simp) ?_
    rintro ⟨perFile, chunks, hperFile, -⟩
    cases hcut.symm.trans hperFile
  rw [mapError_eq_ok] at hperFile
  rw [value_ofChunks] at h
  rcases bind_eq_error.mp h with h | ⟨chunks, hchunks, h⟩
  · obtain ⟨reason, hprepared, rfl⟩ := mapError_eq_error.mp h
    refine iff_of_false (by simp) ?_
    rintro ⟨perFile', chunks, hperFile', hchunks, -⟩
    obtain rfl := Except.ok.inj (hperFile.symm.trans hperFile')
    cases hprepared.symm.trans hchunks
  rw [mapError_eq_ok] at hchunks
  -- cutting and preparing have one result, so a batch that fails is a batch of these chunks
  have hfails : EmbeddingFails settings chunker compressor source files budget ↔
      Embedding.SomeBatchFails source settings.batchSize (selected chunks budget) := by
    constructor
    · rintro ⟨perFile', chunks', hperFile', hchunks', hbatch⟩
      obtain rfl := Except.ok.inj (hperFile.symm.trans hperFile')
      obtain rfl := Except.ok.inj (hchunks.symm.trans hchunks')
      exact hbatch
    · exact fun hbatch => ⟨perFile, chunks, hperFile, hchunks, hbatch⟩
  rw [hfails]
  rcases bind_eq_error.mp h with h | ⟨embedded, hembedded, h⟩
  · obtain ⟨fault, hembed, rfl⟩ := mapError_eq_error.mp h
    rcases Embedding.embed_eq_error hembed with ⟨hsize, rfl⟩ | ⟨hbatch, hfault⟩
    · refine iff_of_false (by simp [BuildError.ofEmbedding]) ?_
      rintro ⟨hsize', -⟩
      omega
    · refine iff_of_true ⟨fault, ?_⟩ hbatch
      cases fault with
      | batchSize size => exact absurd rfl (hfault size)
      | refused reason => rfl
      | batchBroken batch reason => rfl
      | batchCount batch vectors chunks => rfl
  · obtain ⟨dimensions, -, rfl⟩ := mapError_eq_error.mp h
    refine iff_of_false (by simp) fun hbatch => ?_
    obtain ⟨e, he⟩ := Embedding.exists_embed_eq_error hbatch
    cases he.symm.trans (mapError_eq_ok.mp hembedded)

end

/-! ## The indexed chunks -/

theorem mem_of_mem_selected {chunks : List Chunk} {budget : Option Int} {c : Chunk}
    (h : c ∈ selected chunks budget) : c ∈ chunks := by
  unfold selected at h
  split at h
  · split at h
    · exact List.mem_mergeSort.mp (List.mem_of_mem_take h)
    · exact h
  · exact h

theorem forall₂_of_prepared_eq_ok {settings : Settings} {compressor : Option Compressor}
    {extracted chunks : List Chunk}
    (h : (prepared settings compressor extracted).value = .ok chunks) :
    List.Forall₂ (fun o c => c.IsCompressedFrom o) extracted chunks := by
  have hsame : List.Forall₂ (fun o c : Chunk => c.IsCompressedFrom o) extracted extracted :=
    List.forall₂_same.mpr fun o _ => .inl rfl
  unfold prepared at h
  split at h
  · split at h
    · exact Compression.forall₂_of_compress_eq_ok h
    · obtain rfl := Except.ok.inj h
      exact hsame
  · obtain rfl := Except.ok.inj h
    exact hsame

theorem map_id_of_prepared_eq_ok {settings : Settings} {compressor : Option Compressor}
    {extracted chunks : List Chunk}
    (h : (prepared settings compressor extracted).value = .ok chunks) :
    chunks.map Chunk.id = extracted.map Chunk.id :=
  (map_eq_of_forall₂ (forall₂_of_prepared_eq_ok h) fun _ _ hc => hc.id_eq.symm).symm

theorem embedding_of_mem_prepared {settings : Settings} {chunker : Chunker}
    {compressor : Option Compressor} {files : List IndexFile} {perFile : List (List Chunk)}
    {chunks : List Chunk} (hperFile : (chunker.chunkFiles files).value = .ok perFile)
    (h : (prepared settings compressor perFile.flatten).value = .ok chunks)
    {k : Chunk} (hk : k ∈ chunks) :
    k.embedding = none := by
  obtain ⟨o, ho, hko⟩ := exists_of_mem_right (forall₂_of_prepared_eq_ok h) hk
  obtain ⟨f, -, hcut, -⟩ := Chunker.exists_file_of_mem hperFile ho
  rw [hko.embedding_eq, hcut.not_embedded]

/-- A chunk stays as it is unless a chunk with its identifier was embedded. -/
theorem forall₂_withEmbedded {embedded chunks : List Chunk}
    (hembedded : ∀ e ∈ embedded, ∃ c ∈ chunks, e.IsEmbeddingOf c) :
    List.Forall₂ (fun c d => d = c ∨ ∃ c' ∈ chunks, c'.id = c.id ∧
      d.IsEmbeddingOf c') chunks
      (withEmbedded embedded chunks) := by
  rw [withEmbedded, List.forall₂_map_right_iff, List.forall₂_same]
  intro c _
  cases h : embedded.reverse.find? fun e => e.id == c.id with
  | none => exact .inl rfl
  | some e =>
      obtain ⟨c', hc', vector, rfl⟩ :=
        hembedded e (List.mem_reverse.mp (List.mem_of_find?_eq_some h))
      have hid : (c'.withEmbedding vector).id = c.id := by simpa using List.find?_some h
      exact .inr ⟨c', hc', hid, vector, rfl⟩

theorem id_getD_find? (embedded : List Chunk) (c : Chunk) :
    ((embedded.find? fun e => e.id == c.id).getD c).id = c.id := by
  cases h : embedded.find? fun e => e.id == c.id with
  | none => rfl
  | some e => simpa using List.find?_some h

theorem map_id_withEmbedded (embedded chunks : List Chunk) :
    (withEmbedded embedded chunks).map Chunk.id = chunks.map Chunk.id := by
  rw [withEmbedded, List.map_map]
  exact List.map_congr_left fun c _ => id_getD_find? _ c

theorem mem_of_mem_withEmbedded {embedded chunks : List Chunk} {d : Chunk}
    (h : d ∈ withEmbedded embedded chunks) :
    d ∈ embedded ∨ d ∈ chunks := by
  obtain ⟨c, hc, rfl⟩ := List.mem_map.mp h
  cases hfound : embedded.reverse.find? fun e => e.id == c.id with
  | none => exact .inr hc
  | some e => exact .inl (List.mem_reverse.mp (List.mem_of_find?_eq_some hfound))

theorem eq_of_mem_withEmbedded {embedded chunks : List Chunk}
    (hchunks : ∀ c ∈ chunks, c.embedding = none) {d d' : Chunk}
    (hd : d ∈ withEmbedded embedded chunks) (hd' : d' ∈ withEmbedded embedded chunks)
    (hid : d'.id = d.id) (hvector : d.embedding.isSome = true) : d' = d := by
  obtain ⟨c, hc, rfl⟩ := List.mem_map.mp hd
  obtain ⟨c', -, rfl⟩ := List.mem_map.mp hd'
  have hsame : c'.id = c.id := by
    rwa [id_getD_find?, id_getD_find?] at hid
  cases h : embedded.reverse.find? fun e => e.id == c.id with
  | none =>
      rw [h, Option.getD_none, hchunks c hc] at hvector
      cases hvector
  | some e => rw [hsame, h, Option.getD_some, Option.getD_some]

/-- An indexed chunk is a version of an extracted one, or it has a vector and is a
version of another one with the same identifier. -/
def StandsFor (extracted : List Chunk) (o c : Chunk) : Prop :=
  c.IsVersionOf o ∨ c.embedding.isSome = true ∧ ∃ o' ∈ extracted, o' ≠ o ∧
    o'.id = o.id ∧ c.IsVersionOf o'

theorem StandsFor.id_eq {extracted : List Chunk} {o c : Chunk}
    (h : StandsFor extracted o c) : c.id = o.id := by
  rcases h with hversion | ⟨-, o', -, -, hid, hversion⟩
  · exact hversion.id_eq
  · exact hversion.id_eq.trans hid

/-- Where no other extracted chunk has its identifier, nothing else can stand for a
chunk. -/
theorem StandsFor.isVersionOf {extracted : List Chunk} {o c : Chunk}
    (h : StandsFor extracted o c) (halone : ∀ o' ∈ extracted, o'.id = o.id → o' = o) :
    c.IsVersionOf o := by
  rcases h with hversion | ⟨-, o', ho', hne, hid, -⟩
  · exact hversion
  · exact absurd (halone o' ho' hid) hne

section

variable {E : Type} {settings : Settings} {chunker : Chunker}
  {compressor : Option Compressor} {source : Embedding.Source E} {files : List IndexFile}
  {budget : Option Int} {index : Index}

/-- Every indexed chunk stands for the chunk in its place as it was cut. -/
theorem forall₂_standsFor
    (h : (build settings chunker compressor source files budget).value = .ok index) :
    List.Forall₂ (StandsFor index.extracted) index.extracted index.chunks := by
  obtain ⟨perFile, chunks, embedded, -, hchunks, hembedded, hindex⟩ := exists_phases h
  obtain ⟨-, -, hextracted, hindexed⟩ := assemble_eq_ok hindex
  have hcompressed := forall₂_of_prepared_eq_ok hchunks
  have hvectors : ∀ e ∈ embedded, ∃ c ∈ chunks, e.IsEmbeddingOf c := by
    intro e he
    obtain ⟨c, hc, hec⟩ :=
      exists_of_mem_right (Embedding.forall₂_of_embed_eq_ok hembedded) he
    exact ⟨c, mem_of_mem_selected hc, hec⟩
  rw [hextracted, hindexed]
  refine forall₂_trans hcompressed (forall₂_withEmbedded hvectors) fun o c d hc hd => ?_
  rcases hd with rfl | ⟨c', hc', hid, hd⟩
  · exact .inl ⟨d, hc, .inl rfl⟩
  · obtain ⟨o', ho', hco'⟩ := exists_of_mem_right hcompressed hc'
    have hversion : d.IsVersionOf o' := ⟨c', hco', .inr hd⟩
    by_cases hsame : o' = o
    · exact .inl (hsame ▸ hversion)
    · obtain ⟨vector, rfl⟩ := hd
      exact .inr ⟨rfl, o', ho', hsame, hco'.id_eq.symm.trans (hid.trans hc.id_eq), hversion⟩

/-- Of the chunks with one identifier none has a vector, or all are the same. -/
theorem eq_of_id_eq_of_embedded
    (h : (build settings chunker compressor source files budget).value = .ok index)
    {c d : Chunk} (hc : c ∈ index.chunks) (hd : d ∈ index.chunks) (hid : d.id = c.id)
    (hvector : c.embedding.isSome = true) : d = c := by
  obtain ⟨perFile, chunks, embedded, hperFile, hchunks, -, hindex⟩ := exists_phases h
  obtain ⟨-, -, -, hindexed⟩ := assemble_eq_ok hindex
  rw [hindexed] at hc hd
  exact eq_of_mem_withEmbedded (fun k hk =>
    embedding_of_mem_prepared hperFile hchunks hk) hc hd hid hvector

/-- The chunks as they were cut from files with different paths have different
identifiers. -/
theorem nodup_id_extracted (hpaths : (files.map IndexFile.path).Nodup)
    (h : (build settings chunker compressor source files budget).value = .ok index) :
    (index.extracted.map Chunk.id).Nodup := by
  obtain ⟨perFile, _, _, hperFile, -, -, hindex⟩ := exists_phases h
  obtain ⟨-, -, hextracted, -⟩ := assemble_eq_ok hindex
  rw [hextracted]
  exact chunker.nodup_id_chunkFiles hpaths hperFile

/-- Of files with different paths every indexed chunk is a version of the chunk in its
place as it was cut. -/
theorem forall₂_isVersionOf (hpaths : (files.map IndexFile.path).Nodup)
    (h : (build settings chunker compressor source files budget).value = .ok index) :
    List.Forall₂ (fun o c => c.IsVersionOf o) index.extracted index.chunks := by
  have hmem :=
    (List.forall₂_and_left _ _).mpr ⟨fun o (ho : o ∈ index.extracted) => ho,
      forall₂_standsFor h⟩
  exact hmem.imp fun o c hc => hc.2.isVersionOf fun o' ho' hid =>
    List.inj_on_of_nodup_map (nodup_id_extracted hpaths h) ho' hc.1 hid

/-- Every indexed chunk is found as it was cut by its identifier. -/
theorem exists_extracted?_eq (hpaths : (files.map IndexFile.path).Nodup)
    (h : (build settings chunker compressor source files budget).value = .ok index)
    {c : Chunk} (hc : c ∈ index.chunks) :
    ∃ o, index.extracted? c.id = some o ∧ o ∈ index.extracted ∧ c.IsVersionOf o := by
  obtain ⟨o, ho, hversion⟩ := exists_of_mem_right (forall₂_isVersionOf hpaths h) hc
  refine ⟨o, ?_, ho, hversion⟩
  rw [hversion.id_eq, extracted?]
  exact find?_key_eq_some (nodup_id_extracted hpaths h) ho

end

end CodeRetrieval.Index
