import CodeRetrieval.Proofs.Engine.History
import CodeRetrieval.Proofs.Graph.Tables

/-!
# Units and their identifiers

Where files have different paths, an identifier stands for one unit throughout a build:
in the chunks as they were cut, in the indexed chunks and in the graph. Compression and
embedding leave each unit in its place. They take it for another one only where two
units share an identifier, as the units of two files with one path may do.
-/

namespace CodeRetrieval

namespace Index

theorem IsAssembled.graph_eq {index : Index} (h : index.IsAssembled) :
    index.graph = .ofChunks index.chunks := by
  obtain ⟨vectors, -, hindex⟩ := bind_eq_ok.mp h
  exact (congrArg Index.graph (Except.ok.inj hindex)).symm

section

variable {E : Type} {settings : Settings} {chunker : Chunker}
  {compressor : Option Compressor} {source : Embedding.Source E} {files : List IndexFile}
  {budget : Option Int} {index : Index}

theorem map_id_chunks (h : (build settings chunker compressor source files budget).value =
    .ok index) :
    index.chunks.map Chunk.id = index.extracted.map Chunk.id :=
  (map_eq_of_forall₂ (forall₂_standsFor h) fun _ _ hc => hc.id_eq.symm).symm

theorem nodup_id_chunks (hpaths : (files.map IndexFile.path).Nodup)
    (h : (build settings chunker compressor source files budget).value = .ok index) :
    (index.chunks.map Chunk.id).Nodup := by
  rw [map_id_chunks h]
  exact nodup_id_extracted hpaths h

/-- Of chunks with different identifiers the graph leaves none out. -/
theorem chunks_graph (hpaths : (files.map IndexFile.path).Nodup)
    (h : (build settings chunker compressor source files budget).value = .ok index) :
    index.graph.chunks = index.chunks := by
  rw [(isAssembled_of_build_eq_ok h).graph_eq, CallGraph.chunks_ofChunks]
  exact firstByKey_eq_self (nodup_id_chunks hpaths h)

theorem get?_graph_eq_some_iff (hpaths : (files.map IndexFile.path).Nodup)
    (h : (build settings chunker compressor source files budget).value = .ok index)
    {id : String} {c : Chunk} :
    index.graph.get? id = some c ↔ c ∈ index.chunks ∧ c.id = id := by
  rw [(isAssembled_of_build_eq_ok h).graph_eq, CallGraph.get?_eq_some_iff,
    CallGraph.Counts, ← mem_firstByKey, firstByKey_eq_self (nodup_id_chunks hpaths h)]

/-- The chunks found under an identifier are both missing, or stand in one place. -/
theorem standsFor_of_get?
    (h : (build settings chunker compressor source files budget).value = .ok index)
    (id : String) :
    index.get? id = none ∧ index.extracted? id = none ∨
      ∃ k o, index.get? id = some k ∧ index.extracted? id = some o ∧
        StandsFor index.extracted o k := by
  have hfound := find?_of_forall₂ (forall₂_standsFor h)
    (p := fun o => o.id == id) (q := fun c => c.id == id) fun o c hc => by rw [hc.id_eq]
  rcases hfound with ⟨ho, hk⟩ | ⟨o, k, ho, hk, hstands⟩
  · exact .inl ⟨hk, ho⟩
  · exact .inr ⟨k, o, hk, ho, hstands⟩

end

end Index

namespace Engine

variable {E T X : Type} {e : Engine} {c : Collaborators E T X} {files : List IndexFile}
  {budget : Option Int}

theorem chunks_of_index {index : Index} (h : e.index = some index) :
    e.chunks = .ok index.chunks := by
  rw [Engine.chunks, built, h]
  rfl

theorem chunk?_of_index {index : Index} (h : e.index = some index) (id : String) :
    e.chunk? id = .ok (index.get? id) := by
  rw [chunk?, built, h]
  rfl

theorem extracted?_of_index {index : Index} (h : e.index = some index) (id : String) :
    e.extracted? id = .ok (index.extracted? id) := by
  rw [extracted?, built, h]
  rfl

/-- A build that succeeds leaves the index of the chunks that it cut. -/
theorem exists_index_of_build_eq_ok {figures : IndexStats}
    (h : (e.build c files budget).2.value = .ok figures) :
    ∃ index perFile, (Index.build e.settings e.chunker c.compressor c.source files
      budget).value = .ok index ∧
      (e.build c files budget).1.index = some index ∧
        (e.chunker.chunkFiles files).value = .ok perFile ∧
      index.extracted = perFile.flatten := by
  cases hindex : (Index.build e.settings e.chunker c.compressor c.source files budget).value
    with
  | error error => cases h.symm.trans (build_of_eq_error hindex).2
  | ok index =>
      obtain ⟨perFile, _, _, hperFile, -, -, hassemble⟩ := Index.exists_phases hindex
      obtain ⟨-, -, hextracted, -⟩ := Index.assemble_eq_ok hassemble
      exact ⟨index, perFile, rfl, congrArg Engine.index (build_of_eq_ok hindex).1,
        hperFile, hextracted⟩

/-- The small engine builds an index of the sample files. -/
theorem exists_sample_figures :
    ∃ figures, (sampleEngine.build sampleCollaborators sampleFiles none).2.value =
      .ok figures :=
  exists_eq_ok (by decide +kernel)

/-- Identifiers identify units. An identifier gives back its path and its line. The
chunks of files with different paths have different identifiers, and after a build each
identifier leads to exactly the chunk that carries it: in the chunks as they were cut,
in the indexed chunks and in the graph, which holds all of them. -/
theorem identifiers_identify_units (e : Engine) (c : Collaborators E T X)
    {files : List IndexFile} (hpaths : (files.map IndexFile.path).Nodup) :
    (∀ (p q : String) (m n : Int), chunkId p m = chunkId q n ↔ p = q ∧ m = n) ∧
    (∀ perFile, (e.chunker.chunkFiles files).value = .ok perFile →
      (perFile.flatten.map Chunk.id).Nodup) ∧
    ∀ budget figures, (e.build c files budget).2.value = .ok figures →
      let now := (e.build c files budget).1
      ∃ perFile index, (e.chunker.chunkFiles files).value = .ok perFile ∧
        now.index = some index ∧
        (∀ id o, now.extracted? id = .ok (some o) ↔ o ∈ perFile.flatten ∧ o.id = id) ∧
        (∀ id k, now.chunk? id = .ok (some k) ↔ k ∈ index.chunks ∧ k.id = id) ∧
        (∀ id k, index.graph.get? id = some k ↔ k ∈ index.chunks ∧ k.id = id) ∧
        index.graph.chunks = index.chunks := by
  refine ⟨fun p q m n => chunkId_inj, fun perFile h =>
    e.chunker.nodup_id_chunkFiles hpaths h, ?_⟩
  intro budget figures h now
  obtain ⟨index, perFile, hbuild, hindex, hperFile, hextracted⟩ :=
    exists_index_of_build_eq_ok h
  have hgraph := Index.chunks_graph hpaths hbuild
  have hids := Index.nodup_id_chunks hpaths hbuild
  refine ⟨perFile, index, hperFile, hindex, fun id o => ?_, fun id k => ?_,
    fun id k => ?_, hgraph⟩
  · rw [extracted?_of_index hindex, Except.ok.injEq, ← hextracted]
    exact find?_key_eq_some_iff (Index.nodup_id_extracted hpaths hbuild)
  · rw [chunk?_of_index hindex, Except.ok.injEq]
    exact find?_key_eq_some_iff hids
  · exact Index.get?_graph_eq_some_iff hpaths hbuild

/-- After a build of two files with one unit each, each of the two identifiers leads to
its own chunk. -/
theorem sample_identifiers_identify_units :
    (sampleFiles.map IndexFile.path).Nodup ∧
      let now := (sampleEngine.build sampleCollaborators sampleFiles none).1
      ∃ index, now.index = some index ∧ index.chunks.map Chunk.id =
        ["README.md:1", "a.py:1"] ∧
        (∀ k ∈ index.chunks, now.chunk? k.id = .ok (some k) ∧
          index.graph.get? k.id = some k) ∧
        index.graph.chunks = index.chunks := by
  have hpaths : (sampleFiles.map IndexFile.path).Nodup := by decide
  obtain ⟨figures, hfigures⟩ := exists_sample_figures
  have hids : ((sampleEngine.build sampleCollaborators sampleFiles none).1.index.map
      fun index => index.chunks.map Chunk.id) =
        some ["README.md:1", "a.py:1"] := by decide +kernel
  obtain ⟨-, -, hbuilt⟩ :=
    identifiers_identify_units sampleEngine sampleCollaborators hpaths
  obtain ⟨-, index, -, hindex, -, hchunk, hgraph, hall⟩ := hbuilt none figures hfigures
  rw [hindex] at hids
  refine ⟨hpaths, index, hindex, Option.some.inj hids, fun k hk => ?_, hall⟩
  exact ⟨(hchunk k.id k).mpr ⟨hk, rfl⟩, (hgraph k.id k).mpr ⟨hk, rfl⟩⟩

/-- Every indexed chunk stands for the chunk in its place as it was cut, and what is
found under an identifier in the index stands for what is found under it as it was cut.
For a unit whose identifier no other unit has, that is a version of the unit: all fields
are the same but code, vector and size, and the code is the same unless it is
compressed. Among units with one identifier, if one of their chunks has a vector, this
chunk stands in the places of all of them. -/
theorem chunks_stand_for_extracted {figures : IndexStats}
    (h : (e.build c files budget).2.value = .ok figures) :
    let now := (e.build c files budget).1
    ∃ perFile chunks, (e.chunker.chunkFiles files).value = .ok perFile ∧
      now.chunks = .ok chunks ∧
      List.Forall₂ (Index.StandsFor perFile.flatten) perFile.flatten chunks ∧
      (∀ id, now.chunk? id = .ok none ∧ now.extracted? id = .ok none ∨
        ∃ k o, now.chunk? id = .ok (some k) ∧ now.extracted? id = .ok (some o) ∧
          o ∈ perFile.flatten ∧
          Index.StandsFor perFile.flatten o k) ∧
      (∀ o ∈ perFile.flatten, (∀ o' ∈ perFile.flatten, o'.id = o.id → o' = o) →
        ∀ k, Index.StandsFor perFile.flatten o k →
          k = { o with code := k.code, embedding := k.embedding, fullSize := k.fullSize } ∧
            (k.compressed = false → k.code = o.code)) ∧
      ∀ k ∈ chunks, k.embedding.isSome = true → ∀ k' ∈ chunks, k'.id = k.id → k' = k := by
  intro now
  obtain ⟨index, perFile, hbuild, hindex, hperFile, hextracted⟩ :=
    exists_index_of_build_eq_ok h
  have hplaces := Index.forall₂_standsFor hbuild
  rw [hextracted] at hplaces
  refine ⟨perFile, index.chunks, hperFile, chunks_of_index hindex, hplaces,
    fun id => ?_, ?_, ?_⟩
  · rw [chunk?_of_index hindex, extracted?_of_index hindex]
    rcases Index.standsFor_of_get? hbuild id with ⟨hk, ho⟩ | ⟨k, o, hk, ho, hstands⟩
    · exact .inl ⟨by rw [hk], by rw [ho]⟩
    · have hmem : o ∈ index.extracted := List.mem_of_find?_eq_some ho
      rw [hextracted] at hmem hstands
      exact .inr ⟨k, o, by rw [hk], by rw [ho], hmem, hstands⟩
  · intro o ho halone k hstands
    have hversion := hstands.isVersionOf halone
    exact ⟨hversion.eq_with, hversion.code_eq⟩
  · intro k hk hvector k' hk' hid
    exact Index.eq_of_id_eq_of_embedded hbuild hk hk' hid hvector

/-- The two chunks of a build of two files stand for the two that were cut. -/
theorem sample_chunks_stand_for_extracted :
    (∃ figures, (sampleEngine.build sampleCollaborators sampleFiles none).2.value =
      .ok figures) ∧
      ∃ perFile chunks, (sampleEngine.chunker.chunkFiles sampleFiles).value = .ok perFile ∧
        (sampleEngine.build sampleCollaborators sampleFiles none).1.chunks = .ok chunks ∧
        chunks.map Chunk.id = ["README.md:1", "a.py:1"] ∧
        List.Forall₂ (Index.StandsFor perFile.flatten) perFile.flatten chunks := by
  obtain ⟨figures, hfigures⟩ := exists_sample_figures
  have hids : (sampleEngine.build sampleCollaborators sampleFiles none).1.chunks.map
      (fun chunks => chunks.map Chunk.id)
      = .ok ["README.md:1", "a.py:1"] := by decide +kernel
  obtain ⟨perFile, chunks, hperFile, hchunks, hstands, -⟩ :=
    chunks_stand_for_extracted hfigures
  rw [hchunks] at hids
  exact ⟨⟨figures, hfigures⟩, perFile, chunks, hperFile, hchunks,
    Except.ok.inj hids, hstands⟩

/-- Two files with one path and a unit each: the embedded version of the second unit
takes the place of the first. -/
theorem repeated_path_replaces_unit :
    let files : List IndexFile := [⟨"notes.md", "# One two\n"⟩, ⟨"notes.md", "# Two one\n"⟩]
    let now := (sampleEngine.build sampleCollaborators files none).1
    (sampleEngine.chunker.chunkFiles files).value.toOption.map (fun perFile =>
      perFile.flatten.map Chunk.name) =
        some ["One two", "Two one"] ∧
      now.chunks.map (fun chunks => chunks.map Chunk.name) = .ok ["Two one", "Two one"] ∧
      (now.chunk? "notes.md:1").map (fun k => k.map Chunk.name) = .ok (some "Two one") ∧
      (now.extracted? "notes.md:1").map (fun o => o.map Chunk.name) =
        .ok (some "One two") := by
  decide +kernel

end Engine

end CodeRetrieval
