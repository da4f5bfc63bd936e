import CodeRetrieval.Proofs.Engine.History
import CodeRetrieval.Proofs.Engine.Search

/-!
# Where found chunks come from

Whatever an engine shows points at the lines of the file that it was cut from.
-/

namespace CodeRetrieval.Engine

/-- The chunk is listed, or stands in some ranking of some query. -/
inductive Shows (e : Engine) (k : Chunk) : Prop where
  | listed {chunks : List Chunk} (hchunks : e.chunks = .ok chunks) (hk : k ∈ chunks)
  | found {E T X : Type} (c : Collaborators E T X) (query : String) {b : Breakdown}
    (hb : (e.breakdown c query).value = .ok b) (hk : k ∈ b.chunks)

theorem Shows.mem_chunks {e : Engine} {k : Chunk} (h : e.Shows k) {index : Index}
    (hindex : e.index = some index) (hassembled : index.IsAssembled) :
    k ∈ index.chunks := by
  cases h with
  | listed hchunks hk =>
      rw [Engine.chunks, built, hindex] at hchunks
      obtain rfl := Except.ok.inj hchunks
      exact hk
  | found c query hb hk => exact mem_chunks_of_mem_breakdown hindex hassembled hb hk

/-- The chunk points at the exact lines of a file that it was taken from: under its
identifier stands the chunk as it was cut, which is the same unit and holds these lines.
Only compression has changed the code. -/
structure PointsAt (e : Engine) (k : Chunk) (f : IndexFile) : Prop where
  path_eq : k.path = f.path
  one_le_first : 1 ≤ k.span.first
  first_le_last : k.span.first ≤ k.span.last
  last_le : k.span.last ≤ (Text.lines f.content).length
  extracted : ∃ o, e.extracted? k.id = .ok (some o) ∧ o.path = k.path ∧
    o.span = k.span ∧ o.name = k.name ∧
    o.code = Text.unlines (((Text.lines f.content).take k.span.last).drop
      (k.span.first - 1)) ∧
    (k.code ≠ o.code → k.compressed = true)

variable {E T X : Type}

theorem pointsAt_of_mem_chunks {settings : Settings} {chunker : Chunker}
    {compressor : Option Compressor} {source : Embedding.Source E} {files : List IndexFile}
    {budget : Option Int} {index : Index} (hpaths : (files.map IndexFile.path).Nodup)
    (htrees : ∀ f ∈ files, chunker.TreesLieIn f.content)
    (h : (Index.build settings chunker compressor source files budget).value = .ok index)
    {k : Chunk} (hk : k ∈ index.chunks) :
    ∃ f ∈ files, (⟨settings, chunker, some index⟩ : Engine).PointsAt k f := by
  obtain ⟨o, ho, hmem, hversion⟩ := Index.exists_extracted?_eq hpaths h hk
  obtain ⟨perFile, _, _, hperFile, -, -, hassemble⟩ := Index.exists_phases h
  obtain ⟨-, -, hextracted, -⟩ := Index.assemble_eq_ok hassemble
  rw [hextracted] at hmem
  obtain ⟨f, hf, hcut, hends⟩ := Chunker.exists_file_of_mem hperFile hmem
  refine ⟨f, hf, ⟨hversion.path_eq.trans hcut.path_eq, k.span.one_le_first,
    k.span.first_le_last, ?_, o, ?_,
    hversion.path_eq.symm, hversion.span_eq.symm, hversion.name_eq.symm, ?_, ?_⟩⟩
  · rw [hversion.span_eq]
    exact hends (htrees f hf)
  · exact congrArg Except.ok ho
  · rw [hversion.span_eq]
    exact hcut.code_eq
  · intro hne
    by_contra hcompressed
    exact hne (hversion.code_eq (by simpa using hcompressed))

/-- Every unit that an engine shows after a build of files with different paths points
at the lines of one of these files, as long as no other build succeeds. -/
theorem shown_chunks_point_at_source {e : Engine} {c : Collaborators E T X}
    {files : List IndexFile} {budget : Option Int} {figures : IndexStats}
    (hpaths : (files.map IndexFile.path).Nodup)
    (htrees : ∀ f ∈ files, e.chunker.TreesLieIn f.content)
    (hbuild : (e.build c files budget).2.value = .ok figures) {later : List (Call E T X)}
    (hlater : (e.build c files budget).1.lastAccepted? later = none) :
    let now := (e.build c files budget).1.afterAll later
    ∀ k, now.Shows k → ∃ f ∈ files, now.PointsAt k f := by
  intro now k hk
  have hnow : now = (e.build c files budget).1 := by
    have hafter := ((e.build c files budget).1.afterAll_eq later).1
    rw [hlater] at hafter
    exact hafter
  cases h : (Index.build e.settings e.chunker c.compressor c.source files budget).value with
  | error error => cases hbuild.symm.trans (build_of_eq_error h).2
  | ok index =>
      rw [hnow, (build_of_eq_ok h).1] at hk ⊢
      have hassembled : index.IsAssembled := Index.isAssembled_of_build_eq_ok h
      exact pointsAt_of_mem_chunks hpaths htrees h (hk.mem_chunks rfl hassembled)

theorem sample_chunks_point_at_source :
    (sampleFiles.map IndexFile.path).Nodup ∧
      (∀ f ∈ sampleFiles, sampleEngine.chunker.TreesLieIn f.content) ∧
      (∃ figures, (sampleEngine.build sampleCollaborators sampleFiles none).2.value =
        .ok figures) ∧
      ∀ k, (sampleEngine.build sampleCollaborators sampleFiles none).1.Shows k →
        ∃ f ∈ sampleFiles, (sampleEngine.build sampleCollaborators sampleFiles
          none).1.PointsAt k f := by
  have hpaths : (sampleFiles.map IndexFile.path).Nodup := by decide
  have hinside : ∀ f ∈ sampleFiles, ∀ n ∈ sampleTree.preorder,
      n.start.row < (Text.lines f.content).length ∧
        n.stop.row < (Text.lines f.content).length := by decide
  have htrees : ∀ f ∈ sampleFiles, sampleEngine.chunker.TreesLieIn f.content := by
    intro f hf language root hroot
    obtain rfl := Option.some.inj hroot
    exact hinside f hf
  obtain ⟨figures, hfigures⟩ : ∃ figures, _ := exists_eq_ok (show
    (sampleEngine.build sampleCollaborators sampleFiles none).2.value.isOk =
      true by decide +kernel)
  have hlater : (sampleEngine.build sampleCollaborators sampleFiles none).1.lastAccepted?
      ([] : List (Call Empty Float Empty)) = none := rfl
  exact ⟨hpaths, htrees, ⟨figures, hfigures⟩,
    shown_chunks_point_at_source hpaths htrees hfigures hlater⟩

end CodeRetrieval.Engine
