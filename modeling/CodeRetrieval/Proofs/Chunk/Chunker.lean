import CodeRetrieval.Proofs.Chunk.Extraction
import CodeRetrieval.Proofs.Document.Sections

/-!
# The chunks of a file

However a file is cut, each of its chunks holds its own lines of the file, and no two
chunks start on one line. So the chunks of files with different paths have different
identifiers.
-/

namespace CodeRetrieval

open Syntax

/-- All nodes of the tree start and stop on rows of the text. -/
def Syntax.Tree.LiesIn (t : Tree) (content : String) : Prop :=
  ∀ n ∈ t.preorder, n.start.row < (Text.lines content).length ∧
    n.stop.row < (Text.lines content).length

/-- The chunks were cut from one file and start on different lines. -/
structure AreCutFrom (chunks : List Chunk) (path content : String) : Prop where
  isCutFrom : ∀ c ∈ chunks, c.IsCutFrom path content
  nodup_first : (chunks.map fun c => c.span.first).Nodup

namespace AreCutFrom

theorem nil {path content : String} : AreCutFrom [] path content :=
  ⟨by simp, List.nodup_nil⟩

theorem singleton {c : Chunk} {path content : String} (h : c.IsCutFrom path content) :
    AreCutFrom [c] path content :=
  ⟨by simpa using h, List.nodup_singleton _⟩

theorem nodup_id {chunks : List Chunk} {path content : String}
    (h : AreCutFrom chunks path content) :
    (chunks.map Chunk.id).Nodup := by
  have hid : chunks.map Chunk.id = (chunks.map fun c => c.span.first).map fun n : Nat =>
      chunkId path n := by
    rw [List.map_map]
    exact List.map_congr_left fun c hc => (h.isCutFrom c hc).id_eq
  rw [hid]
  refine h.nodup_first.map fun m n hmn => ?_
  exact Int.ofNat_inj.mp (chunkId_inj.mp hmn).2

end AreCutFrom

/-! ## Documents -/

namespace Document

theorem isCutFrom_readmeChunk (path content : String) :
    (readmeChunk path content).IsCutFrom path content :=
  ⟨rfl, rfl, (LineSpan.textIn_ofCount content (one_le_length_lines content)).symm, rfl, rfl⟩

theorem Section.isCutFrom_chunk {path content : String} {s : Section}
    (h : s.IsIn (Text.lines content)) :
    (s.chunk path).IsCutFrom path content :=
  ⟨rfl, rfl, congrArg Text.unlines h.lines_eq, rfl, rfl⟩

theorem areCutFrom_markdownChunks (path content : String) :
    AreCutFrom (markdownChunks path content) path content := by
  constructor
  · intro c hc
    obtain ⟨s, hs, rfl⟩ := List.mem_map.mp hc
    exact Section.isCutFrom_chunk (isIn_of_mem_sections hs)
  · rw [markdownChunks, List.map_map]
    have hrows :=
      (pairwise_sections path content).map (fun s => s.firstRow + 1) (S := (· < ·))
        fun s t h => by omega
    exact hrows.imp Nat.ne_of_lt

theorem manifestChunk_eq_ok {path content : String} {c : Chunk}
    (h : manifestChunk path content = .ok c) :
    c.IsCutFrom path content ∧ c.EndsIn content := by
  have hcode := (LineSpan.textIn_ofCount content (one_le_length_lines content)).symm
  rw [manifestChunk] at h
  split at h
  all_goals
    obtain ⟨fields, -, h⟩ := bind_eq_ok.mp h
    obtain rfl := Except.ok.inj h
    exact ⟨⟨rfl, rfl, hcode, rfl, rfl⟩, Nat.le_refl _⟩

theorem areCutFrom_documentChunks {path content : String} {chunks : List Chunk}
    (h : documentChunks path content = .ok chunks) :
    AreCutFrom chunks path content ∧ ∀ c ∈ chunks, c.EndsIn content := by
  rw [documentChunks] at h
  split at h
  · cases h
    refine ⟨.singleton (isCutFrom_readmeChunk path content), ?_⟩
    intro c hc
    obtain rfl := List.mem_singleton.mp hc
    exact Nat.le_refl (Text.lines content).length
  · split at h
    · cases h
      refine ⟨areCutFrom_markdownChunks path content, ?_⟩
      intro c hc
      obtain ⟨s, hs, rfl⟩ := List.mem_map.mp hc
      exact (isIn_of_mem_sections hs).ends_inside
    · split at h
      · obtain ⟨c, hc, h⟩ := bind_eq_ok.mp h
        cases h
        obtain ⟨hcut, hends⟩ := manifestChunk_eq_ok hc
        exact ⟨.singleton hcut, by simpa using hends⟩
      · cases h
        exact ⟨.nil, by simp⟩

end Document

/-! ## Code -/

namespace SourceFile

theorem areCutFrom_extract {path content : String} {language : Language} {root : Tree}
    {chunks : List Chunk} (h : extract ⟨path, language, .ofString content⟩ root =
    .ok chunks) : AreCutFrom chunks path content := by
  have hunits := forall₂_of_extract_eq_ok h
  constructor
  · intro c hc
    obtain ⟨p, -, hunit⟩ := exists_of_mem_right hunits hc
    exact hunit.isCutFrom
  · -- the chunks start on the rows of the units, of which there is one for each row
    have hrows : (firstByKey Place.startRow (root.units language)).map
        (fun p => p.startRow + 1)
        = chunks.map fun c => c.span.first :=
      map_eq_of_forall₂ hunits fun p c hunit => hunit.first_eq.symm
    have hdistinct :=
      (nodup_map_firstByKey Place.startRow (root.units language)).map fun m n =>
        Nat.succ.inj
    rwa [List.map_map, Function.comp_def, hrows] at hdistinct

theorem endsIn_of_extract {path content : String} {language : Language} {root : Tree}
    {chunks : List Chunk} (h : extract ⟨path, language, .ofString content⟩ root =
    .ok chunks) (hroot : root.LiesIn content) :
    ∀ c ∈ chunks, c.EndsIn content := by
  intro c hc
  obtain ⟨p, hp, hunit⟩ := exists_of_mem_right (forall₂_of_extract_eq_ok h) hc
  have hnode : p.node ∈ root.preorder := by
    rw [← Tree.map_node_places none]
    exact List.mem_map_of_mem (List.mem_of_mem_filter (mem_of_mem_firstByKey hp))
  have hstop := (hroot p.node hnode).2
  have hend : p.endRow ≤ p.node.stop.row := by
    rw [Place.endRow]
    split <;> omega
  rw [Chunk.EndsIn, hunit.last_eq]
  omega

end SourceFile

/-! ## Any file -/

namespace Chunker

/-- Whatever tree the chunker makes of a text lies inside the text. -/
def TreesLieIn (c : Chunker) (content : String) : Prop :=
  ∀ language root, c.parse language content = some root → root.LiesIn content

/-- However a file is cut, its chunks hold their lines of the file. They end inside the
file if its tree does. -/
theorem areCutFrom_chunkFile {c : Chunker} {path content : String} {chunks : List Chunk}
    (h : (c.chunkFile path content).value = .ok chunks) :
    AreCutFrom chunks path content ∧
      (c.TreesLieIn content → ∀ k ∈ chunks, k.EndsIn content) := by
  rw [chunkFile] at h
  split at h
  · obtain ⟨hcut, hends⟩ := Document.areCutFrom_documentChunks h
    exact ⟨hcut, fun _ => hends⟩
  · split at h
    · cases h
      exact ⟨.nil, by simp⟩
    · rename_i language _
      rw [Noted.value_map, codeChunks] at h
      split at h
      · cases h
        exact ⟨.nil, by simp⟩
      · rename_i root hparse
        split at h
        · rename_i extracted hextract
          cases h
          exact ⟨SourceFile.areCutFrom_extract hextract,
            fun htrees =>
              SourceFile.endsIn_of_extract hextract (htrees language root hparse)⟩
        · cases h
          exact ⟨.nil, by simp⟩

theorem chunkFiles_eq_ok {c : Chunker} {files : List IndexFile}
    {perFile : List (List Chunk)} :
    (c.chunkFiles files).value = .ok perFile ↔
      List.Forall₂ (fun f chunks => (c.chunkFile f.path f.content).value =
        .ok chunks) files perFile := by
  rw [chunkFiles, Noted.value_map, Noted.value_sequence, List.map_map, mapM_eq_ok,
    List.forall₂_map_left_iff]
  rfl

theorem exists_file_of_mem {c : Chunker} {files : List IndexFile}
    {perFile : List (List Chunk)} (h : (c.chunkFiles files).value = .ok perFile) {k : Chunk}
    (hk : k ∈ perFile.flatten) :
    ∃ f ∈ files, k.IsCutFrom f.path f.content ∧
      (c.TreesLieIn f.content → k.EndsIn f.content) := by
  obtain ⟨chunks, hchunks, hk⟩ := List.mem_flatten.mp hk
  obtain ⟨f, hf, hfile⟩ := exists_of_mem_right (chunkFiles_eq_ok.mp h) hchunks
  obtain ⟨hcut, hends⟩ := areCutFrom_chunkFile hfile
  exact ⟨f, hf, hcut.isCutFrom k hk, fun htrees => hends htrees k hk⟩

/-- The chunks of files with different paths have different identifiers. -/
theorem nodup_id_chunkFiles {c : Chunker} {files : List IndexFile}
    {perFile : List (List Chunk)} (hpaths : (files.map IndexFile.path).Nodup)
    (h : (c.chunkFiles files).value = .ok perFile) :
    (perFile.flatten.map Chunk.id).Nodup := by
  have hfiles := chunkFiles_eq_ok.mp h
  clear h
  induction hfiles with
  | nil => exact List.nodup_nil
  | cons hfile hfiles ih =>
      rename_i f chunks files perFile
      obtain ⟨hpath, hpaths⟩ := List.nodup_cons.mp hpaths
      obtain ⟨hcut, -⟩ := areCutFrom_chunkFile hfile
      rw [List.flatten_cons, List.map_append]
      refine hcut.nodup_id.append (ih hpaths) ?_
      -- an identifier of this file and of a later one would tell that their paths are
      -- the same
      intro id hid hid'
      obtain ⟨k, hk, rfl⟩ := List.mem_map.mp hid
      obtain ⟨k', hk', hsame⟩ := List.mem_map.mp hid'
      obtain ⟨g, hg, hcut', -⟩ := exists_file_of_mem (chunkFiles_eq_ok.mpr hfiles) hk'
      obtain ⟨hpath', -⟩ := hcut'.of_id_eq (hcut.isCutFrom k hk) hsame
      exact hpath (List.mem_map.mpr ⟨g, hg, hpath'⟩)

end Chunker

end CodeRetrieval
