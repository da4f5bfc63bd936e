import CodeRetrieval.Proofs.Data.Toml
import CodeRetrieval.Proofs.Document.Manifest
import CodeRetrieval.Proofs.Engine.History

/-!
# Files that stop a build

Cutting a file into chunks fails for no code and no prose, whatever it holds, but it
fails for a TOML manifest that lists a whole number which is too long to be written.
Such a file also stops all files that are cut with it, and the build.
-/

namespace CodeRetrieval

variable {c : Chunker} {path content : String}

/-! ## Where cutting fails -/

theorem Chunker.exists_chunkFile_eq_error :
    (∃ e, (c.chunkFile path content).value = .error e) ↔
      Document.manifestName path ∈ Document.tomlManifests ∧
        ∃ root, Data.Toml.read? content.toList = some root ∧
          Document.DescribesUnwritable root := by
  rw [← Document.exists_documentChunks_eq_error, chunkFile]
  split
  · rfl
  · rename_i hdocument
    -- no document, so the rules for documents give nothing, and trees and walks that
    -- fail give a notice
    have hmarkdown : Document.isMarkdown path = false := by
      simp_all [Document.isDocument]
    have hmanifest : Document.isManifest path = false := by
      simp_all [Document.isDocument]
    refine iff_of_false ?_ ?_
    · split
      · simp
      · simp
    · simp [Document.documentChunks, Document.isReadme, hmarkdown, hmanifest]

theorem Chunker.exists_chunkFiles_eq_error {files : List IndexFile} :
    (∃ e, (c.chunkFiles files).value = .error e) ↔
      ∃ f ∈ files, ∃ e, (c.chunkFile f.path f.content).value = .error e := by
  rw [chunkFiles, Noted.value_map, Noted.value_sequence, List.map_map, exists_mapM_eq_error]
  simp

theorem Index.value_build_eq_tooManyDigits {E : Type} {settings : Settings}
    {compressor : Option Compressor} {source : Embedding.Source E} {files : List IndexFile}
    {budget : Option Int} :
    (build settings c compressor source files budget).value =
      .error (.failed .tooManyDigits) ↔
      ∃ e, (c.chunkFiles files).value = .error e := by
  rw [value_build, bind_eq_error]
  constructor
  · rintro (h | ⟨perFile, -, h⟩)
    · obtain ⟨e, he, -⟩ := mapError_eq_error.mp h
      exact ⟨e, he⟩
    · -- the later phases blame other things
      rw [value_ofChunks] at h
      rcases bind_eq_error.mp h with h | ⟨chunks, -, h⟩
      · obtain ⟨reason, -, h⟩ := mapError_eq_error.mp h
        cases h
      · rcases bind_eq_error.mp h with h | ⟨embedded, -, h⟩
        · obtain ⟨fault, -, h⟩ := mapError_eq_error.mp h
          cases fault <;> cases h
        · obtain ⟨dimensions, -, h⟩ := mapError_eq_error.mp h
          cases h
  · rintro ⟨e, he⟩
    exact .inl (mapError_eq_error.mpr ⟨e, he, rfl⟩)

/-! ## One file and all of them -/

/-- A file gives chunks, or none, whatever its path and content are, with one exception:
a TOML manifest that reads, and that lists a value with a whole number of more digits
than can be written among its keywords or dependencies. One such file among others stops
cutting them all, and the build blames it. -/
theorem Chunker.chunkFile_fails_only_for_unwritable (c : Chunker) :
    (∀ path content, (∃ e, (c.chunkFile path content).value = .error e) ↔
      Document.manifestName path ∈ Document.tomlManifests ∧
        ∃ root, Data.Toml.read? content.toList = some root ∧
          Document.DescribesUnwritable root) ∧
    (∀ files, (∃ e, (c.chunkFiles files).value = .error e) ↔
      ∃ f ∈ files, ∃ e, (c.chunkFile f.path f.content).value = .error e) ∧
    ∀ (E : Type) (settings : Settings) (compressor : Option Compressor)
      (source : Embedding.Source E)
      (files : List IndexFile) (budget : Option Int),
      (Index.build settings c compressor source files budget).value =
        .error (.failed .tooManyDigits) ↔
        ∃ f ∈ files, ∃ e, (c.chunkFile f.path f.content).value = .error e :=
  ⟨fun _ _ => exists_chunkFile_eq_error,
   fun _ => exists_chunkFiles_eq_error, fun _ _ _ _ _ _ =>
    Index.value_build_eq_tooManyDigits.trans exists_chunkFiles_eq_error⟩

/-! ## A number with 3600 hexadecimal digits -/

/-- Where 43 decimal digits are not enough for 36 hexadecimal ones, `43 * k` are not
enough for `36 * k`. -/
theorem Data.Toml.holdsLongInteger_hexValue {k : ℕ} (hk : 100 ≤ k) :
    (hexValue (List.replicate (36 * k) 'f')).HoldsLongInteger := by
  have hdigits : (List.replicate (36 * k) 'f').filterMap Text.hexDigit? =
      List.replicate (36 * k) 15 :=
    List.filterMap_replicate_of_some rfl
  have hvalue : Text.valueOf 16 (List.replicate (36 * k) 15) + 1 = 16 ^ (36 * k) :=
    Text.valueOf_replicate 15 (36 * k)
  have hwidth : Decimal.maxIntegerDigits ≤ 43 * k := by
    rw [Decimal.maxIntegerDigits]
    omega
  have hlimit : ∀ width ≤ 43 * k, Nat.pow 10 width < 16 ^ (36 * k) := fun width hle =>
    calc Nat.pow 10 width
        ≤ 10 ^ (43 * k) := Nat.pow_le_pow_right (by decide) hle
      _ = (10 ^ 43) ^ k := Nat.pow_mul 10 43 k
      _ < (16 ^ 36) ^ k := Nat.pow_lt_pow_left (by decide) (by omega)
      _ = 16 ^ (36 * k) := (Nat.pow_mul 16 36 k).symm
  rw [hexValue, hdigits, holdsLongInteger_int, Int.natAbs_natCast]
  exact Nat.le_of_lt_succ ((hlimit _ hwidth).trans_eq hvalue.symm)

/-- A manifest whose only keyword is such a number. -/
def longManifest : String :=
  String.ofList (Data.Toml.hexDocument (List.replicate (36 * 100) 'f'))

/-- The manifest gives no chunks and stops the build of it together with a file that is
well. -/
theorem longManifest_stops_build :
    (∃ e, (Engine.sampleEngine.chunker.chunkFile "pyproject.toml" longManifest).value =
      .error e) ∧
      (Index.build .defaults Engine.sampleEngine.chunker none
        Engine.sampleCollaborators.source
        [⟨"a.py", "def f(): pass\n"⟩, ⟨"pyproject.toml", longManifest⟩] none).value
        = .error (.failed .tooManyDigits) := by
  have hread : Data.Toml.read? longManifest.toList =
      some [("keywords", .list
        [Data.Toml.hexValue (List.replicate (36 * 100) 'f')])] := by
    rw [longManifest, String.toList_ofList]
    refine Data.Toml.read?_hexDocument (List.ne_nil_of_length_pos ?_) fun d hd => ?_
    · rw [List.length_replicate]
      decide
    · rw [List.eq_of_mem_replicate hd]
      rfl
  have hlong : Document.DescribesUnwritable
      [("keywords", .list [Data.Toml.hexValue (List.replicate (36 * 100) 'f')])] :=
    ⟨_, List.mem_cons_self,
     .inl ⟨_, rfl, _, List.mem_cons_self, Data.Toml.holdsLongInteger_hexValue le_rfl⟩⟩
  have hfails :
      ∃ e, (Engine.sampleEngine.chunker.chunkFile "pyproject.toml" longManifest).value =
      .error e :=
    Chunker.exists_chunkFile_eq_error.mpr ⟨by decide, _, hread, hlong⟩
  refine ⟨hfails, Index.value_build_eq_tooManyDigits.mpr
    (Chunker.exists_chunkFiles_eq_error.mpr ?_)⟩
  exact ⟨_, List.mem_cons_of_mem _ List.mem_cons_self, hfails⟩

end CodeRetrieval
