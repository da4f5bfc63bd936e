import CodeRetrieval.Document.Manifest
import CodeRetrieval.Proofs.Data.Json
import CodeRetrieval.Proofs.Data.Writing

/-!
# Manifests that give no chunk

A manifest that reads as a table may list keywords and dependencies of any kind, and
their written forms are needed. The only values without one are those with a whole
number that is too long, and only TOML has such numbers.
-/

namespace CodeRetrieval.Document

def ListsUnwritable (table : List (String × Data)) (key : String) : Prop :=
  ∃ items, table.lookup key = some (.list items) ∧ ∃ d ∈ items, d.HoldsLongInteger

/-- Some table that may describe the package lists a value that cannot be written. -/
def DescribesUnwritable (root : List (String × Data)) : Prop :=
  ∃ table ∈ describingTables root, ListsUnwritable table "keywords" ∨
    ListsUnwritable table "dependencies"

/-! ## Fields of a table -/

theorem exists_mapM_written_eq_error {items : List Data} :
    (∃ e, items.mapM Data.written = .error e) ↔ ∃ d ∈ items, d.HoldsLongInteger := by
  simp only [exists_mapM_eq_error, Data.exists_written_eq_error]

theorem exists_requirementNames_eq_error {items : List Data} :
    (∃ e, requirementNames items = .error e) ↔ ∃ d ∈ items, d.HoldsLongInteger := by
  rw [requirementNames, exists_map_eq_error, exists_mapM_written_eq_error]

variable {table root : List (String × Data)} {path content : String}

theorem exists_listedKeywords_eq_error :
    (∃ e, listedKeywords table = .error e) ↔ ListsUnwritable table "keywords" := by
  rw [listedKeywords, exists_map_eq_error, exists_mapM_written_eq_error, ListsUnwritable]
  cases hlookup : table.lookup "keywords" with
  | none => simp
  | some d => cases d <;> simp [Data.asList?]

theorem exists_listedDependencies_eq_error :
    (∃ e, listedDependencies table = .error e) ↔ ListsUnwritable table "dependencies" := by
  rw [listedDependencies, ListsUnwritable]
  cases hlookup : table.lookup "dependencies" with
  | none => simp
  | some d =>
      cases d with
      | list items => simp [exists_requirementNames_eq_error]
      | _ => simp

theorem exists_describedFields_eq_error :
    (∃ e, describedFields root = .error e) ↔ DescribesUnwritable root := by
  rw [describedFields, exists_map_eq_error, exists_mapM_eq_error]
  simp only [exists_map₂_eq_error, exists_listedKeywords_eq_error,
    exists_listedDependencies_eq_error]
  rfl

/-! ## JSON -/

theorem mem_of_lookup_eq_some {key : String} {d : Data} (h : table.lookup key = some d) :
    (key, d) ∈ table := by
  obtain ⟨before, after, rfl, -⟩ := List.lookup_eq_some_iff.mp h
  simp

theorem holdsLongInteger_of_lookup {key : String} {d : Data} (h : table.lookup key = some d)
    (hlong : d.HoldsLongInteger) : (Data.table table).HoldsLongInteger :=
  .entry (mem_of_lookup_eq_some h) hlong

theorem asTable?_eq_some {d : Data} (h : d.asTable? = some table) : d = .table table := by
  cases d with
  | table entries => exact congrArg Data.table (Option.some.inj h)
  | _ => cases h

theorem holdsLongInteger_of_mem_describingTables (htable : table ∈ describingTables root)
    (hlong : (Data.table table).HoldsLongInteger) : (Data.table root).HoldsLongInteger := by
  simp only [describingTables, List.mem_append, List.mem_singleton, Option.mem_toList,
    Option.bind_eq_some_iff] at htable
  rcases htable with ((rfl | ⟨d, hd, htable⟩) | ⟨d, hd, htable⟩) | ⟨d,
    ⟨tool, ⟨below, hbelow, htool⟩, hd⟩, htable⟩
  · exact hlong
  · obtain rfl := asTable?_eq_some htable
    exact holdsLongInteger_of_lookup hd hlong
  · obtain rfl := asTable?_eq_some htable
    exact holdsLongInteger_of_lookup hd hlong
  · obtain rfl := asTable?_eq_some htable
    obtain rfl := asTable?_eq_some htool
    exact holdsLongInteger_of_lookup hbelow (holdsLongInteger_of_lookup hd hlong)

theorem DescribesUnwritable.holdsLongInteger (h : DescribesUnwritable root) :
    (Data.table root).HoldsLongInteger := by
  obtain ⟨table, htable, ⟨items, hitems, d, hd, hlong⟩ | ⟨items, hitems, d, hd, hlong⟩⟩ := h
  all_goals
    exact holdsLongInteger_of_mem_describingTables htable
      (holdsLongInteger_of_lookup hitems (.item hd hlong))

/-! ## Manifests -/

def tomlManifests : List String :=
  ["Cargo.toml", "pyproject.toml"]

theorem endsWith_toml_iff {name : String} (h : name ∈ manifestNames) :
    endsWith name ".json" = false ∧ endsWith name ".toml" = true ↔
      name ∈ tomlManifests := by
  have hall : ∀ name ∈ manifestNames,
      endsWith name ".json" = false ∧ endsWith name ".toml" = true ↔
        name ∈ tomlManifests := by decide +kernel
  exact hall name h

theorem isManifest_iff : isManifest path ↔ manifestName path ∈ manifestNames := by
  rw [isManifest, List.contains_iff_mem]
  rfl

theorem isMarkdown_of_isManifest (h : isManifest path = true) :
    isMarkdown path = false := by
  have hall : ∀ name ∈ manifestNames, ((cutAtLastPoint? name.toList).any fun cut =>
      markdownExtensions.contains (String.ofList (Text.lower cut.2))) =
        false := by decide +kernel
  have hname := hall (manifestName path) (isManifest_iff.mp h)
  rw [manifestName, String.toList_ofList] at hname
  exact hname

theorem exists_manifestChunk_eq_error :
    (∃ e, manifestChunk path content = .error e) ↔
      ∃ root, manifestTable? path content = some root ∧ DescribesUnwritable root := by
  rw [manifestChunk]
  cases h : manifestTable? path content with
  | none => simp [bind, Except.bind, pure, Except.pure]
  | some root =>
      simp only [Option.some.injEq, exists_eq_left']
      rw [exists_map_eq_error, exists_describedFields_eq_error]

/-- A table that is read from JSON lists no value that cannot be written. -/
theorem exists_manifestTable_iff :
    (∃ root, manifestTable? path content = some root ∧ DescribesUnwritable root) ↔
      (endsWith (manifestName path) ".json" = false ∧
        endsWith (manifestName path) ".toml" = true) ∧
        ∃ root, Data.Toml.read? content.toList = some root ∧ DescribesUnwritable root := by
  simp only [manifestTable?]
  cases hjson : endsWith (manifestName path) ".json" with
  | true =>
      refine iff_of_false ?_ (by simp)
      rintro ⟨root, hroot, hlong⟩
      simp only [if_true] at hroot
      split at hroot
      · rename_i d hd
        obtain rfl := asTable?_eq_some hroot
        exact Data.Json.not_holdsLongInteger_of_read hd hlong.holdsLongInteger
      · cases hroot
  | false => cases htoml : endsWith (manifestName path) ".toml" <;> simp

/-- Of all texts that are no code, only a TOML manifest can give no chunks, namely when
it lists a value that cannot be written where its keywords or dependencies are looked
for. -/
theorem exists_documentChunks_eq_error :
    (∃ e, documentChunks path content = .error e) ↔
      manifestName path ∈ tomlManifests ∧
        ∃ root, Data.Toml.read? content.toList = some root ∧ DescribesUnwritable root := by
  have hnames : ∀ name ∈ tomlManifests, name ∈ manifestNames := by decide
  by_cases h : isManifest path = true
  · have hname := isManifest_iff.mp h
    have hmarkdown := isMarkdown_of_isManifest h
    rw [documentChunks, isReadme, hmarkdown, Bool.false_and, if_neg Bool.false_ne_true,
      if_neg Bool.false_ne_true, if_pos h, exists_map_eq_error,
      exists_manifestChunk_eq_error, exists_manifestTable_iff, endsWith_toml_iff hname]
  · refine iff_of_false ?_ fun ⟨hname, _⟩ => h (isManifest_iff.mpr (hnames _ hname))
    rw [documentChunks, if_neg h]
    split
    · simp
    · split
      · simp
      · simp

end CodeRetrieval.Document
