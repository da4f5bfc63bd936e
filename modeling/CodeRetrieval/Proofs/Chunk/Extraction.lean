import CodeRetrieval.Chunk.Chunker
import CodeRetrieval.Proofs.Chunk.Origin
import CodeRetrieval.Proofs.Data.Distinct
import CodeRetrieval.Proofs.Data.Results
import CodeRetrieval.Proofs.Syntax.Walk

/-!
# The chunks of a tree

Of the nodes that define units, each one that is the first on its row makes a chunk of
the lines from its row to its last row. If one of these spans is no span of the file the
whole file gives nothing. The spans of the other nodes do not matter.
-/

namespace CodeRetrieval

open Syntax

namespace Syntax.Place

/-- The unit ends before it starts, or starts more than one row below the last of
`count` lines. -/
def IsMisplaced (count : Nat) (p : Place) : Prop :=
  p.endRow < p.startRow ∨ count < p.startRow

instance (count : Nat) (p : Place) : Decidable (p.IsMisplaced count) :=
  inferInstanceAs (Decidable (_ ∨ _))

end Syntax.Place

def Syntax.Tree.units (language : Language) (root : Tree) : List Place :=
  (root.places none).filter (Place.isMapped language)

namespace SourceFile

/-! ## The chunk of one unit -/

/-- The chunk holds the lines of a unit of the file. -/
structure IsUnit (f : SourceFile) (p : Place) (c : Chunk) : Prop where
  path_eq : c.path = f.path
  id_eq : c.id = chunkId f.path c.span.first
  first_eq : c.span.first = p.startRow + 1
  last_eq : c.span.last = p.endRow + 1
  code_eq : c.code = Text.unlines
    ((f.source.lines.take c.span.last).drop (c.span.first - 1))
  not_embedded : c.embedding = none
  not_compressed : c.fullSize = none

/-- The comment above a row is looked for unless the row is more than one below the last. -/
theorem above?_eq_none {lines : List String} {row : Nat} :
    DocComment.above? lines row DocComment.defaultLookback = none ↔ lines.length < row := by
  have hlookback : ¬ DocComment.defaultLookback ≤ 0 := by decide
  by_cases hrow : (row : Int) ≤ 0
  · rw [DocComment.above?, if_pos (.inl hrow)]
    simp only [reduceCtorEq, false_iff]
    omega
  · rw [DocComment.above?, if_neg (by omega)]
    by_cases hlast : (lines.length : Int) < row
    · rw [if_pos hlast]
      simpa using hlast
    · rw [if_neg hlast]
      simp only
      split <;> simp <;> omega

theorem ofInts_eq_ok {first last : Int} {s : LineSpan} :
    LineSpan.ofInts first last = .ok s ↔ (s.first : Int) = first ∧
      (s.last : Int) = last := by
  obtain ⟨a, b, ha, hab⟩ := s
  unfold LineSpan.ofInts
  split
  · split
    · simp only [Except.ok.injEq, LineSpan.mk.injEq]
      omega
    · simp only [reduceCtorEq, false_iff]
      omega
  · simp only [reduceCtorEq, false_iff]
    omega

theorem chunkOf_isUnit {f : SourceFile} {d : Definition} {c : Chunk}
    (h : f.chunkOf d = .ok c) :
    f.IsUnit d.place c := by
  simp only [chunkOf] at h
  split at h
  · obtain ⟨span, hspan, h⟩ := bind_eq_ok.mp h
    obtain ⟨hfirst, hlast⟩ := ofInts_eq_ok.mp (mapError_eq_ok.mp hspan)
    have hfirst : span.first = d.place.startRow + 1 := by exact_mod_cast hfirst
    have hlast : span.last = d.place.endRow + 1 := by exact_mod_cast hlast
    cases h
    refine ⟨rfl, ?_, hfirst, ?_, ?_, rfl, rfl⟩
    · simp [hfirst]
    · rw [hlast]
    · simp [hfirst, hlast]
  · cases h

/-- A unit makes a chunk exactly if it is not misplaced. -/
theorem exists_chunkOf_eq_error {f : SourceFile} {d : Definition} :
    (∃ e, f.chunkOf d = .error e) ↔ d.place.IsMisplaced f.source.lines.length := by
  have hspan : (∃ s, LineSpan.ofInts (d.place.startRow + 1) (d.place.endRow + 1) = .ok s) ↔
      ¬ d.place.endRow < d.place.startRow := by
    simp only [ofInts_eq_ok]
    constructor
    · rintro ⟨s, hfirst, hlast⟩
      have := s.first_le_last
      omega
    · intro h
      exact ⟨⟨d.place.startRow + 1, d.place.endRow + 1, by omega, by omega⟩, by simp⟩
  rw [Place.IsMisplaced, ← above?_eq_none]
  simp only [chunkOf]
  cases habove : DocComment.above? f.source.lines (d.place.startRow)
    DocComment.defaultLookback with
  | none => simp
  | some docComment =>
      cases h : LineSpan.ofInts (d.place.startRow + 1) (d.place.endRow + 1) with
      | ok s =>
          have : ¬ d.place.endRow < d.place.startRow := hspan.mp ⟨s, h⟩
          simp [Except.mapError, bind, Except.bind, pure, Except.pure, this]
      | error e =>
          have : d.place.endRow < d.place.startRow := by
            by_contra hle
            obtain ⟨s, hs⟩ := hspan.mpr hle
            cases h.symm.trans hs
          simp [Except.mapError, bind, Except.bind, this]

/-! ## The chunks of all units -/

/-- Of the units that start on one row the first is cut. -/
theorem chunksOf_eq (f : SourceFile) (taken : List Nat) (ds : List Definition) :
    f.chunksOf taken ds
      = (firstByKey (Place.startRow ∘ Definition.place) (ds.filter fun d =>
        !taken.contains d.place.startRow)).mapM f.chunkOf := by
  induction ds generalizing taken with
  | nil => rfl
  | cons d ds ih =>
      rw [chunksOf]
      by_cases h : taken.contains d.place.startRow = true
      · rw [if_pos h, ih, List.filter_cons_of_neg (by simpa using h)]
      · rw [if_neg h, ih, List.filter_cons_of_pos (by simpa using h), firstByKey_cons,
          List.mapM_cons, List.filter_filter]
        -- the row of `d` is taken from now on
        have hfilter : (ds.filter fun e =>
            !(d.place.startRow :: taken).contains e.place.startRow)
            = ds.filter fun e => (e.place.startRow != d.place.startRow) &&
              !taken.contains e.place.startRow :=
          List.filter_congr fun e _ => by rw [List.contains_cons, Bool.not_or]; rfl
        rw [hfilter]
        rfl

theorem extract_eq (f : SourceFile) (root : Tree) :
    f.extract root
      = (firstByKey (Place.startRow ∘ Definition.place)
        (definitionsIn f.language f.source .empty none root)).mapM f.chunkOf := by
  rw [extract, definitions?_eq]
  simp only [chunksOf_eq]
  rw [List.filter_eq_self.mpr (by simp)]

theorem firstByKey_units {language : Language} (source : Source) (root : Tree) :
    firstByKey Place.startRow (root.units language)
      = (firstByKey (Place.startRow ∘ Definition.place)
        (definitionsIn language source .empty none root)).map Definition.place := by
  have hunits : (definitionsIn language source .empty none root).map Definition.place =
      root.units language :=
    map_place_definitionsIn .empty none root
  rw [← hunits, ← map_firstByKey]

/-- Cutting a tree fails exactly if a unit that is the first on its row is misplaced. -/
theorem exists_extract_eq_error {f : SourceFile} {root : Tree} :
    (∃ e, f.extract root = .error e) ↔
      ∃ p, IsFirstOfKey Place.startRow (root.units f.language) p ∧
        p.IsMisplaced f.source.lines.length := by
  rw [extract_eq, exists_mapM_eq_error]
  simp only [exists_chunkOf_eq_error, ← mem_firstByKey,
    firstByKey_units f.source, List.mem_map]
  constructor
  · rintro ⟨d, hd, hmisplaced⟩
    exact ⟨d.place, ⟨d, hd, rfl⟩, hmisplaced⟩
  · rintro ⟨-, ⟨d, hd, rfl⟩, hmisplaced⟩
    exact ⟨d, hd, hmisplaced⟩

theorem forall₂_of_extract_eq_ok {f : SourceFile} {root : Tree} {chunks : List Chunk}
    (h : f.extract root = .ok chunks) :
    List.Forall₂ f.IsUnit (firstByKey Place.startRow (root.units f.language)) chunks := by
  rw [extract_eq] at h
  rw [firstByKey_units f.source, List.forall₂_map_left_iff]
  exact (mapM_eq_ok.mp h).imp fun _ _ => chunkOf_isUnit

theorem IsUnit.isCutFrom {path content : String} {language : Language} {p : Place}
    {c : Chunk} (h : IsUnit ⟨path, language, .ofString content⟩ p c) :
    c.IsCutFrom path content :=
  ⟨h.path_eq, h.id_eq, h.code_eq, h.not_embedded, h.not_compressed⟩

end SourceFile

namespace Chunker

open SourceFile

/-- The chunker cuts the file along the tree of a language. -/
structure TakesAsCode (c : Chunker) (path : String) (language : Language) : Prop where
  not_document : Document.isDocument path = false
  selected : (Language.ofPath? path).filter c.languages.contains = some language

theorem chunkFile_of_takesAsCode {c : Chunker} {path : String} {language : Language}
    (h : c.TakesAsCode path language) (content : String) :
    c.chunkFile path content = (c.codeChunks language path content).map .ok := by
  rw [chunkFile, if_neg (by simp [h.not_document]), h.selected]

/-- Cutting a code file is exact or nothing. Every chunk holds its lines of the file.
There is a failure exactly if a unit that is the first on its row is misplaced, and then
there are no chunks. Otherwise each unit that is the first on its row makes one chunk of
its rows. -/
theorem chunkFile_exact_or_nil {c : Chunker} {path content : String} {language : Language}
    {root : Tree} (htaken : c.TakesAsCode path language)
    (hparse : c.parse language content = some root) :
    let result := c.chunkFile path content
    let failed := result.notices = [.extractionFailed path language.name]
    ∃ chunks, result.value = .ok chunks ∧
      (∀ k ∈ chunks, 1 ≤ k.span.first ∧ k.span.first ≤ k.span.last ∧
        k.id = chunkId path k.span.first ∧
        k.code = k.span.textIn content) ∧
      (failed ↔ ∃ p, IsFirstOfKey Place.startRow (root.units language) p ∧
        p.IsMisplaced (Text.lines content).length) ∧
      (failed → chunks = []) ∧
      (¬ failed → result.notices = [] ∧
        List.Forall₂ (fun p k => k.span.first = p.startRow + 1 ∧ k.span.last = p.endRow + 1)
          (firstByKey Place.startRow (root.units language)) chunks) := by
  intro result failed
  let f : SourceFile := ⟨path, language, .ofString content⟩
  have hresult : result = (c.codeChunks language path content).map .ok :=
    chunkFile_of_takesAsCode htaken content
  have hfails : (∃ e, f.extract root = .error e) ↔ _ := exists_extract_eq_error
  rw [codeChunks, hparse] at hresult
  cases h : f.extract root with
  | error e =>
      have hnone : result = ⟨.ok [], [.extractionFailed path language.name]⟩ := by
        rw [hresult]
        simp only [f] at h
        simp [h, Noted.map]
      have hfailed : failed := by simp [failed, hnone]
      refine ⟨[], by simp [hnone], by simp, ?_, fun _ => rfl, fun hnot =>
        absurd hfailed hnot⟩
      exact iff_of_true hfailed (hfails.mp ⟨e, h⟩)
  | ok chunks =>
      have hsome : result = ⟨.ok chunks, []⟩ := by
        rw [hresult]
        simp only [f] at h
        simp [h, Noted.map, Noted.silent]
      have hnot : ¬ failed := by simp [failed, hsome]
      have hunits := forall₂_of_extract_eq_ok h
      refine ⟨chunks, by simp [hsome], ?_, ?_, fun hf => absurd hf hnot,
        fun _ => ⟨by simp [hsome], ?_⟩⟩
      · intro k hk
        obtain ⟨p, -, hunit⟩ := exists_of_mem_right hunits hk
        have hcut : k.IsCutFrom path content := IsUnit.isCutFrom hunit
        exact ⟨k.span.one_le_first, k.span.first_le_last, hcut.id_eq, hcut.code_eq⟩
      · refine iff_of_false hnot fun hbad => ?_
        obtain ⟨e, he⟩ := hfails.mpr hbad
        cases h.symm.trans he
      · exact hunits.imp fun p k hunit => ⟨hunit.first_eq, hunit.last_eq⟩

/-- The second unit is misplaced on a row that is taken, the third ends before it starts. -/
def crookedTree : Tree :=
  ⟨"module", ⟨0, 0⟩, ⟨1, 0⟩, none,
    [⟨"function_definition", ⟨0, 0⟩, ⟨1, 0⟩, none, []⟩,
     ⟨"class_definition", ⟨0, 4⟩, ⟨7, 0⟩, none, []⟩,
      ⟨"function_definition", ⟨1, 0⟩, ⟨0, 3⟩, none, []⟩]⟩

theorem chunkFile_crookedTree :
    let c : Chunker := ⟨.all, fun _ _ => some crookedTree⟩
    c.TakesAsCode "a.py" .python ∧ c.parse .python "def f(): pass\n" = some crookedTree ∧
      (c.chunkFile "a.py" "def f(): pass\n").value = .ok [] := by
  intro c
  have htaken : c.TakesAsCode "a.py" .python := ⟨by decide, by decide⟩
  have hparse : c.parse .python "def f(): pass\n" = some crookedTree := rfl
  obtain ⟨chunks, hvalue, -, hfailed, hnil, -⟩ := chunkFile_exact_or_nil htaken hparse
  have hthird : ∃ p ∈ firstByKey Place.startRow (crookedTree.units .python),
      p.IsMisplaced (Text.lines "def f(): pass\n").length := by decide
  obtain ⟨p, hp, hmisplaced⟩ := hthird
  refine ⟨htaken, hparse, ?_⟩
  rw [hvalue, hnil (hfailed.mpr ⟨p, mem_firstByKey.mp hp, hmisplaced⟩)]

end Chunker

end CodeRetrieval
