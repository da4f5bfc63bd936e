import CodeRetrieval.Proofs.Chunk.Chunker
import CodeRetrieval.Proofs.Document.Headings
import Mathlib.Data.List.Chain

/-!
# Sections partition a markdown file

The sections of a markdown file stand below each other without a gap and end with the
file. Each heading row opens one of them, and what stands above the first heading is a
section of its own unless it is blank.
-/

namespace CodeRetrieval.Document

open Text

/-! ## Sections below each other -/

def Section.stop (s : Section) : ℕ :=
  s.firstRow + s.lines.length

/-- The sections hold all rows of a text from a first one on, each of them the rows
below those of the one before. -/
def Tiles (lines : List String) : ℕ → List Section → Prop
  | first, [] => first = lines.length
  | first, s :: ss => s.firstRow = first ∧ s.IsIn lines ∧ Tiles lines s.stop ss

variable {lines : List String} {first : ℕ} {ss : List Section} {hs : List (ℕ × List Char)}

theorem Section.exists_ofRows? (title : String) {below : ℕ} (hfirst : first < below)
    (hbelow : below ≤ lines.length) :
    ∃ s, Section.ofRows? lines title first below = some s ∧ s.firstRow = first ∧
      s.stop = below ∧ s.IsIn lines := by
  have hlength : ((lines.take below).drop first).length = below - first := by
    rw [List.length_drop, List.length_take]
    omega
  have hne : (lines.take below).drop first ≠ [] := by
    intro hnil
    rw [hnil, List.length_nil] at hlength
    omega
  have hsome : Section.ofRows? lines title first below =
      some ⟨title, first, (lines.take below).drop first, hne⟩ :=
    dif_pos hne
  obtain ⟨hrow, hin⟩ := Section.ofRows?_eq_some hsome
  refine ⟨_, hsome, hrow, ?_, hin⟩
  rw [Section.stop, hlength]
  omega

namespace Tiles

theorem isChain (h : Tiles lines first ss) : ss.IsChain fun s t => t.firstRow = s.stop := by
  induction ss generalizing first with
  | nil => exact List.IsChain.nil
  | cons s ss ih =>
      obtain ⟨-, -, hss⟩ := h
      cases ss with
      | nil => exact List.isChain_singleton s
      | cons t ss => exact List.isChain_cons_cons.mpr ⟨hss.1, ih hss⟩

theorem firstRow_head? (h : Tiles lines first ss) : ∀ s ∈ ss.head?, s.firstRow = first := by
  cases ss with
  | nil => simp
  | cons s ss =>
      intro t ht
      obtain rfl := Option.some.inj ht
      exact h.1

theorem stop_getLast? (h : Tiles lines first ss) :
    ∀ s ∈ ss.getLast?, s.stop = lines.length := by
  induction ss generalizing first with
  | nil => simp
  | cons s ss ih =>
      obtain ⟨-, -, hss⟩ := h
      cases ss with
      | nil =>
          intro t ht
          obtain rfl := Option.some.inj ht
          exact hss
      | cons t ss =>
          rw [List.getLast?_cons_cons]
          exact ih hss

theorem flatten_lines (h : Tiles lines first ss) :
    (ss.map Section.lines).flatten = lines.drop first := by
  induction ss generalizing first with
  | nil =>
      have hfirst : first = lines.length := h
      rw [hfirst, List.drop_length, List.map_nil, List.flatten_nil]
  | cons s ss ih =>
      obtain ⟨rfl, hin, hss⟩ := h
      have hstart : s.firstRow ≤ (lines.take s.stop).length := by
        have hend := hin.ends_inside
        rw [List.length_take, Section.stop]
        omega
      calc ((s :: ss).map Section.lines).flatten
          = s.lines ++ lines.drop s.stop := by rw [List.map_cons, List.flatten_cons, ih hss]
        _ = (lines.take s.stop).drop s.firstRow ++ lines.drop s.stop := by
          rw [Section.stop, ← hin.lines_eq]
        _ = lines.drop s.firstRow := by
          rw [← List.drop_append_of_le_length hstart, List.take_append_drop]

end Tiles

/-! ## Sections at headings -/

def fileHeadings (content : String) : List (ℕ × List Char) :=
  headings ((Text.lines content).map String.toList)

/-- A heading stands on the row of a file, not inside a fenced block. -/
def OpensSection (content : String) (row : ℕ) : Prop :=
  IsHeadingRow ((Text.lines content).map String.toList) row

theorem mem_fileHeadings_iff {content : String} {row : ℕ} :
    row ∈ (fileHeadings content).map Prod.fst ↔ OpensSection content row :=
  mem_headings_iff

/-- The headings stand in order on rows of a text. -/
structure AreRows (lines : List String) (hs : List (ℕ × List Char)) : Prop where
  ordered : hs.Pairwise fun a b => a.1 < b.1
  inside : ∀ h ∈ hs, h.1 < lines.length

def firstHeadingRow (lines : List String) (hs : List (ℕ × List Char)) : ℕ :=
  hs.head?.elim lines.length (·.1)

theorem areRows_fileHeadings (content : String) :
    AreRows (Text.lines content) (fileHeadings content) := by
  refine ⟨pairwise_headingsFrom _ _ _, fun h hmem => ?_⟩
  obtain ⟨line, hline, -⟩ := mem_fileHeadings_iff.mp (List.mem_map_of_mem hmem)
  obtain ⟨hlt, -⟩ := List.getElem?_eq_some_iff.mp hline
  rwa [List.length_map] at hlt

namespace AreRows

theorem tail {h : ℕ × List Char} (hrows : AreRows lines (h :: hs)) : AreRows lines hs :=
  ⟨hrows.ordered.tail, fun k hk => hrows.inside k (List.mem_cons_of_mem h hk)⟩

theorem firstHeadingRow_le_length (hrows : AreRows lines hs) :
    firstHeadingRow lines hs ≤ lines.length := by
  cases hs with
  | nil => exact Nat.le_refl _
  | cons h hs => exact (hrows.inside h List.mem_cons_self).le

theorem firstHeadingRow_le (hrows : AreRows lines hs) {h : ℕ × List Char} (hmem : h ∈ hs) :
    firstHeadingRow lines hs ≤ h.1 := by
  cases hs with
  | nil => cases hmem
  | cons k hs =>
      rcases List.mem_cons.mp hmem with rfl | hmem
      · exact Nat.le_refl _
      · exact ((List.pairwise_cons.mp hrows.ordered).1 h hmem).le

theorem lt_firstHeadingRow {h : ℕ × List Char} (hrows : AreRows lines (h :: hs)) :
    h.1 < firstHeadingRow lines hs := by
  cases hs with
  | nil => exact hrows.inside h List.mem_cons_self
  | cons k hs => exact (List.pairwise_cons.mp hrows.ordered).1 k List.mem_cons_self

theorem exists_sectionsAt_cons {h : ℕ × List Char} (hrows : AreRows lines (h :: hs)) :
    ∃ s, sectionsAt lines (h :: hs) = s :: sectionsAt lines hs ∧ s.firstRow = h.1 ∧
      s.stop = firstHeadingRow lines hs ∧ s.IsIn lines := by
  obtain ⟨s, hs, hfirst, hstop, hin⟩ :=
    Section.exists_ofRows? (String.ofList h.2) hrows.lt_firstHeadingRow
    hrows.tail.firstHeadingRow_le_length
  refine ⟨s, ?_, hfirst, hstop, hin⟩
  rw [firstHeadingRow] at hs
  rw [sectionsAt, hs]
  rfl

theorem tiles_sectionsAt (hrows : AreRows lines hs) :
    Tiles lines (firstHeadingRow lines hs) (sectionsAt lines hs) := by
  induction hs with
  | nil => rfl
  | cons h hs ih =>
      obtain ⟨s, hs, hfirst, hstop, hin⟩ := hrows.exists_sectionsAt_cons
      rw [hs]
      exact ⟨hfirst, hin, hstop ▸ ih hrows.tail⟩

theorem map_firstRow_sectionsAt (hrows : AreRows lines hs) :
    (sectionsAt lines hs).map Section.firstRow = hs.map Prod.fst := by
  induction hs with
  | nil => rfl
  | cons h hs ih =>
      obtain ⟨s, hs, hfirst, -⟩ := hrows.exists_sectionsAt_cons
      rw [hs, List.map_cons, List.map_cons, hfirst, ih hrows.tail]

theorem firstHeadingRow_le_of_mem_sectionsAt (hrows : AreRows lines hs) {s : Section}
    (hmem : s ∈ sectionsAt lines hs) : firstHeadingRow lines hs ≤ s.firstRow := by
  have hfirst : s.firstRow ∈ hs.map Prod.fst :=
    hrows.map_firstRow_sectionsAt ▸ List.mem_map_of_mem hmem
  obtain ⟨h, hmem, hrow⟩ := List.mem_map.mp hfirst
  exact hrow ▸ hrows.firstHeadingRow_le hmem

/-- A section holds no heading but the one that opens it. -/
theorem eq_firstRow_of_mem_sectionsAt (hrows : AreRows lines hs) {s : Section}
    (hs' : s ∈ sectionsAt lines hs) {h : ℕ × List Char} (hmem : h ∈ hs)
    (hbelow : s.firstRow ≤ h.1) (habove : h.1 < s.stop) : h.1 = s.firstRow := by
  induction hs with
  | nil => cases hmem
  | cons k hs ih =>
      obtain ⟨t, ht, hfirst, hstop, -⟩ := hrows.exists_sectionsAt_cons
      rw [ht] at hs'
      rcases List.mem_cons.mp hs' with rfl | hs'
      · rcases List.mem_cons.mp hmem with rfl | hmem
        · exact hfirst.symm
        · have hle := hrows.tail.firstHeadingRow_le hmem
          omega
      · rcases List.mem_cons.mp hmem with rfl | hmem
        · have hle := hrows.tail.firstHeadingRow_le_of_mem_sectionsAt hs'
          have hlt := hrows.lt_firstHeadingRow
          omega
        · exact ih hrows.tail hs' hmem

end AreRows

/-! ## All sections of a file -/

theorem sections_of_fileHeadings_nil (path : String) {content : String}
    (h : fileHeadings content = []) :
    sections path content
      = (Section.ofRows? (Text.lines content) (fileNameOr "document" path) 0
        (Text.lines content).length).toList := by
  rw [fileHeadings] at h
  simp only [sections, h]

theorem sections_of_fileHeadings_cons (path : String) {content : String}
    {heading : ℕ × List Char} (h : fileHeadings content = heading :: hs) :
    sections path content
      = (if ((Text.lines content).take heading.1).all fun l => allBlank l.toList then []
          else (Section.ofRows? (Text.lines content) (fileNameOr "document" path) 0
            heading.1).toList) ++
        sectionsAt (Text.lines content) (heading :: hs) := by
  rw [fileHeadings] at h
  simp only [sections, h]

/-- What stands above the first heading is a section, or blank and above some heading. -/
theorem exists_preamble (path content : String) :
    let lines := Text.lines content
    let hs := fileHeadings content
    let above := lines.take (firstHeadingRow lines hs)
    ∃ preamble, sections path content = preamble ++ sectionsAt lines hs ∧
      (preamble = [] ∧ hs ≠ [] ∧ (∀ l ∈ above, allBlank l.toList) ∨
        ∃ s, preamble = [s] ∧ s.firstRow = 0 ∧
          s.stop = firstHeadingRow lines hs ∧ s.IsIn lines ∧
          (hs ≠ [] → ¬ ∀ l ∈ above, allBlank l.toList)) := by
  intro lines hs above
  have hrows : AreRows lines hs := areRows_fileHeadings content
  cases hheadings : hs with
  | nil =>
      obtain ⟨s, hs, hfirst, hstop, hin⟩ :=
        Section.exists_ofRows? (fileNameOr "document" path)
        (show 0 < lines.length from one_le_length_lines content) (Nat.le_refl _)
      rw [sections_of_fileHeadings_nil path hheadings]
      exact ⟨[s], by simp [hs, sectionsAt, lines],
        .inr ⟨s, rfl, hfirst, hstop, hin, fun h => absurd rfl h⟩⟩
  | cons heading rest =>
      have habove : above = lines.take heading.1 := by
        simp only [above, hheadings]
        rfl
      rw [sections_of_fileHeadings_cons path hheadings]
      by_cases hblank : ∀ l ∈ above, allBlank l.toList
      · refine ⟨[], ?_, .inl ⟨rfl, List.cons_ne_nil heading rest, hblank⟩⟩
        rw [if_pos (List.all_eq_true.mpr (habove ▸ hblank))]
      · -- nothing stands above a heading on the first row, and that is blank
        have hpos : 0 < heading.1 := by
          by_contra hzero
          have hzero : heading.1 = 0 := by omega
          apply hblank
          simp [habove, hzero]
        obtain ⟨s, hs', hfirst, hstop, hin⟩ :=
          Section.exists_ofRows? (fileNameOr "document" path) hpos
          (hrows.inside heading (hheadings ▸ List.mem_cons_self)).le
        refine ⟨[s], ?_, .inr ⟨s, rfl, hfirst, hstop, hin, fun _ => hblank⟩⟩
        have hall : ¬ ((lines.take heading.1).all fun l => allBlank l.toList) = true :=
          fun hall =>
          hblank (habove ▸ List.all_eq_true.mp hall)
        rw [if_neg hall, hs']
        rfl

/-- The first heading of a file stands on the row, and only blank lines stand above it. -/
def IsTopHeading (content : String) (row : ℕ) : Prop :=
  OpensSection content row ∧ (∀ r < row, ¬ OpensSection content r) ∧
    ∀ l ∈ (Text.lines content).take row, allBlank l.toList

theorem isTopHeading_iff {content : String} {row : ℕ} : IsTopHeading content row ↔
    fileHeadings content ≠ [] ∧
      firstHeadingRow (Text.lines content) (fileHeadings content) = row ∧
      ∀ l ∈ (Text.lines content).take row, allBlank l.toList := by
  have hrows := areRows_fileHeadings content
  have hle : ∀ r, OpensSection content r →
      firstHeadingRow (Text.lines content) (fileHeadings content) ≤ r := by
    intro r hr
    obtain ⟨h, hmem, rfl⟩ := List.mem_map.mp (mem_fileHeadings_iff.mpr hr)
    exact hrows.firstHeadingRow_le hmem
  have hfirst : fileHeadings content ≠ [] →
      OpensSection content (firstHeadingRow (Text.lines content)
        (fileHeadings content)) := by
    intro hne
    obtain ⟨h, hs, hcons⟩ := List.exists_cons_of_ne_nil hne
    apply mem_fileHeadings_iff.mp
    rw [hcons]
    exact List.mem_cons_self
  constructor
  · rintro ⟨hrow, hleast, hblank⟩
    have hne : fileHeadings content ≠ [] := by
      intro hnil
      have hmem := mem_fileHeadings_iff.mpr hrow
      rw [hnil] at hmem
      cases hmem
    refine ⟨hne, ?_, hblank⟩
    by_contra hother
    exact hleast _ (lt_of_le_of_ne (hle row hrow) hother) (hfirst hne)
  · rintro ⟨hne, rfl, hblank⟩
    exact ⟨hfirst hne, fun r hlt hr => absurd (hle r hr) (Nat.not_le.mpr hlt), hblank⟩

/-- The sections of a file hold its rows from the first heading on if only blanks stand
above it, and all of its rows otherwise. -/
theorem tiles_sections (path content : String) :
    sections path content ≠ [] ∧
      ∃ first, Tiles (Text.lines content) first (sections path content) ∧
      (∀ row, IsTopHeading content row → first = row) ∧
        ((∀ row, ¬ IsTopHeading content row) → first = 0) := by
  have hrows := areRows_fileHeadings content
  have htiles := hrows.tiles_sectionsAt
  obtain ⟨preamble, hsections,
      ⟨rfl, hne, hblank⟩ | ⟨s, rfl, hfirst, hstop, hin, hnotBlank⟩⟩ :=
    exists_preamble path content
  · rw [List.nil_append] at hsections
    rw [hsections]
    refine ⟨?_, _, htiles, ?_, ?_⟩
    · intro hnil
      have hmap := hrows.map_firstRow_sectionsAt
      rw [hnil, List.map_nil, eq_comm, List.map_eq_nil_iff] at hmap
      exact hne hmap
    · intro row htop
      exact (isTopHeading_iff.mp htop).2.1
    · intro hnone
      exact absurd (isTopHeading_iff.mpr ⟨hne, rfl, hblank⟩) (hnone _)
  · rw [hsections]
    refine ⟨by simp, 0, ⟨hfirst, hin, hstop ▸ htiles⟩, ?_, fun _ => rfl⟩
    intro row htop
    obtain ⟨hne, rfl, hblank⟩ := isTopHeading_iff.mp htop
    exact absurd hblank (hnotBlank hne)

/-! ## Chunks of a file -/

def HoldsRow (c : Chunk) (row : ℕ) : Prop :=
  c.span.first ≤ row + 1 ∧ row + 1 ≤ c.span.last

/-- There is one chunk for each heading, in order, which starts on its line and holds no
other heading, and at most one chunk above these, which holds no heading. -/
def StandAtHeadings (content : String) (chunks : List Chunk) : Prop :=
  ∃ (above atHeadings : List Chunk) (rows : List ℕ), chunks =
    above ++ atHeadings ∧ above.length ≤ 1 ∧
    rows.Pairwise (· < ·) ∧ (∀ row, row ∈ rows ↔ OpensSection content row) ∧
    atHeadings.map (fun c => c.span.first) = rows.map (· + 1) ∧
    (∀ c ∈ above, ∀ row, HoldsRow c row → ¬ OpensSection content row) ∧
    ∀ c ∈ atHeadings, ∀ row, HoldsRow c row → OpensSection content row →
      c.span.first = row + 1

/-- The chunks hold the lines of a file without gap and overlap, from line 1 on or from
the first heading if nothing but blanks stands above it, and they stand at the headings.
-/
structure Partitions (content : String) (chunks : List Chunk) : Prop where
  ne_nil : chunks ≠ []
  consecutive : chunks.IsChain fun c d => d.span.first = c.span.last + 1
  ends : ∀ c ∈ chunks.getLast?, c.span.last = (Text.lines content).length
  starts_at_heading : ∀ row, IsTopHeading content row →
    ∀ c ∈ chunks.head?, c.span.first = row + 1
  starts_at_one : (∀ row, ¬ IsTopHeading content row) → ∀ c ∈ chunks.head?, c.span.first = 1
  code_eq : ∀ c ∈ chunks, c.code = c.span.textIn content
  unlines_code : ∀ c ∈ chunks.head?,
    Text.unlines (chunks.map Chunk.code) =
      Text.unlines ((Text.lines content).drop (c.span.first - 1))
  standAtHeadings : StandAtHeadings content chunks

theorem holdsRow_chunk_iff {path : String} {s : Section} {row : ℕ} :
    HoldsRow (s.chunk path) row ↔ s.firstRow ≤ row ∧ row < s.stop := by
  have hspan : (s.chunk path).span.first = s.firstRow + 1 ∧ (s.chunk path).span.last =
      s.stop := ⟨rfl, rfl⟩
  rw [HoldsRow, hspan.1, hspan.2]
  omega

theorem standAtHeadings_markdownChunks (path content : String) :
    StandAtHeadings content (markdownChunks path content) := by
  have hrows := areRows_fileHeadings content
  obtain ⟨preamble, hsections, hpreamble⟩ := exists_preamble path content
  refine ⟨preamble.map (Section.chunk path),
    (sectionsAt (Text.lines content) (fileHeadings content)).map (Section.chunk path),
    (fileHeadings content).map Prod.fst, ?_, ?_, ?_,
      fun row => mem_fileHeadings_iff, ?_, ?_, ?_⟩
  · rw [markdownChunks, hsections, List.map_append]
  · rw [List.length_map]
    rcases hpreamble with ⟨rfl, -, -⟩ | ⟨s, rfl, -⟩
    · exact Nat.zero_le 1
    · exact Nat.le_refl 1
  · exact List.pairwise_map.mpr hrows.ordered
  · rw [← hrows.map_firstRow_sectionsAt, List.map_map, List.map_map]
    rfl
  · intro c hc row hholds hrow
    obtain ⟨s, hs, rfl⟩ := List.mem_map.mp hc
    obtain ⟨-, hbelow⟩ := holdsRow_chunk_iff.mp hholds
    obtain ⟨h, hmem, rfl⟩ := List.mem_map.mp (mem_fileHeadings_iff.mpr hrow)
    have hle := hrows.firstHeadingRow_le hmem
    rcases hpreamble with ⟨rfl, -, -⟩ | ⟨t, rfl, -, hstop, -, -⟩
    · cases hs
    · obtain rfl := List.mem_singleton.mp hs
      omega
  · intro c hc row hholds hrow
    obtain ⟨s, hs, rfl⟩ := List.mem_map.mp hc
    obtain ⟨habove, hbelow⟩ := holdsRow_chunk_iff.mp hholds
    obtain ⟨h, hmem, rfl⟩ := List.mem_map.mp (mem_fileHeadings_iff.mpr hrow)
    exact congrArg (· + 1) (hrows.eq_firstRow_of_mem_sectionsAt hs hmem habove hbelow).symm

/-- Joining the codes of the chunks gives the rows of the file from the first chunk on. -/
theorem unlines_code_markdownChunks {path content : String} {first : ℕ}
    (htiles : Tiles (Text.lines content) first (sections path content)) :
    Text.unlines ((markdownChunks path content).map Chunk.code)
      = Text.unlines ((Text.lines content).drop first) := by
  have hcodes : (markdownChunks path content).map Chunk.code
      = ((sections path content).map Section.lines).map Text.unlines := by
    rw [markdownChunks, List.map_map, List.map_map]
    rfl
  have hlines : ∀ ls ∈ (sections path content).map Section.lines, ls ≠ [] := by
    intro ls hls
    obtain ⟨s, -, rfl⟩ := List.mem_map.mp hls
    exact s.lines_ne_nil
  rw [hcodes, unlines_flatten hlines, htiles.flatten_lines]

/-- Every markdown file has chunks, and they partition it. -/
theorem markdownChunks_partition (path content : String) :
    Partitions content (markdownChunks path content) := by
  obtain ⟨hne, first, htiles, htop, hno⟩ := tiles_sections path content
  have hfirst : ∀ c ∈ (markdownChunks path content).head?, c.span.first = first + 1 := by
    intro c hc
    rw [markdownChunks, List.head?_map] at hc
    obtain ⟨s, hs, rfl⟩ := Option.map_eq_some_iff.mp hc
    exact congrArg (· + 1) (htiles.firstRow_head? s hs)
  constructor
  · rwa [markdownChunks, Ne, List.map_eq_nil_iff]
  · rw [markdownChunks, List.isChain_map]
    exact htiles.isChain.imp fun s t h => congrArg (· + 1) h
  · intro c hc
    rw [markdownChunks, List.getLast?_map] at hc
    obtain ⟨s, hs, rfl⟩ := Option.map_eq_some_iff.mp hc
    exact htiles.stop_getLast? s hs
  · intro row hrow c hc
    rw [hfirst c hc, htop row hrow]
  · intro hnone c hc
    rw [hfirst c hc, hno hnone]
  · intro c hc
    obtain ⟨s, hs, rfl⟩ := List.mem_map.mp hc
    exact (Section.isCutFrom_chunk (isIn_of_mem_sections hs)).code_eq
  · intro c hc
    rw [unlines_code_markdownChunks htiles, hfirst c hc, Nat.add_sub_cancel]
  · exact standAtHeadings_markdownChunks path content

end CodeRetrieval.Document
