import CodeRetrieval.Proofs.Document.Partition

/-!
# Sections cut again

Cutting a section of a markdown file gives that section back. All fences above a section
are closed, so a scan of the section alone meets its fences and headings as the scan of
the file did, and no heading stands in a section but the one that opens it.
-/

namespace CodeRetrieval.Document

open Text

/-! ## Headings of an excerpt -/

section

variable {lines : List (List Char)} {first stop row : ℕ}

theorem getElem?_excerpt (hrow : first + row < stop) :
    ((lines.take stop).drop first)[row]? = lines[first + row]? := by
  rw [List.getElem?_drop, List.getElem?_take, if_pos hrow]

theorem lt_of_getElem?_excerpt {line : List Char}
    (h : ((lines.take stop).drop first)[row]? = some line) :
    first + row < stop := by
  obtain ⟨hlt, -⟩ := List.getElem?_eq_some_iff.mp h
  rw [List.length_drop, List.length_take] at hlt
  omega

/-- An even number of fences above an excerpt changes no parity below. -/
theorem even_fences_excerpt (hclosed : Even ((lines.take first).countP isFence))
    (hrow : first + row < stop) :
    Even ((((lines.take stop).drop first).take row).countP isFence) ↔
      Even ((lines.take (first + row)).countP isFence) := by
  rw [List.drop_take, List.take_take, Nat.min_eq_left (by omega), List.take_add,
    List.countP_append, Nat.even_add]
  simp [hclosed]

/-- A scan that starts where all fences are closed finds the headings that stand below. -/
theorem isHeadingRow_excerpt (hclosed : Even ((lines.take first).countP isFence)) :
    IsHeadingRow ((lines.take stop).drop first) row ↔ first + row < stop ∧
      IsHeadingRow lines (first + row) := by
  by_cases hrow : first + row < stop
  · simp only [IsHeadingRow, getElem?_excerpt hrow,
      even_fences_excerpt hclosed hrow, hrow, true_and]
  · constructor
    · rintro ⟨line, hline, -⟩
      exact absurd (lt_of_getElem?_excerpt hline) hrow
    · rintro ⟨h, -⟩
      exact absurd h hrow

theorem headings_eq_nil (h : ∀ row, ¬ IsHeadingRow lines row) : headings lines = [] := by
  rw [List.eq_nil_iff_forall_not_mem]
  intro heading hmem
  exact h _ (mem_headings_iff.mp (List.mem_map_of_mem hmem))

theorem headings_eq_singleton (h : ∀ row, IsHeadingRow lines row ↔ row = 0) :
    ∃ title, headings lines = [(0, title)] := by
  have hrows : ∀ heading ∈ headings lines, heading.1 = 0 := fun heading hmem =>
    (h _).mp (mem_headings_iff.mp (List.mem_map_of_mem hmem))
  have hordered : (headings lines).Pairwise fun a b => a.1 < b.1 :=
    pairwise_headingsFrom _ _ _
  have hzero : 0 ∈ (headings lines).map Prod.fst := mem_headings_iff.mpr ((h 0).mpr rfl)
  cases hheadings : headings lines with
  | nil => simp [hheadings] at hzero
  | cons heading rest =>
      obtain ⟨row, title⟩ := heading
      rw [hheadings] at hrows hordered
      have hrow : row = 0 := hrows _ List.mem_cons_self
      cases rest with
      | nil => exact ⟨title, by rw [hrow]⟩
      | cons next rest =>
          -- a second heading would stand on row 0 too
          have hlt := (List.pairwise_cons.mp hordered).1 next List.mem_cons_self
          have hnext := hrows next (by simp)
          simp only at hlt
          omega

theorem title_of_mem_headingsFrom {inFence : Bool} {title : List Char}
    (h : (row, title) ∈ headingsFrom inFence first lines) :
    ∃ i line, row = first + i ∧ lines[i]? = some line ∧
      (headingTitle? (withoutReturns line)).map trim = some title := by
  induction lines generalizing inFence first with
  | nil => cases h
  | cons line lines ih =>
      -- a heading below the line is found by the scan of what stands below
      have hbelow : ∀ {inFence : Bool}, (row, title) ∈
          headingsFrom inFence (first + 1) lines →
          ∃ i below, row = first + i ∧ (line :: lines)[i]? = some below ∧
            (headingTitle? (withoutReturns below)).map trim = some title := by
        intro inFence h
        obtain ⟨i, below, hrow, hline, htitle⟩ := ih h
        exact ⟨i + 1, below, by omega, hline, htitle⟩
      rw [headingsFrom] at h
      by_cases hfence : isFence line
      · rw [if_pos hfence] at h
        exact hbelow h
      · by_cases hopen : inFence
        · rw [if_neg hfence, if_pos hopen] at h
          exact hbelow h
        · rw [if_neg hfence, if_neg hopen] at h
          cases hfound : headingTitle? (withoutReturns line) with
          | none =>
              rw [hfound] at h
              exact hbelow h
          | some found =>
              rw [hfound] at h
              rcases List.mem_cons.mp h with h | h
              · obtain ⟨rfl, rfl⟩ := Prod.mk.inj h
                exact ⟨0, line, rfl, rfl, by rw [hfound]; rfl⟩
              · exact hbelow h

theorem title_of_mem_headings {title : List Char} (h : (row, title) ∈ headings lines) :
    ∃ line, lines[row]? = some line ∧
      (headingTitle? (withoutReturns line)).map trim = some title := by
  obtain ⟨i, line, hrow, hline, htitle⟩ := title_of_mem_headingsFrom h
  rw [Nat.zero_add] at hrow
  exact ⟨line, hrow ▸ hline, htitle⟩

end

/-! ## What opens a section -/

theorem Section.of_ofRows? {lines : List String} {title : String} {first stop : ℕ}
    {s : Section} (h : Section.ofRows? lines title first stop = some s) :
    s.title = title ∧ s.lines = (lines.take stop).drop first := by
  rw [ofRows?] at h
  split at h
  · obtain rfl := Option.some.inj h
    exact ⟨rfl, rfl⟩
  · cases h

theorem Section.ofRows?_all {lines : List String} (title : String) (hne : lines ≠ []) :
    Section.ofRows? lines title 0 lines.length = some ⟨title, 0, lines, hne⟩ := by
  simp [ofRows?, hne]

theorem exists_heading_of_mem_sectionsAt {lines : List String} {hs : List (ℕ × List Char)}
    {s : Section} (hmem : s ∈ sectionsAt lines hs) :
    ∃ h ∈ hs, s.firstRow = h.1 ∧ s.title = String.ofList h.2 := by
  induction hs with
  | nil => cases hmem
  | cons h hs ih =>
      rw [sectionsAt] at hmem
      rcases List.mem_append.mp hmem with hmem | hmem
      · have hsome := Option.mem_toList.mp hmem
        exact ⟨h, List.mem_cons_self, (Section.ofRows?_eq_some hsome).1,
          (Section.of_ofRows? hsome).1⟩
      · obtain ⟨k, hk, hfirst, htitle⟩ := ih hmem
        exact ⟨k, List.mem_cons_of_mem h hk, hfirst, htitle⟩

/-- The section stands on the first rows of a file, above all headings, and is named by
the file. -/
structure Section.IsPreamble (path content : String) (s : Section) : Prop where
  firstRow_eq : s.firstRow = 0
  title_eq : s.title = fileNameOr "document" path
  no_heading : ∀ row < s.stop, ¬ OpensSection content row

/-- The section stands at a heading, which names it, and holds no other one. -/
structure Section.IsAtHeading (content : String) (s : Section) : Prop where
  mem_headings : ∃ title, (s.firstRow, title) ∈ fileHeadings content ∧
    s.title = String.ofList title
  only_heading : ∀ row, s.firstRow ≤ row → row < s.stop →
    OpensSection content row → row = s.firstRow

variable {path content : String} {s : Section}

theorem isAtHeading_of_mem_sectionsAt
    (hmem : s ∈ sectionsAt (Text.lines content) (fileHeadings content)) :
    s.IsAtHeading content := by
  have hrows := areRows_fileHeadings content
  constructor
  · obtain ⟨⟨row, title⟩, hh, hfirst, htitle⟩ := exists_heading_of_mem_sectionsAt hmem
    exact ⟨title, hfirst ▸ hh, htitle⟩
  · intro row hbelow habove hrow
    obtain ⟨h, hh, rfl⟩ := List.mem_map.mp (mem_fileHeadings_iff.mpr hrow)
    exact hrows.eq_firstRow_of_mem_sectionsAt hmem hh hbelow habove

theorem isPreamble_of_ofRows? {below : ℕ}
    (hbelow : below ≤ firstHeadingRow (Text.lines content) (fileHeadings content))
    (h : Section.ofRows? (Text.lines content) (fileNameOr "document" path) 0 below =
      some s) :
    s.IsPreamble path content := by
  obtain ⟨htitle, hlines⟩ := Section.of_ofRows? h
  have hfirst := (Section.ofRows?_eq_some h).1
  have hstop : s.stop ≤ below := by
    rw [Section.stop, hfirst, hlines, List.drop_zero, List.length_take, Nat.zero_add]
    exact Nat.min_le_left below _
  refine ⟨hfirst, htitle, ?_⟩
  intro row hrow hopens
  obtain ⟨heading, hmem, rfl⟩ := List.mem_map.mp (mem_fileHeadings_iff.mpr hopens)
  have hle := (areRows_fileHeadings content).firstHeadingRow_le hmem
  omega

theorem isPreamble_or_isAtHeading (hmem : s ∈ sections path content) :
    s.IsPreamble path content ∨ s.IsAtHeading content := by
  cases h : fileHeadings content with
  | nil =>
      rw [sections_of_fileHeadings_nil path h] at hmem
      exact .inl (isPreamble_of_ofRows? (by rw [h]; rfl) (Option.mem_toList.mp hmem))
  | cons heading rest =>
      rw [sections_of_fileHeadings_cons path h] at hmem
      rcases List.mem_append.mp hmem with hmem | hmem
      · split at hmem
        · cases hmem
        · exact .inl (isPreamble_of_ofRows? (by rw [h]; rfl) (Option.mem_toList.mp hmem))
      · exact .inr (isAtHeading_of_mem_sectionsAt (h ▸ hmem))

/-! ## A section as a file -/

theorem map_toList_lines (hin : s.IsIn (Text.lines content)) :
    s.lines.map String.toList =
      (((Text.lines content).map String.toList).take s.stop).drop s.firstRow := by
  rw [Section.stop, ← List.map_take, ← List.map_drop, ← hin.lines_eq]

theorem lines_unlines_section (hin : s.IsIn (Text.lines content)) :
    Text.lines (Text.unlines s.lines) = s.lines := by
  apply lines_unlines s.lines_ne_nil
  intro l hl
  rw [hin.lines_eq] at hl
  exact newline_not_mem_of_mem_lines (List.mem_of_mem_take (List.mem_of_mem_drop hl))

theorem fileHeadings_unlines (hin : s.IsIn (Text.lines content)) :
    fileHeadings (Text.unlines s.lines) =
      headings ((((Text.lines content).map String.toList).take s.stop).drop
        s.firstRow) := by
  rw [fileHeadings, lines_unlines_section hin, map_toList_lines hin]

theorem fileHeadings_of_isPreamble (hin : s.IsIn (Text.lines content))
    (h : s.IsPreamble path content) :
    fileHeadings (Text.unlines s.lines) = [] := by
  rw [fileHeadings_unlines hin, h.firstRow_eq]
  apply headings_eq_nil
  intro row hrow
  obtain ⟨hlt, hheading⟩ := (isHeadingRow_excerpt (by simp)).mp hrow
  rw [Nat.zero_add] at hlt hheading
  exact h.no_heading row hlt hheading

theorem fileHeadings_of_isAtHeading (hin : s.IsIn (Text.lines content))
    (h : s.IsAtHeading content) :
    ∃ title, fileHeadings (Text.unlines s.lines) = [(0, title)] ∧
      s.title = String.ofList title := by
  obtain ⟨title, hmem, htitle⟩ := h.mem_headings
  have hfirst : OpensSection content s.firstRow :=
    mem_fileHeadings_iff.mp (List.mem_map_of_mem hmem)
  obtain ⟨-, -, -, hclosed, -⟩ := hfirst
  have hstop : s.firstRow < s.stop := by
    have := List.length_pos_iff.mpr s.lines_ne_nil
    rw [Section.stop]
    omega
  have honly : ∀ row, IsHeadingRow
      ((((Text.lines content).map String.toList).take s.stop).drop s.firstRow) row ↔
      row = 0 := by
    intro row
    rw [isHeadingRow_excerpt hclosed]
    constructor
    · rintro ⟨hlt, hrow⟩
      have := h.only_heading _ (by omega) hlt hrow
      omega
    · rintro rfl
      exact ⟨hstop, mem_fileHeadings_iff.mp (List.mem_map_of_mem hmem)⟩
  obtain ⟨found, hfound⟩ := headings_eq_singleton honly
  -- both titles are read off the same line
  obtain ⟨line, hline, hread⟩ := title_of_mem_headings hmem
  obtain ⟨line', hline', hread'⟩ :=
    title_of_mem_headings (hfound ▸ List.mem_singleton_self (0, found))
  rw [List.getElem?_drop, List.getElem?_take, if_pos (by omega),
    Nat.add_zero, hline] at hline'
  obtain rfl := Option.some.inj hline'
  have hsame : found = title := Option.some.inj (hread'.symm.trans hread)
  exact ⟨found, by rw [fileHeadings_unlines hin, hfound], by rw [htitle, hsame]⟩

/-- A section is the only section of the file that it makes. -/
theorem sections_unlines (hmem : s ∈ sections path content) :
    sections path (Text.unlines s.lines) = [{ s with firstRow := 0 }] := by
  have hin := isIn_of_mem_sections hmem
  have hlines := lines_unlines_section hin
  rcases isPreamble_or_isAtHeading hmem with h | h
  · rw [sections_of_fileHeadings_nil path (fileHeadings_of_isPreamble hin h), hlines,
      Section.ofRows?_all _ s.lines_ne_nil, ← h.title_eq]
    rfl
  · obtain ⟨title, hheadings, htitle⟩ := fileHeadings_of_isAtHeading hin h
    rw [sections_of_fileHeadings_cons path hheadings, hlines, List.take_zero, List.all_nil,
      if_pos rfl, List.nil_append, sectionsAt, sectionsAt, List.append_nil, ← htitle]
    exact congrArg Option.toList (Section.ofRows?_all s.title s.lines_ne_nil)

/-- Cutting a chunk of a markdown file gives one chunk, with the same code, name, kind
and keywords, which spans all lines of the chunk. -/
theorem markdownChunks_code {c : Chunk} (hc : c ∈ markdownChunks path content) :
    markdownChunks path c.code =
        [{ c with
            id := chunkId path 1
            span :=
              LineSpan.ofCount (Text.lines c.code).length (one_le_length_lines c.code) }] ∧
      (Text.lines c.code).length = c.lineCount := by
  obtain ⟨s, hs, rfl⟩ := List.mem_map.mp hc
  have hlines := lines_unlines_section (isIn_of_mem_sections hs)
  have hpos := List.length_pos_iff.mpr s.lines_ne_nil
  constructor
  · show (sections path (Text.unlines s.lines)).map (Section.chunk path) = _
    rw [sections_unlines hs, List.map_singleton]
    simp [Section.chunk, Section.span, LineSpan.ofCount, hlines]
  · show (Text.lines (Text.unlines s.lines)).length =
      s.firstRow + s.lines.length - (s.firstRow + 1) + 1
    rw [hlines]
    omega

/-- A heading inside a fenced block, one without a title, and a fence that is never
closed. -/
def crookedNotes : String :=
  "top\n~~~\n# a\n~~~\n#  \r\n**bold words**\n## Title here\n~~~\n# b"

theorem markdownChunks_code_crookedNotes :
    ∃ c ∈ markdownChunks "notes.md" crookedNotes, c.name = "Title here" ∧
      c.span.first = 7 ∧ c.span.last = 9 ∧
      markdownChunks "notes.md" c.code =
        [{ c with
            id := chunkId "notes.md" 1
            span :=
              LineSpan.ofCount (Text.lines c.code).length (one_le_length_lines c.code) }] ∧
      (Text.lines c.code).length = 3 := by
  have hfound : (markdownChunks "notes.md" crookedNotes).map
      (fun c => (c.name, c.span.first, c.span.last)) =
      [("notes.md", 1, 4), ("", 5, 6), ("Title here", 7, 9)] := by decide +kernel
  have hmem : ("Title here", 7, 9) ∈
      (markdownChunks "notes.md" crookedNotes).map fun c =>
        (c.name, c.span.first, c.span.last) := by
    rw [hfound]
    simp
  obtain ⟨c, hc, hfields⟩ := List.mem_map.mp hmem
  obtain ⟨hname, hspan⟩ := Prod.mk.inj hfields
  obtain ⟨hfirst, hlast⟩ := Prod.mk.inj hspan
  obtain ⟨hcut, hcount⟩ := markdownChunks_code hc
  refine ⟨c, hc, hname, hfirst, hlast, hcut, ?_⟩
  rw [hcount, Chunk.lineCount, LineSpan.count, hfirst, hlast]

end CodeRetrieval.Document
