import CodeRetrieval.Proofs.Document.Recut
import CodeRetrieval.Proofs.Text.Blank
import CodeRetrieval.Proofs.Text.Case
import CodeRetrieval.Proofs.Text.Runs
import Mathlib.Data.List.Flatten

/-!
# Words of headings

Two scans of a markdown file look for headings: one cuts the file into sections, the
other one takes keywords from it. Carriage returns and blanks around a title make no
difference between them. Fences do: the second scan reads the lines inside fenced blocks
like any other, so what looks like a heading there gives keywords. Apart from these the
keywords are the longer words of the titles of the sections.
-/

namespace CodeRetrieval.Document

open Text

variable {line : List Char} {lines : List (List Char)} {inFence : Bool}

/-! ## Longer words and blanks -/

/-- A blank separates the words before it from those behind it. -/
theorem longWords_append_cons {c : Char} (hc : isBlank c = true) (s t : List Char) :
    longWords (s ++ c :: t) = longWords s ++ longWords t := by
  simp only [longWords, words, lower_append_blank hc, runsOutside_append_cons hc,
    List.filter_append, List.map_append]

theorem longWords_cons {c : Char} (hc : isBlank c = true) (s : List Char) :
    longWords (c :: s) = longWords s :=
  longWords_append_cons hc [] s

theorem longWords_append_left {blanks : List Char}
    (h : ∀ c ∈ blanks, isBlank c = true) (s : List Char) :
    longWords (blanks ++ s) = longWords s := by
  induction blanks with
  | nil => rfl
  | cons c blanks ih =>
      obtain ⟨hc, hblanks⟩ := List.forall_mem_cons.mp h
      rw [List.cons_append, longWords_cons hc, ih hblanks]

theorem longWords_of_isBlank {blanks : List Char} (h : ∀ c ∈ blanks, isBlank c = true) :
    longWords blanks = [] := by
  rw [← List.append_nil blanks, longWords_append_left h]
  rfl

theorem longWords_append_right {blanks : List Char}
    (h : ∀ c ∈ blanks, isBlank c = true) (s : List Char) :
    longWords (s ++ blanks) = longWords s := by
  cases blanks with
  | nil => rw [List.append_nil]
  | cons c blanks =>
      obtain ⟨hc, hblanks⟩ := List.forall_mem_cons.mp h
      rw [longWords_append_cons hc, longWords_of_isBlank hblanks, List.append_nil]

theorem longWords_trim (s : List Char) : longWords (trim s) = longWords s := by
  obtain ⟨before, after, hs, hbefore, hafter⟩ := exists_trim s
  conv_rhs => rw [hs, longWords_append_right hafter, longWords_append_left hbefore]

/-! ## Words of one line -/

/-- The longer words of the title of a heading line. Any other line gives none. -/
def lineWords (line : List Char) : List String :=
  (headingTitle? line).elim [] longWords

/-- The title of a heading line has the words of all that follows the hash marks. -/
theorem lineWords_eq (line : List Char) :
    lineWords line =
      if (line.takeWhile (· == '#')).isEmpty ||
        decide (3 < (line.takeWhile (· == '#')).length) then []
      else if (line.dropWhile (· == '#')).head?.any isBlank then
        longWords (line.dropWhile (· == '#'))
      else [] := by
  rw [lineWords, headingTitle?]
  simp only [drop_length_takeWhile]
  generalize line.takeWhile (· == '#') = marks
  generalize line.dropWhile (· == '#') = rest
  cases marks.isEmpty || decide (3 < marks.length) with
  | true => rfl
  | false =>
      cases rest with
      | nil => rfl
      | cons c rest =>
          cases hc : isBlank c with
          | false =>
              have htitle : (c :: rest).dropWhile isBlank = c :: rest :=
                List.dropWhile_cons_of_neg (by simp [hc])
              simp [htitle, hc]
          | true =>
              cases htitle : (c :: rest).dropWhile isBlank with
              | nil =>
                  -- whichever of the blanks is the title, it has no words
                  have hblanks : ∀ d ∈ c :: rest, isBlank d = true :=
                    List.dropWhile_eq_nil_iff.mp htitle
                  have hlast : ∀ d ∈ (c :: rest).reverse, longWords [d] = [] := fun d hd =>
                    longWords_of_isBlank (by simpa using hblanks d (List.mem_reverse.mp hd))
                  rw [longWords_of_isBlank hblanks]
                  generalize (c :: rest).reverse = back at hlast
                  rcases back with _ | ⟨last, _ | ⟨before, back⟩⟩
                  · simp [hc]
                  · simp [hc]
                  · simpa [hc] using hlast last List.mem_cons_self
              | cons d title =>
                  obtain ⟨blanks, hrest, hblanks⟩ := exists_trimStart (c :: rest)
                  rw [trimStart, htitle] at hrest
                  rw [hrest, longWords_append_left hblanks, ← hrest]
                  simp [hc]

/-- What follows a text and holds no character of a class leaves the run of the class at
its start as it is. -/
theorem takeWhile_dropWhile_append {p : Char → Bool} {t : List Char}
    (h : ∀ c ∈ t, p c = false) (s : List Char) :
    (s ++ t).takeWhile p = s.takeWhile p ∧ (s ++ t).dropWhile p = s.dropWhile p ++ t := by
  induction s with
  | nil =>
      cases t with
      | nil => exact ⟨rfl, rfl⟩
      | cons c t =>
          have hc : ¬ p c = true := by simp [h c List.mem_cons_self]
          exact ⟨List.takeWhile_cons_of_neg hc, List.dropWhile_cons_of_neg hc⟩
  | cons c s ih =>
      rw [List.cons_append, List.takeWhile_cons, List.takeWhile_cons, List.dropWhile_cons,
        List.dropWhile_cons, ih.1, ih.2]
      split
      · exact ⟨rfl, rfl⟩
      · exact ⟨rfl, rfl⟩

/-- Carriage returns at the end of a line are no part of its words. -/
theorem lineWords_append_returns {returns : List Char}
    (h : ∀ c ∈ returns, (c == '\r') = true) (kept : List Char) :
    lineWords (kept ++ returns) = lineWords kept := by
  have hblank : ∀ c ∈ returns, isBlank c = true := by
    intro c hc
    rw [beq_iff_eq.mp (h c hc)]
    decide
  have hmark : ∀ c ∈ returns, (c == '#') = false := by
    intro c hc
    rw [beq_iff_eq.mp (h c hc)]
    decide
  obtain ⟨hmarks, hrest⟩ := takeWhile_dropWhile_append hmark kept
  rw [lineWords_eq, lineWords_eq, hmarks, hrest]
  cases kept.dropWhile (· == '#') with
  | nil =>
      rw [List.nil_append, longWords_of_isBlank hblank]
      simp
  | cons c rest =>
      rw [longWords_append_right hblank, List.cons_append, List.head?_cons, List.head?_cons]

theorem lineWords_withoutReturns (line : List Char) :
    lineWords (withoutReturns line) = lineWords line := by
  obtain ⟨returns, hline, hreturns⟩ := exists_eq_dropEndWhile_append (· == '\r') line
  conv_rhs => rw [hline, lineWords_append_returns hreturns]
  rfl

theorem lineWords_of_isFence (h : isFence line = true) : lineWords line = [] := by
  cases line with
  | nil => rfl
  | cons c line =>
      have hmark : ¬ (c == '#') = true := by
        intro hc
        rw [beq_iff_eq.mp hc, isFence, List.dropWhile_cons_of_neg (by decide)] at h
        simp at h
      have hmarks : (c :: line).takeWhile (· == '#') = [] :=
        List.takeWhile_cons_of_neg hmark
      rw [lineWords_eq, hmarks]
      rfl

/-! ## Lines inside fenced blocks -/

/-- The lines above which a fence was left open, or those above which none was. -/
def linesWhere (fenced : Bool) : Bool → List (List Char) → List (List Char)
  | _, [] => []
  | inFence, line :: lines =>
    let below := linesWhere fenced (inFence ^^ isFence line) lines
    if inFence = fenced then line :: below else below

theorem linesWhere_sublist (fenced inFence : Bool) (lines : List (List Char)) :
    (linesWhere fenced inFence lines).Sublist lines := by
  induction lines generalizing inFence with
  | nil => exact List.Sublist.slnil
  | cons line lines ih =>
      rw [linesWhere]
      split
      · exact (ih _).cons_cons line
      · exact (ih _).cons line

theorem perm_linesWhere (inFence : Bool) (lines : List (List Char)) :
    lines.Perm (linesWhere false inFence lines ++ linesWhere true inFence lines) := by
  induction lines generalizing inFence with
  | nil => exact List.Perm.nil
  | cons line lines ih =>
      have hbelow := (ih (inFence ^^ isFence line)).cons line
      cases inFence with
      | false => exact hbelow
      | true => exact hbelow.trans List.perm_middle.symm

/-- The line stands on the row, and an odd number of fences above it. -/
def IsFencedLine (lines : List (List Char)) (row : ℕ) (line : List Char) : Prop :=
  lines[row]? = some line ∧ ¬ Even ((lines.take row).countP isFence)

theorem mem_linesWhere_true_iff :
    line ∈ linesWhere true inFence lines ↔
      ∃ row, lines[row]? = some line ∧
        ¬ Even (inFence.toNat + (lines.take row).countP isFence) := by
  induction lines generalizing inFence with
  | nil => simp [linesWhere]
  | cons first lines ih =>
      have hsplit : (∃ row, (first :: lines)[row]? = some line ∧
            ¬ Even (inFence.toNat + ((first :: lines).take row).countP isFence)) ↔
          inFence = true ∧ line = first ∨
            line ∈ linesWhere true (inFence ^^ isFence first) lines := by
        rw [ih]
        constructor
        · rintro ⟨row, hline, hfences⟩
          cases row with
          | zero =>
              refine .inl ⟨?_, (Option.some.inj hline).symm⟩
              cases inFence with
              | false => simp at hfences
              | true => rfl
          | succ row => exact .inr ⟨row, hline, fun h => hfences (even_fences_cons.mpr h)⟩
        · rintro (⟨rfl, rfl⟩ | ⟨row, hline, hfences⟩)
          · exact ⟨0, rfl, by simp⟩
          · exact ⟨row + 1, hline, fun h => hfences (even_fences_cons.mp h)⟩
      rw [hsplit, linesWhere]
      cases inFence with
      | false => simp
      | true => simp

/-- The fenced lines are those that stand below an open fence. -/
theorem mem_linesWhere_iff :
    line ∈ linesWhere true false lines ↔ ∃ row, IsFencedLine lines row line := by
  rw [mem_linesWhere_true_iff]
  simp [IsFencedLine]

/-! ## Both scans -/

/-- The titles of the sections have the words of the lines outside fenced blocks. -/
theorem flatMap_headingsFrom (inFence : Bool) (row : ℕ) (lines : List (List Char)) :
    ((headingsFrom inFence row lines).flatMap fun h => longWords h.2) =
      (linesWhere false inFence lines).flatMap lineWords := by
  induction lines generalizing inFence row with
  | nil => rfl
  | cons line lines ih =>
      have hbelow := ih (inFence ^^ isFence line) (row + 1)
      rw [headingsFrom, linesWhere]
      cases hfence : isFence line with
      | true =>
          -- a fence gives no words to either
          rw [hfence, Bool.xor_true] at hbelow
          rw [if_pos rfl, hbelow, Bool.xor_true]
          cases inFence with
          | true => rfl
          | false => exact (congrArg (· ++ _) (lineWords_of_isFence hfence)).symm
      | false =>
          rw [hfence, Bool.xor_false] at hbelow
          rw [if_neg Bool.false_ne_true, Bool.xor_false]
          cases inFence with
          | true => exact hbelow
          | false =>
              have hwords : ((headingTitle? (withoutReturns line)).map trim).elim []
                  longWords = lineWords line := by
                rw [← lineWords_withoutReturns, lineWords]
                cases headingTitle? (withoutReturns line) with
                | none => rfl
                | some title => exact longWords_trim title
              rw [if_neg Bool.false_ne_true, if_pos rfl,
                List.flatMap_cons, ← hbelow, ← hwords]
              cases headingTitle? (withoutReturns line) with
              | none => rfl
              | some title => rfl

def fileLines (content : String) : List (List Char) :=
  (Text.lines content).map String.toList

def headingWords (content : String) : List String :=
  ((fileLines content).filterMap headingTitle?).flatMap longWords

def boldWords (content : String) : List String :=
  (boldSpans content.toList).flatMap longWords

def titleWords (content : String) : List String :=
  (fileHeadings content).flatMap fun h => longWords h.2

/-- No line inside a fenced block looks like a heading with longer words. -/
def FencesHideNoWords (content : String) : Prop :=
  ∀ row line, IsFencedLine (fileLines content) row line → lineWords line = []

variable {path content : String} {s : Section}

theorem markdownKeywords_eq (content : String) :
    markdownKeywords content = (headingWords content ++ boldWords content).eraseDups := by
  rw [markdownKeywords, headingWords, fileLines, toList_lines]
  rfl

theorem headingWords_eq (content : String) :
    headingWords content = (fileLines content).flatMap lineWords := by
  rw [headingWords, List.filterMap_eq_flatMap_toList, List.flatMap_assoc]
  refine List.flatMap_congr fun line _ => ?_
  rw [lineWords]
  cases headingTitle? line with
  | none => rfl
  | some title => simp

theorem titleWords_eq (content : String) :
    titleWords content = (linesWhere false false (fileLines content)).flatMap lineWords :=
  flatMap_headingsFrom false 0 (fileLines content)

theorem titleWords_sublist (content : String) :
    (titleWords content).Sublist (headingWords content) := by
  rw [titleWords_eq, headingWords_eq]
  exact (linesWhere_sublist false false _).flatMap lineWords

/-- What the titles do not have of the words comes from the fenced lines. -/
theorem perm_headingWords (content : String) :
    (headingWords content).Perm
      (titleWords content ++
      (linesWhere true false (fileLines content)).flatMap lineWords) := by
  rw [headingWords_eq, titleWords_eq, ← List.flatMap_append]
  exact (perm_linesWhere false (fileLines content)).flatMap_right lineWords

theorem mem_headingWords_iff {w : String} :
    w ∈ headingWords content ↔
      w ∈ titleWords content ∨ ∃ row line, IsFencedLine (fileLines content) row line ∧
        w ∈ lineWords line := by
  rw [(perm_headingWords content).mem_iff, List.mem_append, List.mem_flatMap]
  simp only [mem_linesWhere_iff]
  grind

theorem fencesHideNoWords_iff :
    FencesHideNoWords content ↔
      (linesWhere true false (fileLines content)).flatMap lineWords = [] := by
  rw [List.flatMap_eq_nil_iff, FencesHideNoWords]
  simp only [mem_linesWhere_iff]
  grind

theorem headingWords_eq_titleWords_iff :
    headingWords content = titleWords content ↔ FencesHideNoWords content := by
  have hlength := (perm_headingWords content).length_eq
  rw [List.length_append] at hlength
  rw [fencesHideNoWords_iff, ← List.length_eq_zero_iff]
  constructor
  · intro h
    rw [h] at hlength
    omega
  · intro h
    exact ((titleWords_sublist content).eq_of_length (by omega)).symm

/-! ## Sections -/

theorem even_fences_above (hmem : s ∈ sections path content) :
    Even (((fileLines content).take s.firstRow).countP isFence) := by
  rcases isPreamble_or_isAtHeading hmem with h | h
  · simp [h.firstRow_eq]
  · obtain ⟨title, hmem, -⟩ := h.mem_headings
    obtain ⟨-, -, -, hclosed, -⟩ := mem_fileHeadings_iff.mp (List.mem_map_of_mem hmem)
    exact hclosed

/-- What is fenced in a section is fenced in the file. -/
theorem FencesHideNoWords.of_mem_sections (h : FencesHideNoWords content)
    (hmem : s ∈ sections path content) :
    FencesHideNoWords (Text.unlines s.lines) := by
  have hin := isIn_of_mem_sections hmem
  have habove := even_fences_above hmem
  rw [fileLines] at habove
  rintro row line ⟨hline, hfenced⟩
  rw [fileLines, lines_unlines_section hin, map_toList_lines hin] at hline hfenced
  have hrow := lt_of_getElem?_excerpt hline
  rw [getElem?_excerpt hrow] at hline
  rw [even_fences_excerpt habove hrow] at hfenced
  exact h _ line ⟨hline, hfenced⟩

theorem titleWords_unlines (hmem : s ∈ sections path content) :
    titleWords (Text.unlines s.lines) = [] ∨ titleWords (Text.unlines s.lines) =
      longWords s.title.toList := by
  have hin := isIn_of_mem_sections hmem
  rcases isPreamble_or_isAtHeading hmem with h | h
  · rw [titleWords, fileHeadings_of_isPreamble hin h]
    exact .inl rfl
  · obtain ⟨title, hheadings, htitle⟩ := fileHeadings_of_isAtHeading hin h
    rw [titleWords, hheadings, htitle, String.toList_ofList]
    exact .inr (by simp)

/-! ## Keywords -/

/-- The words that keywords are taken from hold those of the titles in order, and
besides these the ones of lines inside fenced blocks that look like headings. Where no
fenced line gives any, the headings give the keywords of a README and of all sections
nothing but the longer words of titles. -/
theorem heading_scans_agree_iff (path content : String) :
    markdownKeywords content = (headingWords content ++ boldWords content).eraseDups ∧
      (titleWords content).Sublist (headingWords content) ∧
      (∀ w, w ∈ headingWords content ↔
        w ∈ titleWords content ∨ ∃ row line, IsFencedLine (fileLines content) row line ∧
          w ∈ lineWords line) ∧
      (headingWords content = titleWords content ↔ FencesHideNoWords content) ∧
      (FencesHideNoWords content →
        (readmeChunk path content).keywords
            = ("readme" :: "documentation" ::
              (titleWords content ++ boldWords content).eraseDups).eraseDups ∧
          ∀ c ∈ markdownChunks path content,
            (titleWords c.code = [] ∨ titleWords c.code = longWords c.name.toList) ∧
              c.keywords = ((if c.name.isEmpty then [] else [lowerText c.name])
                ++ (titleWords c.code ++ boldWords c.code).eraseDups).eraseDups) := by
  refine ⟨markdownKeywords_eq content, titleWords_sublist content,
    fun w => mem_headingWords_iff,
    headingWords_eq_titleWords_iff, fun h => ⟨?_, fun c hc => ?_⟩⟩
  · rw [readmeChunk, markdownKeywords_eq, headingWords_eq_titleWords_iff.mpr h]
  · obtain ⟨s, hs, rfl⟩ := List.mem_map.mp hc
    refine ⟨titleWords_unlines hs, ?_⟩
    rw [Section.chunk, markdownKeywords_eq,
      headingWords_eq_titleWords_iff.mpr (h.of_mem_sections hs)]

/-- A carriage return behind a heading, and a comment in a fenced block without longer
words. -/
def harmlessFence : String :=
  "# Guide\r\n~~~\n# run it\n~~~\n"

theorem heading_scans_agree_harmlessFence :
    FencesHideNoWords harmlessFence ∧ headingWords harmlessFence = ["guide"] ∧
      headingWords harmlessFence = titleWords harmlessFence ∧
      (readmeChunk "README.md" harmlessFence).keywords
        = ("readme" :: "documentation" ::
          (titleWords harmlessFence ++ boldWords harmlessFence).eraseDups).eraseDups := by
  have hhidden : FencesHideNoWords harmlessFence :=
    fencesHideNoWords_iff.mpr (by decide +kernel)
  obtain ⟨-, -, -, hagree, hkeywords⟩ := heading_scans_agree_iff "README.md" harmlessFence
  exact ⟨hhidden, by decide +kernel, hagree.mpr hhidden, (hkeywords hhidden).1⟩

def fencedComment : String :=
  "\x60\x60\x60bash\n# Install packages\n\x60\x60\x60"

/-- No heading opens a section, but a fenced comment gives keywords. -/
theorem fencedComment_gives_keywords :
    fileHeadings fencedComment = [] ∧ titleWords fencedComment = [] ∧
      headingWords fencedComment = ["install", "packages"] ∧
      markdownKeywords fencedComment = ["install", "packages"] := by
  have hnone : fileHeadings fencedComment = [] := by decide +kernel
  exact ⟨hnone, by rw [titleWords, hnone]; rfl, by decide +kernel, by decide +kernel⟩

end CodeRetrieval.Document
