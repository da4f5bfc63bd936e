import CodeRetrieval.Document.Markdown
import Mathlib.Algebra.Group.Nat.Even
import Mathlib.Data.List.TakeWhile

/-!
# Headings of a markdown file

A heading line is one to three hash marks, blanks and a title. A row of a file opens a
section when it is a heading line above which as many fences were closed as were opened,
and these rows are the ones that the scan of the file finds, in order.
-/

namespace CodeRetrieval.Document

open Text

variable {line : List Char} {lines : List (List Char)}

/-! ## Heading lines -/

/-- One to three hash marks, at least one blank, and a title that is not empty. -/
def IsHeadingLine (line : List Char) : Prop :=
  ∃ level blanks title, line = List.replicate level '#' ++ (blanks ++ title) ∧
    1 ≤ level ∧ level ≤ 3 ∧
    blanks ≠ [] ∧ (∀ c ∈ blanks, isBlank c) ∧ title ≠ []

theorem drop_length_takeWhile (p : Char → Bool) (s : List Char) :
    s.drop (s.takeWhile p).length = s.dropWhile p := by
  have hleft : (s.takeWhile p ++ s.dropWhile p).drop (s.takeWhile p).length =
      s.dropWhile p := List.drop_left
  rwa [List.takeWhile_append_dropWhile] at hleft

/-- Behind the hash marks of a heading line stand a blank and at least one more
character. -/
theorem isHeadingLine_iff :
    IsHeadingLine line ↔ 1 ≤ (line.takeWhile (· == '#')).length ∧
      (line.takeWhile (· == '#')).length ≤ 3 ∧
      ∃ c d rest, line.dropWhile (· == '#') = c :: d :: rest ∧ isBlank c := by
  constructor
  · rintro ⟨level, blanks, title, rfl, hone, hthree, hblanks, hall, htitle⟩
    obtain ⟨c, blanks, rfl⟩ := List.exists_cons_of_ne_nil hblanks
    have hc : isBlank c := hall c List.mem_cons_self
    have hmark : ¬ (c == '#') = true := by
      intro h
      rw [beq_iff_eq.mp h] at hc
      exact absurd hc (by decide)
    have hmarks : ∀ x ∈ List.replicate level '#', (x == '#') = true := by
      intro x hx
      rw [List.eq_of_mem_replicate hx]
      rfl
    obtain ⟨d, rest, hrest⟩ :=
      List.exists_cons_of_ne_nil (List.append_ne_nil_of_right_ne_nil blanks htitle)
    have htake : (c :: (blanks ++ title)).takeWhile (· == '#') = [] :=
      List.takeWhile_cons_of_neg hmark
    have hdrop : (c :: (blanks ++ title)).dropWhile (· == '#') = c :: (blanks ++ title) :=
      List.dropWhile_cons_of_neg hmark
    rw [List.takeWhile_append_of_pos hmarks, List.dropWhile_append_of_pos hmarks,
      List.cons_append, htake, hdrop, List.append_nil, List.length_replicate]
    exact ⟨hone, hthree, c, d, rest, by rw [hrest], hc⟩
  · rintro ⟨hone, hthree, c, d, rest, hrest, hc⟩
    have hmarks : line.takeWhile (· == '#') =
        List.replicate (line.takeWhile (· == '#')).length '#' :=
      List.eq_replicate_iff.mpr ⟨rfl, fun x hx => by simpa using List.mem_takeWhile_imp hx⟩
    refine ⟨_, [c], d :: rest, ?_, hone, hthree, by simp, by simpa using hc, by simp⟩
    rw [← hmarks, List.singleton_append, ← hrest, List.takeWhile_append_dropWhile]

theorem isSome_headingTitle?_iff : (headingTitle? line).isSome ↔ IsHeadingLine line := by
  rw [isHeadingLine_iff, headingTitle?]
  simp only [drop_length_takeWhile]
  generalize line.takeWhile (· == '#') = marks
  generalize line.dropWhile (· == '#') = rest
  have hlevel : (marks.isEmpty || decide (3 < marks.length)) = true ↔
      ¬ (1 ≤ marks.length ∧ marks.length ≤ 3) := by
    rw [Bool.or_eq_true, List.isEmpty_iff, decide_eq_true_eq, ← List.length_eq_zero_iff]
    omega
  by_cases hmarks : 1 ≤ marks.length ∧ marks.length ≤ 3
  · rw [if_neg fun h => hlevel.mp h hmarks]
    simp only [hmarks.1, hmarks.2, true_and]
    match rest with
    | [] => simp
    | [c] =>
      by_cases hc : isBlank c
      · simp [hc]
      · simp [hc]
    | c :: d :: rest =>
      cases htitle : (c :: d :: rest).dropWhile isBlank with
      | nil =>
          -- blanks only, of which the last stands for the title
          have hc : isBlank c := List.dropWhile_eq_nil_iff.mp htitle c List.mem_cons_self
          have htwo : 2 ≤ (c :: d :: rest).reverse.length := by simp
          generalize (c :: d :: rest).reverse = back at htwo
          match back, htwo with
          | last :: before :: back, _ => simp [hc]
      | cons e title =>
        by_cases hc : isBlank c
        · simp [hc]
        · simp [hc]
  · rw [if_pos (hlevel.mpr hmarks)]
    simp only [Option.isSome_none, Bool.false_eq_true, false_iff]
    rintro ⟨hone, hthree, -⟩
    exact hmarks ⟨hone, hthree⟩

/-! ## Heading rows -/

/-- The row holds a heading line, and the fences above it are closed. -/
def IsHeadingRow (lines : List (List Char)) (row : ℕ) : Prop :=
  ∃ line, lines[row]? = some line ∧ isFence line = false ∧
    Even ((lines.take row).countP isFence) ∧
    IsHeadingLine (withoutReturns line)

/-- The row is a heading row below a text in which a fence was left open or not. -/
def IsHeadingRowBelow (inFence : Bool) (lines : List (List Char)) (row : ℕ) : Prop :=
  ∃ line, lines[row]? = some line ∧ isFence line = false ∧
    Even (inFence.toNat + (lines.take row).countP isFence) ∧
      IsHeadingLine (withoutReturns line)

theorem isHeadingRowBelow_false {row : ℕ} :
    IsHeadingRowBelow false lines row ↔ IsHeadingRow lines row := by
  simp [IsHeadingRowBelow, IsHeadingRow]

theorem isHeadingRowBelow_zero {inFence : Bool} :
    IsHeadingRowBelow inFence (line :: lines) 0 ↔
    isFence line = false ∧ inFence = false ∧ IsHeadingLine (withoutReturns line) := by
  cases inFence with
  | false => simp [IsHeadingRowBelow]
  | true => simp [IsHeadingRowBelow]

/-- A fence changes whether one is open, and no other line does. -/
theorem even_fences_cons {inFence : Bool} {row : ℕ} :
    Even (inFence.toNat + ((line :: lines).take (row + 1)).countP isFence) ↔
      Even ((inFence ^^ isFence line).toNat + (lines.take row).countP isFence) := by
  rw [List.take_succ_cons, List.countP_cons]
  generalize (lines.take row).countP isFence = fences
  cases inFence with
  | false =>
      cases isFence line with
      | false => simp
      | true => simp [Nat.add_comm]
  | true =>
      cases isFence line with
      | false => simp
      | true =>
          have htwice : 1 + (fences + 1) = fences + 1 + 1 := by omega
          simp [htwice, Nat.even_add_one]

theorem isHeadingRowBelow_succ {inFence : Bool} {row : ℕ} :
    IsHeadingRowBelow inFence (line :: lines) (row + 1) ↔
    IsHeadingRowBelow (inFence ^^ isFence line) lines row := by
  simp only [IsHeadingRowBelow, List.getElem?_cons_succ, even_fences_cons]

theorem mem_headingsFrom_iff {inFence : Bool} {first row : ℕ} :
    row ∈ (headingsFrom inFence first lines).map Prod.fst ↔
      ∃ i, row = first + i ∧ IsHeadingRowBelow inFence lines i := by
  induction lines generalizing inFence first with
  | nil => simp [headingsFrom, IsHeadingRowBelow]
  | cons line lines ih =>
      -- the row is that of the line itself or one below it, where the line decides
      -- whether a fence is open
      have hsplit : (∃ i, row = first + i ∧ IsHeadingRowBelow inFence (line :: lines) i) ↔
          row = first ∧ (isFence line = false ∧ inFence = false ∧
            IsHeadingLine (withoutReturns line)) ∨
            ∃ i, row = first + 1 + i ∧
              IsHeadingRowBelow (inFence ^^ isFence line) lines i := by
        constructor
        · rintro ⟨i, hrow, hi⟩
          cases i with
          | zero => exact .inl ⟨hrow, isHeadingRowBelow_zero.mp hi⟩
          | succ i => exact .inr ⟨i, by omega, isHeadingRowBelow_succ.mp hi⟩
        · rintro (⟨hrow, hfirst⟩ | ⟨i, hrow, hi⟩)
          · exact ⟨0, hrow, isHeadingRowBelow_zero.mpr hfirst⟩
          · exact ⟨i + 1, by omega, isHeadingRowBelow_succ.mpr hi⟩
      rw [hsplit, ← ih, headingsFrom]
      by_cases hfence : isFence line
      · simp [hfence]
      · by_cases hopen : inFence
        · simp [hfence, hopen]
        · rw [if_neg hfence, if_neg hopen]
          have htitle : (headingTitle? (withoutReturns line)).isSome ↔
              IsHeadingLine (withoutReturns line) :=
            isSome_headingTitle?_iff
          cases h : headingTitle? (withoutReturns line) with
          | none => simp [hfence, hopen, ← htitle, h]
          | some title => simp [hfence, hopen, ← htitle, h]

/-- The headings that open a section stand on the heading rows. -/
theorem mem_headings_iff {row : ℕ} :
    row ∈ (headings lines).map Prod.fst ↔ IsHeadingRow lines row := by
  rw [headings, mem_headingsFrom_iff]
  simp [isHeadingRowBelow_false]

end CodeRetrieval.Document
