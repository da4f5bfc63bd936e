import CodeRetrieval.Document.Markdown
import Mathlib.Data.List.Nodup

/-!
# Sections of a markdown file

Every section holds the rows of the file that it says it does, and the sections start on
different rows, in order.
-/

namespace CodeRetrieval.Document

/-- The section holds the rows of a text from its first row on, and ends inside the text. -/
structure Section.IsIn (s : Section) (lines : List String) : Prop where
  lines_eq : s.lines = (lines.take (s.firstRow + s.lines.length)).drop s.firstRow
  ends_inside : s.firstRow + s.lines.length ≤ lines.length

theorem Section.ofRows?_eq_some {lines : List String} {title : String} {first stop : Nat}
    {s : Section} (h : Section.ofRows? lines title first stop = some s) :
    s.firstRow = first ∧ s.IsIn lines := by
  rw [ofRows?] at h
  split at h
  · rename_i hne
    cases h
    -- `stop` may lie below the last line
    have hlength : first + ((lines.take stop).drop first).length =
        min stop lines.length := by
      have := List.length_pos_iff.mpr hne
      rw [List.length_drop, List.length_take] at *
      omega
    refine ⟨rfl, ?_, ?_⟩
    · rw [hlength, ← List.take_eq_take_min]
    · rw [hlength]
      exact Nat.min_le_right _ _
  · cases h

/-! ## Rows of headings -/

theorem le_of_mem_headingsFrom {inFence : Bool} {row : Nat} {lines : List (List Char)}
    {h : Nat × List Char} (hmem : h ∈ headingsFrom inFence row lines) : row ≤ h.1 := by
  induction lines generalizing inFence row with
  | nil => cases hmem
  | cons line lines ih =>
      rw [headingsFrom] at hmem
      split at hmem
      · exact Nat.le_of_succ_le (ih hmem)
      · split at hmem
        · exact Nat.le_of_succ_le (ih hmem)
        · split at hmem
          · rcases List.mem_cons.mp hmem with rfl | hmem
            · exact Nat.le_refl row
            · exact Nat.le_of_succ_le (ih hmem)
          · exact Nat.le_of_succ_le (ih hmem)

theorem pairwise_headingsFrom (inFence : Bool) (row : Nat) (lines : List (List Char)) :
    (headingsFrom inFence row lines).Pairwise fun a b => a.1 < b.1 := by
  induction lines generalizing inFence row with
  | nil => exact List.Pairwise.nil
  | cons line lines ih =>
      rw [headingsFrom]
      split
      · exact ih _ _
      · split
        · exact ih _ _
        · split
          · exact List.pairwise_cons.mpr ⟨fun h hmem => le_of_mem_headingsFrom hmem, ih _ _⟩
          · exact ih _ _

/-! ## Rows of sections -/

theorem of_mem_sectionsAt {lines : List String} {hs : List (Nat × List Char)} {s : Section}
    (hmem : s ∈ sectionsAt lines hs) : s.IsIn lines ∧ ∃ h ∈ hs, s.firstRow = h.1 := by
  induction hs with
  | nil => cases hmem
  | cons h hs ih =>
      rw [sectionsAt] at hmem
      rcases List.mem_append.mp hmem with hmem | hmem
      · obtain ⟨hfirst, hin⟩ := Section.ofRows?_eq_some (Option.mem_toList.mp hmem)
        exact ⟨hin, h, List.mem_cons_self, hfirst⟩
      · obtain ⟨hin, k, hk, hfirst⟩ := ih hmem
        exact ⟨hin, k, List.mem_cons_of_mem _ hk, hfirst⟩

theorem pairwise_sectionsAt {lines : List String} {hs : List (Nat × List Char)}
    (hrows : hs.Pairwise fun a b => a.1 < b.1) :
    (sectionsAt lines hs).Pairwise fun s t => s.firstRow < t.firstRow := by
  induction hs with
  | nil => exact List.Pairwise.nil
  | cons h hs ih =>
      obtain ⟨hfirst, hrows⟩ := List.pairwise_cons.mp hrows
      rw [sectionsAt]
      refine List.pairwise_append.mpr ⟨?_, ih hrows, ?_⟩
      · cases Section.ofRows? lines (String.ofList h.2) h.1
          (hs.head?.elim lines.length (·.1)) <;> simp
      · intro s hs' t ht
        obtain ⟨hs', -⟩ := Section.ofRows?_eq_some (Option.mem_toList.mp hs')
        obtain ⟨-, k, hk, ht⟩ := of_mem_sectionsAt ht
        rw [hs', ht]
        exact hfirst k hk

theorem isIn_of_mem_sections {path content : String} {s : Section}
    (hmem : s ∈ sections path content) :
    s.IsIn (Text.lines content) := by
  rw [sections] at hmem
  split at hmem
  · exact (Section.ofRows?_eq_some (Option.mem_toList.mp hmem)).2
  · rcases List.mem_append.mp hmem with hmem | hmem
    · split at hmem
      · cases hmem
      · exact (Section.ofRows?_eq_some (Option.mem_toList.mp hmem)).2
    · exact (of_mem_sectionsAt hmem).1

/-- The sections of a file start in order. What stands before the first heading is a
section only if the first heading is not on the first row. -/
theorem pairwise_sections (path content : String) :
    (sections path content).Pairwise fun s t => s.firstRow < t.firstRow := by
  rw [sections]
  split
  · cases Section.ofRows? (Text.lines content) (fileNameOr "document" path) 0
      (Text.lines content).length <;> simp
  · rename_i row title rest hheadings
    have hrows : ((row, title) :: rest).Pairwise fun a b => a.1 < b.1 := by
      rw [← hheadings]
      exact pairwise_headingsFrom _ _ _
    refine List.pairwise_append.mpr ⟨?_, pairwise_sectionsAt hrows, ?_⟩
    · split
      · exact List.Pairwise.nil
      · cases Section.ofRows? (Text.lines content) (fileNameOr "document" path) 0 row <;>
          simp
    · intro s hs t ht
      split at hs
      · cases hs
      · rename_i hblank
        -- above a heading on the first row there is nothing, which is blank
        have hrow : 0 < row := by
          by_contra h
          have : row = 0 := by omega
          simp [this] at hblank
        obtain ⟨hs, -⟩ := Section.ofRows?_eq_some (Option.mem_toList.mp hs)
        obtain ⟨-, k, hk, ht⟩ := of_mem_sectionsAt ht
        have hk : row ≤ k.1 := by
          rcases List.mem_cons.mp hk with rfl | hk
          · exact Nat.le_refl _
          · exact Nat.le_of_lt ((List.pairwise_cons.mp hrows).1 k hk)
        omega

end CodeRetrieval.Document
