import CodeRetrieval.Text.Blank
import CodeRetrieval.Text.Lines

/-!
# Runs of characters

The maximal runs of characters outside a class are the pieces between the characters of
the class, without the empty ones. So a character of the class cuts a text in two, whose
runs have nothing to do with each other.
-/

namespace CodeRetrieval.Text

variable {p : Char → Bool} {c : Char} {s run : List Char}

/-- Reading a text from its end, the first piece counts as begun when it holds anything. -/
theorem foldr_addToWords (p : Char → Bool) (s : List Char) :
    s.foldr (addToWords p) (false, [])
      = (!((s.splitOnP p).headD []).isEmpty, (s.splitOnP p).filter fun piece =>
        !piece.isEmpty) := by
  induction s with
  | nil => rfl
  | cons c s ih =>
      obtain ⟨first, rest, hpieces⟩ := List.exists_cons_of_ne_nil (List.splitOnP_ne_nil p s)
      rw [List.foldr_cons, ih, List.splitOnP_cons_eq_if_modifyHead, hpieces]
      cases first with
      | nil => by_cases hc : p c <;> simp [addToWords, hc]
      | cons d first => by_cases hc : p c <;> simp [addToWords, hc]

theorem runsOutside_eq_filter (p : Char → Bool) (s : List Char) :
    runsOutside p s = (s.splitOnP p).filter fun piece => !piece.isEmpty := by
  rw [runsOutside, foldr_addToWords]

/-- A character of the class separates the runs before it from those behind it. -/
theorem runsOutside_append_cons (hc : p c = true) (s t : List Char) :
    runsOutside p (s ++ c :: t) = runsOutside p s ++ runsOutside p t := by
  simp only [runsOutside_eq_filter, List.splitOnP_append_cons s t hc, List.filter_append]

theorem runsOutside_joinWith (hc : p c = true) (pieces : List (List Char)) :
    runsOutside p (joinWith [c] pieces) = pieces.flatMap (runsOutside p) := by
  induction pieces with
  | nil => rfl
  | cons piece pieces ih =>
      cases pieces with
      | nil => simp [joinWith]
      | cons next pieces =>
          rw [joinWith] at ih
          rw [joinWith, List.intercalate_cons_cons, List.append_assoc,
            List.singleton_append, runsOutside_append_cons hc, ih]
          rfl

theorem runsOutside_eq_singleton (hs : s ≠ []) (h : ∀ c ∈ s, p c = false) :
    runsOutside p s = [s] := by
  rw [runsOutside_eq_filter, List.splitOnP_eq_singleton h]
  simp [hs]

theorem not_of_mem_splitOnP (h : run ∈ s.splitOnP p) : ∀ c ∈ run, p c = false := by
  induction s generalizing run with
  | nil =>
      obtain rfl : run = [] := by simpa using h
      simp
  | cons d s ih =>
      obtain ⟨first, rest, hpieces⟩ := List.exists_cons_of_ne_nil (List.splitOnP_ne_nil p s)
      rw [hpieces] at ih
      rw [List.splitOnP_cons_eq_if_modifyHead, hpieces] at h
      split at h
      · rcases List.mem_cons.mp h with rfl | h
        · simp
        · exact ih h
      · rename_i hd
        rcases List.mem_cons.mp h with rfl | h
        · exact List.forall_mem_cons.mpr ⟨by simpa using hd, ih List.mem_cons_self⟩
        · exact ih (List.mem_cons_of_mem first h)

theorem flatten_splitOnP (p : Char → Bool) (s : List Char) :
    (s.splitOnP p).flatten = s.filter fun c => !p c := by
  induction s with
  | nil => rfl
  | cons c s ih =>
      obtain ⟨first, rest, hpieces⟩ := List.exists_cons_of_ne_nil (List.splitOnP_ne_nil p s)
      rw [hpieces] at ih
      rw [List.splitOnP_cons_eq_if_modifyHead, hpieces]
      by_cases hc : p c
      · simpa [hc] using ih
      · simpa [hc] using ih

theorem flatten_runsOutside (p : Char → Bool) (s : List Char) :
    (runsOutside p s).flatten = s.filter fun c => !p c := by
  rw [runsOutside_eq_filter, ← flatten_splitOnP]
  induction s.splitOnP p with
  | nil => rfl
  | cons piece pieces ih => cases piece <;> simp [ih]

theorem of_mem_runsOutside (h : run ∈ runsOutside p s) :
    run ≠ [] ∧ ∀ c ∈ run, p c = false := by
  rw [runsOutside_eq_filter, List.mem_filter] at h
  exact ⟨by simpa using h.2, not_of_mem_splitOnP h.1⟩

end CodeRetrieval.Text
