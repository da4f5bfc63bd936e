import CodeRetrieval.Text.Blank
import Mathlib.Data.List.TakeWhile

/-!
# Trimming

Trimming takes the blanks off both ends of a text and stops at the first character on
each side that is none. What else stands around a text does not matter as long as it is
blank.
-/

namespace CodeRetrieval.Text

theorem exists_eq_dropEndWhile_append (p : Char → Bool) (s : List Char) :
    ∃ dropped, s = dropEndWhile p s ++ dropped ∧ ∀ c ∈ dropped, p c = true := by
  refine ⟨(s.reverse.takeWhile p).reverse, ?_, ?_⟩
  · rw [dropEndWhile, ← List.reverse_append, List.takeWhile_append_dropWhile,
      List.reverse_reverse]
  · intro c hc
    exact List.mem_takeWhile_imp (List.mem_reverse.mp hc)

theorem dropEndWhile_append {p : Char → Bool} {s t : List Char} (h : ∀ c ∈ t, p c = true) :
    dropEndWhile p (s ++ t) = dropEndWhile p s := by
  unfold dropEndWhile
  rw [List.reverse_append, List.dropWhile_append_of_pos]
  intro c hc
  exact h c (List.mem_reverse.mp hc)

theorem trim_append {s t : List Char} (h : ∀ c ∈ t, isBlank c = true) :
    trim (s ++ t) = trim s := by
  unfold trim trimStart
  by_cases hs : ∀ c ∈ s, isBlank c = true
  · -- nothing is left of either
    have hall : ∀ c ∈ s ++ t, isBlank c = true := by
      intro c hc
      rcases List.mem_append.mp hc with hc | hc
      · exact hs c hc
      · exact h c hc
    rw [List.dropWhile_eq_nil_iff.mpr hall, List.dropWhile_eq_nil_iff.mpr hs]
  · have hkept : (s.dropWhile isBlank).isEmpty = false := by
      rw [List.isEmpty_eq_false_iff]
      exact fun hnil => hs (List.dropWhile_eq_nil_iff.mp hnil)
    rw [List.dropWhile_append, hkept]
    exact dropEndWhile_append h

theorem exists_trimStart (s : List Char) :
    ∃ blanks, s = blanks ++ trimStart s ∧ ∀ c ∈ blanks, isBlank c = true :=
  ⟨s.takeWhile isBlank, List.takeWhile_append_dropWhile.symm, fun _ hc =>
    List.mem_takeWhile_imp hc⟩

/-- Trimming takes nothing but blanks off the ends. -/
theorem exists_trim (s : List Char) : ∃ before after, s = before ++ trim s ++ after ∧
    (∀ c ∈ before, isBlank c = true) ∧ ∀ c ∈ after, isBlank c = true := by
  obtain ⟨before, hstart, hbefore⟩ := exists_trimStart s
  obtain ⟨after, hend, hafter⟩ := exists_eq_dropEndWhile_append isBlank (trimStart s)
  refine ⟨before, after, ?_, hbefore, hafter⟩
  rw [List.append_assoc, trim, ← hend, ← hstart]

theorem trim_append_left {s t : List Char} (h : ∀ c ∈ t, isBlank c = true) :
    trim (t ++ s) = trim s := by
  rw [trim, trimStart, List.dropWhile_append_of_pos h]
  rfl

theorem trim_eq_self {s : List Char} {a z : Char} {front back : List Char}
    (hfront : s = a :: front) (hback : s = back ++ [z]) (ha : isBlank a = false)
    (hz : isBlank z = false) : trim s = s := by
  have hstart : trimStart s = s := by
    rw [trimStart, hfront, List.dropWhile_cons_of_neg (by simp [ha])]
  rw [trim, hstart, dropEndWhile, hback, List.reverse_append, List.reverse_singleton,
    List.singleton_append, List.dropWhile_cons_of_neg (by simp [hz]), List.reverse_cons,
    List.reverse_reverse]

end CodeRetrieval.Text
