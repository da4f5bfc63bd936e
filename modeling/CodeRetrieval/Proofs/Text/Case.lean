import CodeRetrieval.Text.Case

/-!
# Lower-case forms of texts

Lower-casing looks at what stands around a character only for a capital sigma, and then
no further than to the next character that is neither skipped nor has case. Such a
character cuts a text in two that are lower-cased one by one.
-/

namespace CodeRetrieval.Text

variable {c : Char} {s : List Char}

/-! ## ASCII -/

/-- What holds of all code points of ASCII holds of all its characters. -/
@[elab_as_elim]
theorem forall_of_ascii {P : Char → Prop} (h : ∀ n < 128, P (Char.ofNat n))
    (hc : c.toNat < 128) : P c := by
  have hc := h c.toNat hc
  rwa [Char.ofNat_toNat] at hc

theorem toNat_lt_of_isAlphanum (h : c.isAlphanum = true) : c.toNat < 128 := by
  delta Char.isAlphanum Char.isAlpha Char.isUpper Char.isLower Char.isDigit at h
  simp only [Bool.or_eq_true, Bool.and_eq_true, decide_eq_true_eq, ge_iff_le,
    UInt32.le_iff_toNat_le] at h
  have hupper : 'Z'.val.toNat = 90 := rfl
  have hlower : 'z'.val.toNat = 122 := rfl
  have hdigit : '9'.val.toNat = 57 := rfl
  show c.val.toNat < 128
  omega

theorem lowerChar_of_ascii (hc : c.toNat < 128) : lowerChar c = [c.toLower] :=
  if_pos hc

theorem lower_of_ascii (h : ∀ c ∈ s, c.toNat < 128) : lower s = s.map Char.toLower :=
  if_pos (by simpa using h)

theorem lowerFrom_of_ascii (h : ∀ c ∈ s, c.toNat < 128) (afterCased : Bool) :
    lowerFrom afterCased s = s.map Char.toLower := by
  induction s generalizing afterCased with
  | nil => rfl
  | cons c s ih =>
      obtain ⟨hc, hs⟩ := List.forall_mem_cons.mp h
      have hsigma : c ≠ 'Σ' := by
        rintro rfl
        exact absurd hc (by decide)
      simp only [lowerFrom, if_neg hsigma, lowerChar_of_ascii hc, ih hs, List.map_cons,
        List.cons_append, List.nil_append]

theorem lower_eq_lowerFrom (s : List Char) : lower s = lowerFrom false s := by
  by_cases h : ∀ c ∈ s, c.toNat < 128
  · rw [lower_of_ascii h, lowerFrom_of_ascii h]
  · exact if_neg (by simpa using h)

/-! ## Texts cut in two -/

section

variable (hignorable : isCaseIgnorable c = false) (hcased : isCased c = false)
include hignorable hcased

theorem startsCased_append_cons (s t : List Char) :
    startsCased (s ++ c :: t) = startsCased s := by
  rw [startsCased, startsCased, List.dropWhile_append]
  cases hrest : s.dropWhile isCaseIgnorable with
  | nil => simp [hignorable, hcased]
  | cons d rest => simp

theorem lowerFrom_append_cons (afterCased : Bool) (s t : List Char) :
    lowerFrom afterCased (s ++ c :: t) =
      lowerFrom afterCased s ++ (lowerChar c ++ lowerFrom false t) := by
  induction s generalizing afterCased with
  | nil =>
      have hsigma : c ≠ 'Σ' := by
        rintro rfl
        exact absurd hcased (by decide)
      simp [lowerFrom, hsigma, hignorable, hcased]
  | cons d s ih =>
      simp only [List.cons_append, lowerFrom, ih, startsCased_append_cons hignorable hcased]
      split
      · rfl
      · rw [List.append_assoc]

/-- At a character that is not skipped and has no case a text falls into two. -/
theorem lower_append_cons (s t : List Char) :
    lower (s ++ c :: t) = lower s ++ (lowerChar c ++ lower t) := by
  rw [lower_eq_lowerFrom, lower_eq_lowerFrom, lower_eq_lowerFrom,
    lowerFrom_append_cons hignorable hcased]

end

/-! ## Blanks -/

/-- No range of one list has a number in common with a range of the other one. -/
def apart (xs ys : List (Nat × Nat)) : Bool :=
  -- these comparisons are evaluated for all pairs of ranges, where `decide` takes much
  -- longer
  xs.all fun r => ys.all fun s => Nat.blt r.2 s.1 || Nat.blt s.2 r.1

theorem inRanges_eq_false_of_apart {xs ys : List (Nat × Nat)} (h : apart xs ys = true)
    {n : Nat} (hn : inRanges xs n = true) : inRanges ys n = false := by
  obtain ⟨r, hr, hrn⟩ := List.any_eq_true.mp hn
  refine List.any_eq_false.mpr fun s hs hsn => ?_
  have hapart := List.all_eq_true.mp (List.all_eq_true.mp h r hr) s hs
  simp only [Bool.or_eq_true, Bool.and_eq_true, Nat.blt_eq,
    decide_eq_true_eq] at hapart hrn hsn
  omega

/-- What holds of the characters of all ranges holds of every character with a code
point in one of them. -/
@[elab_as_elim]
theorem forall_of_inRanges {ranges : List (Nat × Nat)} {P : Char → Prop}
    (h : ∀ r ∈ ranges, ∀ i < r.2 + 1 - r.1, P (Char.ofNat (r.1 + i)))
    (hc : inRanges ranges c.toNat = true) : P c := by
  obtain ⟨r, hr, hle⟩ := List.any_eq_true.mp hc
  rw [Bool.and_eq_true, decide_eq_true_eq, decide_eq_true_eq] at hle
  have hP := h r hr (c.toNat - r.1) (by omega)
  rwa [Nat.add_sub_cancel' hle.1, Char.ofNat_toNat] at hP

theorem isAlphanum_of_isBlank (hc : isBlank c = true) : c.isAlphanum = false :=
  forall_of_inRanges (P := fun c => c.isAlphanum = false) (by decide +kernel) hc

/-- Lower-casing does not look across a blank. -/
theorem caseless_of_isBlank (hc : isBlank c = true) :
    isCaseIgnorable c = false ∧ isCased c = false :=
  ⟨inRanges_eq_false_of_apart (by decide +kernel) hc,
   inRanges_eq_false_of_apart (by decide +kernel) hc⟩

theorem lowerChar_of_isBlank (hc : isBlank c = true) : lowerChar c = [c] :=
  forall_of_inRanges (by decide +kernel) hc

/-- A blank separates the lower-case forms of the texts before and behind it. -/
theorem lower_append_blank (hc : isBlank c = true) (s t : List Char) :
    lower (s ++ c :: t) = lower s ++ c :: lower t := by
  obtain ⟨hignorable, hcased⟩ := caseless_of_isBlank hc
  rw [lower_append_cons hignorable hcased, lowerChar_of_isBlank hc, List.singleton_append]

end CodeRetrieval.Text
