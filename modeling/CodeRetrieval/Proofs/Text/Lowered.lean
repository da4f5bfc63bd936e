import CodeRetrieval.Proofs.Text.Contains

/-!
# Lower-cased texts

A text that has been lower-cased stays as it is when it is lower-cased again. Nothing
that a character becomes in lower case has another lower-case form itself, and a sigma
that has been lower-cased once keeps its form.
-/

namespace CodeRetrieval.Text

def IsLowered (s : List Char) : Prop :=
  ∀ c ∈ s, lowerChar c = [c]

/-! ## The table of lower-case forms -/

/-- What becomes of a run is below another one, above it, or, where every other
character belongs to both, between its members. -/
def CaseRun.avoids (r q : CaseRun) : Bool :=
  let first := (r.first + r.shift).toNat
  let last := (r.last + r.shift).toNat
  -- these comparisons are evaluated for all pairs of runs, where `decide` takes twice
  -- as long
  Nat.blt q.last first || Nat.blt last q.first ||
    (Nat.beq r.step 2 || Nat.beq r.first r.last) && Nat.beq q.step 2 &&
      Nat.beq ((first + q.first) % 2) 1

theorem CaseRun.contains_eq_false_of_avoids {r q : CaseRun} (hfirst : 0 ≤ r.first + r.shift)
    (h : r.avoids q = true) {n : ℕ} (hn : r.contains n = true) :
    q.contains (n + r.shift).toNat = false := by
  simp only [avoids, Bool.or_eq_true, Bool.and_eq_true, Nat.blt_eq, Nat.beq_eq] at h
  simp only [contains, Bool.and_eq_true, decide_eq_true_eq, beq_iff_eq] at hn
  by_contra hq
  simp only [contains, Bool.not_eq_false, Bool.and_eq_true,
    decide_eq_true_eq, beq_iff_eq] at hq
  rcases h with (hbelow | habove) | ⟨⟨hstep | hsingle, hq2⟩, hparity⟩
  · omega
  · omega
  · rw [hstep] at hn
    rw [hq2] at hq
    omega
  · rw [hq2] at hq
    omega

/-- Nothing becomes a capital in lower case. The dotted capital I is a run of its own
here. -/
theorem lowerRuns_avoid :
    ∀ r ∈ lowerRuns, (⟨0x130, 0x130, 1, 0⟩ :: lowerRuns).all r.avoids := by
  decide +kernel

theorem toNat_ofNat_or (n : ℕ) :
    (Char.ofNat n).toNat = n ∨ Char.ofNat n = Char.ofNat 0 := by
  by_cases hvalid : n.isValidChar
  · rw [Char.ofNat, dif_pos hvalid]
    exact .inl rfl
  · rw [Char.ofNat, dif_neg hvalid]
    exact .inr rfl

theorem lowerChar_lower {r : CaseRun} (hr : r ∈ lowerRuns) {n : ℕ}
    (hn : r.contains n = true) :
    lowerChar (r.lower n) = [r.lower n] := by
  have hfirst : 0 ≤ r.first + r.shift := by
    have := lowerRuns_beyond_ascii r hr
    omega
  have havoids : ∀ q ∈ ⟨0x130, 0x130, 1, 0⟩ :: lowerRuns, q.contains (n + r.shift).toNat =
      false := fun q hq =>
    CaseRun.contains_eq_false_of_avoids hfirst
      (List.all_eq_true.mp (lowerRuns_avoid r hr) q hq) hn
  rw [CaseRun.lower]
  rcases toNat_ofNat_or (n + r.shift).toNat with hvalid | hnull
  · rcases lowerRuns_beyond_ascii r hr with hbeyond | ⟨hfirst, hlast, hshift⟩
    · have hfar : 128 ≤ (n + r.shift).toNat := by
        simp only [CaseRun.contains, Bool.and_eq_true, decide_eq_true_eq] at hn
        omega
      have hdotted : Char.ofNat (n + r.shift).toNat ≠ 'İ' := by
        intro h
        have hin := havoids _ List.mem_cons_self
        rw [← hvalid, h] at hin
        exact absurd hin (by decide)
      have hnone : lowerRuns.find? (fun q => q.contains (n + r.shift).toNat) = none :=
        List.find?_eq_none.mpr fun q hq => by simp [havoids q (List.mem_cons_of_mem _ hq)]
      rw [lowerChar, hvalid, if_neg (by omega), if_neg hdotted, hnone]
    · -- the sign for kelvins
      have hkelvin : n = 0x212A := by
        simp only [CaseRun.contains, Bool.and_eq_true, decide_eq_true_eq] at hn
        omega
      rw [hkelvin, hshift]
      decide
  · rw [hnull]
    decide

/-! ## Lower-casing twice -/

theorem lowerChar_of_mem_lowerChar {c d : Char} (hd : d ∈ lowerChar c) :
    lowerChar d = [d] := by
  unfold lowerChar at hd
  split at hd
  · rename_i hc
    obtain rfl := List.mem_singleton.mp hd
    exact forall_of_ascii (P := fun c => lowerChar c.toLower = [c.toLower])
      (by decide +kernel) hc
  · split at hd
    · simp only [List.mem_cons, List.not_mem_nil, or_false] at hd
      rcases hd with rfl | rfl <;> decide +kernel
    · split at hd
      · rename_i r hr
        have hin := List.find?_some hr
        obtain rfl := List.mem_singleton.mp hd
        exact lowerChar_lower (List.mem_of_find?_eq_some hr) hin
      · rename_i hbeyond hdotted _ hnone
        obtain rfl := List.mem_singleton.mp hd
        rw [lowerChar, if_neg hbeyond, if_neg hdotted, hnone]

theorem isLowered_lowerFrom (afterCased : Bool) (s : List Char) :
    IsLowered (lowerFrom afterCased s) := by
  induction s generalizing afterCased with
  | nil => exact fun c hc => absurd hc List.not_mem_nil
  | cons c s ih =>
      intro d hd
      rw [lowerFrom] at hd
      split at hd
      · rcases List.mem_cons.mp hd with rfl | hd
        · split <;> decide +kernel
        · exact ih _ d hd
      · rcases List.mem_append.mp hd with hd | hd
        · exact lowerChar_of_mem_lowerChar hd
        · exact ih _ d hd

theorem isLowered_lower (s : List Char) : IsLowered (lower s) := by
  rw [lower_eq_lowerFrom]
  exact isLowered_lowerFrom false s

theorem lowerFrom_of_isLowered {s : List Char} (h : IsLowered s) (afterCased : Bool) :
    lowerFrom afterCased s = s := by
  induction s generalizing afterCased with
  | nil => rfl
  | cons c s ih =>
      obtain ⟨hc, hs⟩ := List.forall_mem_cons.mp h
      -- a capital sigma is not its own lower-case form
      have hsigma : c ≠ 'Σ' := by
        rintro rfl
        exact absurd hc (by decide +kernel)
      rw [lowerFrom, if_neg hsigma, hc, ih hs, List.singleton_append]

theorem lower_of_isLowered {s : List Char} (h : IsLowered s) : lower s = s := by
  rw [lower_eq_lowerFrom, lowerFrom_of_isLowered h]

end CodeRetrieval.Text
