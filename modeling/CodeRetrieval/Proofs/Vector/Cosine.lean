import CodeRetrieval.Proofs.Vector.Similarity
import Mathlib.Algebra.Order.BigOperators.Ring.Finset

/-!
# The cosine as a measure of similarity

In exact numbers the cosine of two vectors of one length lies between minus one and one,
whatever their dimension. It does not depend on the order of the vectors nor on their
lengths in space, and nothing is more like a vector than the vector itself. It never
divides by zero: how a division by zero turns out makes no difference to it.
-/

namespace CodeRetrieval

/-- Exact numbers with another division. -/
@[reducible] noncomputable def Exact.dividingBy
    (divide : Exact → Exact → Exact) : Scalar Exact :=
  { (inferInstance : Scalar Exact) with div := divide }

namespace Vector

variable {a b : List Exact}

def IsZero (a : List Exact) : Prop :=
  ∀ x ∈ a, x.val = 0

noncomputable def scaled (k : ℝ) (a : List Exact) : List Exact :=
  a.map fun x => ⟨k * x.val⟩

/-! ## The inequality of Cauchy and Schwarz -/

theorem sum_map_mul_sq_le {ι : Type} (l : List ι) (f g : ι → ℝ) :
    (l.map fun i => f i * g i).sum ^ 2 ≤ (l.map fun i => f i ^ 2).sum *
      (l.map fun i => g i ^ 2).sum := by
  simp only [← Fin.sum_univ_fun_getElem]
  exact Finset.sum_mul_sq_le_sq_mul_sq Finset.univ _ _

theorem val_dot_eq_sum_zip (a b : List Exact) :
    (dot a b).val = ((a.zip b).map fun p => p.1.val * p.2.val).sum := by
  rw [val_dot, List.map_zip_eq_zipWith]
  rfl

theorem dot_sq_le (hlength : a.length = b.length) :
    (dot a b).val ^ 2 ≤ (dot a a).val * (dot b b).val := by
  have hfirst : (a.zip b).map Prod.fst = a := List.map_fst_zip hlength.le
  have hsecond : (a.zip b).map Prod.snd = b := List.map_snd_zip hlength.ge
  calc (dot a b).val ^ 2
      = (((a.zip b).map fun p => p.1.val * p.2.val).sum) ^ 2 := by rw [val_dot_eq_sum_zip]
    _ ≤ ((a.zip b).map fun p => p.1.val ^ 2).sum *
      ((a.zip b).map fun p => p.2.val ^ 2).sum :=
        sum_map_mul_sq_le (a.zip b) (fun p : Exact × Exact => p.1.val) (fun p => p.2.val)
    _ = (((a.zip b).map Prod.fst).map fun x => x.val ^ 2).sum *
          (((a.zip b).map Prod.snd).map fun x => x.val ^ 2).sum := by
        rw [List.map_map, List.map_map]
        rfl
    _ = (dot a a).val * (dot b b).val := by rw [hfirst, hsecond, val_dot_self, val_dot_self]

theorem val_dot_self_nonneg (a : List Exact) : 0 ≤ (dot a a).val := by
  rw [val_dot_self]
  apply List.sum_nonneg
  intro x hx
  obtain ⟨y, -, rfl⟩ := List.mem_map.mp hx
  exact sq_nonneg y.val

theorem abs_dot_le (hlength : a.length = b.length) : |(dot a b).val| ≤
    (norm a).val * (norm b).val := by
  rw [val_norm, val_norm, ← Real.sqrt_mul (val_dot_self_nonneg a)]
  exact Real.abs_le_sqrt (dot_sq_le hlength)

/-! ## Scaled vectors -/

theorem length_scaled (k : ℝ) (a : List Exact) : (scaled k a).length = a.length :=
  List.length_map _

theorem val_dot_scaled (k : ℝ) (a b : List Exact) :
    (dot (scaled k a) b).val = k * (dot a b).val := by
  rw [val_dot_eq_sum_zip, val_dot_eq_sum_zip, scaled, List.zip_map_left,
    List.map_map, ← List.sum_map_mul_left]
  exact congrArg List.sum (List.map_congr_left fun p _ => mul_assoc k p.1.val p.2.val)

theorem val_norm_scaled {k : ℝ} (hk : 0 < k) (a : List Exact) :
    (norm (scaled k a)).val = k * (norm a).val := by
  rw [val_norm, val_norm, val_dot_scaled, dot_comm, val_dot_scaled, ← mul_assoc, ← sq,
    Real.sqrt_mul (sq_nonneg k), Real.sqrt_sq hk.le]

/-! ## The cosine -/

/-- Where real numbers divide by zero, the quotient is zero as well, so the cosine is
one formula. -/
theorem cosine_eq (hlength : a.length = b.length) :
    cosine a b = .ok ⟨(dot a b).val / ((norm a).val * (norm b).val)⟩ := by
  rw [cosine, if_neg (not_not.mpr hlength)]
  refine congrArg Except.ok (Exact.ext ?_)
  by_cases hzero : Scalar.isZero (norm a * norm b)
  · have hproduct := Exact.isZero_iff.mp hzero
    rw [Exact.val_mul] at hproduct
    rw [if_pos hzero, Exact.val_zero, hproduct, div_zero]
  · rw [if_neg hzero, Exact.val_div, Exact.val_mul]

theorem mul_norm_eq_zero_iff : (norm a).val * (norm b).val = 0 ↔ IsZero a ∨ IsZero b := by
  rw [mul_eq_zero, norm_eq_zero_iff, norm_eq_zero_iff]
  rfl

theorem abs_cosine_le (hlength : a.length = b.length) :
    |(dot a b).val / ((norm a).val * (norm b).val)| ≤ 1 := by
  have hnorms : 0 ≤ (norm a).val * (norm b).val := (abs_nonneg _).trans (abs_dot_le hlength)
  rw [abs_div, abs_of_nonneg hnorms]
  exact div_le_one_of_le₀ (abs_dot_le hlength) hnorms

theorem cosine_comm (hlength : a.length = b.length) : cosine a b = cosine b a := by
  rw [cosine_eq hlength, cosine_eq hlength.symm, dot_comm, mul_comm]

theorem cosine_scaled {k : ℝ} (hk : 0 < k) (hlength : a.length = b.length) :
    cosine (scaled k a) b = cosine a b := by
  rw [cosine_eq hlength, cosine_eq ((length_scaled k a).trans hlength), val_dot_scaled,
    val_norm_scaled hk, mul_assoc, mul_div_mul_left _ _ hk.ne']

theorem cosine_self (ha : ¬ IsZero a) : cosine a a = .ok ⟨1⟩ := by
  have hnorm : (norm a).val * (norm a).val ≠ 0 :=
    fun h => (mul_norm_eq_zero_iff.mp h).elim ha ha
  have hself : (dot a a).val = (norm a).val * (norm a).val :=
    (Real.mul_self_sqrt (val_dot_self_nonneg a)).symm
  rw [cosine_eq rfl, hself, div_self hnorm]

theorem cosine_of_isZero (hlength : a.length = b.length) (hzero : IsZero a ∨ IsZero b) :
    cosine a b = .ok 0 := by
  rw [cosine_eq hlength, mul_norm_eq_zero_iff.mpr hzero, div_zero]
  rfl

/-- Only a product of norms that is not zero is divided by. -/
theorem cosine_dividingBy {divide : Exact → Exact → Exact} (hlength : a.length = b.length)
    (hdivide : ¬ (IsZero a ∨ IsZero b) → divide (dot a b) (norm a * norm b) =
    dot a b / (norm a * norm b)) :
    @cosine Exact (Exact.dividingBy divide) a b = cosine a b := by
  have hother : @cosine Exact (Exact.dividingBy divide) a b
      = .ok (if Scalar.isZero (norm a * norm b) then 0
        else divide (dot a b) (norm a * norm b)) :=
    if_neg (not_not.mpr hlength)
  rw [hother, cosine, if_neg (not_not.mpr hlength)]
  by_cases hzero : Scalar.isZero (norm a * norm b)
  · simp only [if_pos hzero]
  · rw [Exact.isZero_iff, Exact.val_mul, mul_norm_eq_zero_iff] at hzero
    rw [hdivide hzero]

/-- Vectors of different lengths are refused, with whatever numbers. The cosine of two
vectors of one length lies between minus one and one; it is the same in either order and
for vectors scaled by positive numbers; it is one for a vector and itself, unless all
components are zero. With a vector of zeros it is zero, whatever a division would give,
and no result depends on what a division by zero gives. -/
theorem cosine_measures_angle :
    (∀ (R : Type) [Scalar R] (a b : List R), a.length ≠ b.length →
      cosine a b = .error (.lengths a.length b.length)) ∧
    ∀ a b : List Exact, a.length = b.length → ∃ s : Exact, cosine a b = .ok s ∧
      s.val ∈ Set.Icc (-1) 1 ∧
      cosine b a = .ok s ∧
      (∀ k : ℝ, 0 < k → cosine (scaled k a) b = .ok s ∧ cosine a (scaled k b) = .ok s) ∧
      (¬ IsZero a → cosine a a = .ok ⟨1⟩) ∧
      (IsZero a ∨ IsZero b → s = 0 ∧
        ∀ divide, @cosine Exact (Exact.dividingBy divide) a b = .ok 0) ∧
      ∀ divide : Exact → Exact → Exact, (∀ x y, y.val ≠ 0 → divide x y = x / y) →
        @cosine Exact (Exact.dividingBy divide) a b = .ok s := by
  refine ⟨fun R _ a b hlength => if_pos hlength, fun a b hlength => ⟨_, cosine_eq hlength,
    abs_le.mp (abs_cosine_le hlength), ?_, ?_, cosine_self, ?_, ?_⟩⟩
  · rw [← cosine_comm hlength, cosine_eq hlength]
  · intro k hk
    have hlength' : a.length = (scaled k b).length := hlength.trans (length_scaled k b).symm
    rw [← cosine_eq hlength, cosine_comm hlength',
      cosine_scaled hk hlength.symm, ← cosine_comm hlength]
    exact ⟨cosine_scaled hk hlength, rfl⟩
  · intro hzero
    have hresult := cosine_of_isZero hlength hzero
    refine ⟨Except.ok.inj ((cosine_eq hlength).symm.trans hresult), fun divide => ?_⟩
    rw [cosine_dividingBy hlength fun hnone => absurd hzero hnone, hresult]
  · intro divide hdivide
    rw [← cosine_eq hlength]
    refine cosine_dividingBy hlength fun hnone => hdivide _ _ ?_
    rw [Exact.val_mul]
    exact fun hzero => hnone (mul_norm_eq_zero_iff.mp hzero)

/-- Two vectors, one of them scaled, one of them with itself, and one with zeros. -/
theorem cosine_sampleVectors :
    let a : List Exact := [⟨3⟩, ⟨4⟩]
    let b : List Exact := [⟨0⟩, ⟨0⟩]
    a.length = b.length ∧ ¬ IsZero a ∧ (0 : ℝ) < 2 ∧ IsZero b ∧
      a.length ≠ [(⟨5⟩ : Exact)].length ∧
      cosine (scaled 2 a) b = .ok 0 ∧ cosine a a = .ok ⟨1⟩ ∧
      @cosine Exact (Exact.dividingBy fun _ _ => ⟨7⟩) a b = .ok 0 ∧
      cosine a [⟨5⟩] = .error (.lengths 2 1) := by
  intro a b
  have hlength : a.length = b.length := rfl
  have ha : ¬ IsZero a := fun h => three_ne_zero (h ⟨3⟩ List.mem_cons_self)
  have hb : IsZero b := by simp [IsZero, b]
  have hother : a.length ≠ [(⟨5⟩ : Exact)].length := by decide
  obtain ⟨hrefused, hmeasures⟩ := cosine_measures_angle
  obtain ⟨s, -, -, -, hscaled, hself, hzero, -⟩ := hmeasures a b hlength
  obtain ⟨rfl, hdivide⟩ := hzero (.inr hb)
  exact ⟨hlength, ha, two_pos, hb, hother, (hscaled 2 two_pos).1, hself ha, hdivide _,
    hrefused _ _ _ hother⟩

end Vector

end CodeRetrieval
