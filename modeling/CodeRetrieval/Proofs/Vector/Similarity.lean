import CodeRetrieval.Proofs.Ranking.Exact
import CodeRetrieval.Vector.Cosine

/-!
# Vectors of exact numbers

The product of two vectors does not depend on their order, a vector has norm zero only
if all its components are zero, and nothing but zero comes out of a product with such a
vector.
-/

namespace CodeRetrieval.Vector

variable {a b : List Exact}

theorem val_dot (a b : List Exact) :
    (dot a b).val = (List.zipWith (fun x y => x.val * y.val) a b).sum := by
  rw [dot, Exact.val_sum, List.map_zipWith]
  rfl

theorem dot_comm (a b : List Exact) : dot a b = dot b a := by
  apply Exact.ext
  rw [val_dot, val_dot, List.zipWith_comm]
  simp only [mul_comm]

theorem val_dot_self (a : List Exact) : (dot a a).val = (a.map fun x => x.val ^ 2).sum := by
  rw [val_dot, List.zipWith_self]
  simp only [sq]

theorem val_norm (a : List Exact) : (norm a).val = √(dot a a).val := rfl

theorem norm_eq_zero_iff : (norm a).val = 0 ↔ ∀ x ∈ a, x.val = 0 := by
  have hsquares : ∀ x ∈ a.map fun x => x.val ^ 2, 0 ≤ x := by
    intro x hx
    obtain ⟨y, -, rfl⟩ := List.mem_map.mp hx
    exact sq_nonneg y.val
  rw [val_norm, val_dot_self, Real.sqrt_eq_zero (List.sum_nonneg hsquares)]
  constructor
  · intro hsum x hx
    have hzero :=
      List.all_zero_of_le_zero_le_of_sum_eq_zero hsquares hsum (List.mem_map_of_mem hx)
    exact pow_eq_zero_iff (two_ne_zero) |>.mp hzero
  · intro hzero
    apply List.sum_eq_zero
    intro x hx
    obtain ⟨y, hy, rfl⟩ := List.mem_map.mp hx
    rw [hzero y hy, sq, mul_zero]

/-- Nothing is like a vector of norm zero. -/
theorem dot_eq_zero (ha : (norm a).val = 0) (b : List Exact) : (dot a b).val = 0 := by
  rw [norm_eq_zero_iff] at ha
  rw [val_dot]
  apply List.sum_eq_zero
  intro x hx
  obtain ⟨i, hi, rfl⟩ := List.getElem_of_mem hx
  rw [List.getElem_zipWith, ha _ (List.getElem_mem _), zero_mul]

end CodeRetrieval.Vector
