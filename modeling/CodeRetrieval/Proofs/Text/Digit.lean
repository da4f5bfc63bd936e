import CodeRetrieval.Decimal.Reading
import Mathlib.Algebra.Group.Nat.Defs
import Mathlib.Data.List.Induction

/-!
# The size of written numbers

A number with `n` digits in some base is less than the `n`-th power of the base, and the
greatest of them is only one less.
-/

namespace CodeRetrieval

namespace Text

theorem valueOf_append_singleton (base : ℕ) (digits : List ℕ) (d : ℕ) :
    valueOf base (digits ++ [d]) = valueOf base digits * base + d := by
  rw [valueOf, List.foldl_append]
  rfl

theorem valueOf_lt {base : ℕ} {digits : List ℕ} (h : ∀ d ∈ digits, d < base) :
    valueOf base digits < base ^ digits.length := by
  induction digits using List.reverseRecOn with
  | nil => exact Nat.one_pos
  | append_singleton digits d ih =>
      have hd : d < base := h d (by simp)
      have ih := ih fun x hx => h x (List.mem_append_left _ hx)
      rw [valueOf_append_singleton, List.length_append, List.length_singleton, Nat.pow_succ]
      calc valueOf base digits * base + d
          < valueOf base digits * base + base := Nat.add_lt_add_left hd _
        _ = (valueOf base digits + 1) * base := (Nat.succ_mul _ _).symm
        _ ≤ base ^ digits.length * base := Nat.mul_le_mul_right base ih

theorem valueOf_replicate (base n : ℕ) :
    valueOf (base + 1) (List.replicate n base) + 1 = (base + 1) ^ n := by
  induction n with
  | zero => rfl
  | succ n ih =>
      rw [List.replicate_succ', valueOf_append_singleton, Nat.add_assoc, ← Nat.succ_mul,
        Nat.succ_eq_add_one, ih, Nat.pow_succ]

end Text

namespace Decimal

theorem digitsValue_lt {ds : List Char} (h : ∀ c ∈ ds, c.isDigit = true) {width : ℕ}
    (hwidth : ds.length ≤ width) :
    digitsValue ds < Nat.pow 10 width := by
  have hdigits : ∀ d ∈ ds.map fun c => c.toNat - 48, d < 10 := by
    intro d hd
    obtain ⟨c, hc, rfl⟩ := List.mem_map.mp hd
    have hc := h c hc
    simp only [Char.isDigit, Bool.and_eq_true, decide_eq_true_eq, ge_iff_le,
      UInt32.le_iff_toNat_le] at hc
    have hnine : '9'.val.toNat = 57 := rfl
    have hcode : c.toNat = c.val.toNat := rfl
    omega
  calc digitsValue ds
      < 10 ^ (ds.map fun c => c.toNat - 48).length := Text.valueOf_lt hdigits
    _ ≤ 10 ^ width := Nat.pow_le_pow_right (by decide) (by rwa [List.length_map])

end Decimal

end CodeRetrieval
