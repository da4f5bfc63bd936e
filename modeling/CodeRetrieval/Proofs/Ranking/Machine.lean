import CodeRetrieval.Proofs.Ranking.Order
import Mathlib

/-!
# The order of machine numbers

A machine number other than NaN is placed by its sign and size class, its exponent and
its mantissa, in this order. Machine numbers compare as their places do, so any two of
them are ordered, and only NaN compares with nothing.
-/

namespace CodeRetrieval.Machine

open Float.Model Float.Model.UnpackedFloat

/-- Where a machine number stands: sign and size class first, then the exponent, then
the mantissa. -/
def place : UnpackedFloat → ℤ ×ₗ ℤ ×ₗ ℤ
  | .infinity .negative => toLex (-2, toLex (0, 0))
  | .finite .negative m e _ => toLex (-1, toLex (-e, -m))
  | .zero _ => toLex (0, toLex (0, 0))
  | .notANumber => toLex (0, toLex (0, 0))
  | .finite .positive m e _ => toLex (1, toLex (e, m))
  | .infinity .positive => toLex (2, toLex (0, 0))

/-- Of two pairs of exponent and mantissa the exponents decide first. -/
theorem isLE_then {e f : ℤ} {m n : ℕ} :
    ((compareOfLessAndEq e f).then (compareOfLessAndEq m n)).isLE ↔
      e < f ∨ e = f ∧ m ≤ n := by
  simp only [compareOfLessAndEq]
  rcases lt_trichotomy e f with h | rfl | h
  · simp [h]
  · rcases lt_trichotomy m n with h | rfl | h
    · simp [h, h.le]
    · simp
    · simp [h.not_gt, h.ne', h.not_ge]
  · simp [h.not_gt, h.ne']

theorem isGE_then {e f : ℤ} {m n : ℕ} :
    ((compareOfLessAndEq e f).then (compareOfLessAndEq m n)).isGE ↔
      f < e ∨ e = f ∧ n ≤ m := by
  simp only [compareOfLessAndEq]
  rcases lt_trichotomy e f with h | rfl | h
  · simp [h, h.not_gt, h.ne]
  · rcases lt_trichotomy m n with h | rfl | h
    · simp [h, h.not_ge]
    · simp
    · simp [h.not_gt, h.ne', h.le]
  · simp [h.not_gt, h.ne', h]

/-- Machine numbers compare as their places do. -/
theorem le_iff_place_le {a b : UnpackedFloat} :
    a.le b ↔ a ≠ .notANumber ∧ b ≠ .notANumber ∧ place a ≤ place b := by
  rcases a with (_ | _) | _ | (_ | _) | ⟨_ | _, m, e, hm⟩
  -- only numbers of one sign that are neither zero nor infinite are told apart by
  -- exponent and mantissa
  all_goals
    rcases b with (_ | _) | _ | (_ | _) | ⟨_ | _, n, f, hn⟩ <;>
      simp [UnpackedFloat.le, UnpackedFloat.compare, place, Prod.Lex.toLex_le_toLex,
        compare, isLE_then, isGE_then]

theorem le_iff {a b : Float} :
    Scalar.le a b ↔ a.toModel.unpack ≠ .notANumber ∧ b.toModel.unpack ≠ .notANumber ∧
      place a.toModel.unpack ≤ place b.toModel.unpack := by
  rw [← le_iff_place_le]
  have hle : a ≤ b ↔ a.toModel.unpack.le b.toModel.unpack = true := decide_eq_true_iff
  exact decide_eq_true_iff.trans hle

instance : LawfulScalar Float where
  le_trans hab hbc := by
    rw [le_iff] at *
    exact ⟨hab.1, hbc.2.1, hab.2.2.trans hbc.2.2⟩
  le_total {a b} ha hb := by
    rw [le_iff] at ha hb
    rw [le_iff, le_iff]
    rcases le_total (place a.toModel.unpack) (place b.toModel.unpack) with h | h
    · exact .inl ⟨ha.1, hb.1, h⟩
    · exact .inr ⟨hb.1, ha.1, h⟩
  isNumber_of_le h := by
    rw [le_iff] at h
    rw [le_iff, le_iff]
    exact ⟨⟨h.1, h.1, le_rfl⟩, ⟨h.2.1, h.2.1, le_rfl⟩⟩
  zero_le_ten := by decide +kernel

end CodeRetrieval.Machine
