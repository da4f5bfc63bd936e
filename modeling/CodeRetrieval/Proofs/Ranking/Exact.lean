import CodeRetrieval.Proofs.Ranking.Order
import Mathlib.Analysis.Real.Sqrt
import Mathlib.Analysis.SpecialFunctions.Log.Basic

/-!
# Exact scores

What is said about scores without regard to rounding is said about real numbers. Real
numbers take the place of machine numbers in the same definitions, any two of them are
ordered, and a ranking by them is a list in descending order in which equal scores keep
their places.
-/

namespace CodeRetrieval

open Ranking

/-- A real number, for scores that are not rounded. It is a type of its own, so that its
operations are those of a scalar and no others. -/
@[ext]
structure Exact where
  val : ℝ

/-- A list holds the entries of another one from the highest score to the lowest, those
with equal scores in the order in which they stand there. -/
def IsRanking {α : Type} (score : α → ℝ) (entries ranked : List α) : Prop :=
  ∃ places : List (α × ℕ), places.Perm entries.zipIdx ∧ ranked = places.map Prod.fst ∧
    places.Pairwise fun p q => score q.1 < score p.1 ∨ score p.1 = score q.1 ∧ p.2 < q.2

theorem IsRanking.perm {α : Type} {score : α → ℝ} {entries ranked : List α}
    (h : IsRanking score entries ranked) :
    ranked.Perm entries := by
  obtain ⟨places, hperm, rfl, -⟩ := h
  have hfst := hperm.map Prod.fst
  rwa [List.zipIdx_map_fst] at hfst

namespace Exact

open Classical in
noncomputable instance : Scalar Exact where
  zero := ⟨0⟩
  add a b := ⟨a.val + b.val⟩
  sub a b := ⟨a.val - b.val⟩
  mul a b := ⟨a.val * b.val⟩
  div a b := ⟨a.val / b.val⟩
  ofInt n := ⟨n⟩
  sqrt a := ⟨√a.val⟩
  log a := ⟨Real.log a.val⟩
  le a b := decide (a.val ≤ b.val)

/-- Exact numbers are kept as they are. -/
instance : Storage Exact Exact where
  store a := a
  load a := a

@[simp] theorem store_eq (a : Exact) : (Storage.store a : Exact) = a := rfl

@[simp] theorem load_eq (a : Exact) : (Storage.load a : Exact) = a := rfl

@[simp] theorem val_zero : (0 : Exact).val = 0 := rfl

@[simp] theorem val_add (a b : Exact) : (a + b).val = a.val + b.val := rfl

@[simp] theorem val_sub (a b : Exact) : (a - b).val = a.val - b.val := rfl

@[simp] theorem val_mul (a b : Exact) : (a * b).val = a.val * b.val := rfl

@[simp] theorem val_div (a b : Exact) : (a / b).val = a.val / b.val := rfl

@[simp] theorem val_ofInt (n : ℤ) : (Scalar.ofInt n : Exact).val = n := rfl

@[simp] theorem val_sqrt (a : Exact) : (Scalar.sqrt a).val = √a.val := rfl

@[simp] theorem val_log (a : Exact) : (Scalar.log a).val = Real.log a.val := rfl

@[simp] theorem le_iff {a b : Exact} : Scalar.le a b ↔ a.val ≤ b.val :=
  decide_eq_true_iff

@[simp] theorem val_ofNat (n : ℕ) : (Scalar.ofNat n : Exact).val = n :=
  Int.cast_natCast n

@[simp] theorem val_ratio (num den : ℤ) :
    (Scalar.ratio num den : Exact).val = num / den := rfl

theorem isZero_iff {a : Exact} : Scalar.isZero a ↔ a.val = 0 := by
  rw [Scalar.isZero, Bool.and_eq_true, le_iff, le_iff, val_zero]
  exact antisymm_iff

@[simp] theorem val_sum (xs : List Exact) : (Scalar.sum xs).val = (xs.map val).sum := by
  have hfold : ∀ (a : Exact) (xs : List Exact), (xs.foldl (· + ·) a).val =
      a.val + (xs.map val).sum := by
    intro a xs
    induction xs generalizing a with
    | nil => simp
    | cons x xs ih =>
        rw [List.foldl_cons, ih, val_add, List.map_cons, List.sum_cons, add_assoc]
  rw [Scalar.sum, hfold, val_zero, zero_add]

instance : LawfulScalar Exact where
  le_trans hab hbc := le_iff.mpr ((le_iff.mp hab).trans (le_iff.mp hbc))
  le_total {a b} _ _ := by
    rw [le_iff, le_iff]
    exact le_total a.val b.val
  isNumber_of_le _ := ⟨le_iff.mpr le_rfl, le_iff.mpr le_rfl⟩
  zero_le_ten := le_iff.mpr (by simp)

theorem mayPrecede_iff {a b : Exact} : mayPrecede a b ↔ b.val ≤ a.val := by
  rw [Ranking.mayPrecede_iff, le_iff]
  exact ⟨fun h => h (le_iff.mpr le_rfl), fun h _ => h⟩

theorem isRanking_descending {α : Type} (score : α → Exact) (xs : List α) :
    IsRanking (fun x => (score x).val) xs (descending score xs) := by
  obtain ⟨places, hperm, hranked, hordered⟩ := exists_places_descending score xs
  refine ⟨places, hperm, hranked, hordered.imp fun {p q} h => ?_⟩
  obtain ⟨hle, htie⟩ := h
  rw [mayPrecede_iff] at hle htie
  rcases hle.lt_or_eq with hlt | heq
  · exact .inl hlt
  · exact .inr ⟨heq.symm, htie heq.ge⟩

end Exact

end CodeRetrieval
