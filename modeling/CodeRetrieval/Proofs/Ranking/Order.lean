import CodeRetrieval.Proofs.Data.Sorting
import CodeRetrieval.Ranking.Basic

/-!
# The order of rankings

Where numbers are ordered, ranking a list only changes its order: no score is higher
than one before it, and entries with equal scores stay in the order of the list.
-/

namespace CodeRetrieval

/-- Numbers of which any two are ordered unless one of them is no number. -/
class LawfulScalar (R : Type) [Scalar R] : Prop where
  le_trans {a b c : R} : Scalar.le a b → Scalar.le b c → Scalar.le a c
  le_total {a b : R} : Scalar.le a a → Scalar.le b b → Scalar.le a b ∨ Scalar.le b a
  /-- What compares with anything is a number. -/
  isNumber_of_le {a b : R} : Scalar.le a b → Scalar.le a a ∧ Scalar.le b b
  /-- The limits of relevance are numbers and stand in their order. -/
  zero_le_ten : Scalar.le (0 : R) (Scalar.ofInt 10)

namespace Scalar

variable {R : Type} [Scalar R]

/-- A number compares with itself. -/
abbrev IsNumber (a : R) : Prop :=
  Scalar.le a a

end Scalar

namespace Ranking

open List Scalar

variable {R α : Type} [Scalar R]

/-! ## Comparing scores -/

theorem mayPrecede_iff {a b : R} : mayPrecede a b ↔ (IsNumber b → le b a) := by
  rw [mayPrecede, Bool.or_eq_true, Bool.not_eq_true', ← Bool.not_eq_true]
  exact Decidable.imp_iff_not_or.symm

section

variable [LawfulScalar R]

theorem mayPrecede_trans (a b c : R) (hab : mayPrecede a b) (hbc : mayPrecede b c) :
    mayPrecede a c := by
  rw [mayPrecede_iff] at *
  intro hc
  have hcb := hbc hc
  exact LawfulScalar.le_trans hcb (hab (LawfulScalar.isNumber_of_le hcb).2)

theorem mayPrecede_total (a b : R) : mayPrecede a b || mayPrecede b a := by
  rw [Bool.or_eq_true, mayPrecede_iff, mayPrecede_iff]
  by_cases ha : IsNumber a
  · by_cases hb : IsNumber b
    · rcases LawfulScalar.le_total ha hb with h | h
      · exact .inr fun _ => h
      · exact .inl fun _ => h
    · exact .inl fun h => absurd h hb
  · exact .inr fun h => absurd h ha

end

/-! ## Ranking a list -/

theorem perm_descending (score : α → R) (xs : List α) : (descending score xs).Perm xs :=
  mergeSort_perm xs _

theorem mem_descending {score : α → R} {xs : List α} {x : α} :
    x ∈ descending score xs ↔ x ∈ xs :=
  (perm_descending score xs).mem_iff

theorem map_descending {β : Type} {score : α → R} (score' : β → R) {f : α → β}
    (hf : ∀ x, score' (f x) = score x) (xs : List α) :
    (descending score xs).map f = descending score' (xs.map f) := by
  apply map_mergeSort
  intro a _ b _
  rw [hf, hf]

/-- Two entries of a list stand in it in the order of their places. -/
theorem pair_sublist_of_mem_zipIdx {xs : List α} {p q : α × Nat} (hp : p ∈ xs.zipIdx)
    (hq : q ∈ xs.zipIdx) (h : p.2 < q.2) : [p.1, q.1].Sublist xs := by
  have hfirst : p.1 ∈ xs.take (p.2 + 1) := by
    apply mem_of_getElem? (i := p.2)
    rw [getElem?_take_of_lt (Nat.lt_succ_self _)]
    exact mem_zipIdx_iff_getElem?.mp hp
  have hsecond : q.1 ∈ xs.drop (p.2 + 1) := by
    apply mem_of_getElem? (i := q.2 - (p.2 + 1))
    rw [getElem?_drop, Nat.add_sub_cancel' h]
    exact mem_zipIdx_iff_getElem?.mp hq
  have hpair := (singleton_sublist.mpr hfirst).append (singleton_sublist.mpr hsecond)
  rwa [take_append_drop] at hpair

/-- A ranking is an order of the entries with their places in the list: an entry stands
before another one because its score is higher, or because the scores are equal and its
place comes first. -/
theorem exists_places_descending [LawfulScalar R] (score : α → R) (xs : List α) :
    ∃ places : List (α × Nat), places.Perm xs.zipIdx ∧
      descending score xs = places.map Prod.fst ∧
      places.Pairwise fun p q =>
        mayPrecede (score p.1) (score q.1) ∧
          (mayPrecede (score q.1) (score p.1) → p.2 < q.2) :=
  exists_places_mergeSort (fun a b c => mayPrecede_trans (score a) (score b) (score c))
    (fun a b => mayPrecede_total (score a) (score b)) xs

theorem filter_descending [LawfulScalar R] (score : α → R) (p : α → Bool) (xs : List α) :
    (descending score xs).filter p = descending score (xs.filter p) :=
  filter_mergeSort (fun a b c => mayPrecede_trans (score a) (score b) (score c))
    (fun a b => mayPrecede_total (score a) (score b)) p xs

/-- A ranking is stable: an entry stands before another one because its score is higher,
or because the scores are equal and it stood before. -/
theorem pairwise_descending [LawfulScalar R] (score : α → R) (xs : List α) :
    (descending score xs).Pairwise fun a b =>
      mayPrecede (score a) (score b) ∧
        (mayPrecede (score b) (score a) → [a, b].Sublist xs) := by
  obtain ⟨places, hperm, hranked, hordered⟩ := exists_places_descending score xs
  rw [hranked, pairwise_map]
  refine hordered.imp_of_mem fun {p q} hp hq h => ⟨h.1, fun hqp => ?_⟩
  exact pair_sublist_of_mem_zipIdx (hperm.mem_iff.mp hp) (hperm.mem_iff.mp hq) (h.2 hqp)

theorem descending_eq_self {score : α → R} {xs : List α}
    (h : xs.Pairwise fun a b => mayPrecede (score a) (score b)) :
    descending score xs = xs :=
  mergeSort_of_pairwise h

/-- Of two entries the one that may not stand behind the other stands before it. -/
theorem pair_sublist_of_pairwise {r : α → α → Prop} {xs : List α} (h : xs.Pairwise r)
    {x y : α} (hx : x ∈ xs) (hy : y ∈ xs) (hne : x ≠ y) (hbehind : ¬ r y x) :
    [x, y].Sublist xs := by
  induction xs with
  | nil => cases hx
  | cons z xs ih =>
      obtain ⟨hz, h⟩ := List.pairwise_cons.mp h
      rcases List.mem_cons.mp hx with rfl | hxs
      · have hys := (List.mem_cons.mp hy).resolve_left hne.symm
        exact (singleton_sublist.mpr hys).cons_cons x
      · rcases List.mem_cons.mp hy with rfl | hys
        · exact absurd (hz x hxs) hbehind
        · exact (ih h hxs hys).cons z

/-! ## Cutting a ranking -/

theorem cut_of_nonneg {k : Int} (hk : 0 ≤ k) (xs : List α) :
    cut k xs = xs.take k.toNat := by
  rw [cut, if_pos hk]

theorem cut_length (xs : List α) : cut xs.length xs = xs := by
  rw [cut_of_nonneg (Int.natCast_nonneg _), Int.toNat_natCast, take_length]

theorem map_cut {β : Type} (f : α → β) (k : Int) (xs : List α) :
    (cut k xs).map f = cut k (xs.map f) := by
  unfold cut
  split <;> simp

theorem isPrefix_cut (k : Int) (xs : List α) : cut k xs <+: xs := by
  unfold cut
  split
  · exact take_prefix _ _
  · exact take_prefix _ _

theorem mem_of_mem_cut {k : Int} {xs : List α} {x : α} (h : x ∈ cut k xs) : x ∈ xs :=
  (isPrefix_cut k xs).subset h

theorem length_cut_le {k : Int} (hk : 0 ≤ k) (xs : List α) :
    ((cut k xs).length : Int) ≤ k := by
  rw [cut_of_nonneg hk, length_take]
  omega

/-- What is kept of a ranking may precede what is not. -/
theorem mayPrecede_of_not_mem_cut [LawfulScalar R] {score : α → R} {xs : List α} {k : Int}
    {x y : α} (hx : x ∈ cut k (descending score xs)) (hy : y ∈ xs)
    (hcut : y ∉ cut k (descending score xs)) :
    mayPrecede (score x) (score y) := by
  obtain ⟨rest, hrest⟩ := isPrefix_cut k (descending score xs)
  have hsorted := pairwise_descending score xs
  rw [← hrest, pairwise_append] at hsorted
  have hy : y ∈ descending score xs := mem_descending.mpr hy
  rw [← hrest, mem_append] at hy
  exact (hsorted.2.2 x hx y (hy.resolve_left hcut)).1

/-! ## Positive scores -/

variable {ι : Type}

theorem takePositive_eq (k : Nat) (ranking : List (Ranked R ι)) :
    takePositive k ranking = (ranking.takeWhile fun r => !le r.score 0).take k := by
  induction ranking generalizing k with
  | nil => cases k <;> rfl
  | cons r ranking ih =>
      cases k with
      | zero => rfl
      | succ k =>
          rw [takePositive]
          split
          · rename_i hscore
            rw [takeWhile_cons_of_neg (by simp [hscore]), take_nil]
          · rename_i hscore
            rw [takeWhile_cons_of_pos (by simpa using hscore), take_succ_cons, ih]

theorem takeWhile_eq_filter_of_pairwise {p : α → Bool} {xs : List α}
    (h : xs.Pairwise fun a b => p b = true → p a = true) :
    xs.takeWhile p = xs.filter p := by
  induction xs with
  | nil => rfl
  | cons x xs ih =>
      obtain ⟨hx, h⟩ := pairwise_cons.mp h
      by_cases hp : p x = true
      · rw [takeWhile_cons_of_pos hp, filter_cons_of_pos hp, ih h]
      · have hnone : xs.filter p = [] :=
          filter_eq_nil_iff.mpr fun y hy hpy => hp (hx y hy hpy)
        rw [takeWhile_cons_of_neg hp, filter_cons_of_neg hp, hnone]

/-- Where all scores are numbers, stopping at the first score that is not positive
leaves out exactly the entries whose score is not positive. -/
theorem takePositive_descending [LawfulScalar R] {xs : List (Ranked R ι)}
    (hnumbers : ∀ r ∈ xs, IsNumber r.score) (k : Nat) :
    takePositive k (descending Ranked.score xs) =
      (descending Ranked.score (xs.filter fun r => !le r.score 0)).take k := by
  have hsorted := pairwise_descending Ranked.score xs
  rw [takePositive_eq, takeWhile_eq_filter_of_pairwise, filter_descending]
  refine hsorted.imp_of_mem fun {a b} _ hb h => ?_
  have hle : le b.score a.score := mayPrecede_iff.mp h.1 (hnumbers b (mem_descending.mp hb))
  intro hpositive
  rw [Bool.not_eq_true'] at hpositive ⊢
  rw [← Bool.not_eq_true] at hpositive ⊢
  exact fun hzero => hpositive (LawfulScalar.le_trans hle hzero)

end Ranking

end CodeRetrieval
