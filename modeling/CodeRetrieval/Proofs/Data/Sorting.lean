import Mathlib.Data.List.Nodup

/-!
# Stable sorts

A sort is an order of the entries of a list with their places: entries of which each may
stand before the other stay in the order of their places. Leaving out entries before or
after sorting is the same.
-/

namespace CodeRetrieval

open List

variable {α : Type} {le : α → α → Bool}

/-- A sorted list is an order of the entries with their places in the list: an entry
stands before another one because only it may, or because both may and its place comes
first. -/
theorem exists_places_mergeSort (trans : ∀ a b c, le a b → le b c → le a c)
    (total : ∀ a b, le a b || le b a) (xs : List α) :
    ∃ places : List (α × Nat), places.Perm xs.zipIdx ∧
      xs.mergeSort le = places.map Prod.fst ∧
      places.Pairwise fun p q => le p.1 q.1 ∧ (le q.1 p.1 → p.2 < q.2) := by
  -- among entries with their places no two are equal, so that ties are decided too
  let sorted := xs.zipIdx.mergeSort (zipIdxLE le)
  have hsorted : sorted.Pairwise fun p q => zipIdxLE le p q :=
    pairwise_mergeSort (zipIdxLE_trans trans) (zipIdxLE_total total) _
  have hplaces : sorted.Pairwise fun p q => p.2 ≠ q.2 := by
    have hnodup : (xs.zipIdx.map Prod.snd).Nodup := by
      rw [zipIdx_map_snd]
      exact nodup_range'
    exact pairwise_map.mp (((mergeSort_perm _ _).map Prod.snd).nodup_iff.mpr hnodup)
  refine ⟨sorted, mergeSort_perm _ _, mergeSort_zipIdx.symm,
    (hsorted.and hplaces).imp fun {p q} h => ?_⟩
  obtain ⟨hle, hne⟩ := h
  rw [zipIdxLE] at hle
  split at hle
  · rename_i hpq
    refine ⟨hpq, fun hqp => ?_⟩
    have hle : p.2 ≤ q.2 := by simpa [hqp] using hle
    omega
  · cases hle

/-- Sorting puts the first entry of a list behind those of the others that it may not
stand before. -/
theorem mergeSort_cons_eq (trans : ∀ a b c, le a b → le b c → le a c)
    (total : ∀ a b, le a b || le b a) (x : α) (xs : List α) :
    (x :: xs).mergeSort le =
        (xs.mergeSort le).filter (fun y => !le x y) ++ x ::
          (xs.mergeSort le).filter (fun y => le x y) ∧
      (xs.mergeSort le).filter (fun y => !le x y) ++
        (xs.mergeSort le).filter (fun y => le x y) = xs.mergeSort le := by
  obtain ⟨front, back, hcons, hrest, hfront⟩ := mergeSort_cons trans total x xs
  have hback : ∀ y ∈ back, le x y := by
    have hsorted := pairwise_mergeSort trans total (x :: xs)
    rw [hcons, pairwise_append, pairwise_cons] at hsorted
    exact hsorted.2.1.1
  have hbehind : (front ++ back).filter (fun y => !le x y) = front := by
    rw [filter_append, filter_eq_self.mpr hfront,
      filter_eq_nil_iff.mpr fun y hy => by simp [hback y hy], append_nil]
  have hahead : (front ++ back).filter (fun y => le x y) = back := by
    rw [filter_append, filter_eq_self.mpr hback,
      filter_eq_nil_iff.mpr fun y hy => by simpa using hfront y hy, nil_append]
  rw [hcons, hrest, hbehind, hahead]
  exact ⟨rfl, rfl⟩

theorem filter_mergeSort (trans : ∀ a b c, le a b → le b c → le a c)
    (total : ∀ a b, le a b || le b a) (p : α → Bool) (xs : List α) :
    (xs.mergeSort le).filter p = (xs.filter p).mergeSort le := by
  induction xs with
  | nil => rw [filter_nil, mergeSort_nil, filter_nil]
  | cons x xs ih =>
      obtain ⟨hcons, hrest⟩ := mergeSort_cons_eq trans total x xs
      rw [hcons, filter_append]
      by_cases hx : p x
      · rw [filter_cons_of_pos hx, filter_cons_of_pos hx,
          (mergeSort_cons_eq trans total x (xs.filter p)).1, ← ih,
          filter_comm _ p, filter_comm _ p]
      · rw [filter_cons_of_neg hx, filter_cons_of_neg hx, ← filter_append, hrest, ih]

/-- Two lists of the same entries are sorted alike if of two entries only one may stand
before the other. -/
theorem mergeSort_eq_of_perm (trans : ∀ a b c, le a b → le b c → le a c)
    (total : ∀ a b, le a b || le b a) {xs ys : List α}
    (hanti : ∀ a ∈ xs, ∀ b ∈ xs, le a b → le b a → a = b) (h : xs.Perm ys) :
    xs.mergeSort le = ys.mergeSort le := by
  apply Perm.eq_of_pairwise (fun a b ha hb hab hba => ?_)
    (pairwise_mergeSort trans total xs)
    (pairwise_mergeSort trans total ys)
  · exact (mergeSort_perm xs le).trans (h.trans (mergeSort_perm ys le).symm)
  · exact hanti a (mem_mergeSort.mp ha) b (h.mem_iff.mpr (mem_mergeSort.mp hb)) hab hba

/-! ## Sorting by keys -/

section

variable {κ : Type} [LE κ] [DecidableLE κ] [Std.IsLinearPreorder κ] (key : α → κ)

theorem key_trans (a b c : α) (hab : decide (key a ≤ key b) = true)
    (hbc : decide (key b ≤ key c) = true) :
    decide (key a ≤ key c) = true := by
  rw [decide_eq_true_eq] at *
  exact Std.le_trans hab hbc

theorem key_total (a b : α) :
    (decide (key a ≤ key b) || decide (key b ≤ key a)) = true := by
  rw [Bool.or_eq_true, decide_eq_true_eq, decide_eq_true_eq]
  exact Std.le_total

theorem pairwise_mergeSort_key (xs : List α) :
    (xs.mergeSort fun a b => decide (key a ≤ key b)).Pairwise fun a b => key a ≤ key b :=
  (pairwise_mergeSort (key_trans key) (key_total key) xs).imp fun h => of_decide_eq_true h

end

end CodeRetrieval
