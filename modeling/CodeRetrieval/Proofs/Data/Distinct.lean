import Mathlib.Data.List.Nodup

/-!
# The first entry of each key

Where a list keeps only the first entry of each key, its keys are distinct, its entries
are those that no entry of the same key comes before, and they keep their order.
-/

namespace CodeRetrieval

variable {α β : Type}

/-- The first entry of each key, in order. -/
def firstByKey [BEq β] (key : α → β) (xs : List α) : List α :=
  xs.eraseDupsBy fun a b => key a == key b

def IsFirstOfKey (key : α → β) (xs : List α) (x : α) : Prop :=
  ∃ before after, xs = before ++ x :: after ∧ ∀ y ∈ before, key y ≠ key x

section

variable {key : α → β}

theorem isFirstOfKey_cons {a x : α} {as : List α} :
    IsFirstOfKey key (a :: as) x ↔ x = a ∨ key a ≠ key x ∧ IsFirstOfKey key as x := by
  constructor
  · rintro ⟨before, after, hsplit, hbefore⟩
    cases before with
    | nil => exact .inl (List.cons.inj hsplit).1.symm
    | cons b before =>
        obtain ⟨rfl, rfl⟩ := List.cons.inj hsplit
        exact .inr ⟨hbefore a (by simp), before, after, rfl, fun y hy =>
          hbefore y (by simp [hy])⟩
  · rintro (rfl | ⟨hne, before, after, rfl, hbefore⟩)
    · exact ⟨[], as, rfl, by simp⟩
    · exact ⟨a :: before, after, rfl, by simpa using ⟨hne, hbefore⟩⟩

variable [BEq β]

@[simp] theorem firstByKey_nil : firstByKey key ([] : List α) = [] := rfl

theorem firstByKey_cons (x : α) (xs : List α) :
    firstByKey key (x :: xs) = x :: firstByKey key (xs.filter fun y => key y != key x) := by
  have hfilter : (xs.filter fun y => decide ((key y == key x) = false)) =
      xs.filter fun y => key y != key x :=
    List.filter_congr fun y _ => by cases h : key y == key x <;> simp [bne, h]
  rw [firstByKey, List.eraseDupsBy_cons]
  exact congrArg (fun ys => x :: firstByKey key ys) hfilter

/-- What holds of the empty list, and of a list whenever it holds of what is left after
its first key, holds of all lists. -/
theorem firstByKey_induction (key : α → β) {motive : List α → Prop} (nil : motive [])
    (cons : ∀ x xs, motive (xs.filter fun y => key y != key x) → motive (x :: xs)) :
    ∀ xs, motive xs
  | [] => nil
  | x :: xs =>
      cons x xs (firstByKey_induction key nil cons (xs.filter fun y => key y != key x))
termination_by xs => xs.length
decreasing_by
  exact Nat.lt_succ_of_le (List.length_filter_le _ xs)

theorem map_firstByKey {γ : Type} (f : γ → α) (xs : List γ) :
    (firstByKey (key ∘ f) xs).map f = firstByKey key (xs.map f) := by
  induction xs using firstByKey_induction (key ∘ f) with
  | nil => rfl
  | cons x xs ih =>
      rw [firstByKey_cons, List.map_cons, ih, List.map_cons,
        firstByKey_cons, List.filter_map]
      rfl

theorem map_firstByKey_self (key : α → β) (xs : List α) :
    (firstByKey key xs).map key = (xs.map key).eraseDups :=
  @map_firstByKey β β (fun k => k) _ α key xs

theorem firstByKey_sublist (xs : List α) : (firstByKey key xs).Sublist xs := by
  induction xs using firstByKey_induction key with
  | nil => exact List.Sublist.slnil
  | cons x xs ih =>
      rw [firstByKey_cons]
      exact (ih.trans List.filter_sublist).cons_cons x

theorem mem_of_mem_firstByKey {xs : List α} {x : α} (h : x ∈ firstByKey key xs) : x ∈ xs :=
  (firstByKey_sublist xs).subset h

section

variable [LawfulBEq β]

theorem isFirstOfKey_filter {as : List α} {x : α} {k : β} :
    IsFirstOfKey key (as.filter fun y => key y != k) x ↔ key x ≠ k ∧
      IsFirstOfKey key as x := by
  induction as with
  | nil => simp [IsFirstOfKey]
  | cons a as ih =>
      rw [isFirstOfKey_cons]
      by_cases ha : key a = k
      · rw [List.filter_cons_of_neg (by simp [ha]), ih]
        constructor
        · rintro ⟨hx, hfirst⟩
          exact ⟨hx, .inr ⟨fun h => hx (h ▸ ha), hfirst⟩⟩
        · rintro ⟨hx, rfl | ⟨-, hfirst⟩⟩
          · exact absurd ha hx
          · exact ⟨hx, hfirst⟩
      · rw [List.filter_cons_of_pos (by simpa using ha), isFirstOfKey_cons, ih]
        constructor
        · rintro (rfl | ⟨hne, hx, hfirst⟩)
          · exact ⟨ha, .inl rfl⟩
          · exact ⟨hx, .inr ⟨hne, hfirst⟩⟩
        · rintro ⟨hx, rfl | ⟨hne, hfirst⟩⟩
          · exact .inl rfl
          · exact .inr ⟨hne, hx, hfirst⟩

theorem nodup_map_firstByKey (key : α → β) (xs : List α) :
    ((firstByKey key xs).map key).Nodup := by
  induction xs using firstByKey_induction key with
  | nil => exact List.nodup_nil
  | cons x xs ih =>
      rw [firstByKey_cons, List.map_cons, List.nodup_cons]
      refine ⟨?_, ih⟩
      intro hx
      obtain ⟨y, hy, hkey⟩ := List.mem_map.mp hx
      have hne := (List.mem_filter.mp (mem_of_mem_firstByKey hy)).2
      exact (bne_iff_ne.mp hne) hkey

/-- The entries that are kept are the ones that come first among those of their key. -/
theorem mem_firstByKey {xs : List α} {x : α} :
    x ∈ firstByKey key xs ↔ IsFirstOfKey key xs x := by
  induction xs using firstByKey_induction key with
  | nil => simp [IsFirstOfKey]
  | cons a as ih =>
      rw [firstByKey_cons, List.mem_cons, ih, isFirstOfKey_filter, isFirstOfKey_cons,
        ne_comm (a := key x)]

theorem exists_mem_firstByKey {xs : List α} {x : α} (hx : x ∈ xs) :
    ∃ y ∈ firstByKey key xs, key y = key x := by
  induction xs using firstByKey_induction key with
  | nil => cases hx
  | cons a as ih =>
      rw [firstByKey_cons]
      by_cases hsame : key a = key x
      · exact ⟨a, List.mem_cons_self, hsame⟩
      · have hx' : x ∈ as := (List.mem_cons.mp hx).resolve_left fun h => hsame (h ▸ rfl)
        obtain ⟨y, hy, hkey⟩ :=
          ih (List.mem_filter.mpr ⟨hx', bne_iff_ne.mpr (Ne.symm hsame)⟩)
        exact ⟨y, List.mem_cons_of_mem a hy, hkey⟩

/-- What holds between an entry that is the first of its key and all entries before it
holds between any two entries that are kept. -/
theorem pairwise_firstByKey {R : α → α → Prop} {xs : List α}
    (h : ∀ before x after, xs = before ++ x :: after → (∀ y ∈ before, key y ≠ key x) →
    ∀ y ∈ before, R y x) :
    (firstByKey key xs).Pairwise R := by
  induction xs using firstByKey_induction key with
  | nil => exact List.Pairwise.nil
  | cons a as ih =>
      rw [firstByKey_cons, List.pairwise_cons]
      constructor
      · intro x hx
        obtain ⟨hne, before, after, rfl, hbefore⟩ :=
          isFirstOfKey_filter.mp (mem_firstByKey.mp hx)
        exact h (a :: before) x after rfl (by simpa using ⟨Ne.symm hne, hbefore⟩)
          a List.mem_cons_self
      · refine ih fun before x after hsplit hbefore y hy => ?_
        -- the entries that were left out before `x` have the key of `a`
        obtain ⟨front, rest, rfl, rfl, hrest⟩ := List.filter_eq_append_iff.mp hsplit
        obtain ⟨skipped, after', rfl, hskipped, hx, -⟩ := List.filter_eq_cons_iff.mp hrest
        have hfront : ∀ z ∈ a :: (front ++ skipped), key z ≠ key x := by
          intro z hz hsame
          by_cases hkey : key z = key a
          · exact bne_iff_ne.mp hx (hsame.symm.trans hkey)
          · rcases List.mem_cons.mp hz with rfl | hz
            · exact hkey rfl
            · rcases List.mem_append.mp hz with hz | hz
              · exact hbefore z (List.mem_filter.mpr ⟨hz, bne_iff_ne.mpr hkey⟩) hsame
              · exact hskipped z hz (bne_iff_ne.mpr hkey)
        exact h (a :: (front ++ skipped)) x after' (by simp) hfront y
          (List.mem_cons_of_mem a (List.mem_append_left _ (List.mem_of_mem_filter hy)))

/-- Entries whose keys have all been there before do not matter. -/
theorem firstByKey_append_of_subset {xs ys : List α} (h : ∀ y ∈ ys, key y ∈ xs.map key) :
    firstByKey key (xs ++ ys) = firstByKey key xs := by
  induction xs using firstByKey_induction key generalizing ys with
  | nil =>
      have hnil : ys = [] :=
        List.eq_nil_iff_forall_not_mem.mpr fun y hy => by simpa using h y hy
      rw [hnil, List.append_nil]
  | cons x xs ih =>
      rw [List.cons_append, firstByKey_cons, firstByKey_cons, List.filter_append, ih]
      intro y hy
      obtain ⟨hy, hne⟩ := List.mem_filter.mp hy
      obtain ⟨z, hz, hkey⟩ := List.mem_map.mp (h y hy)
      have hzx : z ≠ x := by
        rintro rfl
        exact bne_iff_ne.mp hne hkey.symm
      have hz : z ∈ xs.filter fun w => key w != key x :=
        List.mem_filter.mpr ⟨(List.mem_cons.mp hz).resolve_left hzx, hkey ▸ hne⟩
      exact hkey ▸ List.mem_map_of_mem hz

/-- One more entry is kept if its key is new. -/
theorem firstByKey_concat (key : α → β) (xs : List α) (x : α)
    [Decidable (key x ∈ xs.map key)] :
    firstByKey key (xs ++ [x]) =
      if key x ∈ xs.map key then firstByKey key xs else firstByKey key xs ++ [x] := by
  split
  · rename_i hold
    exact firstByKey_append_of_subset (by simpa using hold)
  · rename_i hnew
    induction xs using firstByKey_induction key with
    | nil => rfl
    | cons a as ih =>
        have hne : key x ≠ key a := fun h => hnew (by simp [h])
        have hrest : key x ∉ (as.filter fun y => key y != key a).map key := by
          intro hmem
          obtain ⟨y, hy, hkey⟩ := List.mem_map.mp hmem
          exact hnew (hkey ▸ List.mem_map_of_mem
            (List.mem_cons_of_mem a (List.mem_of_mem_filter hy)))
        have hlast : [x].filter (fun y => key y != key a) = [x] :=
          List.filter_cons_of_pos (bne_iff_ne.mpr hne)
        rw [List.cons_append, firstByKey_cons, List.filter_append, hlast, ih hrest,
          firstByKey_cons, List.cons_append]

theorem mem_firstByKey_of_injOn {xs : List α}
    (hkey : ∀ a ∈ xs, ∀ b ∈ xs, key a = key b → a = b) {x : α} :
    x ∈ firstByKey key xs ↔ x ∈ xs := by
  refine ⟨mem_of_mem_firstByKey, fun hx => ?_⟩
  induction xs using firstByKey_induction key with
  | nil => cases hx
  | cons a as ih =>
      rw [firstByKey_cons, List.mem_cons]
      by_cases hsame : key x = key a
      · exact .inl (hkey x hx a List.mem_cons_self hsame)
      · have hmem : ∀ y ∈ as.filter fun y => key y != key a, y ∈ a :: as := fun y hy =>
          List.mem_cons_of_mem a (List.mem_of_mem_filter hy)
        have hx' : x ∈ as := (List.mem_cons.mp hx).resolve_left fun h => hsame (h ▸ rfl)
        exact .inr (ih (fun y hy z hz => hkey y (hmem y hy) z (hmem z hz))
          (List.mem_filter.mpr ⟨hx', bne_iff_ne.mpr hsame⟩))

theorem IsFirstOfKey.find?_eq {xs : List α} {x : α} (h : IsFirstOfKey key xs x) :
    xs.find? (fun y => key y == key x) = some x := by
  obtain ⟨before, after, rfl, hbefore⟩ := h
  have hnone : before.find? (fun y => key y == key x) = none := by
    rw [List.find?_eq_none]
    intro y hy
    simpa using hbefore y hy
  simp [List.find?_append, hnone]

theorem find?_key_eq_some {xs : List α} (hkeys : (xs.map key).Nodup) {x : α} (hx : x ∈ xs) :
    xs.find? (fun y => key y == key x) = some x := by
  induction xs with
  | nil => cases hx
  | cons a xs ih =>
      obtain ⟨ha, hkeys⟩ := List.nodup_cons.mp hkeys
      rcases List.mem_cons.mp hx with rfl | hx
      · rw [List.find?_cons_of_pos (by simp)]
      · have hne : key a ≠ key x := fun h => ha (h ▸ List.mem_map_of_mem hx)
        rw [List.find?_cons_of_neg (by simpa using hne), ih hkeys hx]

/-- Where keys are distinct, looking up a key finds exactly the entry that has it. -/
theorem find?_key_eq_some_iff {xs : List α} (hkeys : (xs.map key).Nodup) {k : β} {x : α} :
    xs.find? (fun y => key y == k) = some x ↔ x ∈ xs ∧ key x = k := by
  constructor
  · intro h
    exact ⟨List.mem_of_find?_eq_some h, by simpa using List.find?_some h⟩
  · rintro ⟨hx, rfl⟩
    exact find?_key_eq_some hkeys hx

/-- Where keys are distinct, nothing is left out. -/
theorem firstByKey_eq_self {xs : List α} (hkeys : (xs.map key).Nodup) :
    firstByKey key xs = xs := by
  induction xs with
  | nil => rfl
  | cons x xs ih =>
      obtain ⟨hx, hkeys⟩ := List.nodup_cons.mp hkeys
      have hothers : (xs.filter fun y => key y != key x) = xs := by
        rw [List.filter_eq_self]
        intro y hy
        exact bne_iff_ne.mpr fun h => hx (h ▸ List.mem_map_of_mem hy)
      rw [firstByKey_cons, hothers, ih hkeys]

end

end

theorem nodup_eraseDups [BEq α] [LawfulBEq α] (xs : List α) : xs.eraseDups.Nodup := by
  have hkeys := nodup_map_firstByKey (fun x : α => x) xs
  rwa [List.map_id'] at hkeys

theorem eraseDups_concat [BEq α] [LawfulBEq α] (xs : List α) (x : α) [Decidable (x ∈ xs)] :
    (xs ++ [x]).eraseDups = if x ∈ xs then xs.eraseDups else xs.eraseDups ++ [x] := by
  rw [List.eraseDups_append]
  by_cases h : x ∈ xs
  · simp [List.removeAll, h]
  · simp [List.removeAll, List.eraseDups_cons, h]

theorem length_eraseDups_le_one [BEq α] [LawfulBEq α] {a : α} {xs : List α}
    (h : ∀ x ∈ xs, x = a) :
    xs.eraseDups.length ≤ 1 := by
  cases xs with
  | nil => exact Nat.zero_le 1
  | cons x xs =>
      have hothers : (xs.filter fun y => !y == x) = [] := by
        rw [List.filter_eq_nil_iff]
        intro y hy
        simp [h x List.mem_cons_self, h y (List.mem_cons_of_mem x hy)]
      rw [List.eraseDups_cons, hothers]
      exact Nat.le_refl 1

theorem lookup_eq_some_iff_mem [BEq α] [LawfulBEq α] {entries : List (α × β)} {key : α}
    {value : β} (hkeys : (entries.map Prod.fst).Nodup) :
    entries.lookup key = some value ↔ (key, value) ∈ entries := by
  induction entries with
  | nil => simp
  | cons entry entries ih =>
      obtain ⟨first, found⟩ := entry
      rw [List.map_cons, List.nodup_cons] at hkeys
      rw [List.lookup_cons, List.mem_cons]
      by_cases h : key = first
      · subst h
        have hno : (key, value) ∉ entries :=
          fun hmem => hkeys.1 (List.mem_map.mpr ⟨_, hmem, rfl⟩)
        simp [hno, eq_comm]
      · rw [beq_eq_false_iff_ne.mpr h, ih hkeys.2]
        simp [h]

end CodeRetrieval
