import CodeRetrieval.Data.Table
import CodeRetrieval.Proofs.Data.Distinct

/-!
# What a table holds after changes

A change is seen under its own key and under no other. A key keeps the place where it
first came, and a table with distinct keys is determined by the values under them.
-/

namespace CodeRetrieval.Table

variable {α β : Type} {key : String} {change : Option α → α}

theorem lookup_cons (k : String) (a : α) (t : Table α) (key : String) :
    ((k, a) :: t).lookup key = if key = k then some a else t.lookup key := by
  by_cases h : key = k
  · simp [h]
  · rw [List.lookup_cons, beq_eq_false_iff_ne.mpr h, if_neg h]

@[simp] theorem keys_cons (k : String) (a : α) (t : Table α) :
    keys ((k, a) :: t) = k :: keys t :=
  rfl

theorem mem_keys_iff {t : Table α} : key ∈ t.keys ↔ (t.lookup key).isSome = true := by
  induction t with
  | nil => simp [keys]
  | cons entry t ih =>
      obtain ⟨k, a⟩ := entry
      rw [lookup_cons, keys, List.map_cons, List.mem_cons]
      split
      · simp [*]
      · rw [← ih]
        simp [*, keys]

/-! ## One change -/

@[simp] theorem lookup_update (t : Table α) (k : String) :
    (t.update key change).lookup k = if k = key then some (change (t.lookup key))
      else t.lookup k := by
  induction t with
  | nil => rw [update, lookup_cons]; rfl
  | cons entry t ih =>
      obtain ⟨k', a⟩ := entry
      rw [update]
      by_cases hkey : k' = key
      · subst hkey
        rw [if_pos rfl, lookup_cons, lookup_cons, lookup_cons, if_pos rfl]
        split <;> rfl
      · rw [if_neg hkey, lookup_cons, ih, lookup_cons, lookup_cons, if_neg (Ne.symm hkey)]
        by_cases hk : k = k'
        · subst hk
          rw [if_pos rfl, if_neg hkey, if_pos rfl]
        · rw [if_neg hk, if_neg hk]

theorem keys_update (t : Table α) :
    (t.update key change).keys = if key ∈ t.keys then t.keys else t.keys ++ [key] := by
  induction t with
  | nil => rfl
  | cons entry t ih =>
      obtain ⟨k, a⟩ := entry
      rw [update]
      by_cases hkey : k = key
      · simp [hkey]
      · rw [if_neg hkey, keys_cons, ih, keys_cons]
        by_cases h : key ∈ keys t
        · simp [h]
        · simp [h, Ne.symm hkey]

theorem update_of_not_mem {t : Table α} (h : key ∉ t.keys) :
    t.update key change = t ++ [(key, change none)] := by
  induction t with
  | nil => rfl
  | cons entry t ih =>
      obtain ⟨k, a⟩ := entry
      rw [keys_cons, List.mem_cons, not_or] at h
      rw [update, if_neg (Ne.symm h.1), ih h.2, List.cons_append]

theorem mem_update {t : Table α} {e : String × α} (h : e ∈ t.update key change) :
    e ∈ t ∨ ∃ old, e = (key, change old) := by
  induction t with
  | nil =>
      obtain rfl := List.mem_singleton.mp h
      exact .inr ⟨none, rfl⟩
  | cons entry t ih =>
      obtain ⟨k, a⟩ := entry
      rw [update] at h
      split at h
      · rename_i hkey
        rcases List.mem_cons.mp h with rfl | h
        · exact .inr ⟨some a, by rw [hkey]⟩
        · exact .inl (List.mem_cons_of_mem _ h)
      · rcases List.mem_cons.mp h with rfl | h
        · exact .inl List.mem_cons_self
        · exact (ih h).imp_left (List.mem_cons_of_mem _)

/-- A table is determined by its keys and their values. -/
theorem eq_map_keys {t : Table α} (hkeys : t.keys.Nodup) {value : String → α}
    (h : ∀ k ∈ t.keys, t.lookup k = some (value k)) :
    t = t.keys.map fun k => (k, value k) := by
  have hentries : ∀ e ∈ t, (e.1, value e.1) = e := by
    rintro ⟨k, a⟩ he
    have hfound : t.lookup k = some a := (lookup_eq_some_iff_mem hkeys).mpr he
    rw [h k (List.mem_map_of_mem he)] at hfound
    rw [Option.some.inj hfound]
  rw [keys, List.map_map]
  exact ((List.map_congr_left hentries).trans (List.map_id' t)).symm

end CodeRetrieval.Table
