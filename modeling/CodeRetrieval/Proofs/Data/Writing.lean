import CodeRetrieval.Data.Basic
import CodeRetrieval.Proofs.Data.Results

/-!
# Values that cannot be written

A value has a written form unless it is, or holds at any depth, a whole number of more
digits than can be written.
-/

namespace CodeRetrieval

namespace Data

/-- The value is a whole number of more digits than can be written, or holds one. -/
inductive HoldsLongInteger : Data → Prop where
  | int {n : Int} (h : Nat.pow 10 Decimal.maxIntegerDigits ≤ n.natAbs) :
    HoldsLongInteger (.int n)
  | item {items : List Data} {d : Data} (hd : d ∈ items) (h : HoldsLongInteger d) :
    HoldsLongInteger (.list items)
  | entry {entries : List (String × Data)} {e : String × Data} (he : e ∈ entries)
    (h : HoldsLongInteger e.2) :
      HoldsLongInteger (.table entries)

theorem holdsLongInteger_int {n : Int} :
    (int n).HoldsLongInteger ↔ Nat.pow 10 Decimal.maxIntegerDigits ≤ n.natAbs := by
  constructor
  · rintro ⟨h⟩
    exact h
  · exact .int

theorem holdsLongInteger_list {items : List Data} :
    (list items).HoldsLongInteger ↔ ∃ d ∈ items, d.HoldsLongInteger := by
  constructor
  · rintro ⟨⟩
    rename_i d h hd
    exact ⟨d, hd, h⟩
  · rintro ⟨d, hd, h⟩
    exact .item hd h

theorem holdsLongInteger_table {entries : List (String × Data)} :
    (table entries).HoldsLongInteger ↔ ∃ e ∈ entries, e.2.HoldsLongInteger := by
  constructor
  · rintro ⟨⟩
    rename_i e h he
    exact ⟨e, he, h⟩
  · rintro ⟨e, he, h⟩
    exact .entry he h

theorem exists_integerText_eq_error {n : Int} :
    (∃ e, integerText n = .error e) ↔ Nat.pow 10 Decimal.maxIntegerDigits ≤ n.natAbs := by
  rw [integerText]
  split
  · rename_i h
    exact iff_of_true ⟨_, rfl⟩ h
  · rename_i h
    exact iff_of_false (by simp) h

mutual

/-- A value has a form inside a list or table unless it holds a whole number that is too
long. -/
theorem exists_nested_eq_error : ∀ d : Data, (∃ e, nested d = .error e) ↔ d.HoldsLongInteger
  | null => iff_of_false (by simp [nested]) (by rintro ⟨⟩)
  | bool b => iff_of_false (by simp [nested]) (by rintro ⟨⟩)
  | int n => by rw [nested, exists_integerText_eq_error, holdsLongInteger_int]
  | float x => iff_of_false (by simp [nested]) (by rintro ⟨⟩)
  | text s => iff_of_false (by simp [nested]) (by rintro ⟨⟩)
  | moment m => iff_of_false (by simp [nested]) (by rintro ⟨⟩)
  | list items => by
      rw [nested, exists_map_eq_error, exists_nestedAll_eq_error items,
        holdsLongInteger_list]
  | table entries => by
      rw [nested, exists_map_eq_error, exists_nestedEntries_eq_error entries,
        holdsLongInteger_table]

theorem exists_nestedAll_eq_error :
    ∀ items : List Data, (∃ e, nestedAll items = .error e) ↔ ∃ d ∈ items, d.HoldsLongInteger
  | [] => by simp [nestedAll]
  | d :: items => by
      rw [nestedAll, exists_map₂_eq_error, exists_nested_eq_error d,
        exists_nestedAll_eq_error items, List.exists_mem_cons_iff]

theorem exists_nestedEntries_eq_error : ∀ entries : List (String × Data),
    (∃ e, nestedEntries entries = .error e) ↔ ∃ e ∈ entries, e.2.HoldsLongInteger
  | [] => by simp [nestedEntries]
  | (key, d) :: entries => by
      rw [nestedEntries, exists_map₂_eq_error, exists_nested_eq_error d,
        exists_nestedEntries_eq_error entries, List.exists_mem_cons_iff]

end

/-- A value can be written unless it holds a whole number that is too long. -/
theorem exists_written_eq_error (d : Data) :
    (∃ e, written d = .error e) ↔ d.HoldsLongInteger := by
  cases d with
  | text s => exact iff_of_false (by simp [written]) (by rintro ⟨⟩)
  | moment m => exact iff_of_false (by simp [written]) (by rintro ⟨⟩)
  | _ => exact exists_nested_eq_error _

end Data

end CodeRetrieval
