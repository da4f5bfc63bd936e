import CodeRetrieval.Data.Json
import CodeRetrieval.Proofs.Data.Table
import CodeRetrieval.Proofs.Data.Writing
import CodeRetrieval.Proofs.Text.Digit
import Mathlib.Data.List.TakeWhile

/-!
# What JSON texts hold

The reader refuses whole numbers that are too long, wherever they stand. So every value
that is read from a JSON text can be written.
-/

namespace CodeRetrieval.Data

namespace Json

open Notation

variable {s rest : List Char} {d : Data}

theorem isDigit_of_mem_wholeDigits {c : Char} (hc : c ∈ wholeDigits s) :
    c.isDigit = true := by
  unfold wholeDigits at hc
  split at hc
  · obtain rfl := List.mem_singleton.mp hc
    rfl
  · exact List.mem_takeWhile_imp hc

theorem not_holdsLongInteger_of_ofDigits? {negative : Bool} {whole fraction : List Char}
    {exponent : Option Int} (hwhole : ∀ c ∈ whole, c.isDigit = true)
    (h : ofDigits? negative whole fraction exponent = some d) : ¬ d.HoldsLongInteger := by
  rw [ofDigits?] at h
  split at h
  · split at h
    · cases h
    · rename_i hlength
      obtain rfl := Option.some.inj h
      rw [holdsLongInteger_int, Nat.not_le]
      have hsize : ∀ n : Int, (if negative then -n else n).natAbs = n.natAbs := by
        intro n
        split
        · exact Int.natAbs_neg n
        · rfl
      rw [hsize, Int.natAbs_natCast]
      exact Decimal.digitsValue_lt hwhole (Nat.not_lt.mp hlength)
  · obtain rfl := Option.some.inj h
    rintro ⟨⟩

theorem not_holdsLongInteger_of_readMagnitude {negative : Bool}
    (h : readMagnitude negative s = .ok (d, rest)) : ¬ d.HoldsLongInteger := by
  rw [readMagnitude] at h
  split at h
  · cases h
  · simp only at h
    split at h
    · rename_i number hnumber
      obtain ⟨rfl, -⟩ := Prod.mk.inj (Except.ok.inj h)
      exact not_holdsLongInteger_of_ofDigits? (fun c hc =>
        isDigit_of_mem_wholeDigits hc) hnumber
    · cases h

theorem not_holdsLongInteger_of_mem_constants {e : String × Data} (he : e ∈ constants) :
    ¬ e.2.HoldsLongInteger := by
  simp only [constants, List.mem_cons, List.not_mem_nil, or_false] at he
  rcases he with rfl | rfl | rfl | rfl | rfl | rfl
  all_goals rintro ⟨⟩

theorem not_holdsLongInteger_of_readAtom (h : readAtom s = .ok (d, rest)) :
    ¬ d.HoldsLongInteger := by
  unfold readAtom at h
  split at h
  · rename_i read hread
    obtain rfl := Except.ok.inj h
    obtain ⟨⟨word, value⟩, hmem, hword⟩ := List.exists_of_findSome?_eq_some hread
    obtain ⟨after, -, hread⟩ := Option.map_eq_some_iff.mp hword
    obtain ⟨rfl, -⟩ := Prod.mk.inj hread
    exact not_holdsLongInteger_of_mem_constants hmem
  · split at h
    · exact not_holdsLongInteger_of_readMagnitude h
    · exact not_holdsLongInteger_of_readMagnitude h

/-- Within a bound, the values, items and entries that are read hold no number that is
too long. -/
structure ReadsShort (n : ℕ) : Prop where
  value : ∀ {s rest d}, readValue n s = .ok (d, rest) → ¬ d.HoldsLongInteger
  items : ∀ {s rest items}, readItems n s = .ok (items, rest) →
    ∀ d ∈ items, ¬ d.HoldsLongInteger
  entries : ∀ {before s rest entries}, readEntries n before s = .ok (entries, rest) →
    (∀ e ∈ before, ¬ e.2.HoldsLongInteger) → ∀ e ∈ entries, ¬ e.2.HoldsLongInteger

namespace ReadsShort

variable {n : ℕ} (h : ReadsShort n)
include h

theorem value_succ (hread : readValue (n + 1) s = .ok (d, rest)) :
    ¬ d.HoldsLongInteger := by
  rw [readValue_succ] at hread
  split at hread
  · obtain ⟨text, -, hread⟩ := map_eq_ok.mp hread
    obtain ⟨rfl, -⟩ := Prod.mk.inj hread
    rintro ⟨⟩
  · split at hread
    · obtain ⟨rfl, -⟩ := Prod.mk.inj (Except.ok.inj hread)
      simp [holdsLongInteger_list]
    · obtain ⟨⟨items, after⟩, hitems, hread⟩ := map_eq_ok.mp hread
      obtain ⟨rfl, -⟩ := Prod.mk.inj hread
      rw [holdsLongInteger_list]
      rintro ⟨d, hd, hlong⟩
      exact h.items hitems d hd hlong
  · split at hread
    · obtain ⟨rfl, -⟩ := Prod.mk.inj (Except.ok.inj hread)
      simp [holdsLongInteger_table]
    · obtain ⟨⟨entries, after⟩, hentries, hread⟩ := map_eq_ok.mp hread
      obtain ⟨rfl, -⟩ := Prod.mk.inj hread
      rw [holdsLongInteger_table]
      rintro ⟨e, he, hlong⟩
      exact h.entries hentries (by simp) e he hlong
  · exact not_holdsLongInteger_of_readAtom hread

theorem items_succ {items : List Data} (hread : readItems (n + 1) s = .ok (items, rest)) :
    ∀ d ∈ items, ¬ d.HoldsLongInteger := by
  obtain ⟨⟨first, after⟩, hfirst, hread⟩ := bind_eq_ok.mp hread
  simp only at hread
  split at hread
  · obtain ⟨rfl, -⟩ := Prod.mk.inj (Except.ok.inj hread)
    simpa using h.value hfirst
  · obtain ⟨⟨others, after⟩, hothers, hread⟩ := bind_eq_ok.mp hread
    obtain ⟨rfl, -⟩ := Prod.mk.inj (Except.ok.inj hread)
    exact List.forall_mem_cons.mpr ⟨h.value hfirst, h.items hothers⟩
  · cases hread

theorem entries_succ {before entries : List (String × Data)}
    (hread : readEntries (n + 1) before s = .ok (entries, rest))
    (hbefore : ∀ e ∈ before, ¬ e.2.HoldsLongInteger) :
    ∀ e ∈ entries, ¬ e.2.HoldsLongInteger := by
  rw [readEntries_succ] at hread
  split at hread
  · obtain ⟨⟨key, after⟩, -, hread⟩ := bind_eq_ok.mp hread
    simp only at hread
    split at hread
    · obtain ⟨⟨value, after⟩, hvalue, hread⟩ := bind_eq_ok.mp hread
      -- the entries read so far stay short when the new one joins them
      have hset : ∀ e ∈ Table.set key value before, ¬ e.2.HoldsLongInteger := by
        intro e he
        rcases Table.mem_update he with he | ⟨old, rfl⟩
        · exact hbefore e he
        · exact h.value hvalue
      simp only at hread
      split at hread
      · obtain ⟨rfl, -⟩ := Prod.mk.inj (Except.ok.inj hread)
        exact hset
      · exact h.entries hread hset
      · cases hread
    · cases hread
  · cases hread

end ReadsShort

theorem readsShort (n : ℕ) : ReadsShort n := by
  induction n with
  | zero =>
      constructor
      · intro s rest d h
        cases h
      · intro s rest items h
        cases h
      · intro before s rest entries h
        cases h
  | succ n ih => exact ⟨ih.value_succ, ih.items_succ, ih.entries_succ⟩

/-- No value that is read from a JSON text holds a whole number that is too long to be
written. -/
theorem not_holdsLongInteger_of_read (h : read s = .ok d) : ¬ d.HoldsLongInteger := by
  obtain ⟨⟨value, rest⟩, hvalue, h⟩ := bind_eq_ok.mp h
  simp only at h
  split at h
  · obtain rfl := Except.ok.inj h
    exact (readsShort _).value hvalue
  · cases h

end Json

end CodeRetrieval.Data
