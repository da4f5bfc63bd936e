import CodeRetrieval.Proofs.Data.JsonQuoted

/-!
# Numbers and words and what stands behind them

A number ends where its digits end, and no word holds a blank. So blanks behind a number
or a word stay behind it.
-/

namespace CodeRetrieval.Data.Json

open Notation Text

variable {c : Char} {s t rest : List Char} {d : Data}

section

variable (ht : ∀ c ∈ t, isBlank c = true)
include ht

theorem takeWhile_isDigit_of_blanks : t.takeWhile Char.isDigit = [] := by
  cases t with
  | nil => rfl
  | cons b t =>
      rw [List.takeWhile_cons_of_neg
        (by simp [isDigit_of_isBlank (ht b List.mem_cons_self)])]

theorem takeWhile_isDigit_append (s : List Char) :
    (s ++ t).takeWhile Char.isDigit = s.takeWhile Char.isDigit := by
  rw [List.takeWhile_append]
  split
  · rename_i hall
    rw [takeWhile_isDigit_of_blanks ht, List.append_nil]
    exact ((List.takeWhile_prefix Char.isDigit).eq_of_length hall).symm
  · rfl

theorem dropWhile_isDigit_append (s : List Char) :
    (s ++ t).dropWhile Char.isDigit = s.dropWhile Char.isDigit ++ t := by
  have hwhole : (s ++ t).takeWhile Char.isDigit ++ (s ++ t).dropWhile Char.isDigit =
      (s ++ t).takeWhile Char.isDigit ++ (s.dropWhile Char.isDigit ++ t) := by
    rw [List.takeWhile_append_dropWhile, takeWhile_isDigit_append ht, ← List.append_assoc,
      List.takeWhile_append_dropWhile]
  exact List.append_cancel_left hwhole

theorem plainDigits_append (s : List Char) :
    plainDigits (s ++ t) = ((plainDigits s).1, (plainDigits s).2 ++ t) :=
  Prod.ext (takeWhile_isDigit_append ht s) (dropWhile_isDigit_append ht s)

theorem wholeDigits_append (s : List Char) : wholeDigits (s ++ t) = wholeDigits s := by
  cases s with
  | nil =>
      unfold wholeDigits
      split
      · exact absurd (ht '0' (by simp_all)) (by decide)
      · exact takeWhile_isDigit_of_blanks ht
  | cons c s =>
      unfold wholeDigits
      by_cases hzero : c = '0'
      · subst hzero
        rfl
      · simp only [List.cons_append]
        split
        · simp_all
        · split
          · simp_all
          · exact takeWhile_isDigit_append ht (c :: s)

theorem splitSign_append (s : List Char) :
    Decimal.splitSign (s ++ t) =
      ((Decimal.splitSign s).1, (Decimal.splitSign s).2 ++ t) := by
  cases s with
  | nil =>
      cases t with
      | nil => rfl
      | cons b t =>
          have hb := ht b List.mem_cons_self
          rw [List.nil_append, Decimal.splitSign]
          · rfl
          · rintro _ ⟨⟩
            cases hb
          · rintro _ ⟨⟩
            cases hb
  | cons c s =>
      rw [List.cons_append]
      unfold Decimal.splitSign
      split
      · simp_all
      · simp_all
      · split <;> simp_all

theorem splitFraction_append (s : List Char) :
    splitFraction plainDigits (s ++ t) =
      ((splitFraction plainDigits s).1, (splitFraction plainDigits s).2 ++ t) := by
  cases s with
  | nil =>
      cases t with
      | nil => rfl
      | cons b t =>
          have hb := ht b List.mem_cons_self
          rw [List.nil_append, splitFraction]
          · rfl
          · rintro _ ⟨⟩
            cases hb
  | cons c s =>
      rw [List.cons_append]
      by_cases hpoint : c = '.'
      · subst hpoint
        simp only [splitFraction, plainDigits_append ht]
        split <;> rfl
      · rw [splitFraction, splitFraction]
        · rfl
        · exact fun _ h => hpoint (List.cons.inj h).1
        · exact fun _ h => hpoint (List.cons.inj h).1

theorem splitExponent_append (s : List Char) :
    splitExponent plainDigits (s ++ t) =
      ((splitExponent plainDigits s).1, (splitExponent plainDigits s).2 ++ t) := by
  cases s with
  | nil =>
      cases t with
      | nil => rfl
      | cons b t =>
          have hb := ht b List.mem_cons_self
          simp only [List.nil_append, splitExponent,
            ne_of_isBlank hb (show isBlank 'e' = false by decide),
            ne_of_isBlank hb (show isBlank 'E' = false by decide), or_self, if_false]
  | cons c s =>
      simp only [List.cons_append, splitExponent]
      split
      · rw [splitSign_append ht]
        simp only [plainDigits_append ht]
        split <;> rfl
      · rfl

theorem readMagnitude_append (negative : Bool) (s : List Char) :
    readMagnitude negative (s ++ t) = (readMagnitude negative s).map fun (d, rest) =>
      (d, rest ++ t) := by
  have hwhole : (wholeDigits s).length ≤ s.length := by
    unfold wholeDigits
    split
    · simp
    · exact (List.takeWhile_prefix _).length_le
  simp only [readMagnitude, wholeDigits_append ht, List.drop_append_of_le_length hwhole,
    splitFraction_append ht, splitExponent_append ht]
  split
  · rfl
  · split <;> rfl

end

theorem length_le_splitFraction (s : List Char) :
    (splitFraction plainDigits s).2.length ≤ s.length := by
  unfold splitFraction
  split
  · simp only
    split
    · exact le_rfl
    · exact Nat.le_succ_of_le (List.dropWhile_suffix _).length_le
  · exact le_rfl

theorem length_le_splitSign (s : List Char) :
    (Decimal.splitSign s).2.length ≤ s.length := by
  unfold Decimal.splitSign
  split
  · exact Nat.le_succ _
  · exact Nat.le_succ _
  · exact le_rfl

theorem length_le_splitExponent (s : List Char) :
    (splitExponent plainDigits s).2.length ≤ s.length := by
  unfold splitExponent
  split
  · rename_i c r
    split
    · simp only
      split
      · exact le_rfl
      · have hdigits : (plainDigits (Decimal.splitSign r).2).2.length ≤
            (Decimal.splitSign r).2.length :=
          (List.dropWhile_suffix Char.isDigit).length_le
        have hsign := length_le_splitSign r
        simp only [List.length_cons]
        omega
    · exact le_rfl
  · exact le_rfl

theorem head_of_wholeDigits (h : wholeDigits s ≠ []) :
    ∃ c r, s = c :: r ∧ c.isDigit = true := by
  unfold wholeDigits at h
  split at h
  · exact ⟨'0', _, rfl, rfl⟩
  · cases s with
    | nil => exact absurd rfl h
    | cons c r =>
        refine ⟨c, r, rfl, ?_⟩
        by_contra hc
        exact h (List.takeWhile_cons_of_neg hc)

theorem of_readMagnitude {negative : Bool} (h : readMagnitude negative s = .ok (d, rest)) :
    rest.length < s.length ∧ ∃ c r, s = c :: r ∧ c.isDigit = true := by
  unfold readMagnitude at h
  simp only at h
  split at h
  · cases h
  · rename_i hwhole
    obtain ⟨c, r, rfl, hc⟩ := head_of_wholeDigits (by simpa using hwhole)
    generalize hwhole' : (wholeDigits (c :: r)).length = n at *
    have hrest : rest = (splitExponent plainDigits
        (splitFraction plainDigits ((c :: r).drop n)).2).2 := by
      split at h
      · exact (Prod.mk.inj (Except.ok.inj h)).2.symm
      · cases h
    have hpos : 0 < n := hwhole' ▸ List.length_pos_iff.mpr (by simpa using hwhole)
    have hexponent :=
      length_le_splitExponent (splitFraction plainDigits ((c :: r).drop n)).2
    have hfraction := length_le_splitFraction ((c :: r).drop n)
    rw [List.length_drop] at hfraction
    refine ⟨?_, c, r, rfl, hc⟩
    rw [hrest]
    simp only [List.length_cons] at hfraction ⊢
    omega

theorem isBlank_of_mem_constants {e : String × Data} (he : e ∈ constants) :
    e.1.toList ≠ [] ∧ ∀ a ∈ e.1.toList, isBlank a = false ∧ a ≠ '\x60' := by
  simp only [constants, List.mem_cons, List.not_mem_nil, or_false] at he
  rcases he with rfl | rfl | rfl | rfl | rfl | rfl
  all_goals exact ⟨by decide, List.all_iff_forall_prop.mp (by decide)⟩

theorem eq_append_of_after? {word : String} (h : after? word s = some rest) :
    s = word.toList ++ rest := by
  unfold after? at h
  split at h
  · rename_i hstart
    obtain rfl := Option.some.inj h
    obtain ⟨more, rfl⟩ := List.isPrefixOf_iff_prefix.mp hstart
    rw [List.drop_left]
  · cases h

theorem findSome?_after?_append (ht : ∀ c ∈ t, isBlank c = true)
    {words : List (String × Data)}
    (hwords : ∀ e ∈ words, ∀ a ∈ e.1.toList, isBlank a = false) (s : List Char) :
    (words.findSome? fun (word, value) =>
      (after? word (s ++ t)).map fun rest => (value, rest)) =
      (words.findSome? fun (word, value) =>
        (after? word s).map fun rest => (value, rest)).map
        fun (d, rest) => (d, rest ++ t) := by
  induction words with
  | nil => rfl
  | cons e words ih =>
      obtain ⟨he, hwords⟩ := List.forall_mem_cons.mp hwords
      simp only [List.findSome?_cons, after?_append ht he]
      cases after? e.1 s with
      | none => exact ih hwords
      | some rest => rfl

theorem readAtom_append (ht : ∀ c ∈ t, isBlank c = true) (s : List Char) :
    readAtom (s ++ t) = (readAtom s).map fun (d, rest) => (d, rest ++ t) := by
  unfold readAtom
  rw [findSome?_after?_append ht fun e he a ha => ((isBlank_of_mem_constants he).2 a ha).1]
  cases constants.findSome? fun (word, value) =>
    (after? word s).map fun rest => (value, rest) with
  | some read => rfl
  | none =>
      simp only [Option.map_none]
      split
      · rename_i after hsign
        cases s with
        | nil => exact absurd (ht '-' (by simp_all)) (by decide)
        | cons c s =>
            obtain ⟨rfl, rfl⟩ := List.cons.inj hsign
            exact readMagnitude_append ht true s
      · rename_i hsign
        rw [readMagnitude_append ht]
        split
        · exact absurd rfl (hsign _)
        · rfl

theorem of_readAtom (h : readAtom s = .ok (d, rest)) :
    rest.length < s.length ∧ ∃ c r, s = c :: r ∧ isBlank c = false ∧ c ≠ '\x60' := by
  unfold readAtom at h
  split at h
  · rename_i read hread
    obtain rfl := Except.ok.inj h
    obtain ⟨⟨word, value⟩, hmem, hword⟩ := List.exists_of_findSome?_eq_some hread
    obtain ⟨after, hafter, hread⟩ := Option.map_eq_some_iff.mp hword
    obtain ⟨rfl, rfl⟩ := Prod.mk.inj hread
    obtain ⟨hne, hplain⟩ := isBlank_of_mem_constants hmem
    obtain ⟨c, r, hword⟩ := List.exists_cons_of_ne_nil hne
    have hc := hplain c (by rw [hword]; exact List.mem_cons_self)
    rw [eq_append_of_after? hafter]
    simp only at hword
    rw [hword]
    refine ⟨?_, c, r ++ after, rfl, hc⟩
    simp only [List.cons_append, List.length_cons, List.length_append]
    omega
  · split at h
    · obtain ⟨hlength, -⟩ := of_readMagnitude h
      exact ⟨Nat.lt_succ_of_lt hlength, '-', _, rfl, by decide⟩
    · obtain ⟨hlength, c, r, hs, hc⟩ := of_readMagnitude h
      refine ⟨hlength, c, r, hs, ?_, ?_⟩
      · by_contra hblank
        rw [isDigit_of_isBlank (by simpa using hblank)] at hc
        cases hc
      · rintro rfl
        cases hc

end CodeRetrieval.Data.Json
