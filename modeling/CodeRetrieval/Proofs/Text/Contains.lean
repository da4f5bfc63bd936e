import CodeRetrieval.Chunk.Words
import CodeRetrieval.Proofs.Text.Case
import Mathlib.Data.List.Infix

/-!
# Words in lower-cased texts

Looking for a word in the lower-case form of a text is looking for it in the text in any
case, as long as no foreign character becomes a letter of the word. Of the ASCII letters
only two are lower-case forms of foreign characters.
-/

namespace CodeRetrieval

theorem containsText_iff {part s : List Char} :
    containsText part s = true ↔ part <:+: s := by
  induction s with
  | nil => rw [containsText, List.isEmpty_iff, List.infix_nil]
  | cons c s ih =>
      rw [containsText, Bool.or_eq_true, List.isPrefixOf_iff_prefix, ih,
        List.infix_cons_iff]

namespace Text

/-- A small ASCII letter that only its capital and the letter itself become. A dotted
capital I becomes an `i` with a dot, and the sign for kelvins a `k`. -/
def IsOwnLower (c : Char) : Prop :=
  c.isLower = true ∧ c ≠ 'i' ∧ c ≠ 'k'

instance (c : Char) : Decidable (IsOwnLower c) :=
  inferInstanceAs (Decidable (_ ∧ _ ∧ _))

variable {c : Char} {s word : List Char}

theorem IsOwnLower.toNat_lt (h : IsOwnLower c) : c.toNat < 128 := by
  apply toNat_lt_of_isAlphanum
  show ((c.isUpper || c.isLower) || c.isDigit) = true
  rw [h.1, Bool.or_true, Bool.true_or]

/-- The table of lower-case forms leads to ASCII for the sign for kelvins only. -/
theorem lowerRuns_beyond_ascii :
    ∀ r ∈ lowerRuns, 128 ≤ r.first + r.shift ∨ r.first = 0x212A ∧ r.last = 0x212A ∧
      r.shift = -8383 := by
  decide +kernel

theorem toNat_ofNat_of_le {n : ℕ} (h : 128 ≤ n) :
    (Char.ofNat n).toNat = 0 ∨ 128 ≤ (Char.ofNat n).toNat := by
  by_cases hvalid : n.isValidChar
  · rw [Char.ofNat, dif_pos hvalid]
    exact .inr h
  · rw [Char.ofNat, dif_neg hvalid]
    exact .inl rfl

theorem not_isOwnLower_lower {r : CaseRun} (hr : r ∈ lowerRuns)
    (hc : r.contains c.toNat = true) :
    ¬ IsOwnLower (r.lower c.toNat) := by
  simp only [CaseRun.contains, Bool.and_eq_true, decide_eq_true_eq] at hc
  rcases lowerRuns_beyond_ascii r hr with hshift | ⟨hfirst, hlast, hshift⟩
  · intro h
    have hfar : 128 ≤ (c.toNat + r.shift).toNat := by omega
    have hsmall := h.toNat_lt
    rcases toNat_ofNat_of_le hfar with hnull | hbeyond
    · have hlower : (Char.ofNat (c.toNat + r.shift).toNat) = Char.ofNat 0 := by
        rw [← Char.ofNat_toNat (Char.ofNat (c.toNat + r.shift).toNat), hnull]
      rw [CaseRun.lower, hlower] at h
      exact absurd h (by decide)
    · rw [CaseRun.lower] at hsmall
      omega
  · have hkelvin : c.toNat = 0x212A := by omega
    rw [CaseRun.lower, hkelvin, hshift]
    decide

theorem lowerChar_ne_nil (c : Char) : lowerChar c ≠ [] := by
  unfold lowerChar
  split
  · simp
  · split
    · simp
    · split <;> simp

theorem not_isOwnLower_of_mem_lowerChar (hc : 128 ≤ c.toNat) {d : Char}
    (hd : d ∈ lowerChar c) : ¬ IsOwnLower d := by
  unfold lowerChar at hd
  rw [if_neg (by omega)] at hd
  split at hd
  · simp only [List.mem_cons, List.not_mem_nil, or_false] at hd
    rcases hd with rfl | rfl <;> decide
  · split at hd
    · rename_i r hr
      have hin := List.find?_some hr
      obtain rfl := List.mem_singleton.mp hd
      exact not_isOwnLower_lower (List.mem_of_find?_eq_some hr) hin
    · obtain rfl := List.mem_singleton.mp hd
      intro h
      have := h.toNat_lt
      omega

/-! ## One character after the other -/

/-- What a text starts with becomes a piece of its lower-case form, which is the small
letter in ASCII and holds no letter of the kind beyond it. -/
theorem exists_lowerFrom_cons (afterCased : Bool) (c : Char) (s : List Char) :
    ∃ piece afterThis, lowerFrom afterCased (c :: s) =
      piece ++ lowerFrom afterThis s ∧ piece ≠ [] ∧
      (c.toNat < 128 ∧ piece = [c.toLower] ∨ 128 ≤ c.toNat ∧
        ∀ d ∈ piece, ¬ IsOwnLower d) := by
  by_cases hsigma : c = 'Σ'
  · subst hsigma
    refine ⟨[if afterCased && !startsCased s then 'ς' else 'σ'],
      _, by rw [lowerFrom]; rfl, by simp, .inr ?_⟩
    refine ⟨by decide, ?_⟩
    intro d hd
    obtain rfl := List.mem_singleton.mp hd
    split <;> decide
  · refine ⟨lowerChar c, _, by rw [lowerFrom, if_neg hsigma], lowerChar_ne_nil c, ?_⟩
    rcases Nat.lt_or_ge c.toNat 128 with hc | hc
    · exact .inl ⟨hc, lowerChar_of_ascii hc⟩
    · exact .inr ⟨hc, fun d hd => not_isOwnLower_of_mem_lowerChar hc hd⟩

theorem lowerFrom_append_of_ascii (h : ∀ c ∈ s, c.toNat < 128) (afterCased : Bool)
    (rest : List Char) :
    ∃ afterThis, lowerFrom afterCased (s ++ rest) =
      s.map Char.toLower ++ lowerFrom afterThis rest := by
  induction s generalizing afterCased with
  | nil => exact ⟨afterCased, rfl⟩
  | cons c s ih =>
      obtain ⟨hc, hs⟩ := List.forall_mem_cons.mp h
      obtain ⟨piece, afterThis, hlower, -, ⟨-, rfl⟩ | ⟨hbeyond, -⟩⟩ :=
        exists_lowerFrom_cons afterCased c (s ++ rest)
      · obtain ⟨afterAll, hrest⟩ := ih hs afterThis
        refine ⟨afterAll, ?_⟩
        rw [List.cons_append, hlower, hrest]
        rfl
      · omega

/-! ## Words -/

theorem exists_prefix_of_lowerFrom (hword : ∀ c ∈ word, IsOwnLower c) {afterCased : Bool}
    (h : word <+: lowerFrom afterCased s) :
    ∃ part, part <+: s ∧ part.map Char.toLower = word := by
  induction word generalizing afterCased s with
  | nil => exact ⟨[], List.nil_prefix, rfl⟩
  | cons w word ih =>
      obtain ⟨hw, hword⟩ := List.forall_mem_cons.mp hword
      cases s with
      | nil => simp [lowerFrom] at h
      | cons c s =>
          obtain ⟨piece, afterThis, hlower, hpiece, ⟨-, rfl⟩ | ⟨-, hforeign⟩⟩ :=
            exists_lowerFrom_cons afterCased c s
          · rw [hlower, List.singleton_append, List.cons_prefix_cons] at h
            obtain ⟨part, hpart, hsame⟩ := ih hword h.2
            exact ⟨c :: part, List.cons_prefix_cons.mpr ⟨rfl,
              hpart⟩, by rw [List.map_cons, hsame, h.1]⟩
          · obtain ⟨p, piece, rfl⟩ := List.exists_cons_of_ne_nil hpiece
            rw [hlower, List.cons_append, List.cons_prefix_cons] at h
            exact absurd (h.1 ▸ hw) (hforeign p List.mem_cons_self)

/-- A word does not start in a piece that holds none of its letters. -/
theorem infix_of_infix_append {piece rest : List Char} (hword : ∀ c ∈ word, IsOwnLower c)
    (hpiece : ∀ d ∈ piece, ¬ IsOwnLower d) (h : word <:+: piece ++ rest) :
    word <:+: rest := by
  induction piece with
  | nil => exact h
  | cons p piece ih =>
      obtain ⟨hp, hpiece⟩ := List.forall_mem_cons.mp hpiece
      rcases List.infix_cons_iff.mp h with hstart | hlater
      · cases word with
        | nil => exact List.nil_infix
        | cons w word =>
            obtain ⟨rfl, -⟩ := List.cons_prefix_cons.mp hstart
            exact absurd (hword w List.mem_cons_self) hp
      · exact ih hpiece hlater

theorem exists_infix_of_lowerFrom (hword : ∀ c ∈ word, IsOwnLower c) {afterCased : Bool}
    (h : word <:+: lowerFrom afterCased s) :
    ∃ part, part <:+: s ∧ part.map Char.toLower = word := by
  induction s generalizing afterCased with
  | nil =>
      obtain rfl := List.infix_nil.mp h
      exact ⟨[], List.nil_infix, rfl⟩
  | cons c s ih =>
      obtain ⟨piece, afterThis, hlower, -, ⟨-, rfl⟩ | ⟨-, hforeign⟩⟩ :=
        exists_lowerFrom_cons afterCased c s
      · have hcases := h
        rw [hlower, List.singleton_append, List.infix_cons_iff] at hcases
        rcases hcases with hstart | hlater
        · rw [← List.singleton_append, ← hlower] at hstart
          obtain ⟨part, hpart, hsame⟩ := exists_prefix_of_lowerFrom hword hstart
          exact ⟨part, hpart.isInfix, hsame⟩
        · obtain ⟨part, hpart, hsame⟩ := ih hlater
          exact ⟨part, List.infix_cons hpart, hsame⟩
      · rw [hlower] at h
        obtain ⟨part, hpart, hsame⟩ := ih (infix_of_infix_append hword hforeign h)
        exact ⟨part, List.infix_cons hpart, hsame⟩

theorem infix_lowerFrom_append (before : List Char) {middle : List Char}
    (h : ∀ afterCased, word <:+: lowerFrom afterCased middle) (afterCased : Bool) :
    word <:+: lowerFrom afterCased (before ++ middle) := by
  induction before generalizing afterCased with
  | nil => exact h afterCased
  | cons c before ih =>
      obtain ⟨piece, afterThis, hlower, -⟩ :=
        exists_lowerFrom_cons afterCased c (before ++ middle)
      rw [List.cons_append, hlower]
      exact (ih afterThis).trans (List.suffix_append piece _).isInfix

/-- A word stands in the lower-case form of a text where it stands in the text in any
case. -/
theorem infix_lower_iff (hword : ∀ c ∈ word, IsOwnLower c) :
    word <:+: lower s ↔ ∃ part, part <:+: s ∧ part.map Char.toLower = word := by
  rw [lower_eq_lowerFrom]
  constructor
  · exact exists_infix_of_lowerFrom hword
  · rintro ⟨part, ⟨before, after, rfl⟩, rfl⟩
    have hascii : ∀ c ∈ part, c.toNat < 128 := by
      intro c hc
      have hlower := hword c.toLower (List.mem_map_of_mem hc)
      by_contra hbeyond
      have hsame : c.toLower = c := by
        refine dif_neg ?_
        rintro ⟨-, hle⟩
        exact hbeyond (Nat.lt_of_le_of_lt hle (by decide))
      rw [hsame] at hlower
      exact hbeyond hlower.toNat_lt
    rw [List.append_assoc]
    apply infix_lowerFrom_append
    intro afterCased
    obtain ⟨afterThis, hlower⟩ := lowerFrom_append_of_ascii hascii afterCased after
    rw [hlower]
    exact (List.prefix_append _ _).isInfix

end Text

end CodeRetrieval
