import CodeRetrieval.Proofs.Chunk.Spacing
import CodeRetrieval.Proofs.Text.Case
import CodeRetrieval.Proofs.Text.Lines
import CodeRetrieval.Proofs.Text.Runs
import Mathlib.Data.List.Basic

/-!
# The words between case boundaries

The words of an identifier are the longest stretches of its letters and digits inside
which there is no case boundary, in order and in lower case. So no letter or digit is
lost, and the words stay the same when they are cut again.
-/

namespace CodeRetrieval.Identifier

open Text

variable {a b c : Char} {s name : List Char} {i start stop : ℕ}

/-! ## Boundaries and words by their places -/

/-- Behind the character at `i` there is a case boundary: a lower-case letter or digit
stands before an upper-case letter, or an upper-case letter before another one that a
lower-case letter follows. -/
def IsCaseBoundary (name : List Char) (i : ℕ) : Prop :=
  ∃ a b, name[i]? = some a ∧ name[i + 1]? = some b ∧
    ((a.isLower = true ∨ a.isDigit = true) ∧ b.isUpper = true ∨
      a.isUpper = true ∧ b.isUpper = true ∧ ∃ c, name[i + 2]? = some c ∧ c.isLower = true)

/-- The letters or digits at `i` and `i + 1` belong to one word. -/
def IsJoined (name : List Char) (i : ℕ) : Prop :=
  (∃ a, name[i]? = some a ∧ a.isAlphanum = true) ∧
    (∃ b, name[i + 1]? = some b ∧ b.isAlphanum = true) ∧
    ¬ IsCaseBoundary name i

/-- A word stands on the places from `start` up to but without `stop`: letters or digits
that belong to one word each with the next, but neither the first one nor the last one
with what stands outside. -/
structure IsWordSpan (name : List Char) (start stop : ℕ) : Prop where
  start_lt_stop : start < stop
  alphanum : ∃ a, name[start]? = some a ∧ a.isAlphanum = true
  joined : ∀ i, start ≤ i → i + 1 < stop → IsJoined name i
  starts : ∀ i, i + 1 = start → ¬ IsJoined name i
  stops : ∀ i, i + 1 = stop → ¬ IsJoined name i

/-! ## One character more -/

theorem isCaseBoundary_zero : IsCaseBoundary (a :: s) 0 ↔ caseRule a s = true := by
  match s with
  | [] => simp [IsCaseBoundary, caseRule, capitalRule, acronymRule, startsCapitalized]
  | [b] =>
      simp [IsCaseBoundary, caseRule, capitalRule, acronymRule, startsCapitalized, endsWord]
  | b :: c :: s =>
      simp [IsCaseBoundary, caseRule, capitalRule, acronymRule, startsCapitalized, endsWord]

theorem isCaseBoundary_succ : IsCaseBoundary (a :: s) (i + 1) ↔ IsCaseBoundary s i := by
  simp [IsCaseBoundary]

def joinsNext : Rule := fun a s =>
  a.isAlphanum && s.head?.any Char.isAlphanum && !caseRule a s

theorem isJoined_zero : IsJoined (a :: s) 0 ↔ joinsNext a s = true := by
  rw [IsJoined, isCaseBoundary_zero, joinsNext]
  cases s with
  | nil => simp
  | cons b s => simp [and_assoc]

theorem isJoined_succ : IsJoined (a :: s) (i + 1) ↔ IsJoined s i := by
  simp [IsJoined, isCaseBoundary_succ]

theorem not_isWordSpan_nil : ¬ IsWordSpan [] start stop := by
  intro h
  obtain ⟨c, hc, -⟩ := h.alphanum
  cases hc

/-- A word that starts further on is one of what follows, unless it goes on to the front. -/
theorem isWordSpan_succ : IsWordSpan (a :: s) (start + 1) (stop + 1) ↔
    IsWordSpan s start stop ∧ (joinsNext a s = true → start ≠ 0) := by
  constructor
  · rintro ⟨hlt, halphanum, hjoined, hstarts, hstops⟩
    refine ⟨⟨Nat.lt_of_succ_lt_succ hlt, halphanum, fun i hi hnext => ?_, fun i hi => ?_,
      fun i hi => ?_⟩, ?_⟩
    · exact isJoined_succ.mp (hjoined (i + 1) (by omega) (by omega))
    · exact fun h => hstarts (i + 1) (by omega) (isJoined_succ.mpr h)
    · exact fun h => hstops (i + 1) (by omega) (isJoined_succ.mpr h)
    · rintro hjoins rfl
      exact hstarts 0 rfl (isJoined_zero.mpr hjoins)
  · rintro ⟨⟨hlt, halphanum, hjoined, hstarts, hstops⟩, hfirst⟩
    refine ⟨Nat.succ_lt_succ hlt, halphanum, fun i hi hnext => ?_,
      fun i hi => ?_, fun i hi => ?_⟩
    · obtain ⟨i, rfl⟩ := Nat.exists_eq_succ_of_ne_zero (show i ≠ 0 by omega)
      exact isJoined_succ.mpr (hjoined i (by omega) (by omega))
    · cases i with
      | zero => exact fun h => hfirst (isJoined_zero.mp h) (by omega)
      | succ i => exact fun h => hstarts i (by omega) (isJoined_succ.mp h)
    · obtain ⟨i, rfl⟩ := Nat.exists_eq_succ_of_ne_zero (show i ≠ 0 by omega)
      exact fun h => hstops i (by omega) (isJoined_succ.mp h)

/-- A word at the front is one at the front of what follows with one more character, or
the first character alone. -/
theorem isWordSpan_zero : IsWordSpan (a :: s) 0 (stop + 1) ↔
    joinsNext a s = true ∧ IsWordSpan s 0 stop ∨ a.isAlphanum = true ∧
      joinsNext a s = false ∧ stop = 0 := by
  constructor
  · rintro ⟨-, ⟨a', ha', halphanum⟩, hjoined, -, hstops⟩
    obtain rfl := Option.some.inj ha'
    cases stop with
    | zero =>
        have hnot : ¬ joinsNext a s = true := fun h => hstops 0 rfl (isJoined_zero.mpr h)
        exact .inr ⟨halphanum, Bool.eq_false_iff.mpr hnot, rfl⟩
    | succ stop =>
        have hfirst : IsJoined (a :: s) 0 := hjoined 0 (Nat.le_refl 0) (by omega)
        refine .inl ⟨isJoined_zero.mp hfirst, Nat.succ_pos stop, hfirst.2.1,
          fun i _ hnext => ?_, fun i hi => ?_,
          fun i hi => ?_⟩
        · exact isJoined_succ.mp (hjoined (i + 1) (by omega) (by omega))
        · omega
        · exact fun h => hstops (i + 1) (by omega) (isJoined_succ.mpr h)
  · rintro (⟨hjoins, hlt, -, hjoined, -, hstops⟩ | ⟨halphanum, hjoins, rfl⟩)
    · have hfirst : IsJoined (a :: s) 0 := isJoined_zero.mpr hjoins
      refine ⟨Nat.succ_pos stop, hfirst.1, fun i _ hnext => ?_,
        fun i hi => ?_, fun i hi => ?_⟩
      · cases i with
        | zero => exact hfirst
        | succ i => exact isJoined_succ.mpr (hjoined i (by omega) (by omega))
      · omega
      · obtain ⟨i, rfl⟩ := Nat.exists_eq_succ_of_ne_zero (show i ≠ 0 by omega)
        exact fun h => hstops i (by omega) (isJoined_succ.mp h)
    · refine ⟨Nat.succ_pos 0, ⟨a, rfl, halphanum⟩, fun i _ hnext => ?_,
        fun i hi => ?_, fun i hi => ?_⟩
      · omega
      · omega
      · obtain rfl : i = 0 := by omega
        rw [isJoined_zero, hjoins]
        exact Bool.false_ne_true

/-! ## All words -/

def wordSpans : List Char → List (ℕ × ℕ)
  | [] => []
  | a :: s =>
    let below :=
      (wordSpans s).map fun p =>
        (if joinsNext a s = true ∧ p.1 = 0 then 0 else p.1 + 1, p.2 + 1)
    if a.isAlphanum = true ∧ joinsNext a s = false then (0, 1) :: below else below

theorem mem_wordSpans_cons_zero : (0, stop + 1) ∈ wordSpans (a :: s) ↔
    joinsNext a s = true ∧ (0, stop) ∈ wordSpans s ∨ a.isAlphanum = true ∧
      joinsNext a s = false ∧ stop = 0 := by
  rw [wordSpans]
  cases hjoins : joinsNext a s with
  | true => simp
  | false =>
      cases a.isAlphanum with
      | true => simp
      | false => simp

theorem mem_wordSpans_cons_succ : (start + 1, stop + 1) ∈ wordSpans (a :: s) ↔
    (start, stop) ∈ wordSpans s ∧ (joinsNext a s = true → start ≠ 0) := by
  rw [wordSpans]
  cases hjoins : joinsNext a s with
  | true =>
      simp only [reduceCtorEq, and_false, if_false, true_and, forall_const, List.mem_map,
        Prod.exists, Prod.mk.injEq]
      constructor
      · rintro ⟨first, last, hmem, hfirst, hlast⟩
        obtain rfl : last = stop := Nat.succ.inj hlast
        split at hfirst
        · exact absurd hfirst.symm (Nat.succ_ne_zero start)
        · next hne =>
          obtain rfl : first = start := Nat.succ.inj hfirst
          exact ⟨hmem, hne⟩
      · rintro ⟨hmem, hne⟩
        exact ⟨start, stop, hmem, if_neg hne, rfl⟩
  | false =>
      cases a.isAlphanum with
      | true => simp
      | false => simp

theorem mem_wordSpans_iff : (start, stop) ∈ wordSpans s ↔ IsWordSpan s start stop := by
  induction s generalizing start stop with
  | nil => exact iff_of_false List.not_mem_nil not_isWordSpan_nil
  | cons a s ih =>
      match start, stop with
      | start, 0 =>
          refine iff_of_false ?_ fun h => absurd h.start_lt_stop (Nat.not_lt_zero start)
          rw [wordSpans]
          split <;> simp
      | 0, stop + 1 => rw [mem_wordSpans_cons_zero, isWordSpan_zero, ih]
      | start + 1, stop + 1 => rw [mem_wordSpans_cons_succ, isWordSpan_succ, ih]

theorem pairwise_wordSpans (s : List Char) :
    (wordSpans s).Pairwise fun p q => p.2 ≤ q.1 := by
  induction s with
  | nil => exact List.Pairwise.nil
  | cons a s ih =>
      have hbelow : ((wordSpans s).map fun p =>
          (if joinsNext a s = true ∧ p.1 = 0 then 0 else p.1 + 1, p.2 + 1)).Pairwise
            fun p q => p.2 ≤ q.1 := by
        refine List.pairwise_map.mpr (ih.imp_of_mem fun {p q} hp _ hle => ?_)
        -- no word starts at the front behind another one
        have hlt : p.1 < p.2 := (mem_wordSpans_iff.mp hp).start_lt_stop
        have hq : q.1 ≠ 0 := by omega
        simp only [hq, and_false, if_false]
        omega
      rw [wordSpans]
      split
      · rename_i h
        refine List.pairwise_cons.mpr ⟨fun q hq => ?_, hbelow⟩
        obtain ⟨p, -, rfl⟩ := List.mem_map.mp hq
        simp [h.2]
      · exact hbelow

/-! ## The text of the words -/

def textAt (s : List Char) (p : ℕ × ℕ) : List Char :=
  (s.take p.2).drop p.1

@[simp] theorem textAt_cons_succ (a : Char) (s : List Char) (start stop : ℕ) :
    textAt (a :: s) (start + 1, stop + 1) = textAt s (start, stop) := rfl

@[simp] theorem textAt_cons_zero (a : Char) (s : List Char) (stop : ℕ) :
    textAt (a :: s) (0, stop + 1) = a :: textAt s (0, stop) := rfl

/-- A character before a text leaves the text of the words as it is, if it does not
belong to the first one. -/
theorem map_textAt_cons_of_not_joinsNext (h : joinsNext a s = false) :
    ((wordSpans s).map fun p =>
      (if joinsNext a s = true ∧ p.1 = 0 then 0 else p.1 + 1, p.2 + 1)).map
      (textAt (a :: s))
      = (wordSpans s).map (textAt s) := by
  rw [List.map_map]
  exact List.map_congr_left fun p _ => by simp [h]

/-- A text that starts with a letter or digit starts with a word, which is the only one
there. -/
theorem exists_wordSpans_cons (ha : a.isAlphanum = true) :
    ∃ stop rest, wordSpans (a :: s) = (0, stop) :: rest ∧ ∀ p ∈ rest, p.1 ≠ 0 := by
  induction s generalizing a with
  | nil => exact ⟨1, [], by simp [wordSpans, joinsNext, ha], by simp⟩
  | cons b s ih =>
      rw [wordSpans]
      cases hjoins : joinsNext a (b :: s) with
      | true =>
          have hb : b.isAlphanum = true := by simp_all [joinsNext]
          obtain ⟨stop, rest, hspans, hrest⟩ := ih hb
          refine ⟨stop + 1, rest.map fun p => (p.1 + 1, p.2 + 1), ?_,
            List.forall_mem_map.mpr fun p _ => Nat.succ_ne_zero p.1⟩
          rw [if_neg (by simp), hspans, List.map_cons, if_pos ⟨rfl, rfl⟩]
          exact congrArg _ (List.map_congr_left fun p hp => by simp [hrest p hp])
      | false =>
          exact ⟨1, (wordSpans (b :: s)).map fun p => (p.1 + 1, p.2 + 1), by simp [ha],
            List.forall_mem_map.mpr fun p _ => Nat.succ_ne_zero p.1⟩

/-- A character that belongs to one word with the next one stands in front of the first
word. -/
theorem map_textAt_cons_of_joinsNext (h : joinsNext a s = true) :
    ∃ first rest, (wordSpans s).map (textAt s) = first :: rest ∧
      (wordSpans (a :: s)).map (textAt (a :: s)) = (a :: first) :: rest := by
  cases s with
  | nil => simp [joinsNext] at h
  | cons b s =>
      have hb : b.isAlphanum = true := by simp_all [joinsNext]
      obtain ⟨stop, rest, hspans, hrest⟩ := exists_wordSpans_cons (s := s) hb
      refine ⟨textAt (b :: s) (0, stop),
        rest.map (textAt (b :: s)), by rw [hspans]; rfl, ?_⟩
      rw [wordSpans, if_neg (by simp [h]), hspans, List.map_cons, if_pos ⟨h, rfl⟩,
        List.map_cons, textAt_cons_zero, List.map_map]
      exact congrArg _ (List.map_congr_left fun p hp => by simp [hrest p hp])

theorem addToWords_of_pos {p : Char → Bool} (h : p c = true) (begun : Bool)
    (words : List (List Char)) :
    addToWords p c (begun, words) = (false, words) := by
  cases begun <;> cases words <;> simp [addToWords, h]

/-- Reading the spaced text from its end cuts it into the words. The first one counts as
begun when the text starts with a letter or digit. -/
theorem foldr_addToWords_spacedBy (s : List Char) :
    (spacedBy caseRule s).foldr (addToWords fun c => !c.isAlphanum) (false, [])
      = (s.head?.any Char.isAlphanum, (wordSpans s).map (textAt s)) := by
  induction s with
  | nil => rfl
  | cons a s ih =>
      -- a space behind the character closes the first word
      have hclosed : (spacedBy caseRule (a :: s)).foldr (addToWords fun c =>
          !c.isAlphanum) (false, [])
          = addToWords (fun c => !c.isAlphanum) a
              (s.head?.any Char.isAlphanum && !caseRule a s,
               (wordSpans s).map (textAt s)) := by
        cases hrule : caseRule a s with
        | true =>
            have hspace : (fun c : Char => !c.isAlphanum) ' ' = true := by decide
            rw [spacedBy_cons_of_pos hrule, List.foldr_cons, List.foldr_cons, ih,
              addToWords_of_pos (c := ' ') hspace, Bool.not_true, Bool.and_false]
        | false =>
            rw [spacedBy_cons_of_neg hrule, List.foldr_cons, ih,
              Bool.not_false, Bool.and_true]
      rw [hclosed, List.head?_cons, Option.any_some]
      cases ha : a.isAlphanum with
      | false =>
          have hjoins : joinsNext a s = false := by
            rw [joinsNext, ha, Bool.false_and, Bool.false_and]
          rw [addToWords_of_pos (by simp [ha]), wordSpans, if_neg (by simp [ha]),
            map_textAt_cons_of_not_joinsNext hjoins]
      | true =>
          have hbegun : (s.head?.any Char.isAlphanum && !caseRule a s) = joinsNext a s := by
            rw [joinsNext, ha, Bool.true_and]
          rw [hbegun]
          cases hjoins : joinsNext a s with
          | true =>
              obtain ⟨first, rest, hwords, hspans⟩ := map_textAt_cons_of_joinsNext hjoins
              rw [hwords, hspans]
              simp [addToWords, ha]
          | false =>
              rw [wordSpans, if_pos ⟨ha, hjoins⟩, List.map_cons,
                map_textAt_cons_of_not_joinsNext hjoins]
              simp [addToWords, ha, textAt]

theorem splitWords_eq (name : List Char) :
    splitWords name = (wordSpans name).map fun p => (textAt name p).map Char.toLower := by
  rw [splitWords, spaced_spaced, runsOutside, foldr_addToWords_spacedBy, List.map_map]
  rfl

theorem words_eq (name : String) :
    words name = (wordSpans name.toList).map fun p =>
      String.ofList ((textAt name.toList p).map Char.toLower) := by
  rw [words, splitWords_eq, List.map_map]
  rfl

/-! ## Nothing is lost -/

theorem filter_spacedBy {p : Char → Bool} (hspace : p ' ' = false)
    (rule : Rule) (s : List Char) :
    (spacedBy rule s).filter p = s.filter p := by
  induction s with
  | nil => rfl
  | cons a s ih =>
      rw [spacedBy]
      split
      · rw [List.filter_cons, List.filter_cons_of_neg (by simp [hspace]),
          ih, List.filter_cons]
      · rw [List.filter_cons, ih, List.filter_cons]

/-- The words hold the letters and digits of the identifier in order. -/
theorem flatten_splitWords (name : List Char) :
    (splitWords name).flatten = (name.filter Char.isAlphanum).map Char.toLower := by
  rw [splitWords, ← List.map_flatten, flatten_runsOutside, spaced_spaced,
    filter_spacedBy (by decide)]
  simp only [Bool.not_not]

/-! ## Words cut again -/

theorem endsWord_toLower (h : a.isAlphanum = true) : endsWord a.toLower = true := by
  have ha := toNat_lt_of_isAlphanum h
  revert h
  exact forall_of_ascii (by decide +kernel) ha

theorem toLower_of_endsWord (h : endsWord a = true) :
    a.isAlphanum = true ∧ a.toLower = a := by
  have halphanum : a.isAlphanum = true := by
    rw [endsWord, Bool.or_eq_true] at h
    delta Char.isAlphanum Char.isAlpha
    rcases h with h | h
    · simp [h]
    · simp [h]
  refine ⟨halphanum, ?_⟩
  have ha := toNat_lt_of_isAlphanum halphanum
  revert h
  exact forall_of_ascii (by decide +kernel) ha

theorem exists_run_of_mem_words {name w : String} (h : w ∈ words name) :
    ∃ run : List Char, run ≠ [] ∧ (∀ c ∈ run, c.isAlphanum = true) ∧
      w = String.ofList (run.map Char.toLower) := by
  obtain ⟨_, hword, rfl⟩ := List.mem_map.mp h
  obtain ⟨run, hrun, rfl⟩ := List.mem_map.mp hword
  obtain ⟨hne, hall⟩ := Text.of_mem_runsOutside hrun
  exact ⟨run, hne, fun c hc => by simpa using hall c hc, rfl⟩

/-- A word is not empty and holds lower-case letters and digits only. -/
theorem endsWord_of_mem_words {name w : String} (h : w ∈ words name) :
    w ≠ "" ∧ ∀ c ∈ w.toList, endsWord c = true := by
  obtain ⟨run, hne, hrun, rfl⟩ := exists_run_of_mem_words h
  refine ⟨fun hempty => hne ?_, fun c hc => ?_⟩
  · simpa using congrArg String.toList hempty
  · rw [String.toList_ofList] at hc
    obtain ⟨d, hd, rfl⟩ := List.mem_map.mp hc
    exact endsWord_toLower (hrun d hd)

/-- No space is put into a text without upper-case letters. -/
theorem spacedBy_caseRule_of_not_isUpper (h : ∀ c ∈ s, c.isUpper = false) :
    spacedBy caseRule s = s := by
  induction s with
  | nil => rfl
  | cons a s ih =>
      obtain ⟨ha, hs⟩ := List.forall_mem_cons.mp h
      have hcapital : capitalRule a s = false := by
        cases s with
        | nil => simp [capitalRule]
        | cons b s => simp [capitalRule, hs b List.mem_cons_self]
      have hrule : caseRule a s = false := by
        rw [caseRule, hcapital, acronymRule_of_not_isUpper ha, Bool.or_false]
      rw [spacedBy_cons_of_neg hrule, ih hs]

/-- Pieces of lower-case letters and digits are the words of what they make up with
underscores between them. -/
theorem splitWords_joinWith {pieces : List (List Char)}
    (h : ∀ piece ∈ pieces, piece ≠ [] ∧ ∀ c ∈ piece, endsWord c = true) :
    splitWords (joinWith ['_'] pieces) = pieces := by
  have hupper : ∀ c ∈ joinWith ['_'] pieces, c.isUpper = false := by
    intro c hc
    rcases mem_joinWith hc with hc | ⟨piece, hpiece, hc⟩
    · rw [List.mem_singleton.mp hc]
      decide
    · exact isUpper_eq_false_of_endsWord ((h piece hpiece).2 c hc)
  have hunderscore : (fun c : Char => !c.isAlphanum) '_' = true := by decide
  have hruns : pieces.flatMap (runsOutside fun c => !c.isAlphanum) = pieces := by
    rw [List.flatMap_congr (g := fun piece => [piece]) fun piece hpiece => ?_,
      List.flatMap_singleton']
    exact runsOutside_eq_singleton (h piece hpiece).1 fun c hc => by
      rw [(toLower_of_endsWord ((h piece hpiece).2 c hc)).1]
      rfl
  rw [splitWords, spaced_spaced, spacedBy_caseRule_of_not_isUpper hupper,
    runsOutside_joinWith hunderscore, hruns]
  conv_rhs => rw [← List.map_id pieces]
  refine List.map_congr_left fun piece hpiece => ?_
  conv_rhs => rw [id, ← List.map_id piece]
  exact List.map_congr_left fun c hc => (toLower_of_endsWord ((h piece hpiece).2 c hc)).2

/-! ## The cut -/

/-- The words of an identifier are the longest stretches of its letters and digits
without a case boundary inside, in order and in lower case. They hold all of its letters
and digits, and joined by underscores they are cut into the same words again. -/
theorem words_cut_at_case_boundaries (name : String) :
    (∃ spans : List (ℕ × ℕ), (spans.Pairwise fun p q => p.2 ≤ q.1) ∧
        (∀ start stop, (start, stop) ∈ spans ↔ IsWordSpan name.toList start stop) ∧
        words name = spans.map fun p =>
          String.ofList (((name.toList.take p.2).drop p.1).map Char.toLower)) ∧
      (∀ w ∈ words name, w ≠ "" ∧ ∀ c ∈ w.toList, c.isLower = true ∨ c.isDigit = true) ∧
      (words name).flatMap String.toList =
        (name.toList.filter Char.isAlphanum).map Char.toLower ∧
      words (Text.join "_" (words name)) = words name := by
  refine ⟨⟨wordSpans name.toList, pairwise_wordSpans _,
    fun _ _ => mem_wordSpans_iff, words_eq name⟩,
    fun w hw => ?_, ?_, ?_⟩
  · obtain ⟨hne, hall⟩ := endsWord_of_mem_words hw
    exact ⟨hne, fun c hc => by simpa [endsWord] using hall c hc⟩
  · rw [words, List.flatMap_map, ← flatten_splitWords]
    simp [List.flatMap_def]
  · have hunderscore : "_".toList = ['_'] := rfl
    have hpieces : splitWords (joinWith ['_'] ((words name).map String.toList)) =
        (words name).map String.toList := by
      refine splitWords_joinWith fun piece hpiece => ?_
      obtain ⟨w, hw, rfl⟩ := List.mem_map.mp hpiece
      obtain ⟨hne, hall⟩ := endsWord_of_mem_words hw
      exact ⟨by simpa using hne, hall⟩
    rw [words, Text.join, String.toList_ofList, hunderscore, hpieces, List.map_map]
    simp [Function.comp_def]

example : words "parseHTTPResponse2Text_v10IDs" =
    ["parse", "http", "response2", "text", "v10", "i", "ds"] := by
  decide +kernel

end CodeRetrieval.Identifier
