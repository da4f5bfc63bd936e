import CodeRetrieval.Chunk.Words

/-!
# Spaces at case boundaries

The two patterns that put spaces into an identifier look for matches that do not
overlap, and the second one runs over what the first one has left. Still a space comes
to stand exactly where a rule asks for it that looks at one place of the identifier
alone.
-/

namespace CodeRetrieval.Identifier

variable {a b c : Char} {s rest : List Char}

/-! ## Letter case -/

theorem endsWord_eq_false_of_isUpper (h : a.isUpper = true) : endsWord a = false := by
  delta Char.isUpper at h
  delta endsWord Char.isLower Char.isDigit
  grind

theorem isUpper_eq_false_of_endsWord (h : endsWord a = true) : a.isUpper = false := by
  cases hupper : a.isUpper with
  | false => rfl
  | true => cases h.symm.trans (endsWord_eq_false_of_isUpper hupper)

theorem isUpper_eq_false_of_isLower (h : a.isLower = true) : a.isUpper = false :=
  isUpper_eq_false_of_endsWord (by simp [endsWord, h])

theorem isLower_eq_false_of_isUpper (h : a.isUpper = true) : a.isLower = false := by
  have hends := endsWord_eq_false_of_isUpper h
  rw [endsWord, Bool.or_eq_false_iff] at hends
  exact hends.1

theorem startsCapitalized_eq_false_of_isLower (h : a.isLower = true) (s : List Char) :
    startsCapitalized (a :: s) = false := by
  cases s with
  | nil => rfl
  | cons b s => simp [startsCapitalized, isUpper_eq_false_of_isLower h]

theorem startsCapitalized_eq_false_of_isUpper (h : b.isUpper = true)
    (a : Char) (s : List Char) :
    startsCapitalized (a :: b :: s) = false := by
  simp [startsCapitalized, isLower_eq_false_of_isUpper h]

/-! ## Rules for one place -/

/-- Whether a space belongs behind a character, by the characters that follow it. -/
abbrev Rule := Char → List Char → Bool

def capitalRule : Rule := fun a s =>
  endsWord a && s.head?.any Char.isUpper

def acronymRule : Rule := fun a s =>
  a.isUpper && startsCapitalized s

def caseRule : Rule := fun a s =>
  capitalRule a s || acronymRule a s

/-- The text with a space behind each character where the rule asks for one. -/
def spacedBy (rule : Rule) : List Char → List Char
  | [] => []
  | a :: s => if rule a s then a :: ' ' :: spacedBy rule s else a :: spacedBy rule s

theorem spacedBy_cons_of_pos {rule : Rule} (h : rule a s = true) :
    spacedBy rule (a :: s) = a :: ' ' :: spacedBy rule s :=
  if_pos h

theorem spacedBy_cons_of_neg {rule : Rule} (h : rule a s = false) :
    spacedBy rule (a :: s) = a :: spacedBy rule s :=
  if_neg (by simp [h])

theorem capitalRule_of_isUpper (h : a.isUpper = true) (s : List Char) :
    capitalRule a s = false := by
  rw [capitalRule, endsWord_eq_false_of_isUpper h, Bool.false_and]

theorem acronymRule_of_not_isUpper (h : a.isUpper = false) (s : List Char) :
    acronymRule a s = false := by
  rw [acronymRule, h, Bool.false_and]

/-! ## The first pattern -/

/-- A match ends with an upper-case letter, behind which no other match starts that this
one could hide. -/
theorem spacedFrom_beforeCapital {n : Nat} (hn : s.length ≤ n) :
    spacedFrom beforeCapital n s = spacedBy capitalRule s := by
  induction n generalizing s with
  | zero =>
      obtain rfl : s = [] := List.length_eq_zero_iff.mp (Nat.le_zero.mp hn)
      rfl
  | succ n ih =>
      match s with
      | [] => rfl
      | [a] =>
          have hrule : capitalRule a [] = false := by simp [capitalRule]
          rw [spacedBy_cons_of_neg hrule, ← ih (s := []) (Nat.zero_le n)]
          rfl
      | a :: b :: s =>
          have hlength : s.length + 1 ≤ n := Nat.le_of_succ_le_succ hn
          cases hrule : capitalRule a (b :: s) with
          | true =>
              have hb : b.isUpper = true := by simp_all [capitalRule]
              have hmatch : beforeCapital (a :: b :: s) = some (1, 1) :=
                if_pos (by simpa [capitalRule] using hrule)
              rw [spacedBy_cons_of_pos hrule,
                spacedBy_cons_of_neg (capitalRule_of_isUpper hb s), ← ih
                (Nat.le_of_succ_le hlength)]
              simp [spacedFrom, hmatch]
          | false =>
              have hmatch : beforeCapital (a :: b :: s) = none :=
                if_neg (by simpa [capitalRule] using hrule)
              rw [spacedBy_cons_of_neg hrule, ← ih (s := b :: s) hlength]
              simp [spacedFrom, hmatch]

/-! ## The second pattern -/

/-- What the pattern matches is a run of upper-case letters up to its last one, this
one, and a lower-case letter. -/
theorem exists_of_acronymLength?_eq_some {n : Nat} (h : acronymLength? s = some n) :
    ∃ run b c rest, s = run ++ b :: c :: rest ∧ run.length = n ∧ run ≠ [] ∧
      (∀ x ∈ run, x.isUpper = true) ∧
      b.isUpper = true ∧ c.isLower = true := by
  induction s generalizing n with
  | nil => cases h
  | cons a s ih =>
      rw [acronymLength?] at h
      split at h
      · rename_i ha
        split at h
        · rename_i m hm
          obtain ⟨run, b, c, rest, rfl, hlength, -, hrun, hb, hc⟩ := ih hm
          refine ⟨a :: run, b, c, rest, rfl, ?_, List.cons_ne_nil a run,
            List.forall_mem_cons.mpr ⟨ha, hrun⟩, hb, hc⟩
          rw [List.length_cons, hlength]
          exact Option.some.inj h
        · split at h
          · rename_i hstarts
            match s with
            | b :: c :: rest =>
                rw [startsCapitalized, Bool.and_eq_true] at hstarts
                exact ⟨[a], b, c, rest, rfl, Option.some.inj h,
                  List.cons_ne_nil a [], by simpa using ha, hstarts⟩
          · cases h
      · cases h

theorem acronymRule_of_acronymLength?_eq_none (h : acronymLength? (a :: s) = none) :
    acronymRule a s = false := by
  rw [acronymLength?] at h
  split at h
  · split at h
    · cases h
    · split at h
      · cases h
      · rename_i hstarts
        rw [acronymRule, Bool.eq_false_iff.mpr hstarts, Bool.and_false]
  · rename_i ha
    exact acronymRule_of_not_isUpper (Bool.eq_false_iff.mpr ha) s

/-- In what the pattern matches the rule asks for the one space before the last
upper-case letter. -/
theorem spacedBy_acronymRule_append {run : List Char} (hne : run ≠ [])
    (hrun : ∀ x ∈ run, x.isUpper = true) (hb : b.isUpper = true) (hc : c.isLower = true)
    (rest : List Char) :
    spacedBy acronymRule (run ++ b :: c :: rest) =
      run ++ ' ' :: b :: c :: spacedBy acronymRule rest := by
  induction run with
  | nil => exact absurd rfl hne
  | cons a run ih =>
      obtain ⟨ha, hrun⟩ := List.forall_mem_cons.mp hrun
      cases run with
      | nil =>
          have hfirst : acronymRule a (b :: c :: rest) = true := by
            simp [acronymRule, startsCapitalized, ha, hb, hc]
          have hsecond : acronymRule b (c :: rest) = false := by
            rw [acronymRule, startsCapitalized_eq_false_of_isLower hc, Bool.and_false]
          have hthird := acronymRule_of_not_isUpper (isUpper_eq_false_of_isLower hc) rest
          rw [List.singleton_append, spacedBy_cons_of_pos hfirst,
            spacedBy_cons_of_neg hsecond, spacedBy_cons_of_neg hthird]
          rfl
      | cons d run =>
          -- behind two upper-case letters of the run stands a third one
          have hnone : acronymRule a (d :: run ++ b :: c :: rest) = false := by
            rw [acronymRule, Bool.and_eq_false_iff]
            right
            cases run with
            | nil => exact startsCapitalized_eq_false_of_isUpper hb d (c :: rest)
            | cons e run =>
                have he : e.isUpper = true := hrun e (by simp)
                exact startsCapitalized_eq_false_of_isUpper he d (run ++ b :: c :: rest)
          rw [List.cons_append, spacedBy_cons_of_neg hnone,
            ih (List.cons_ne_nil d run) hrun]
          rfl

/-- A match takes the whole run of upper-case letters, of which the rule asks for one
space alone. -/
theorem spacedFrom_afterAcronym {n : Nat} (hn : s.length ≤ n) :
    spacedFrom afterAcronym n s = spacedBy acronymRule s := by
  induction n generalizing s with
  | zero =>
      obtain rfl : s = [] := List.length_eq_zero_iff.mp (Nat.le_zero.mp hn)
      rfl
  | succ n ih =>
      cases s with
      | nil => rfl
      | cons a s =>
          cases hmatch : acronymLength? (a :: s) with
          | none =>
              rw [spacedBy_cons_of_neg (acronymRule_of_acronymLength?_eq_none hmatch),
                ← ih (Nat.le_of_succ_le_succ hn)]
              simp [spacedFrom, afterAcronym, hmatch]
          | some first =>
              obtain ⟨run, b, c, rest, hs, rfl, hne, hrun, hb, hc⟩ :=
                exists_of_acronymLength?_eq_some hmatch
              have hrest : rest.length ≤ n := by
                rw [hs, List.length_append, List.length_cons, List.length_cons] at hn
                omega
              have hdrop : (run ++ b :: c :: rest).drop (run.length + 2) = rest := by
                rw [List.drop_append, Nat.add_sub_cancel_left,
                  List.drop_eq_nil_of_le (by omega)]
                rfl
              have hstep : spacedFrom afterAcronym (n + 1) (a :: s)
                  = (a :: s).take run.length ++ ' ' :: ((a :: s).drop run.length).take 2
                    ++ spacedFrom afterAcronym n ((a :: s).drop (run.length + 2)) := by
                simp [spacedFrom, afterAcronym, hmatch]
              rw [hstep, hs, spacedBy_acronymRule_append hne hrun hb hc, List.take_left,
                List.drop_left, hdrop, ih hrest]
              simp

/-! ## Both patterns -/

/-- The first rule puts no space where the second one looks. -/
theorem startsCapitalized_spacedBy (s : List Char) :
    startsCapitalized (spacedBy capitalRule s) = startsCapitalized s := by
  match s with
  | [] => rfl
  | [a] =>
      have hrule : capitalRule a [] = false := by simp [capitalRule]
      rw [spacedBy_cons_of_neg hrule]
      rfl
  | a :: b :: s =>
      cases hrule : capitalRule a (b :: s) with
      | true =>
          have ha : a.isUpper = false :=
            isUpper_eq_false_of_endsWord (by simp_all [capitalRule])
          rw [spacedBy_cons_of_pos hrule]
          simp [startsCapitalized, ha]
      | false =>
          rw [spacedBy_cons_of_neg hrule, spacedBy]
          split <;> rfl

/-- Putting in the spaces of one kind after those of the other is putting in all of them
at once. -/
theorem spacedBy_acronymRule_spacedBy (s : List Char) :
    spacedBy acronymRule (spacedBy capitalRule s) = spacedBy caseRule s := by
  induction s with
  | nil => rfl
  | cons a s ih =>
      cases hrule : capitalRule a s with
      | true =>
          have ha : a.isUpper = false :=
            isUpper_eq_false_of_endsWord (by simp_all [capitalRule])
          have hcase : caseRule a s = true := by rw [caseRule, hrule, Bool.true_or]
          rw [spacedBy_cons_of_pos hrule,
            spacedBy_cons_of_neg (acronymRule_of_not_isUpper ha _),
            spacedBy_cons_of_neg (acronymRule_of_not_isUpper (by decide) _), ih,
            spacedBy_cons_of_pos hcase]
      | false =>
          have hsame : acronymRule a (spacedBy capitalRule s) = caseRule a s := by
            rw [caseRule, hrule, Bool.false_or, acronymRule, acronymRule,
              startsCapitalized_spacedBy]
          rw [spacedBy_cons_of_neg hrule, spacedBy, spacedBy, hsame, ih]

/-- The patterns put spaces in at the case boundaries. -/
theorem spaced_spaced (name : List Char) :
    spaced afterAcronym (spaced beforeCapital name) = spacedBy caseRule name := by
  rw [spaced, spacedFrom_afterAcronym (Nat.le_refl _), spaced,
    spacedFrom_beforeCapital (Nat.le_refl _), spacedBy_acronymRule_spacedBy]

end CodeRetrieval.Identifier
