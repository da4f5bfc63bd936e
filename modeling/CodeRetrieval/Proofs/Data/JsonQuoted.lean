import CodeRetrieval.Data.Json
import CodeRetrieval.Proofs.Data.Results
import CodeRetrieval.Proofs.Text.Blank
import CodeRetrieval.Proofs.Text.Case
import Mathlib.Data.Bool.AllAny

/-!
# Texts in quotes and what stands behind them

What a reader takes from the front of a text does not depend on blanks behind the text.
An open quote may take such blanks for a part of its text, but it is not closed by them,
and so nothing is read.
-/

namespace CodeRetrieval.Data.Json

open Notation Text

variable {c : Char} {s t rest : List Char}

/-! ## Blanks -/

theorem ne_of_isBlank {a : Char} (hc : isBlank c = true)
    (ha : isBlank a = false) : c ≠ a := by
  rintro rfl
  rw [hc] at ha
  cases ha

theorem isDigit_of_isBlank (hc : isBlank c = true) : c.isDigit = false :=
  forall_of_inRanges (P := fun c => c.isDigit = false) (by decide +kernel) hc

theorem hexDigit?_of_isBlank (hc : isBlank c = true) : hexDigit? c = none :=
  forall_of_inRanges (P := fun c => hexDigit? c = none) (by decide +kernel) hc

/-- A reader takes `a` from `s` and leaves `left`, within any bound that is no smaller
than the number of characters that it takes. -/
def Takes {α : Type} (read : ℕ → Reader α) (s : List Char) (a : α)
    (left : List Char) : Prop :=
  left.length < s.length ∧ ∀ n, s.length ≤ n + left.length → read n s = .ok (a, left)

/-- What a reader takes from a text with blanks behind it, it takes from the text alone. -/
def IsLocal {α : Type} (read : ℕ → Reader α) (n : ℕ) : Prop :=
  ∀ ⦃s t : List Char⦄ ⦃a : α⦄ ⦃rest : List Char⦄, (∀ c ∈ t, isBlank c = true) →
    read n (s ++ t) = .ok (a, rest) →
    ∃ left, rest = left ++ t ∧ Takes read s a left

section

variable {α β : Type} {read : ℕ → Reader α} {n : ℕ} {left : List Char}

theorem Takes.of_succ {a : α} (hleft : left.length < s.length)
    (h : ∀ n, s.length ≤ n + 1 + left.length → read (n + 1) s = .ok (a, left)) :
    Takes read s a left := by
  refine ⟨hleft, fun n hn => ?_⟩
  cases n with
  | zero => omega
  | succ n => exact h n hn

/-- A reader that adds to what another one takes from a later part of the text. -/
theorem IsLocal.map {add : ℕ → Reader β} {f : α → β} {later : List Char} {b : β}
    (hlocal : IsLocal read n) (ht : ∀ c ∈ t, isBlank c = true)
    (hlength : later.length < s.length)
    (hadd : ∀ m, add (m + 1) s = (read m later).map fun (a, rest) => (f a, rest))
    (h : ((read n (later ++ t)).map fun (a, rest) => (f a, rest)) = .ok (b, rest)) :
    ∃ left, rest = left ++ t ∧ Takes add s b left := by
  obtain ⟨⟨a, after⟩, hread, hpair⟩ := map_eq_ok.mp h
  obtain ⟨rfl, rfl⟩ := Prod.mk.inj hpair
  obtain ⟨left, rfl, hleft, hfuel⟩ := hlocal ht hread
  refine ⟨left, rfl, .of_succ (by omega) fun m hm => ?_⟩
  rw [hadd]
  exact map_eq_ok.mpr ⟨_, hfuel m (by omega), rfl⟩

end

section

variable (ht : ∀ c ∈ t, isBlank c = true)
include ht

/-! ## Texts in quotes -/

omit ht in
theorem of_unit?_eq_some {n : ℕ} (h : unit? s = some n) :
    4 ≤ s.length ∧ ∀ c ∈ s.take 4, (hexDigit? c).isSome = true := by
  unfold unit? at h
  split at h
  · rename_i w x y z rest
    simp only [Option.bind_eq_bind, Option.bind_eq_some_iff] at h
    obtain ⟨_, hw, _, hx, _, hy, _, hz, -⟩ := h
    simp [hw, hx, hy, hz]
  · cases h

theorem unit?_append (s : List Char) : unit? (s ++ t) = unit? s := by
  by_cases hlength : 4 ≤ s.length
  · obtain ⟨front, rest, rfl, hfront⟩ : ∃ front rest, s =
        front ++ rest ∧ front.length = 4 :=
      ⟨s.take 4, s.drop 4, (List.take_append_drop 4 s).symm, by simp [hlength]⟩
    obtain ⟨w, x, y, z, rfl⟩ : ∃ w x y z, front = [w, x, y, z] := by
      match front, hfront with
      | [w, x, y, z], _ => exact ⟨w, x, y, z, rfl⟩
    rfl
  · have hnone : ∀ t, (∀ c ∈ t, isBlank c = true) → unit? (s ++ t) = none := by
      intro t ht
      rw [Option.eq_none_iff_forall_ne_some]
      intro n hn
      obtain ⟨hfour, hdigits⟩ := of_unit?_eq_some hn
      cases t with
      | nil => exact hlength (by simpa using hfour)
      | cons b t =>
          -- the first blank stands among the four digits
          have hmem : b ∈ (s ++ b :: t).take 4 := by
            rw [List.take_append, List.mem_append,
              show 4 - s.length = (3 - s.length) + 1 by omega]
            exact .inr List.mem_cons_self
          have hsome := hdigits b hmem
          rw [hexDigit?_of_isBlank (ht b List.mem_cons_self)] at hsome
          cases hsome
    rw [hnone t ht, ← hnone [] (by simp), List.append_nil]

theorem after?_append {word : String}
    (hword : ∀ a ∈ word.toList, isBlank a = false) (s : List Char) :
    after? word (s ++ t) = (after? word s).map (· ++ t) := by
  unfold after?
  by_cases hstart : word.toList <+: s
  · have hlength := hstart.length_le
    rw [if_pos (List.isPrefixOf_iff_prefix.mpr hstart),
      if_pos (List.isPrefixOf_iff_prefix.mpr (hstart.trans (List.prefix_append s t))),
      Option.map_some, List.drop_append_of_le_length hlength]
  · have hlater : ¬ word.toList <+: s ++ t := by
      intro h
      obtain ⟨more, hmore⟩ :=
        (List.prefix_or_prefix_of_prefix h (List.prefix_append s t)).resolve_left hstart
      rw [← hmore, List.prefix_append_right_inj] at h
      cases more with
      | nil => exact hstart (by simp [← hmore])
      | cons a more =>
          have hword := hword a (by simp [← hmore])
          rw [ht a (h.subset List.mem_cons_self)] at hword
          cases hword
    rw [if_neg (fun h => hstart (List.isPrefixOf_iff_prefix.mp h)),
      if_neg (fun h => hlater (List.isPrefixOf_iff_prefix.mp h)), Option.map_none]

theorem escapedUnit?_append (s : List Char) : escapedUnit? (s ++ t) = escapedUnit? s := by
  have hletters : ∀ a ∈ "\\u".toList, isBlank a = false :=
    List.all_iff_forall_prop.mp (by decide)
  unfold escapedUnit?
  rw [unit?_append ht]
  cases hfirst : unit? s with
  | none => rfl
  | some first =>
      have hsecond : (after? "\\u" ((s ++ t).drop 4)).bind unit? =
          (after? "\\u" (s.drop 4)).bind unit? := by
        rw [List.drop_append_of_le_length (of_unit?_eq_some hfirst).1,
          after?_append ht hletters]
        cases after? "\\u" (s.drop 4) with
        | none => rfl
        | some rest => exact unit?_append ht rest
      simp only [hsecond]

omit ht in
theorem length_le_of_escapedUnit? {n : ℕ}
    (h : escapedUnit? s = some (c, n)) : n ≤ s.length := by
  unfold escapedUnit? at h
  obtain ⟨first, hfirst, h⟩ := Option.bind_eq_some_iff.mp h
  have hfour := (of_unit?_eq_some hfirst).1
  simp only at h
  split at h
  · rename_i low hlow
    split at h
    · obtain ⟨rest, hrest, hlow⟩ := Option.bind_eq_some_iff.mp hlow
      have hlength := (of_unit?_eq_some hlow).1
      unfold after? at hrest
      split at hrest
      · obtain rfl := Option.some.inj hrest
        obtain ⟨-, rfl⟩ := Prod.mk.inj (Option.some.inj h)
        have hmark : "\\u".toList.length = 2 := rfl
        rw [hmark, List.drop_drop, List.length_drop] at hlength
        omega
      · cases hrest
    · obtain ⟨-, rfl⟩ := Prod.mk.inj (Option.some.inj h)
      exact hfour
  · obtain ⟨-, rfl⟩ := Prod.mk.inj (Option.some.inj h)
    exact hfour

end

theorem readQuoted_escape {a : Char} (ha : a ≠ 'u') (n : ℕ) (s : List Char) :
    readQuoted (n + 1) ('\\' :: a :: s) =
      match escapedLetter? a with
      | some c => (readQuoted n s).map fun (cs, rest) => (c :: cs, rest)
      | none => .error .malformed := by
  have hquote : '\\' ≠ '\x22' := by decide
  cases hletter : escapedLetter? a with
  | none => simp only [readQuoted, if_neg hquote, if_true, hletter]
  | some c => simp only [readQuoted, if_neg hquote, if_true, hletter]

theorem readQuoted_unit (n : ℕ) (s : List Char) :
    readQuoted (n + 1) ('\\' :: 'u' :: s) =
      match escapedUnit? s with
      | some (c, length) =>
        (readQuoted n (s.drop length)).map fun (cs, rest) => (c :: cs, rest)
      | none => .error .malformed := by
  have hquote : '\\' ≠ '\x22' := by decide
  cases hunit : escapedUnit? s with
  | none => simp only [readQuoted, if_neg hquote, if_true, hunit]
  | some unit => simp only [readQuoted, if_neg hquote, if_true, hunit]

theorem readQuoted_plain (hquote : c ≠ '\x22') (hescape : c ≠ '\\')
    (n : ℕ) (s : List Char) :
    readQuoted (n + 1) (c :: s) =
      if c.toNat < 0x20 then .error .malformed else (readQuoted n s).map fun (cs, rest) =>
        (c :: cs, rest) := by
  rw [readQuoted.eq_def]
  simp only [if_neg hquote, if_neg hescape]

theorem escapedLetter?_of_isBlank (hc : isBlank c = true) : escapedLetter? c = none := by
  unfold escapedLetter?
  split
  all_goals first | rfl | exact absurd hc (by decide)

theorem isLocal_escape {n : ℕ} {text : List Char} (hquoted : IsLocal readQuoted n)
    (ht : ∀ c ∈ t, isBlank c = true)
    (h : readQuoted (n + 1) ('\\' :: (s ++ t)) = .ok (text, rest)) :
    ∃ left, rest = left ++ t ∧ Takes readQuoted ('\\' :: s) text left := by
  cases s with
  | nil =>
      cases t with
      | nil => cases h
      | cons b t =>
          have hb := ht b List.mem_cons_self
          rw [List.nil_append, readQuoted_escape (ne_of_isBlank hb (by decide)),
            escapedLetter?_of_isBlank hb] at h
          cases h
  | cons l s =>
      rw [List.cons_append] at h
      by_cases hunit : l = 'u'
      · subst hunit
        rw [readQuoted_unit, escapedUnit?_append ht] at h
        split at h
        · rename_i c length hc
          rw [List.drop_append_of_le_length (length_le_of_escapedUnit? hc)] at h
          refine hquoted.map ht ?_ (fun m => ?_) h
          · simp only [List.length_drop, List.length_cons]
            omega
          · rw [readQuoted_unit, hc]
        · cases h
      · rw [readQuoted_escape hunit] at h
        split at h
        · rename_i c hc
          refine hquoted.map ht ?_ (fun m => ?_) h
          · simp only [List.length_cons]
            omega
          · rw [readQuoted_escape hunit, hc]
        · cases h

/-- Blanks behind a text may be read as a part of an open quote, but they do not close
it. -/
theorem isLocal_readQuoted (n : ℕ) : IsLocal readQuoted n := by
  induction n with
  | zero =>
      intro s t a rest ht h
      cases h
  | succ n ih =>
      intro s t a rest ht h
      cases s with
      | nil =>
          cases t with
          | nil => cases h
          | cons b t =>
              obtain ⟨hb, ht⟩ := List.forall_mem_cons.mp ht
              rw [List.nil_append, readQuoted_plain (ne_of_isBlank hb (by decide))
                (ne_of_isBlank hb (by decide))] at h
              split at h
              · cases h
              · obtain ⟨⟨cs, after⟩, hread, -⟩ := map_eq_ok.mp h
                obtain ⟨left, -, hleft, -⟩ := ih (s := []) ht hread
                cases hleft
      | cons c s =>
          rw [List.cons_append] at h
          by_cases hquote : c = '\x22'
          · subst hquote
            obtain ⟨rfl, rfl⟩ := Prod.mk.inj (Except.ok.inj h)
            exact ⟨s, rfl, .of_succ (Nat.lt_succ_self _) fun m _ => rfl⟩
          by_cases hescape : c = '\\'
          · subst hescape
            exact isLocal_escape ih ht h
          · rw [readQuoted_plain hquote hescape] at h
            split at h
            · cases h
            · rename_i hcontrol
              refine ih.map ht (Nat.lt_succ_self _) (fun m => ?_) h
              rw [readQuoted_plain hquote hescape, if_neg hcontrol]

theorem readText_append (ht : ∀ c ∈ t, isBlank c = true) {text : String}
    (h : readText (s ++ t) = .ok (text, rest)) :
    ∃ left, rest = left ++ t ∧ left.length < s.length ∧ readText s = .ok (text, left) := by
  obtain ⟨⟨cs, after⟩, hread, hpair⟩ := map_eq_ok.mp h
  obtain ⟨rfl, rfl⟩ := Prod.mk.inj hpair
  obtain ⟨left, rfl, hleft, hfuel⟩ := isLocal_readQuoted _ ht hread
  exact ⟨left, rfl, hleft, map_eq_ok.mpr ⟨_, hfuel (s.length + 1) (by omega), rfl⟩⟩

end CodeRetrieval.Data.Json
