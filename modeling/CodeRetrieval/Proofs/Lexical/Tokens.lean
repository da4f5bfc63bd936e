import CodeRetrieval.Lexical.Tokens
import CodeRetrieval.Proofs.Text.Case
import CodeRetrieval.Proofs.Text.Runs

/-!
# Tokens of joined texts

Texts that are joined with blanks between them keep their tokens: lower-casing does not
look across a blank, and no token goes on behind one.
-/

namespace CodeRetrieval.Lexical

open Text

/-- A character that belongs to no token and leaves what stands around it alone. -/
structure Separates (c : Char) : Prop where
  counts : isCaseIgnorable c = false
  caseless : isCased c = false
  unchanged : lowerChar c = [c]
  noToken : isAlphanumeric c = false

theorem isAlphanumeric_of_isBlank {c : Char} (hc : isBlank c = true) :
    isAlphanumeric c = false := by
  rw [isAlphanumeric]
  split
  · exact isAlphanum_of_isBlank hc
  · exact inRanges_eq_false_of_apart (by decide +kernel) hc

theorem separates_of_isBlank {c : Char} (hc : isBlank c = true) : Separates c where
  counts := (caseless_of_isBlank hc).1
  caseless := (caseless_of_isBlank hc).2
  unchanged := lowerChar_of_isBlank hc
  noToken := isAlphanumeric_of_isBlank hc

theorem tokens_append_cons {c : Char} (hc : Separates c) (s t : List Char) :
    tokens (s ++ c :: t) = tokens s ++ tokens t := by
  have hlower : lower (s ++ c :: t) = lower s ++ c :: lower t := by
    rw [lower_append_cons hc.counts hc.caseless, hc.unchanged, List.singleton_append]
  rw [tokens, hlower, runsOutside_append_cons (by simp [hc.noToken])]
  rfl

theorem tokens_joinWith {c : Char} (hc : Separates c) (pieces : List (List Char)) :
    tokens (joinWith [c] pieces) = pieces.flatMap tokens := by
  induction pieces with
  | nil => rfl
  | cons piece pieces ih =>
      cases pieces with
      | nil => simp [joinWith]
      | cons next pieces =>
          rw [joinWith] at ih
          rw [joinWith, List.intercalate_cons_cons, List.append_assoc,
            List.singleton_append, tokens_append_cons hc, ih]
          rfl

theorem tokenize_join (parts : List String) :
    tokenize (join " " parts) = parts.flatMap tokenize := by
  have hsep : " ".toList = [' '] := rfl
  rw [tokenize, join, String.toList_ofList, hsep,
    tokens_joinWith (separates_of_isBlank (c := ' ') rfl),
    List.flatMap_map, List.map_flatMap]
  rfl

/-- Letters and digits of ASCII are one token, in lower case. -/
theorem tokens_of_isAlphanum {s : List Char} (hs : s ≠ [])
    (h : ∀ c ∈ s, c.isAlphanum = true) :
    tokens s = [s.map Char.toLower] := by
  have hascii : ∀ c ∈ s, c.toNat < 128 := fun c hc => toNat_lt_of_isAlphanum (h c hc)
  rw [tokens, lower_of_ascii hascii]
  refine runsOutside_eq_singleton (by simpa using hs) fun c hc => ?_
  obtain ⟨d, hd, rfl⟩ := List.mem_map.mp hc
  have hd := h d hd
  have hlower : isAlphanumeric d.toLower = true := by
    have hbound := toNat_lt_of_isAlphanum hd
    revert hd
    exact forall_of_ascii (by decide +kernel) hbound
  simp [hlower]

end CodeRetrieval.Lexical
