import CodeRetrieval.Proofs.Lexical.Tokens
import CodeRetrieval.Proofs.Text.Lowered

/-!
# Tokens of texts that are put together

The tokens of a text are what is left of it in lower case without the separators. Texts
can be tokenized one by one and put together afterwards, as it happens in the
description of a chunk, and tokens are tokenized already.
-/

namespace CodeRetrieval.Lexical

open Text

def separators : List String :=
  [" ", "\n"]

theorem tokenize_append_separator {separator : String}
    (h : separator ∈ separators) (s t : String) :
    tokenize (s ++ separator ++ t) = tokenize s ++ tokenize t := by
  have hcut : ∃ c, Separates c ∧ separator.toList = [c] := by
    simp only [separators, List.mem_cons, List.not_mem_nil, or_false] at h
    rcases h with rfl | rfl
    · exact ⟨' ', separates_of_isBlank rfl, rfl⟩
    · exact ⟨'\n', separates_of_isBlank rfl, rfl⟩
  obtain ⟨c, hc, hseparator⟩ := hcut
  rw [tokenize, String.toList_append, String.toList_append, hseparator, List.append_assoc,
    List.singleton_append, tokens_append_cons hc, List.map_append]
  rfl

/-! ## Descriptions -/

theorem flatMap_tokenize_present (s : Option String) :
    (present s).flatMap tokenize = s.elim [] tokenize := by
  cases s with
  | none => rfl
  | some s =>
      by_cases hs : s.isEmpty = true
      · have hempty : s = "" := String.isEmpty_iff.mp hs
        subst hempty
        rfl
      · simp [present, Option.filter, hs]

theorem tokenize_description (c : Chunk) :
    tokenize (description c) = tokenize c.path ++ tokenize c.kind.text ++ tokenize c.name ++
      tokenize c.language ++
      c.docComment.elim [] tokenize ++ c.parentClass.elim [] tokenize ++
        c.keywords.flatMap tokenize := by
  rw [description, tokenize_join, descriptionParts, List.flatMap_append,
    List.flatMap_append, List.flatMap_append, flatMap_tokenize_present,
    flatMap_tokenize_present]
  simp

/-! ## Single tokens -/

variable {s : List Char} {token : List Char}

theorem flatten_tokens (s : List Char) :
    (tokens s).flatten = (lower s).filter isAlphanumeric := by
  rw [tokens, flatten_runsOutside]
  simp

theorem of_mem_tokens (h : token ∈ tokens s) :
    token ≠ [] ∧ IsLowered token ∧ ∀ c ∈ token, isAlphanumeric c = true := by
  obtain ⟨hne, hall⟩ := of_mem_runsOutside h
  refine ⟨hne, fun c hc => ?_, fun c hc => by simpa using hall c hc⟩
  have hkept : c ∈ (tokens s).flatten := List.mem_flatten.mpr ⟨token, h, hc⟩
  rw [flatten_tokens] at hkept
  exact isLowered_lower s c (List.mem_of_mem_filter hkept)

/-- A token is its own only token. -/
theorem tokens_of_mem_tokens (h : token ∈ tokens s) : tokens token = [token] := by
  obtain ⟨hne, hlowered, hall⟩ := of_mem_tokens h
  rw [tokens, lower_of_isLowered hlowered]
  exact runsOutside_eq_singleton hne fun c hc => by simp [hall c hc]

theorem tokenize_join_tokenize (s : String) :
    tokenize (join " " (tokenize s)) = tokenize s := by
  have htoken : ∀ token ∈ tokenize s, tokenize token = [token] := by
    intro token htoken
    obtain ⟨t, ht, rfl⟩ := List.mem_map.mp htoken
    rw [tokenize, String.toList_ofList, tokens_of_mem_tokens ht]
    rfl
  rw [tokenize_join, List.flatMap_congr htoken]
  exact List.flatMap_singleton' _

/-- Where texts are put together with a blank or a line feed between them, so are their
tokens, and the tokens of a description are those of its parts. The tokens of a text
hold its letters and digits in lower case, all of them in their order and nothing else;
none of the tokens is empty. Put together with blanks between them they are tokenized to
themselves. -/
theorem tokenize_distributes :
    (∀ separator ∈ separators, ∀ s t : String, tokenize (s ++ separator ++ t) =
      tokenize s ++ tokenize t) ∧
    (∀ c : Chunk, tokenize (description c) =
      tokenize c.path ++ tokenize c.kind.text ++ tokenize c.name ++ tokenize c.language ++
        c.docComment.elim [] tokenize ++ c.parentClass.elim [] tokenize ++
          c.keywords.flatMap tokenize) ∧
    ∀ s : String,
      (∀ token ∈ tokenize s, token ≠ "" ∧
        ∀ c ∈ token.toList, isAlphanumeric c = true ∧ c ≠ '_') ∧
      (tokenize s).flatMap String.toList = (lower s.toList).filter isAlphanumeric ∧
      tokenize (join " " (tokenize s)) = tokenize s := by
  refine ⟨fun _ h => tokenize_append_separator h, tokenize_description, fun s =>
    ⟨?_, ?_, tokenize_join_tokenize s⟩⟩
  · intro token htoken
    obtain ⟨t, ht, rfl⟩ := List.mem_map.mp htoken
    obtain ⟨hne, -, hall⟩ := of_mem_tokens ht
    refine ⟨fun hempty => hne (by simpa using hempty), fun c hc => ?_⟩
    have hc : isAlphanumeric c = true := hall c (by simpa using hc)
    refine ⟨hc, ?_⟩
    rintro rfl
    exact absurd hc (by decide)
  · rw [tokenize, List.flatMap_map, ← flatten_tokens, List.flatMap_def]
    simp

end CodeRetrieval.Lexical
