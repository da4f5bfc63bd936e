import CodeRetrieval.Proofs.Chunk.CaseBoundary
import CodeRetrieval.Proofs.Lexical.Search
import CodeRetrieval.Proofs.Lexical.Tokens

/-!
# Units are found by the words of their names

The words of an identifier are cut at changes of case, the tokens of a text only between
letters and other characters. Still every longer word of a unit's name is a token of its
description, since it is there as a keyword of its own.
-/

namespace CodeRetrieval

namespace Lexical

open Identifier Text

theorem isAlphanum_toLower {c : Char} (h : c.isAlphanum = true) :
    c.toLower.isAlphanum = true ∧ c.toLower.toUpper.isAlphanum = true ∧
      c.toLower.toLower = c.toLower ∧
      c.toLower.toUpper.toLower = c.toLower := by
  have hc := toNat_lt_of_isAlphanum h
  revert h
  exact forall_of_ascii (by decide +kernel) hc

/-- A word of an identifier is its own only token, and it stays so in capitals. -/
theorem tokenize_of_mem_words {name w : String} (h : w ∈ words name) :
    tokenize w = [w] ∧ tokenize w.toUpper = [w] := by
  obtain ⟨run, hne, hrun, rfl⟩ := exists_run_of_mem_words h
  have hlower : tokens (run.map Char.toLower) = [run.map Char.toLower] := by
    rw [tokens_of_isAlphanum (by simpa using hne), List.map_map]
    · exact congrArg ([·]) (List.map_congr_left fun c hc =>
        (isAlphanum_toLower (hrun c hc)).2.2.1)
    · intro c hc
      obtain ⟨d, hd, rfl⟩ := List.mem_map.mp hc
      exact (isAlphanum_toLower (hrun d hd)).1
  have hupper : tokens ((run.map Char.toLower).map Char.toUpper) =
      [run.map Char.toLower] := by
    rw [tokens_of_isAlphanum (by simpa using hne), List.map_map, List.map_map]
    · exact congrArg ([·]) (List.map_congr_left fun c hc =>
        (isAlphanum_toLower (hrun c hc)).2.2.2)
    · intro c hc
      rw [List.map_map] at hc
      obtain ⟨d, hd, rfl⟩ := List.mem_map.mp hc
      exact (isAlphanum_toLower (hrun d hd)).2.1
  constructor
  · rw [tokenize, String.toList_ofList, hlower]
    rfl
  · rw [tokenize, String.toUpper, String.toList_map, String.toList_ofList, hupper]
    rfl

theorem mem_unitKeywords {name path w : String} {kind : ChunkKind}
    {parentClass : Option String} (hw : w ∈ words name) (hlength : 2 < w.length) :
    w ∈ unitKeywords name kind path parentClass := by
  have hfilter : w ∈ (words name).filter fun w => decide (2 < w.length) :=
    List.mem_filter.mpr ⟨hw, decide_eq_true hlength⟩
  rw [unitKeywords, List.mem_eraseDups]
  simp only [List.mem_append, hfilter, or_true, true_or]

theorem mem_tokenize_description {c : Chunk} {keyword token : String}
    (hkeyword : keyword ∈ c.keywords) (htoken : token ∈ tokenize keyword) :
    token ∈ tokenize (description c) := by
  rw [description, tokenize_join]
  exact List.mem_flatMap.mpr ⟨keyword, List.mem_append_right _ hkeyword, htoken⟩

end Lexical

namespace LexicalIndex

open Lexical

/-- Among any chunks one with the keywords of a unit is found, with a positive score, by
every word of its name with more than two letters, in small letters or in capitals. -/
theorem search_finds_words_of_name {chunks : List Chunk} {c : Chunk} (hc : c ∈ chunks)
    {kind : ChunkKind} {path : String} {parentClass : Option String}
    (hkeywords : c.keywords = unitKeywords c.name kind path parentClass) {w : String}
    (hw : w ∈ Identifier.words c.name) (hlength : 2 < w.length) {topK : ℤ}
    (htopK : (chunks.length : ℤ) ≤ topK) {query : String}
    (hquery : query = w ∨ query = w.toUpper) :
    ∃ found : List (Ranked Exact Chunk),
      (ofDescriptions chunks).search query topK = .ok found ∧
      ∃ r ∈ found, r.item = c ∧ 0 < r.score.val := by
  obtain ⟨hlower, hupper⟩ := tokenize_of_mem_words hw
  have htokens : tokenize query = [w] := by
    rcases hquery with rfl | rfl
    · exact hlower
    · exact hupper
  have hmem : w ∈ tokenize (description c) :=
    mem_tokenize_description (hkeywords ▸ mem_unitKeywords hw hlength)
      (hlower ▸ List.mem_cons_self)
  have hshared : ∃ token ∈ tokenize query, token ∈ tokenize (description c) :=
    ⟨w, htokens ▸ List.mem_cons_self, hmem⟩
  have hcorpus : tokenize (description c) ∈ corpus description chunks :=
    List.mem_map_of_mem hc
  refine ⟨_, search_build_eq_sharing "bm25-metadata" description
    (List.ne_nil_of_mem hc) query topK,
    ⟨c, ⟨bm25 (corpus description chunks) (tokenize query) (tokenize (description c))⟩⟩,
    ?_, rfl, (bm25_pos_iff hcorpus).mpr hshared⟩
  have hfits : (Ranking.descending Ranked.score (sharing description chunks query)).length ≤
      topK.toNat := by
    have hsharing : (sharing description chunks query).length ≤ chunks.length := by
      rw [sharing, List.length_map]
      exact List.length_filter_le _ _
    rw [Ranking.descending, List.length_mergeSort]
    omega
  rw [List.take_of_length_le hfits, Ranking.mem_descending]
  exact List.mem_map_of_mem (List.mem_filter.mpr ⟨hc, shares_iff.mpr hshared⟩)

def camelCaseUnit : Chunk where
  id := "web/client.py:3"
  path := "web/client.py"
  span := ⟨3, 4, by decide, by decide⟩
  kind := .method
  name := "parseHTTPResponse"
  language := "python"
  code := "def parseHTTPResponse(self, body):\n    return body"
  docComment := none
  parentClass := some "Client"
  imports := []
  calls := []
  keywords := unitKeywords "parseHTTPResponse" .method "web/client.py" (some "Client")
  dependencies := []
  embedding := none
  fullSize := none

/-- The acronym in a name finds it among other chunks. -/
theorem search_finds_acronym :
    camelCaseUnit.keywords =
      unitKeywords camelCaseUnit.name .method "web/client.py" (some "Client") ∧
      "http" ∈ Identifier.words camelCaseUnit.name ∧ 2 < "http".length ∧
      ∃ found : List (Ranked Exact Chunk),
        (ofDescriptions [{ camelCaseUnit with name := "body", keywords := [] },
          camelCaseUnit]).search "HTTP" 2
          = .ok found ∧ ∃ r ∈ found, r.item = camelCaseUnit ∧ 0 < r.score.val := by
  have hkeywords : camelCaseUnit.keywords
      = unitKeywords camelCaseUnit.name .method "web/client.py" (some "Client") := rfl
  have hwords : Identifier.words camelCaseUnit.name = ["parse", "http", "response"] := by
    decide +kernel
  have hw : "http" ∈ Identifier.words camelCaseUnit.name := by simp [hwords]
  have hcapitals : "HTTP" = "http".toUpper := by decide +kernel
  have hmem : camelCaseUnit ∈
      [{ camelCaseUnit with name := "body", keywords := [] }, camelCaseUnit] :=
    List.mem_cons_of_mem _ List.mem_cons_self
  exact ⟨hkeywords, hw, by decide,
    search_finds_words_of_name hmem hkeywords hw (by decide) (by decide) (.inr hcapitals)⟩

end LexicalIndex

end CodeRetrieval
