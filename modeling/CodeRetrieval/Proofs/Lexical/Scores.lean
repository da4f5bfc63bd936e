import CodeRetrieval.Lexical.Index
import CodeRetrieval.Proofs.Ranking.Exact

/-!
# Lexical scores

In exact numbers the score of a text is its BM25 score with the logarithm of one more
than the odds against a token. That logarithm is positive for every token of the corpus,
also for one that all texts hold, so a text has a positive score exactly when it shares
a token with the query.
-/

namespace CodeRetrieval

namespace LexicalIndex

/-! ## BM25 -/

section

variable (documents : List (List String))

noncomputable def meanLength : ℝ :=
  documents.flatten.length / documents.length

/-- The logarithm of one more than the odds against a token: `df` of the documents hold
it and the others do not. It is zero for a token that no document holds. -/
noncomputable def idf (token : String) : ℝ :=
  let df := documents.countP fun tokens => tokens.contains token
  if df = 0 then 0 else Real.log ((documents.length - df + 0.5) / (df + 0.5) + 1)

/-- What a token of a query adds to the score of a document that holds it `tf` times. -/
noncomputable def contribution (tokens : List String) (token : String) : ℝ :=
  let tf : ℝ := tokens.count token
  idf documents token * (tf * (1.2 + 1)) /
    (tf + 1.2 * (1 - 0.75 + 0.75 * tokens.length / meanLength documents))

noncomputable def bm25 (query tokens : List String) : ℝ :=
  (query.map (contribution documents tokens)).sum

end

variable {documents : List (List String)} {query tokens : List String} {token : String}

/-! ## Signs -/

theorem countP_contains_eq_zero_iff :
    (documents.countP fun tokens => tokens.contains token) = 0 ↔
      ∀ tokens ∈ documents, token ∉ tokens := by
  simp [List.countP_eq_zero]

theorem idf_eq_zero (h : ∀ tokens ∈ documents, token ∉ tokens) : idf documents token = 0 :=
  if_pos (countP_contains_eq_zero_iff.mpr h)

/-- A token tells something even if all documents hold it. -/
theorem idf_pos (htokens : tokens ∈ documents) (htoken : token ∈ tokens) :
    0 < idf documents token := by
  have hdf : (documents.countP fun tokens => tokens.contains token) ≠ 0 := fun h =>
    countP_contains_eq_zero_iff.mp h tokens htokens htoken
  have hle : ((documents.countP fun tokens => tokens.contains token : ℕ) : ℝ) ≤
      documents.length := by
    exact_mod_cast List.countP_le_length
  rw [idf, if_neg hdf]
  apply Real.log_pos
  have hodds : (0 : ℝ) <
      (documents.length -
          (documents.countP fun tokens => tokens.contains token : ℕ) + 0.5) /
        ((documents.countP fun tokens => tokens.contains token : ℕ) + 0.5) :=
    div_pos (by linarith) (by positivity)
  linarith

theorem meanLength_pos (htokens : tokens ∈ documents) (htoken : token ∈ tokens) :
    0 < meanLength documents := by
  have hdocuments : 0 < documents.length := List.length_pos_of_mem htokens
  have hall : 0 < documents.flatten.length :=
    List.length_pos_of_mem (List.mem_flatten.mpr ⟨tokens, htokens, htoken⟩)
  rw [meanLength]
  positivity

theorem length_weight_pos (documents : List (List String)) (tokens : List String) :
    0 < 1.2 * (1 - 0.75 + 0.75 * (tokens.length : ℝ) / meanLength documents) := by
  have hmean : 0 ≤ meanLength documents := by
    rw [meanLength]
    positivity
  have hratio : 0 ≤ 0.75 * (tokens.length : ℝ) / meanLength documents := by positivity
  linarith

theorem contribution_eq_zero (htoken : token ∉ tokens) :
    contribution documents tokens token = 0 := by
  simp [contribution, List.count_eq_zero_of_not_mem htoken]

theorem contribution_pos (htokens : tokens ∈ documents) (htoken : token ∈ tokens) :
    0 < contribution documents tokens token := by
  have hidf := idf_pos htokens htoken
  have hcount : (0 : ℝ) < tokens.count token := by
    exact_mod_cast List.count_pos_iff.mpr htoken
  have hweight := length_weight_pos documents tokens
  rw [contribution]
  positivity

theorem contribution_nonneg (htokens : tokens ∈ documents) (token : String) :
    0 ≤ contribution documents tokens token := by
  by_cases htoken : token ∈ tokens
  · exact (contribution_pos htokens htoken).le
  · rw [contribution_eq_zero htoken]

/-- A document has a positive score exactly when it shares a token with the query. -/
theorem bm25_pos_iff (htokens : tokens ∈ documents) :
    0 < bm25 documents query tokens ↔ ∃ token ∈ query, token ∈ tokens := by
  constructor
  · intro hpos
    by_contra hnone
    have hzero : ∀ x ∈ query.map (contribution documents tokens), x = 0 := by
      intro x hx
      obtain ⟨token, htoken, rfl⟩ := List.mem_map.mp hx
      exact contribution_eq_zero fun hmem => hnone ⟨token, htoken, hmem⟩
    rw [bm25, List.sum_eq_zero hzero] at hpos
    exact lt_irrefl _ hpos
  · rintro ⟨token, htoken, hmem⟩
    have hnonneg : ∀ x ∈ query.map (contribution documents tokens), 0 ≤ x := by
      intro x hx
      obtain ⟨token, -, rfl⟩ := List.mem_map.mp hx
      exact contribution_nonneg htokens token
    exact (contribution_pos htokens hmem).trans_le
      (List.single_le_sum hnonneg _ (List.mem_map_of_mem htoken))

/-- Tokens that no document holds add nothing. -/
theorem bm25_filter (p : String → Bool)
    (h : ∀ token ∈ query, p token = false → ∀ tokens ∈ documents, token ∉ tokens) :
    bm25 documents (query.filter p) tokens = bm25 documents query tokens := by
  have habsent : ∀ token ∈ query, p token = false →
      contribution documents tokens token = 0 := by
    intro token htoken hp
    simp [contribution, idf_eq_zero (h token htoken hp)]
  induction query with
  | nil => rfl
  | cons token query ih =>
      have ih := ih (fun t ht => h t (List.mem_cons_of_mem _ ht)) fun t ht =>
        habsent t (List.mem_cons_of_mem _ ht)
      cases hp : p token with
      | true =>
          rw [List.filter_cons_of_pos hp, bm25, bm25, List.map_cons, List.map_cons,
            List.sum_cons, List.sum_cons]
          exact congrArg (contribution documents tokens token + ·) ih
      | false =>
          rw [List.filter_cons_of_neg (by simp [hp]), ih, bm25, bm25, List.map_cons,
            List.sum_cons, habsent token List.mem_cons_self hp, zero_add]

/-! ## Scores by tokens -/

theorem totalLength_eq {α : Type} (texts : List (List α)) :
    Lexical.totalLength texts = texts.flatten.length := by
  rw [Lexical.totalLength, List.length_flatten]
  induction texts with
  | nil => rfl
  | cons tokens texts ih => rw [List.foldr_cons, ih, List.map_cons, List.sum_cons]

end LexicalIndex

namespace Corpus

open Lexical

section

variable {R : Type} [Scalar R] (documents : List (List String))

def averageLength : R :=
  if documents.isEmpty then 0 else Scalar.ratio (totalLength documents) documents.length

def frequency (token : String) : ℕ :=
  documents.countP fun tokens => tokens.contains token

def inverseFrequency (token : String) : R :=
  if frequency documents token = 0 then 0
    else rarity documents.length (frequency documents token)

/-- What one token of a query adds to the score of a document, before scaling. -/
def termScore (tokens : List String) (token : String) : R :=
  let tf : R := Scalar.ofNat (tokens.count token)
  let length : R := Scalar.ofNat tokens.length
  let one : R := Scalar.ofNat 1
  let norm :=
    saturation * (one - lengthWeight + lengthWeight * length / averageLength documents)
  inverseFrequency documents token * (tf / (tf + norm))

def score (query tokens : List String) : R :=
  Scalar.sum (query.map (termScore documents tokens)) * (saturation + Scalar.ofNat 1)

end

variable (documents : List (List String))

theorem val_averageLength :
    (averageLength documents : Exact).val = LexicalIndex.meanLength documents := by
  rw [averageLength, LexicalIndex.meanLength, LexicalIndex.totalLength_eq]
  split
  · rename_i hempty
    simp [List.isEmpty_iff.mp hempty]
  · rw [Exact.val_ratio, Int.cast_natCast, Int.cast_natCast]

theorem val_inverseFrequency (token : String) :
    (inverseFrequency documents token : Exact).val = LexicalIndex.idf documents token := by
  rw [inverseFrequency, frequency, LexicalIndex.idf]
  split
  · rfl
  · simp only [rarity, Exact.val_log, Exact.val_add, Exact.val_div, Exact.val_sub,
      Exact.val_ofNat, Exact.val_ratio]
    norm_num

/-- In exact numbers the score of a document is its BM25 score. -/
theorem val_score (query tokens : List String) :
    (score documents query tokens : Exact).val =
      LexicalIndex.bm25 documents query tokens := by
  have hterm : ∀ token,
      (termScore documents tokens token : Exact).val *
        (saturation + Scalar.ofNat 1 : Exact).val
        = LexicalIndex.contribution documents tokens token := by
    intro token
    simp only [termScore, saturation, lengthWeight, Exact.val_mul, Exact.val_div,
      Exact.val_add, Exact.val_sub, Exact.val_ofNat, Exact.val_ratio, val_averageLength,
      val_inverseFrequency, LexicalIndex.contribution]
    norm_num
    ring
  rw [score, Exact.val_mul, Exact.val_sum,
    List.map_map, ← List.sum_map_mul_right, LexicalIndex.bm25]
  exact congrArg List.sum (List.map_congr_left fun token _ => hterm token)

end Corpus

end CodeRetrieval
