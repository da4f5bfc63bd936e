import CodeRetrieval.Lexical.Index
import CodeRetrieval.Proofs.Data.Table
import Mathlib.Data.List.Count
import Mathlib.Data.List.Induction
import Mathlib.Data.Set.Function
import Mathlib.Order.Interval.Set.Defs

/-!
# The tables of a corpus

While texts are read, the numbers of the tokens are their places in the list of all
different tokens that have been read, so reading on changes no number that has been
given. The tables of a corpus are what its documents say: each token of it has a number,
in order of first occurrence, and the frequencies count documents.
-/

namespace CodeRetrieval.TokenTables

/-- The different tokens of documents, in order of first occurrence. -/
def vocabulary (documents : List (List String)) : List String :=
  documents.flatten.eraseDups

def encode (documents : List (List String)) (tokens : List String) : List ℕ :=
  tokens.map (vocabulary documents).idxOf

def tokenOf? (numbers : List (String × ℕ)) (n : ℕ) : Option String :=
  (numbers.find? fun entry => entry.2 == n).map Prod.fst

/-- The numbers are a bijection between the tokens of documents and the first numbers,
in order of first occurrence. -/
def NumbersTokens (documents : List (List String)) (numbers : List (String × ℕ)) : Prop :=
  ∃ number : String → ℕ,
    (∀ token n, numbers.lookup token = some n ↔
      token ∈ documents.flatten ∧ number token = n) ∧
    Set.BijOn number {token | token ∈ documents.flatten} (Set.Iio numbers.length) ∧
    ∀ t ∈ documents.flatten, ∀ u ∈ documents.flatten,
      number t < number u ↔ documents.flatten.idxOf t < documents.flatten.idxOf u

/-- The tables are those of the documents: numbers are places in the vocabulary, and
frequencies count documents. -/
structure Describe (documents : List (List String)) (tables : TokenTables) : Prop where
  numbers_eq : tables.numbers = (vocabulary documents).zipIdx
  encoded_eq : tables.encoded = documents.map (encode documents)
  frequency_eq : ∀ token,
    (tables.frequencies.lookup token).getD 0 = documents.countP fun tokens =>
      tokens.contains token

variable {read tokens : List String} {token : String}

/-! ## Places in the list of different tokens -/

/-- Reading on changes no place. -/
theorem idxOf_eraseDups_append (h : token ∈ read) (more : List String) :
    (read ++ more).eraseDups.idxOf token = read.eraseDups.idxOf token := by
  rw [List.eraseDups_append, List.idxOf_append_of_mem (List.mem_eraseDups.mpr h)]

theorem idxOf_lt_of_new {t u : String} (ht : t ∈ read) (hu : u ∉ read) :
    (read ++ [u]).idxOf t < (read ++ [u]).idxOf u ∧
      (read ++ [u]).eraseDups.idxOf t < (read ++ [u]).eraseDups.idxOf u := by
  have hplace := List.idxOf_lt_length_iff.mpr ht
  have hplace' := List.idxOf_lt_length_iff.mpr (List.mem_eraseDups.mpr ht)
  constructor
  · rw [List.idxOf_append_of_mem ht, List.idxOf_append_of_notMem hu]
    omega
  · rw [idxOf_eraseDups_append ht, eraseDups_concat, if_neg hu,
      List.idxOf_append_of_notMem (fun h => hu (List.mem_eraseDups.mp h))]
    omega

/-- Of two tokens the one that occurs first has the first place. -/
theorem idxOf_eraseDups_lt_iff {t u : String} (ht : t ∈ read) (hu : u ∈ read) :
    read.eraseDups.idxOf t < read.eraseDups.idxOf u ↔ read.idxOf t < read.idxOf u := by
  induction read using List.reverseRecOn with
  | nil => cases ht
  | append_singleton read token ih =>
      have hlast : ∀ {v}, v ∈ read ++ [token] → v ∉ read → v = token := by
        intro v hv hnew
        exact List.mem_singleton.mp ((List.mem_append.mp hv).resolve_left hnew)
      by_cases htread : t ∈ read
      · by_cases huread : u ∈ read
        · rw [idxOf_eraseDups_append htread, idxOf_eraseDups_append huread,
            List.idxOf_append_of_mem htread, List.idxOf_append_of_mem huread]
          exact ih htread huread
        · obtain rfl := hlast hu huread
          obtain ⟨hlt, hlt'⟩ := idxOf_lt_of_new htread huread
          exact iff_of_true hlt' hlt
      · obtain rfl := hlast ht htread
        by_cases huread : u ∈ read
        · obtain ⟨hlt, hlt'⟩ := idxOf_lt_of_new huread htread
          exact iff_of_false (Nat.lt_asymm hlt') (Nat.lt_asymm hlt)
        · obtain rfl := hlast hu huread
          simp

/-! ## Numbers -/

theorem mem_zipIdx_of_mem {xs : List String} (h : token ∈ xs) :
    (token, xs.idxOf token) ∈ xs.zipIdx :=
  List.mk_mem_zipIdx_iff_getElem?.mpr (List.getElem?_idxOf h)

theorem lookup_zipIdx {xs : List String} (hxs : xs.Nodup) (token : String) :
    xs.zipIdx.lookup token = if token ∈ xs then some (xs.idxOf token) else none := by
  by_cases h : token ∈ xs
  · rw [if_pos h, lookup_eq_some_iff_mem (by rwa [List.zipIdx_map_fst])]
    exact mem_zipIdx_of_mem h
  · rw [if_neg h, List.lookup_eq_none_iff]
    rintro ⟨t, n⟩ hmem
    have ht : t ∈ xs := List.fst_mem_of_mem_zipIdx hmem
    simpa using fun heq : token = t => h (heq ▸ ht)

theorem tokenOf?_zipIdx {xs : List String} (h : token ∈ xs) :
    tokenOf? xs.zipIdx (xs.idxOf token) = some token := by
  have hnumbers : (xs.zipIdx.map Prod.snd).Nodup := by
    rw [List.zipIdx_map_snd]
    exact List.nodup_range'
  have hfound := find?_key_eq_some hnumbers (mem_zipIdx_of_mem h)
  rw [tokenOf?, hfound]
  rfl

/-- A token gets its place among the different tokens that have been read with it. -/
theorem number_zipIdx (read : List String) (token : String) :
    number read.eraseDups.zipIdx token
      = ((read ++ [token]).eraseDups.idxOf token, (read ++ [token]).eraseDups.zipIdx) := by
  rw [number, lookup_zipIdx (nodup_eraseDups read), eraseDups_concat]
  by_cases h : token ∈ read
  · rw [if_pos (List.mem_eraseDups.mpr h), if_pos h]
  · have hnew : token ∉ read.eraseDups := fun hmem => h (List.mem_eraseDups.mp hmem)
    rw [if_neg hnew, if_neg h, List.idxOf_append_of_notMem hnew, List.zipIdx_append]
    simp

theorem numberAll_zipIdx (read tokens : List String) :
    numberAll read.eraseDups.zipIdx tokens
      = (tokens.map (read ++ tokens).eraseDups.idxOf,
        (read ++ tokens).eraseDups.zipIdx) := by
  induction tokens generalizing read with
  | nil => simp [numberAll]
  | cons token tokens ih =>
      have hplace : (read ++ [token] ++ tokens).eraseDups.idxOf token =
          (read ++ [token]).eraseDups.idxOf token :=
        idxOf_eraseDups_append (by simp) tokens
      rw [numberAll, number_zipIdx]
      simp only [ih (read ++ [token])]
      rw [List.append_cons read token tokens, List.map_cons, hplace]

/-! ## The vocabulary -/

section Vocabulary

variable {documents : List (List String)}

theorem nodup_vocabulary (documents : List (List String)) : (vocabulary documents).Nodup :=
  nodup_eraseDups documents.flatten

theorem mem_vocabulary :
    token ∈ vocabulary documents ↔ ∃ tokens ∈ documents, token ∈ tokens :=
  List.mem_eraseDups.trans List.mem_flatten

theorem vocabulary_eq_nil_iff :
    vocabulary documents = [] ↔ ∀ tokens ∈ documents, tokens = [] := by
  rw [← List.flatten_eq_nil_iff, List.eq_nil_iff_forall_not_mem,
    List.eq_nil_iff_forall_not_mem]
  simp only [vocabulary, List.mem_eraseDups]

theorem lookup_vocabulary_eq_some_iff {n : ℕ} :
    (vocabulary documents).zipIdx.lookup token = some n ↔
      token ∈ vocabulary documents ∧ (vocabulary documents).idxOf token = n := by
  rw [lookup_zipIdx (nodup_vocabulary documents)]
  by_cases h : token ∈ vocabulary documents <;> simp [h]

theorem numbersTokens_vocabulary (documents : List (List String)) :
    NumbersTokens documents (vocabulary documents).zipIdx := by
  have hmem : ∀ {t}, t ∈ vocabulary documents ↔ t ∈ documents.flatten := List.mem_eraseDups
  refine ⟨(vocabulary documents).idxOf, fun token n => ?_, ?_, fun t ht u hu =>
    idxOf_eraseDups_lt_iff ht hu⟩
  · rw [lookup_vocabulary_eq_some_iff, hmem]
  · rw [List.length_zipIdx]
    refine ⟨fun t ht => ?_, fun t ht u _ hsame => ?_, fun n hn => ?_⟩
    · exact List.idxOf_lt_length_iff.mpr (hmem.mpr ht)
    · exact (List.idxOf_inj (hmem.mpr ht)).mp hsame
    · exact ⟨_, hmem.mp (List.getElem_mem hn),
        (nodup_vocabulary documents).idxOf_getElem n hn⟩

theorem decode_encode (documents : List (List String)) :
    (documents.map (encode documents)).map (fun ids =>
      ids.map (tokenOf? (vocabulary documents).zipIdx))
      = documents.map fun tokens => tokens.map some := by
  rw [List.map_map]
  refine List.map_congr_left fun tokens htokens => ?_
  rw [Function.comp_apply, encode, List.map_map]
  refine List.map_congr_left fun token htoken => ?_
  exact tokenOf?_zipIdx (mem_vocabulary.mpr ⟨tokens, htokens, htoken⟩)

end Vocabulary

/-! ## Frequencies -/

theorem lookup_count (frequencies : Table ℕ) (token t : String) :
    ((count frequencies token).lookup t).getD 0 =
      (frequencies.lookup t).getD 0 + if t = token then 1 else 0 := by
  rw [count, Table.lookup_update]
  by_cases h : t = token
  · rw [if_pos h, if_pos h, h, Option.getD_some]
  · rw [if_neg h, if_neg h, Nat.add_zero]

theorem lookup_foldl_count (tokens : List String) (frequencies : Table ℕ) (token : String) :
    ((tokens.foldl count frequencies).lookup token).getD 0 =
      (frequencies.lookup token).getD 0 + tokens.count token := by
  induction tokens generalizing frequencies with
  | nil => simp
  | cons t tokens ih =>
      rw [List.foldl_cons, ih, lookup_count, List.count_cons]
      by_cases h : t = token
      · simp [h]
        omega
      · simp [h, Ne.symm h]

/-! ## Reading texts -/

/-- One more text leaves the numbers that have been given as they are. -/
theorem Describe.add {documents : List (List String)} {tables : TokenTables}
    (h : Describe documents tables) (tokens : List String) :
    Describe (documents ++ [tokens]) (tables.add tokens) := by
  have hread : (documents ++ [tokens]).flatten = documents.flatten ++ tokens := by simp
  have hnumbered := numberAll_zipIdx documents.flatten tokens
  refine ⟨?_, ?_, fun token => ?_⟩
  · rw [TokenTables.add, h.numbers_eq, vocabulary, hnumbered, vocabulary, hread]
  · have hearlier : ∀ earlier ∈ documents, encode documents earlier =
        encode (documents ++ [tokens]) earlier := by
      intro earlier hearlier
      refine List.map_congr_left fun t ht => ?_
      rw [vocabulary, vocabulary, hread]
      exact (idxOf_eraseDups_append
        (List.mem_flatten.mpr ⟨earlier, hearlier, ht⟩) tokens).symm
    have hlast : tokens.map (documents.flatten ++ tokens).eraseDups.idxOf =
        encode (documents ++ [tokens]) tokens := by
      rw [encode, vocabulary, hread]
    rw [TokenTables.add, h.numbers_eq, h.encoded_eq, List.map_congr_left hearlier,
      vocabulary, hnumbered, hlast, List.map_append]
    rfl
  · rw [TokenTables.add]
    simp only
    rw [lookup_foldl_count, h.frequency_eq, List.countP_append,
      (nodup_eraseDups tokens).count, List.countP_singleton]
    simp

theorem describe_ofDocuments (documents : List (List String)) :
    Describe documents (ofDocuments documents) := by
  induction documents using List.reverseRecOn with
  | nil => exact ⟨rfl, rfl, fun _ => rfl⟩
  | append_singleton documents tokens ih =>
      rw [ofDocuments, List.foldl_append]
      exact ih.add tokens

end CodeRetrieval.TokenTables
