import CodeRetrieval.Proofs.Lexical.Scores
import CodeRetrieval.Proofs.Lexical.Tables
import CodeRetrieval.Proofs.Ranking.Hybrid

/-!
# What a lexical index keeps of its last items

However often an index has been built, nothing of an earlier corpus is left: the tables
are those of the last corpus, and a search answers what the tokens of its texts say.
Numbers stand for tokens there, which changes no score, since a number occurs where its
token occurs.
-/

namespace CodeRetrieval

open TokenTables

variable {ι : Type} {R : Type} [Scalar R]

/-! ## Scores by numbers -/

namespace TokenSearcher

variable {tokens known : List String} {token : String}

theorem count_map_idxOf (htoken : token ∈ known) (tokens : List String) :
    (tokens.map known.idxOf).count (known.idxOf token) = tokens.count token := by
  rw [List.count, List.count, List.countP_map]
  refine List.countP_congr fun t _ => ?_
  rw [Function.comp_apply, beq_iff_eq, beq_iff_eq, eq_comm, List.idxOf_inj htoken, eq_comm]

theorem contains_map_idxOf (htoken : token ∈ known) (tokens : List String) :
    (tokens.map known.idxOf).contains (known.idxOf token) = tokens.contains token := by
  rw [Bool.eq_iff_iff, List.contains_iff_mem, List.contains_iff_mem, ← List.count_pos_iff,
    ← List.count_pos_iff, count_map_idxOf htoken]

variable {documents : List (List String)}

/-- The texts of a corpus by the numbers of their tokens. -/
def ofCorpus (documents : List (List String)) : TokenSearcher :=
  ⟨documents.map (encode documents)⟩

theorem averageLength_ofCorpus (hne : documents ≠ []) :
    ((ofCorpus documents).averageLength : R) = Corpus.averageLength documents := by
  rw [averageLength, Corpus.averageLength, if_neg (mt List.isEmpty_iff.mp hne),
    LexicalIndex.totalLength_eq, LexicalIndex.totalLength_eq, List.length_flatten,
    List.length_flatten]
  simp [Function.comp_def, ofCorpus, encode]

/-- A token and its number add the same to the score of a text. -/
theorem termScore_ofCorpus (htoken : token ∈ vocabulary documents) (tokens : List String) :
    ((ofCorpus documents).termScore (encode documents tokens)
      ((vocabulary documents).idxOf token) : R) =
      Corpus.termScore documents tokens token := by
  obtain ⟨holder, hholder, hmem⟩ := mem_vocabulary.mp htoken
  have hfrequency : (ofCorpus documents).encoded.countP
      (fun ids => ids.contains ((vocabulary documents).idxOf token)) =
        Corpus.frequency documents token := by
    rw [ofCorpus, List.countP_map]
    apply List.countP_congr
    intro tokens _
    rw [Function.comp_apply, encode, contains_map_idxOf htoken]
  have hheld : Corpus.frequency documents token ≠ 0 := fun h =>
    LexicalIndex.countP_contains_eq_zero_iff.mp h holder hholder hmem
  have hlength : (ofCorpus documents).encoded.length = documents.length := List.length_map _
  rw [termScore, Corpus.termScore, Corpus.inverseFrequency, if_neg hheld]
  simp only [hfrequency, hlength, averageLength_ofCorpus (List.ne_nil_of_mem hholder),
    encode, count_map_idxOf htoken, List.length_map]

end TokenSearcher

namespace LexicalIndex

/-! ## What a corpus says -/

def corpus (text : ι → String) (items : List ι) : List (List String) :=
  items.map fun item => Lexical.tokenize (text item)

/-- The tables of an index are those of the documents. The numbers are those of the
tokens and give the documents back; a token is known if some document holds it, and
there is something to search if there is any token. -/
structure DescribesCorpus (store : LexicalIndex R ι)
    (documents : List (List String)) : Prop where
  numbers : NumbersTokens documents store.numbers
  decoded : ∀ searcher, store.searcher = some searcher →
    searcher.encoded.map (fun ids => ids.map (tokenOf? store.numbers)) =
      documents.map fun tokens => tokens.map some
  frequency : ∀ token,
    store.documentFrequency token = documents.countP fun tokens => tokens.contains token
  frequency_known : ∀ token, (store.numbers.lookup token).isSome →
    1 ≤ store.documentFrequency token ∧ store.documentFrequency token ≤ documents.length
  frequency_unknown : ∀ token,
    store.numbers.lookup token = none → store.documentFrequency token = 0
  average : store.averageLength =
    if documents.isEmpty then 0 else Scalar.ratio documents.flatten.length documents.length
  size : store.size = documents.length
  searcher_isSome : store.searcher.isSome ↔ ∃ tokens ∈ documents, tokens ≠ []

section

variable (index : LexicalIndex R ι) (items : List ι)

theorem numbers_build :
    (index.build items).numbers = (vocabulary (corpus index.text items)).zipIdx :=
  (describe_ofDocuments (corpus index.text items)).numbers_eq

theorem searcher_build : (index.build items).searcher =
    if vocabulary (corpus index.text items) = [] then none
    else some (.ofCorpus (corpus index.text items)) := by
  have hdescribe := describe_ofDocuments (corpus index.text items)
  have hempty : (ofDocuments (corpus index.text items)).numbers.isEmpty ↔
      vocabulary (corpus index.text items) = [] := by
    rw [hdescribe.numbers_eq, List.isEmpty_iff, List.zipIdx_eq_nil_iff]
  rw [TokenSearcher.ofCorpus, ← hdescribe.encoded_eq]
  exact if_congr hempty rfl rfl

theorem documentFrequency_build (token : String) :
    (index.build items).documentFrequency token =
    (corpus index.text items).countP fun tokens => tokens.contains token :=
  (describe_ofDocuments (corpus index.text items)).frequency_eq token

theorem documentFrequency_build_eq_zero_iff {token : String} :
    (index.build items).documentFrequency token = 0 ↔
      (index.build items).numbers.lookup token = none := by
  rw [documentFrequency_build, countP_contains_eq_zero_iff, numbers_build,
    lookup_zipIdx (nodup_vocabulary (corpus index.text items))]
  simp [mem_vocabulary]

theorem describesCorpus_build :
    (index.build items).DescribesCorpus (corpus index.text items) where
  numbers := by
    rw [numbers_build]
    exact numbersTokens_vocabulary (corpus index.text items)
  decoded := by
    intro searcher hsearcher
    rw [searcher_build] at hsearcher
    split at hsearcher
    · cases hsearcher
    · obtain rfl := Option.some.inj hsearcher
      rw [numbers_build]
      exact decode_encode (corpus index.text items)
  frequency := documentFrequency_build index items
  frequency_known := by
    intro token hknown
    have hpos : (index.build items).documentFrequency token ≠ 0 := by
      rwa [Ne, documentFrequency_build_eq_zero_iff, ← Ne, Option.ne_none_iff_isSome]
    have hle : (index.build items).documentFrequency token ≤
        (corpus index.text items).length := by
      rw [documentFrequency_build]
      exact List.countP_le_length
    exact ⟨Nat.one_le_iff_ne_zero.mpr hpos, hle⟩
  frequency_unknown := fun token => (documentFrequency_build_eq_zero_iff index items).mpr
  average := by
    rw [← totalLength_eq]
    rfl
  size := (List.length_map _).symm
  searcher_isSome := by
    rw [searcher_build]
    by_cases h : vocabulary (corpus index.text items) = []
    · simpa [h] using vocabulary_eq_nil_iff.mp h
    · rw [if_neg h, vocabulary_eq_nil_iff] at *
      simpa using h

end

/-! ## Searching by tokens -/

def knownTokens (text : ι → String) (items : List ι) (query : String) : List String :=
  (Lexical.tokenize query).filter fun token =>
    (corpus text items).any fun tokens => tokens.contains token

def scoredByTokens (text : ι → String) (items : List ι) (query : List String) :
    List (Ranked R ι) :=
  items.map fun item =>
    ⟨item, Corpus.score (corpus text items) query (Lexical.tokenize (text item))⟩

/-- What there is to find among items for a query. -/
def answer (name : String) (text : ι → String) (items : List ι) (query : String)
    (topK : ℤ) : Except SearchError (List (Ranked R ι)) :=
  if items.isEmpty then .error (.emptyCorpus name)
  else
    let known := knownTokens text items query
    if known.isEmpty then .ok []
    else
      let ranking := Ranking.descending Ranked.score (scoredByTokens text items known)
      .ok (Ranking.takePositive topK.toNat ranking)

theorem mem_vocabulary_of_mem_knownTokens {text : ι → String} {items : List ι}
    {query : String} {token : String} (h : token ∈ knownTokens text items query) :
    token ∈ vocabulary (corpus text items) := by
  obtain ⟨tokens, htokens, hmem⟩ := List.any_eq_true.mp (List.mem_filter.mp h).2
  exact mem_vocabulary.mpr ⟨tokens, htokens, List.contains_iff_mem.mp hmem⟩

theorem contains_vocabulary (documents : List (List String)) (token : String) :
    (vocabulary documents).contains token =
      documents.any fun tokens => tokens.contains token := by
  rw [Bool.eq_iff_iff, List.contains_iff_mem, List.any_eq_true]
  simp only [List.contains_iff_mem]
  exact mem_vocabulary

/-- Looking up numbers leaves out the tokens that no text holds. -/
theorem filterMap_lookup_zipIdx {known : List String} (hknown : known.Nodup)
    (query : List String) : query.filterMap (fun token => known.zipIdx.lookup token) =
      (query.filter known.contains).map known.idxOf := by
  induction query with
  | nil => rfl
  | cons token query ih =>
      rw [List.filterMap_cons, lookup_zipIdx hknown, ih]
      by_cases h : token ∈ known <;> simp [h]

theorem filterMap_lookup_build (index : LexicalIndex R ι)
    (items : List ι) (query : String) :
    (Lexical.tokenize query).filterMap (fun token =>
      (index.build items).numbers.lookup token) =
      (knownTokens index.text items query).map
        (vocabulary (corpus index.text items)).idxOf := by
  rw [numbers_build, filterMap_lookup_zipIdx (nodup_vocabulary _), knownTokens]
  congr 2
  funext token
  exact contains_vocabulary _ token

/-- Each item has the score by numbers that it has by tokens. -/
theorem scored_build (index : LexicalIndex R ι) (items : List ι) {query : List String}
    (hquery : ∀ token ∈ query, token ∈ vocabulary (corpus index.text items)) :
    (index.build items).scored (.ofCorpus (corpus index.text items))
        (query.map (vocabulary (corpus index.text items)).idxOf) =
      scoredByTokens index.text items query := by
  let documents := corpus index.text items
  have hscore : ∀ tokens, Scalar.sum ((query.map (vocabulary documents).idxOf).map
      ((TokenSearcher.ofCorpus documents).termScore (encode documents tokens)) : List R) =
        Scalar.sum (query.map (Corpus.termScore documents tokens)) := by
    intro tokens
    rw [List.map_map]
    apply congrArg Scalar.sum
    apply List.map_congr_left
    intro token htoken
    exact TokenSearcher.termScore_ofCorpus (hquery token htoken) tokens
  have hzip : items.zip ((TokenSearcher.ofCorpus documents).scores
      (query.map (vocabulary documents).idxOf)) = items.map fun item =>
        (item, (Scalar.sum (query.map
          (Corpus.termScore documents (Lexical.tokenize (index.text item)))) : R)) := by
    rw [List.map_prod_left_eq_zip]
    apply congrArg
    show ((documents.map (encode documents)).map _ : List R) = _
    rw [List.map_map, show documents = items.map _ from rfl, List.map_map]
    apply List.map_congr_left
    intro item _
    exact hscore (Lexical.tokenize (index.text item))
  show (items.zip _).map _ = _
  rw [hzip, List.map_map]
  rfl

theorem canSearch_build {items : List ι} (index : LexicalIndex R ι) (hitems : items ≠ []) :
    ¬ (!(index.build items).isBuilt || (index.build items).items.isEmpty) = true := by
  simpa [build] using hitems

/-- An index that is built answers what the tokens of its items say. -/
theorem search_build (index : LexicalIndex R ι) (items : List ι)
    (query : String) (topK : ℤ) :
    (index.build items).search query topK =
      answer index.name index.text items query topK := by
  by_cases hitems : items = []
  · subst hitems
    rfl
  rw [search, if_neg (canSearch_build index hitems), searcher_build, answer,
    if_neg (mt List.isEmpty_iff.mp hitems)]
  simp only [filterMap_lookup_build]
  have hknown : ∀ token ∈ knownTokens index.text items query,
      token ∈ vocabulary (corpus index.text items) :=
    fun token htoken => mem_vocabulary_of_mem_knownTokens htoken
  generalize knownTokens index.text items query = known at hknown ⊢
  by_cases hnone : known = []
  · subst hnone
    split <;> simp
  · have hne : vocabulary (corpus index.text items) ≠ [] := by
      obtain ⟨token, htoken⟩ := List.exists_mem_of_ne_nil known hnone
      exact List.ne_nil_of_mem (hknown token htoken)
    rw [if_neg hne, if_neg (mt List.isEmpty_iff.mp hnone)]
    simp only [scored_build index items hknown]
    by_cases htopK : topK ≤ 0
    · simp [htopK, Int.toNat_of_nonpos htopK, Ranking.takePositive]
    · simp [htopK, hnone]

/-- The index is built for exactly the given items, in their order: its tables are those
of the tokens of their texts, and a search ranks all of them. -/
structure IsIndexOf (index : LexicalIndex R ι) (text : ι → String)
    (items : List ι) : Prop where
  isBuilt : index.isBuilt = true
  items_eq : index.items = items
  describes : index.DescribesCorpus (corpus text items)
  search_eq : ∀ query topK, index.search query topK =
    answer index.name text items query topK

theorem isIndexOf_build (index : LexicalIndex R ι) (items : List ι) :
    (index.build items).IsIndexOf index.text items where
  isBuilt := rfl
  items_eq := rfl
  describes := describesCorpus_build index items
  search_eq := search_build index items

/-! ## Building again -/

theorem build_build (index : LexicalIndex R ι) (items later : List ι) :
    (index.build items).build later = index.build later := rfl

theorem build_buildAll (corpora : List (List ι))
    (index : LexicalIndex R ι) (items : List ι) :
    (index.buildAll corpora).build items = index.build items := by
  induction corpora generalizing index with
  | nil => rfl
  | cons corpus corpora ih =>
      exact (ih (index.build corpus)).trans (build_build index corpus items)

theorem buildAll_concat (index : LexicalIndex R ι)
    (earlier : List (List ι)) (items : List ι) :
    index.buildAll (earlier ++ [items]) = index.build items := by
  rw [buildAll, List.foldl_append]
  exact build_buildAll earlier index items

theorem search_build_of_noTokens {items : List ι} (index : LexicalIndex R ι)
    (hitems : items ≠ []) (hnone : ∀ tokens ∈ corpus index.text items, tokens = [])
    (query : String) (topK : ℤ) :
    (index.build items).search query topK = .ok [] := by
  rw [search, if_neg (canSearch_build index hitems), searcher_build,
    if_pos (vocabulary_eq_nil_iff.mpr hnone)]

theorem val_averageLength_build (index : LexicalIndex Exact ι) (items : List ι) :
    (index.build items).averageLength.val * (index.build items).size =
      (corpus index.text items).flatten.length := by
  have hdescribes := describesCorpus_build index items
  rw [hdescribes.average, hdescribes.size]
  by_cases h : corpus index.text items = []
  · simp [h]
  · have hlength : ((corpus index.text items).length : ℝ) ≠ 0 := by simpa using h
    rw [if_neg (mt List.isEmpty_iff.mp h), Exact.val_ratio]
    exact div_mul_cancel₀ _ hlength

/-- However often an index has been built, its state is that of an index built once for
the last items, and its tables are those of their texts. It answers what the tokens of
these texts say: whatever it finds is one of the items, without items there is nothing
to search, and where no text has a token nothing is found. The average length is exact
up to the rounding of one division. -/
theorem buildAll_describes_last (name : String) (text : ι → String)
    (earlier : List (List ι)) (items : List ι) :
    let store : LexicalIndex R ι := (empty name text).buildAll (earlier ++ [items])
    store = (empty name text).build items ∧
    store.DescribesCorpus (corpus text items) ∧
    ((empty name text : LexicalIndex Exact ι).buildAll
        (earlier ++ [items])).averageLength.val * items.length =
      (corpus text items).flatten.length ∧
    ∀ (query : String) (topK : ℤ),
      store.search query topK = answer name text items query topK ∧
      (∀ found, store.search query topK = .ok found → ∀ r ∈ found, r.item ∈ items) ∧
      (items = [] → store.search query topK = .error (.emptyCorpus name)) ∧
      (items ≠ [] → (∀ tokens ∈ corpus text items, tokens = []) →
        store.search query topK = .ok []) := by
  intro store
  have hstore : store = (empty name text).build items :=
    buildAll_concat (empty name text) earlier items
  have hexact := buildAll_concat (empty name text : LexicalIndex Exact ι) earlier items
  rw [hexact, hstore]
  refine ⟨rfl, describesCorpus_build (empty name text) items,
    val_averageLength_build (empty name text) items, ?_⟩
  intro query topK
  refine ⟨search_build (empty name text) items query topK, ?_, ?_, ?_⟩
  · intro found hfound r hr
    exact item_mem_of_mem_search hfound hr
  · rintro rfl
    rfl
  · intro hitems hnone
    exact search_build_of_noTokens (empty name text) hitems hnone query topK

end LexicalIndex

end CodeRetrieval
