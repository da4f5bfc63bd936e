import CodeRetrieval.Data.Table
import CodeRetrieval.Lexical.Tokens
import CodeRetrieval.Ranking.Basic
import CodeRetrieval.Ranking.Fusion
import CodeRetrieval.Text.Quoted

/-!
# Lexical index

Ranks texts by the tokens that they share with a query. A token counts for the more the
fewer texts hold it, and the more often a text holds it; a further occurrence adds less
and less, and a text longer than the average counts less.

An index can be built at any time for other items. Its tables are filled while the texts
are read one after the other: each new token gets the next number, and each text counts
once for every token that it holds. Texts are searched by the numbers of their tokens,
and only if there is any token.
-/

namespace CodeRetrieval

/-! ## Tables -/

/-- The tables of the texts that have been read. -/
structure TokenTables where
  numbers : Table Nat
  /-- The tokens of each text by their numbers. -/
  encoded : List (List Nat)
  /-- How many texts hold each token. -/
  frequencies : Table Nat

namespace TokenTables

def empty : TokenTables :=
  ⟨[], [], []⟩

/-- The number of a token and the numbers after it. A new token gets the next number. -/
def number (numbers : Table Nat) (token : String) : Nat × Table Nat :=
  match numbers.lookup token with
  | some n => (n, numbers)
  | none => (numbers.length, numbers ++ [(token, numbers.length)])

def numberAll (numbers : Table Nat) : List String → List Nat × Table Nat
  | [] => ([], numbers)
  | token :: tokens =>
    let (n, numbers) := number numbers token
    let (ns, numbers) := numberAll numbers tokens
    (n :: ns, numbers)

/-- One more text holds the token. -/
def count (frequencies : Table Nat) (token : String) : Table Nat :=
  frequencies.update token fun n => n.getD 0 + 1

def add (tables : TokenTables) (tokens : List String) : TokenTables :=
  let (ns, numbers) := numberAll tables.numbers tokens
  { numbers
    encoded := tables.encoded ++ [ns]
    frequencies := tokens.eraseDups.foldl count tables.frequencies }

def ofDocuments (documents : List (List String)) : TokenTables :=
  documents.foldl add empty

end TokenTables

/-! ## Scores -/

namespace Lexical

variable {R : Type} [Scalar R]

def totalLength {α : Type} (texts : List (List α)) : Nat :=
  texts.foldr (fun tokens n => tokens.length + n) 0

/-- How fast further occurrences of a token stop to add. -/
def saturation : R := Scalar.ratio 6 5

/-- How much the length of a text counts. -/
def lengthWeight : R := Scalar.ratio 3 4

/-- How much a token that `df` of `n` texts hold tells. -/
def rarity (n df : Nat) : R :=
  let half : R := Scalar.ratio 1 2
  Scalar.log ((Scalar.ofNat n - Scalar.ofNat df + half) /
    (Scalar.ofNat df + half) + Scalar.ofNat 1)

end Lexical

/-- Texts that are searched by the numbers of their tokens. -/
structure TokenSearcher where
  encoded : List (List Nat)

namespace TokenSearcher

open Lexical

variable {R : Type} [Scalar R]

def averageLength (searcher : TokenSearcher) : R :=
  Scalar.ratio (totalLength searcher.encoded) searcher.encoded.length

/-- What one token of a query adds to the score of a text. -/
def termScore (searcher : TokenSearcher) (ids : List Nat) (id : Nat) : R :=
  let tf : R := Scalar.ofNat (ids.count id)
  let length : R := Scalar.ofNat ids.length
  let one : R := Scalar.ofNat 1
  let norm :=
    saturation * (one - lengthWeight + lengthWeight * length / searcher.averageLength)
  let df := searcher.encoded.countP fun ids => ids.contains id
  rarity searcher.encoded.length df * (tf / (tf + norm))

/-- The scores of all texts for the tokens of a query, before scaling. -/
def scores (searcher : TokenSearcher) (query : List Nat) : List R :=
  searcher.encoded.map fun ids => Scalar.sum (query.map (searcher.termScore ids))

end TokenSearcher

/-! ## Indexes -/

structure LexicalIndex (R ι : Type) where
  name : String
  /-- The text that an item is found by. -/
  text : ι → String
  items : List ι
  numbers : Table Nat
  frequencies : Table Nat
  averageLength : R
  searcher : Option TokenSearcher
  isBuilt : Bool

namespace LexicalIndex

open Lexical

/-- Why an index cannot be searched: the one of the given name holds nothing. -/
inductive SearchError where
  | emptyCorpus (name : String)
deriving DecidableEq, Repr

def SearchError.message : SearchError → String
  | emptyCorpus name => s!"lexical index {Text.quoted name} has no documents"

variable {R ι : Type} [Scalar R]

def empty (name : String) (text : ι → String) : LexicalIndex R ι :=
  { name, text, items := [], numbers := [], frequencies := [], averageLength := 0,
    searcher := none, isBuilt := false }

def build (index : LexicalIndex R ι) (items : List ι) : LexicalIndex R ι :=
  let documents := items.map fun item => tokenize (index.text item)
  let tables := TokenTables.ofDocuments documents
  { index with
    items
    numbers := tables.numbers
    frequencies := tables.frequencies
    averageLength :=
      if documents.isEmpty then 0 else Scalar.ratio (totalLength documents) documents.length
    searcher := if tables.numbers.isEmpty then none else some ⟨tables.encoded⟩
    isBuilt := true }

/-- The index after it has been built for one list of items after the other. -/
def buildAll (index : LexicalIndex R ι) (corpora : List (List ι)) : LexicalIndex R ι :=
  corpora.foldl build index

def size (index : LexicalIndex R ι) : Nat :=
  index.items.length

def documentFrequency (index : LexicalIndex R ι) (token : String) : Nat :=
  (index.frequencies.lookup token).getD 0

/-- How much a token tells; nothing if no text holds it. -/
def inverseFrequency (index : LexicalIndex R ι) (token : String) : R :=
  let df := index.documentFrequency token
  if df = 0 then 0 else rarity index.size df

/-- All items with their scores for the tokens of a query, in order. -/
def scored (index : LexicalIndex R ι) (searcher : TokenSearcher) (query : List Nat) :
    List (Ranked R ι) :=
  (index.items.zip (searcher.scores query)).map fun (item, score) =>
    ⟨item, score * (saturation + Scalar.ofNat 1)⟩

/-- The first `topK` items that share a token with the query, the best first. All items
are ranked, and those from the first one on whose score is not positive are left out. -/
def search (index : LexicalIndex R ι) (query : String) (topK : Int) :
    Except SearchError (List (Ranked R ι)) :=
  if !index.isBuilt || index.items.isEmpty then .error (.emptyCorpus index.name)
  else
    match index.searcher with
    | none => .ok []
    | some searcher =>
      let ids := (tokenize query).filterMap fun token => index.numbers.lookup token
      if decide (topK ≤ 0) || ids.isEmpty then .ok []
      else
        let ranking := Ranking.descending Ranked.score (index.scored searcher ids)
        .ok (Ranking.takePositive topK.toNat ranking)

def ofCode (chunks : List Chunk) : LexicalIndex R Chunk :=
  (empty "bm25-code" Chunk.code).build chunks

def ofDescriptions (chunks : List Chunk) : LexicalIndex R Chunk :=
  (empty "bm25-metadata" description).build chunks

end LexicalIndex

end CodeRetrieval
