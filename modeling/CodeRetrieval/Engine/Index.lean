import CodeRetrieval.Chunk.Chunker
import CodeRetrieval.Chunk.Stats
import CodeRetrieval.Embedding.Batches
import CodeRetrieval.Engine.Compression
import CodeRetrieval.Engine.Selection
import CodeRetrieval.Graph.EntryPoint
import CodeRetrieval.Ranking.Hybrid
import CodeRetrieval.Settings

/-!
# Building an index

Files are cut into chunks, long chunks may be compressed, the chunks that matter most
are embedded, and the graph and the search indexes are made of all of them. The chunks
as they were cut are kept. A build gives a whole index or none.
-/

namespace CodeRetrieval

/-- All that one build makes of its files. -/
structure Index where
  fileCount : Nat
  /-- The chunks as they were cut. -/
  extracted : List Chunk
  /-- The chunks as they are indexed, compressed and embedded. -/
  chunks : List Chunk
  graph : CallGraph
  hybrid : HybridIndex Float32 Float Chunk

/-- Figures about an index. -/
structure IndexStats where
  fileCount : Nat
  chunkCount : Nat
  embeddedCount : Nat
  compressedCount : Nat
  dimension : Nat
  byKind : List (String × Nat)
  byLanguage : List (String × Nat)
  codeVocabulary : Nat
  descriptionVocabulary : Nat
deriving DecidableEq, Repr

namespace IndexStats

def status (s : IndexStats) : String :=
  if s.chunkCount = 0 then "empty" else "ready"

def fields (s : IndexStats) : List (String × Data) :=
  [("status", .text s.status), ("file_count", .int s.fileCount),
   ("chunk_count", .int s.chunkCount), ("embedded_count", .int s.embeddedCount),
   ("compressed_count", .int s.compressedCount), ("embedding_dimension", .int s.dimension),
   ("by_kind", .countTable s.byKind), ("by_language", .countTable s.byLanguage),
   ("code_vocabulary", .int s.codeVocabulary),
   ("metadata_vocabulary", .int s.descriptionVocabulary)]

end IndexStats

namespace Index

def get? (index : Index) (id : String) : Option Chunk :=
  index.chunks.find? fun c => c.id == id

/-- The first chunk with an identifier as it was cut. -/
def extracted? (index : Index) (id : String) : Option Chunk :=
  index.extracted.find? fun c => c.id == id

def stats (index : Index) : IndexStats where
  fileCount := index.fileCount
  chunkCount := index.chunks.length
  embeddedCount := index.hybrid.vectors.size
  compressedCount := index.chunks.countP Chunk.compressed
  dimension := index.hybrid.vectors.dimension
  byKind := tally (index.chunks.map fun c => c.kind.text)
  byLanguage := tally (index.chunks.map Chunk.language)
  codeVocabulary := index.hybrid.code.numbers.length
  descriptionVocabulary := index.hybrid.descriptions.numbers.length

/-- The index of chunks, unless their vectors differ in length. -/
def assemble (fileCount : Nat) (extracted chunks : List Chunk) :
    Except DimensionError Index := do
  let vectors ← VectorIndex.ofItems Chunk.embedding chunks
  return {
    fileCount, extracted, chunks
    graph := .ofChunks chunks
    hybrid := ⟨.ofCode chunks, .ofDescriptions chunks, vectors⟩ }

/-! ## Builds -/

/-- What goes wrong in a build beside embedding. -/
inductive BuildFault where
  /-- A manifest holds a whole number that cannot be written. -/
  | tooManyDigits
  /-- The compressor gave no text. -/
  | compression (reason : String)
  /-- Batches of this size hold nothing. -/
  | batchSize (size : Int)
  /-- The vectors differ in length. -/
  | dimensions (e : DimensionError)
deriving DecidableEq, Repr

def BuildFault.message : BuildFault → String
  | tooManyDigits => Data.TooManyDigits.message
  | compression reason => reason
  | batchSize size => Embedding.batchSizeText size
  | dimensions e => e.message

/-- Why a build gives no index. -/
inductive BuildError (E : Type) where
  /-- The chunks could not be embedded. -/
  | embedding (e : Embedding.Error E)
  /-- Something else went wrong. -/
  | failed (fault : BuildFault)

namespace BuildError

variable {E : Type}

def message (describe : E → String) : BuildError E → String
  | embedding e => e.message describe
  | failed fault => "index build failed: " ++ fault.message

/-- A failure to embed in a build. A wrong size of batches is no fault of the source. -/
def ofEmbedding : Embedding.Error E → BuildError E
  | .batchSize size => failed (.batchSize size)
  | e => embedding e

end BuildError

/-- The chunks with those that were embedded in the place of those with the same
identifier. Of several with one identifier the last counts. -/
def withEmbedded (embedded chunks : List Chunk) : List Chunk :=
  chunks.map fun c => (embedded.reverse.find? fun e => e.id == c.id).getD c

section Build

variable {E : Type}

/-- The chunks of files after compression, if there is a compressor and the settings
allow it. -/
def prepared (settings : Settings) (compressor : Option Compressor)
    (extracted : List Chunk) :
    Noted (Except String (List Chunk)) :=
  match compressor with
  | some compressor =>
    if settings.compressionEnabled then
      Compression.compress compressor ⟨settings.compressionThreshold,
        settings.compressionCeiling⟩ extracted
    else .silent (.ok extracted)
  | none => .silent (.ok extracted)

def ofChunks (settings : Settings) (compressor : Option Compressor)
    (source : Embedding.Source E) (fileCount : Nat) (extracted : List Chunk)
    (budget : Option Int) : Noted (Except (BuildError E) Index) :=
  (prepared settings compressor extracted).andThen fun
    | .error reason => .silent (.error (.failed (.compression reason)))
    | .ok chunks =>
      (Embedding.embed source settings.batchSize (selected chunks budget)).map fun
        | .error e => .error (.ofEmbedding e)
        | .ok embedded =>
          (assemble fileCount extracted (withEmbedded embedded chunks)).mapError fun e =>
            .failed (.dimensions e)

/-- The index of files. A failure is noticed. -/
def build (settings : Settings) (chunker : Chunker) (compressor : Option Compressor)
    (source : Embedding.Source E) (files : List IndexFile) (budget : Option Int) :
    Noted (Except (BuildError E) Index) :=
  let built := (chunker.chunkFiles files).andThen fun
    | .error _ => .silent (.error (.failed .tooManyDigits))
    | .ok perFile => ofChunks settings compressor source files.length perFile.flatten budget
  match built.value with
  | .error _ => ⟨built.value, built.notices ++ [.buildFailed files.length]⟩
  | .ok _ => built

end Build

end Index

end CodeRetrieval
