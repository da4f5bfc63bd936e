import CodeRetrieval.Embedding.Batches
import CodeRetrieval.Proxy.Embeddings
import CodeRetrieval.Ranking.Funnel
import CodeRetrieval.Ranking.Fusion

/-!
# Settings

Each setting has a name, a variable of the environment and a default. A value given by
name comes before the variable, and the variable before the default; all are texts, from
which numbers and truth values are read. The sizes of the funnel must narrow.
-/

namespace CodeRetrieval

/-- A setting. -/
structure Setting where
  name : String
  variableName : String
  default : String

namespace Setting

def defaultJudgeConcurrency : Int := 10

/-- The size of code beyond which it is shortened, by default. -/
def defaultCompressionThreshold : Int := 2000

/-- The size of code beyond which it is not shortened any more, by default. -/
def defaultCompressionCeiling : Int := 30000

def defaultCompressionConcurrency : Int := 5

def defaultChunkingWorkers : Int := 4

def proxyUrl : Setting := ⟨"litellm_url", "LITELLM_URL", "http://localhost:4000"⟩

def apiKey : Setting := ⟨"litellm_api_key", "LITELLM_MASTER_KEY", ""⟩

def embeddingModel : Setting :=
  ⟨"embedding_model", "CODERANK_EMBEDDING_MODEL", Proxy.defaultEmbeddingModel⟩

def completionModel : Setting :=
  ⟨"llm_model", "CODERANK_LLM_MODEL", Proxy.defaultCompletionModel⟩

def batchSize : Setting :=
  ⟨"embedding_batch_size", "CODERANK_EMBEDDING_BATCH_SIZE",
   toString Embedding.defaultBatchSize⟩

def concurrentBatches : Setting :=
  ⟨"embedding_concurrent_batches", "CODERANK_EMBEDDING_CONCURRENT_BATCHES",
    toString Embedding.defaultConcurrentBatches⟩

/-- How many chunks each search and their fusion keep. -/
def hybridSize : Setting :=
  ⟨"hybrid_top_k", "CODERANK_HYBRID_TOP_K", toString Ranking.defaultHybridSize⟩

/-- How many of these the comparison of vectors keeps. -/
def similarSize : Setting :=
  ⟨"stage2_top_k", "CODERANK_STAGE2_TOP_K", toString Funnel.defaultSimilar⟩

/-- How many of these the judge keeps. -/
def relevantSize : Setting :=
  ⟨"stage3_top_k", "CODERANK_STAGE3_TOP_K", toString Funnel.defaultRelevant⟩

def judgeConcurrency : Setting :=
  ⟨"scoring_concurrency", "CODERANK_SCORING_CONCURRENCY", toString defaultJudgeConcurrency⟩

def compressionEnabled : Setting :=
  ⟨"compression_enabled", "CODERANK_COMPRESSION_ENABLED", "true"⟩

/-- The size of code beyond which it is shortened. -/
def compressionThreshold : Setting :=
  ⟨"compression_threshold", "CODERANK_COMPRESSION_THRESHOLD",
   toString defaultCompressionThreshold⟩

/-- The size of code beyond which it is not shortened any more. -/
def compressionCeiling : Setting :=
  ⟨"max_compressible_size", "CODERANK_MAX_COMPRESSIBLE_SIZE",
   toString defaultCompressionCeiling⟩

def compressionConcurrency : Setting :=
  ⟨"compression_concurrency", "CODERANK_COMPRESSION_CONCURRENCY",
   toString defaultCompressionConcurrency⟩

def chunkingWorkers : Setting :=
  ⟨"chunking_workers", "CODERANK_CHUNKING_WORKERS", toString defaultChunkingWorkers⟩

def logLevel : Setting := ⟨"log_level", "CODERANK_LOG_LEVEL", "info"⟩

def logService : Setting := ⟨"log_service", "CODERANK_LOG_SERVICE", "coderank"⟩

def logFormat : Setting := ⟨"log_format", "CODERANK_LOG_FORMAT", "json"⟩

def logStream : Setting := ⟨"log_stream", "CODERANK_LOG_STREAM", "stdout"⟩

def all : List Setting :=
  [proxyUrl, apiKey, embeddingModel, completionModel, batchSize, concurrentBatches,
   hybridSize, similarSize, relevantSize, judgeConcurrency, compressionEnabled,
   compressionThreshold, compressionCeiling, compressionConcurrency, chunkingWorkers,
   logLevel, logService, logFormat, logStream]

end Setting

/-- The values of all settings. -/
structure Settings where
  proxyUrl : String
  apiKey : String
  embeddingModel : String
  completionModel : String
  batchSize : Int
  concurrentBatches : Int
  /-- How many chunks each search and their fusion keep. -/
  hybridSize : Int
  /-- How many of these the comparison of vectors keeps. -/
  similarSize : Int
  /-- How many of these the judge keeps. -/
  relevantSize : Int
  judgeConcurrency : Int
  compressionEnabled : Bool
  compressionThreshold : Int
  compressionCeiling : Int
  compressionConcurrency : Int
  chunkingWorkers : Int
  logLevel : String
  logService : String
  logFormat : String
  logStream : String

/-- Why values make no settings. -/
inductive SettingsError where
  /-- No settings have these names. -/
  | unknown (names : List String)
  /-- A value that has to be a whole number is none, or a whole number has too many
  digits to be written. -/
  | unreadable
  /-- The sizes of the funnel do not narrow, or its last size is not positive. -/
  | widening (hybrid similar relevant : Int)
deriving DecidableEq, Repr

namespace SettingsError

def message? : SettingsError → Option String
  | unknown names => some ("unknown settings: " ++ Text.quotedList names)
  | unreadable => none
  | widening hybrid similar relevant =>
    some s!"funnel sizes must narrow: hybrid={hybrid} stage2={similar} stage3={relevant}"

end SettingsError

abbrev Environment := List (String × String)

namespace Setting

/-- The text of a setting: of the given value if there is one, else of the variable,
else of the default. -/
def resolve (env : Environment) (given : List (String × Data)) (s : Setting) :
    Except SettingsError String :=
  match given.lookup s.name with
  | none | some .null => return (env.lookup s.variableName).getD s.default
  | some value => value.written.mapError fun _ => .unreadable

def integer (env : Environment) (given : List (String × Data)) (s : Setting) :
    Except SettingsError Int := do
  match Decimal.readInteger? (← s.resolve env given).toList with
  | some n => return n
  | none => .error .unreadable

def trueTexts : List String :=
  ["1", "true", "yes", "on"]

def truth (env : Environment) (given : List (String × Data)) (s : Setting) :
    Except SettingsError Bool :=
  return trueTexts.contains
    (String.ofList (Text.lower (Text.trim (← s.resolve env given).toList)))

end Setting

namespace Settings

/-- The sizes of the funnel narrow, and the last one keeps something. -/
def narrows (hybrid similar relevant : Int) : Bool :=
  decide (similar ≤ hybrid) && decide (relevant ≤ similar) && decide (1 ≤ relevant)

def load (env : Environment) (given : List (String × Data)) :
    Except SettingsError Settings := do
  match (given.map Prod.fst).filter fun name =>
    !(Setting.all.map Setting.name).contains name with
  | [] => pure ()
  | unknown => .error (.unknown (unknown.mergeSort fun a b => decide (a ≤ b)))
  let text (s : Setting) := s.resolve env given
  let integer (s : Setting) := s.integer env given
  let settings : Settings := {
    proxyUrl := ← text Setting.proxyUrl
    apiKey := ← text Setting.apiKey
    embeddingModel := ← text Setting.embeddingModel
    completionModel := ← text Setting.completionModel
    batchSize := ← integer Setting.batchSize
    concurrentBatches := ← integer Setting.concurrentBatches
    hybridSize := ← integer Setting.hybridSize
    similarSize := ← integer Setting.similarSize
    relevantSize := ← integer Setting.relevantSize
    judgeConcurrency := ← integer Setting.judgeConcurrency
    compressionEnabled := ← Setting.compressionEnabled.truth env given
    compressionThreshold := ← integer Setting.compressionThreshold
    compressionCeiling := ← integer Setting.compressionCeiling
    compressionConcurrency := ← integer Setting.compressionConcurrency
    chunkingWorkers := ← integer Setting.chunkingWorkers
    logLevel := ← text Setting.logLevel
    logService := ← text Setting.logService
    logFormat := ← text Setting.logFormat
    logStream := ← text Setting.logStream }
  if narrows settings.hybridSize settings.similarSize settings.relevantSize then
    return settings
  else .error (.widening settings.hybridSize settings.similarSize settings.relevantSize)

def values (s : Settings) : List (String × Data) :=
  [(Setting.proxyUrl.name, .text s.proxyUrl), (Setting.apiKey.name, .text s.apiKey),
   (Setting.embeddingModel.name, .text s.embeddingModel),
   (Setting.completionModel.name, .text s.completionModel),
   (Setting.batchSize.name, .int s.batchSize),
   (Setting.concurrentBatches.name, .int s.concurrentBatches),
   (Setting.hybridSize.name, .int s.hybridSize),
   (Setting.similarSize.name, .int s.similarSize),
   (Setting.relevantSize.name, .int s.relevantSize),
   (Setting.judgeConcurrency.name, .int s.judgeConcurrency),
   (Setting.compressionEnabled.name, .bool s.compressionEnabled),
   (Setting.compressionThreshold.name, .int s.compressionThreshold),
   (Setting.compressionCeiling.name, .int s.compressionCeiling),
   (Setting.compressionConcurrency.name, .int s.compressionConcurrency),
   (Setting.chunkingWorkers.name, .int s.chunkingWorkers),
   (Setting.logLevel.name, .text s.logLevel), (Setting.logService.name, .text s.logService),
   (Setting.logFormat.name, .text s.logFormat), (Setting.logStream.name, .text s.logStream)]

def endpoint (s : Settings) : Proxy.Endpoint :=
  ⟨s.proxyUrl, s.apiKey⟩

end Settings

end CodeRetrieval
