import CodeRetrieval.Log.Level
import CodeRetrieval.Proxy.Exchange

/-!
# Notices

What the library reports beside its results: errors, warnings about inputs that it
passes over, and, at the lowest level, what it asks others for. A computation that may
report something gives its result together with the notices, in the order in which they
arose.
-/

namespace CodeRetrieval

/-- Something worth reporting. -/
inductive Notice where
  /-- No syntax tree could be made of a file. -/
  | parseFailed (path language : String)
  /-- The syntax tree of a file could not be cut. -/
  | extractionFailed (path language : String)
  /-- A checkout holds more files than are taken. -/
  | fileLimitReached (limit : Int)
  /-- A file of a checkout could not be read. -/
  | unreadableFile (path : String)
  /-- The judge gave no verdict about a chunk. -/
  | scoringFailed (chunkId : String)
  /-- A batch of embeddings could not be made. -/
  | batchFailed (chunks batches batch : Nat)
  /-- Chunks are too large to be compressed. -/
  | oversizedSkipped (count : Nat)
  /-- A chunk could not be compressed. -/
  | compressionFailed (chunkId : String)
  /-- The compressor gave blank code. -/
  | blankCompression (chunkId : String)
  /-- The proxy refused a completion. -/
  | completionRefused (status : Nat) (model body : String)
  /-- An index could not be built. -/
  | buildFailed (files : Nat)
  /-- A request goes to the proxy. -/
  | requestSent (request : Proxy.Request)
  /-- A batch of texts is handed over to be embedded. -/
  | batchStarted (batch size : Nat)
  /-- A query is handed over to be embedded. -/
  | queryEmbedded (query : String)

namespace Notice

def level : Notice → Log.Level
  | batchFailed .. | completionRefused .. | buildFailed .. => .error
  | requestSent .. | batchStarted .. | queryEmbedded .. => .debug
  | _ => .warning

def event : Notice → String
  | parseFailed .. => "parse failed"
  | extractionFailed .. => "chunk extraction failed"
  | fileLimitReached .. => "workspace file limit reached"
  | unreadableFile .. => "cannot read file"
  | scoringFailed .. => "relevance scoring failed"
  | batchFailed .. => "embedding batch failed"
  | oversizedSkipped .. => "skipping compression of oversized chunks"
  | compressionFailed .. => "chunk compression failed"
  | blankCompression .. => "compressor returned empty code"
  | completionRefused .. => "litellm error"
  | buildFailed .. => "index build failed"
  | requestSent .. => "request sent"
  | batchStarted .. => "embedding batch started"
  | queryEmbedded .. => "query embedded"

def fields : Notice → List (String × Data)
  | parseFailed path language => [("path", .text path), ("language", .text language)]
  | extractionFailed path language => [("path", .text path), ("language", .text language)]
  | fileLimitReached limit => [("max_files", .int limit)]
  | unreadableFile path => [("path", .text path)]
  | scoringFailed id => [("chunk_id", .text id)]
  | batchFailed chunks batches batch =>
      [("chunks", .int chunks), ("batches", .int batches), ("batch", .int batch)]
  | oversizedSkipped count => [("count", .int count)]
  | compressionFailed id => [("chunk_id", .text id)]
  | blankCompression id => [("chunk_id", .text id)]
  | completionRefused status model body =>
    [("status", .int status), ("model", .text model),
     ("body", .text (String.ofList (body.toList.take 1000)))]
  | buildFailed files => [("files", .int files)]
  | requestSent request => [("url", .text request.url), ("model", .text request.model)]
  | batchStarted batch size => [("batch", .int batch), ("size", .int size)]
  | queryEmbedded query => [("query", .text query)]

def entry (n : Notice) : List (String × Data) :=
  [("event", .text n.event), ("log_level", .text n.level.name)] ++ n.fields

def request? : Notice → Option Proxy.Request
  | requestSent request => some request
  | _ => none

def batchSize? : Notice → Option Nat
  | batchStarted _ size => some size
  | _ => none

def query? : Notice → Option String
  | queryEmbedded query => some query
  | _ => none

end Notice

/-- A result with the notices that arose on the way to it. -/
structure Noted (α : Type) where
  value : α
  notices : List Notice

namespace Noted

def silent {α : Type} (value : α) : Noted α :=
  ⟨value, []⟩

@[simp] theorem value_silent {α : Type} (value : α) : (silent value).value = value := rfl

@[simp] theorem notices_silent {α : Type} (value : α) : (silent value).notices = [] := rfl

def map {α β : Type} (f : α → β) (x : Noted α) : Noted β :=
  ⟨f x.value, x.notices⟩

@[simp] theorem value_map {α β : Type} (f : α → β) (x : Noted α) :
    (x.map f).value = f x.value := rfl

@[simp] theorem notices_map {α β : Type} (f : α → β) (x : Noted α) :
    (x.map f).notices = x.notices := rfl

/-- Goes on with a result, the notices of both parts one after the other. -/
def andThen {α β : Type} (x : Noted α) (f : α → Noted β) : Noted β :=
  let y := f x.value
  ⟨y.value, x.notices ++ y.notices⟩

@[simp] theorem value_andThen {α β : Type} (x : Noted α) (f : α → Noted β) :
    (x.andThen f).value = (f x.value).value := rfl

@[simp] theorem notices_andThen {α β : Type} (x : Noted α) (f : α → Noted β) :
    (x.andThen f).notices = x.notices ++ (f x.value).notices := rfl

def sequence {α : Type} (xs : List (Noted α)) : Noted (List α) :=
  ⟨xs.map Noted.value, xs.flatMap Noted.notices⟩

@[simp] theorem value_sequence {α : Type} (xs : List (Noted α)) :
    (sequence xs).value = xs.map Noted.value := rfl

@[simp] theorem notices_sequence {α : Type} (xs : List (Noted α)) :
    (sequence xs).notices = xs.flatMap Noted.notices := rfl

end Noted

end CodeRetrieval
