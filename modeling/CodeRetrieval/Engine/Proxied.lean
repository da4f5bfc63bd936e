import CodeRetrieval.Engine.Basic
import CodeRetrieval.Log.Setup
import CodeRetrieval.Proxy.Embeddings
import CodeRetrieval.Scoring.Model

/-!
# Collaborators behind the proxy

An engine whose collaborators are all models behind the proxy of its settings. Code is
compressed only where the settings allow it.
-/

namespace CodeRetrieval.Proxied

open Proxy

def reasonOf (e : Scoring.TaskError CompletionError) : String :=
  e.message CompletionError.text

def source (settings : Settings) (transport : Transport) :
    Embedding.Source EmbeddingRefusal := fun _ texts =>
  (Embeddings.embed settings.endpoint transport settings.embeddingModel texts).map
      fun answer =>
    answer.mapError EmbeddingError.toFault

def embedQuery (settings : Settings) (transport : Transport) (query : String) :
    Noted (Except (Embedding.Fault EmbeddingRefusal) (List Float)) :=
  (Embeddings.embedOne settings.endpoint transport settings.embeddingModel query).map
      fun answer =>
    answer.mapError EmbeddingError.toFault

def judge (settings : Settings) (transport : Transport) :
    Judge Float Chunk := fun query c =>
  (Scoring.judge (Scoring.proxied settings.endpoint transport) settings.completionModel
    Scoring.judgeTemperature query
    c).map fun answer => (answer.mapError reasonOf).map Scoring.Relevance.toVerdict

def compressor (settings : Settings) (transport : Transport) :
    Compressor := fun _ c target =>
  (Scoring.shorten (Scoring.proxied settings.endpoint transport) settings.completionModel
    Scoring.shorteningTemperature c target).map fun answer => answer.mapError fun e =>
      .failed (reasonOf e)

/-- The collaborators that settings describe. -/
def collaborators (settings : Settings) (transport : Transport) :
    Collaborators EmbeddingRefusal Float Empty where
  source := source settings transport
  embedQuery := embedQuery settings transport
  judge := judge settings transport
  amount := .ok
  compressor :=
    if settings.compressionEnabled then some (compressor settings transport) else none

def logSetup (settings : Settings) : Except Log.SetupError Log.Setup :=
  Log.Setup.ofNames settings.logService settings.logLevel
    settings.logFormat settings.logStream

end CodeRetrieval.Proxied
