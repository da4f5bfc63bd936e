import CodeRetrieval.Engine.Index
import CodeRetrieval.Ranking.Funnel

/-!
# The engine

An engine builds an index and answers queries about it. A build that fails leaves the
index of the last one that did not. Embedding, judging and compressing are done by
collaborators.
-/

namespace CodeRetrieval

/-- Those who embed, judge and compress for an engine. -/
structure Collaborators (E T X : Type) where
  /-- Embeds the batches of a build. -/
  source : Embedding.Source E
  /-- Embeds a query. -/
  embedQuery : String → Noted (Except (Embedding.Fault E) (List Float))
  judge : Judge T Chunk
  /-- The number that a verdict's total stands for. -/
  amount : T → Except X Float
  compressor : Option Compressor

/-- Settings, a chunker, and the index of the last successful build. -/
structure Engine where
  settings : Settings
  chunker : Chunker
  index : Option Index

/-- No build has succeeded yet. -/
structure NotBuilt where
deriving DecidableEq, Repr

def NotBuilt.message : String :=
  "index not built; call build() first"

/-- Why a query has no answer. -/
inductive QueryError (E X : Type) where
  | notBuilt
  /-- The query could not be embedded. -/
  | embedding (fault : Embedding.Fault E)
  | search (e : SearchError)
  | funnel (e : Funnel.Error X)

/-- All rankings on the way to the answer of a query. -/
structure Breakdown where
  vector : List (Ranked Float Chunk)
  code : List (Ranked Float Chunk)
  descriptions : List (Ranked Float Chunk)
  stages : Funnel.Stages Float Chunk

namespace Engine

def make (settings : Settings) (chunker : Chunker) : Engine :=
  ⟨settings, chunker, none⟩

def isBuilt (e : Engine) : Bool :=
  e.index.isSome

def built (e : Engine) : Except NotBuilt Index :=
  match e.index with
  | some index => .ok index
  | none => .error {}

section

variable {E T X : Type}

/-- Builds the index of files in place of the present one. If that fails the engine
stays as it is. -/
def build (e : Engine) (c : Collaborators E T X) (files : List IndexFile)
    (budget : Option Int) :
    Engine × Noted (Except (Index.BuildError E) IndexStats) :=
  let result := Index.build e.settings e.chunker c.compressor c.source files budget
  let engine :=
    match result.value with
    | .ok index => { e with index := some index }
    | .error _ => e
  (engine, result.map fun r => r.map Index.stats)

def rank (e : Engine) (c : Collaborators E T X) (index : Index) (query : String)
    (vector : List Float) :
    Noted (Except (QueryError E X) Breakdown) :=
  match index.hybrid.search Chunk.id query vector e.settings.hybridSize with
  | .error error => .silent (.error (.search error))
  | .ok r =>
    (Funnel.run Chunk.id Chunk.embedding c.judge c.amount query vector r.fused
      e.settings.similarSize
      e.settings.relevantSize).map fun
        | .error error => .error (.funnel error)
        | .ok stages => .ok ⟨r.vector, r.code, r.descriptions, stages⟩

/-- The rankings of a query. An index without vectors is not searched. -/
def breakdown (e : Engine) (c : Collaborators E T X) (query : String) :
    Noted (Except (QueryError E X) Breakdown) :=
  match e.index with
  | none => .silent (.error .notBuilt)
  | some index =>
    if index.hybrid.vectors.size = 0 then .silent (.ok ⟨[], [], [], ⟨[], [], []⟩⟩)
    else
      (⟨(), [.queryEmbedded query]⟩ : Noted Unit).andThen fun _ =>
        (c.embedQuery query).andThen fun
          | .error fault => .silent (.error (.embedding fault))
          | .ok vector => e.rank c index query vector

def search (e : Engine) (c : Collaborators E T X) (query : String) :
    Noted (Except (QueryError E X) (List (Judged Float Chunk))) :=
  (e.breakdown c query).map fun r => r.map fun b => b.stages.stage3

end

/-! ## What the index holds -/

def stats (e : Engine) : Except NotBuilt IndexStats :=
  e.built.map Index.stats

def chunks (e : Engine) : Except NotBuilt (List Chunk) :=
  e.built.map Index.chunks

def chunk? (e : Engine) (id : String) : Except NotBuilt (Option Chunk) :=
  e.built.map fun index => index.get? id

/-- The chunk with an identifier as it was before compression. -/
def extracted? (e : Engine) (id : String) : Except NotBuilt (Option Chunk) :=
  e.built.map fun index => index.extracted? id

def related (e : Engine) (id : String) (depth : Int) : Except NotBuilt (List Chunk) :=
  e.built.map fun index => index.graph.related id depth

def callers (e : Engine) (name : String) : Except NotBuilt (List Chunk) :=
  e.built.map fun index => index.graph.callers name

def definitions (e : Engine) (name : String) : Except NotBuilt (List Chunk) :=
  e.built.map fun index => index.graph.definitions name

def entryPoints (e : Engine) (limit minCalls : Int) : Except NotBuilt (List Chunk) :=
  e.built.map fun index => index.graph.entryPoints limit minCalls

end Engine

end CodeRetrieval
