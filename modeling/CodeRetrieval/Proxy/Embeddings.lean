import CodeRetrieval.Embedding.Batches
import CodeRetrieval.Proxy.Completion

/-!
# Embeddings

One request asks for the vectors of several texts. The reply may hold them in any order,
each with the place of its text; those without a place count as the first. As many
vectors as texts must come.
-/

namespace CodeRetrieval.Proxy

def defaultEmbeddingModel : String := "text-embedding-3-small"

/-- Why the proxy did not serve a request. -/
inductive RequestFailure where
  /-- The reply has a status that tells of no success. -/
  | status (code : Nat)
  /-- The connection failed. -/
  | lost (fault : ConnectionFault)

/-- Why the proxy gives no vectors. -/
inductive EmbeddingRefusal where
  /-- The request failed. -/
  | failed (model : String) (failure : RequestFailure)
  /-- The reply holds another number of vectors. -/
  | count (expected got : Nat)

namespace EmbeddingRefusal

def message : EmbeddingRefusal → String
  | failed model _ => "embedding request failed for model=" ++ model
  | count expected got => s!"expected {expected} embeddings, got {got}"

end EmbeddingRefusal

/-- Why there are no vectors. -/
inductive EmbeddingError where
  | refused (reason : EmbeddingRefusal)
  /-- The reply has another shape. -/
  | misshapen (e : ReplyError)
  /-- The connection had been closed. -/
  | closed

namespace Embeddings

def service : String := "/v1/embeddings"

def body (model : String) (texts : List String) : Data :=
  .table [("input", .list (texts.map .text)), ("model", .text model)]

def placeOf (item : Data) : Except ReplyError Int := do
  let _ ← entriesOf item
  match item.get? "index" with
  | some place => integerOf place
  | none => return 0

def vectorOf (item : Data) : Except ReplyError (List Float) :=
  match item.get? "embedding" with
  | some v => do (← itemsOf v).mapM numberOf
  | none => .error (.missingKey "embedding")

/-- The items of a reply in the order of their places. Items with equal places keep
their order. -/
def inOrder (items : List Data) : Except ReplyError (List Data) := do
  let placed ← items.mapM fun item => do return ((← placeOf item), item)
  return (placed.mergeSort fun a b => decide (a.1 ≤ b.1)).map Prod.snd

/-- The vectors that a reply holds, in the order of their places. -/
def ofReply (body : String) : Except ReplyError (List (List Float)) := do
  let reply ← readBody body
  let _ ← entriesOf reply
  let items ← itemsOf ((reply.get? "data").getD (.list []))
  (← inOrder items).mapM vectorOf

/-- The statuses that tell of success. -/
def isSuccess (status : Nat) : Bool :=
  decide (200 ≤ status) && decide (status < 300)

def outcome (model : String) (expected : Nat) :
    Reply → Except EmbeddingError (List (List Float))
  | .closed => .error .closed
  | .lost fault => .error (.refused (.failed model (.lost fault)))
  | .answered status _ body =>
    if !isSuccess status then .error (.refused (.failed model (.status status)))
    else
      match ofReply body with
      | .error e => .error (.misshapen e)
      | .ok vectors =>
        if vectors.length = expected then .ok vectors
          else .error (.refused (.count expected vectors.length))

/-- The vectors of texts. For no texts nothing is asked. -/
def embed (endpoint : Endpoint) (transport : Transport) (model : String)
    (texts : List String) :
    Noted (Except EmbeddingError (List (List Float))) :=
  if texts.isEmpty then .silent (.ok [])
  else
    let request := endpoint.request service (body model texts)
    ⟨outcome model texts.length (transport request), [.requestSent request]⟩

def embedOne (endpoint : Endpoint) (transport : Transport) (model text : String) :
    Noted (Except EmbeddingError (List Float)) :=
  (embed endpoint transport model [text]).map fun vectors =>
    vectors.map fun vs => vs.headD []

end Embeddings

namespace EmbeddingError

def toFault : EmbeddingError → Embedding.Fault EmbeddingRefusal
  | refused reason => .refused reason
  | misshapen e => .broken e.message
  | closed => .broken closedText

end EmbeddingError

end CodeRetrieval.Proxy
