import CodeRetrieval.Log.Notice

/-!
# Completions

A completion answers one prompt. The request names the model and may ask for an answer
of a certain form; of the reply only the first choice counts, and what the reply does
not say about usage and cost counts as zero.
-/

namespace CodeRetrieval.Proxy

def defaultCompletionModel : String := "gpt-4o-mini"

/-- What a completion is asked for. -/
structure Prompt where
  text : String
  model : String := defaultCompletionModel
  /-- What the model is told before the prompt. -/
  system : String := ""
  temperature : Float := 0.2
  maxTokens : Option Data := none
  responseFormat : Option Data := none

def message (role content : String) : Data :=
  .table [("role", .text role), ("content", .text content)]

namespace Prompt

def service : String := "/v1/chat/completions"

def body (p : Prompt) : Data :=
  let told := if p.system.isEmpty then [] else [message "system" p.system]
  .table ([("model", .text p.model), ("messages", .list (told ++ [message "user" p.text])),
      ("temperature", .float p.temperature)]
    ++ (p.maxTokens.map fun n => ("max_tokens", n)).toList
    ++ (p.responseFormat.map fun f => ("response_format", f)).toList)

end Prompt

/-- The answer to a prompt. -/
structure Completion where
  content : String
  tokensIn : Int
  tokensOut : Int
  model : String
  cost : Float

/-- Why there is no completion. -/
inductive CompletionError where
  /-- The proxy refused. -/
  | refused (status : Nat) (model body : String)
  /-- The proxy could not be reached. -/
  | unreachable (model : String) (fault : ConnectionFault)
  /-- The reply has another shape. -/
  | misshapen (e : ReplyError)
  /-- The request holds a number that JSON cannot write. -/
  | unwritable
  /-- The connection had been closed. -/
  | closed

/-- What is said about a refusal: the first 500 characters of the body. -/
def refusalText (status : Nat) (model body : String) : String :=
  s!"LiteLLM {status} for model={model}: " ++ String.ofList (body.toList.take 500)

namespace ConnectionFault

def text (f : ConnectionFault) : String :=
  f.kind ++ ": " ++ f.reason

end ConnectionFault

def closedText : String := "Cannot send a request, as the client has been closed."

namespace CompletionError

def text : CompletionError → String
  | refused status model body => refusalText status model body
  | unreachable model fault => refusalText 0 model fault.text
  | misshapen e => e.message
  | unwritable => "Out of range float values are not JSON compliant"
  | closed => closedText

end CompletionError

namespace Completion

def costHeader : String := "x-litellm-response-cost"

/-- What a completion cost; nothing where the reply does not say it in a number. -/
def costOf (headers : List (String × String)) : Float :=
  ((header? headers costHeader).bind fun text => Decimal.readFloat? text.toList).getD 0.0

def contentOf (choice : Data) : Except ReplyError String := do
  let _ ← entriesOf choice
  match (choice.get? "message").bind fun m => m.get? "content" with
  | some content =>
    if content.isPresent then content.written.mapError fun _ =>
      .tooManyDigits else return ""
  | none => return ""

def tokensOf (reply : Data) (key : String) : Except ReplyError Int :=
  match (reply.get? "usage").bind fun u => u.get? key with
  | some n => integerOf n
  | none => return 0

def ofReply (model : String) (headers : List (String × String)) (body : String) :
    Except ReplyError Completion := do
  let reply ← readBody body
  let _ ← entriesOf reply
  let cost := costOf headers
  match reply.get? "choices" with
  | some (.list (choice :: _)) => do
    let content ← contentOf choice
    let tokensIn ← tokensOf reply "prompt_tokens"
    let tokensOut ← tokensOf reply "completion_tokens"
    return { content, tokensIn, tokensOut, model, cost }
  | _ => return { content := "", tokensIn := 0, tokensOut := 0, model, cost }

end Completion

def isWritable (x : Float) : Bool :=
  !x.isNaN && !x.isInf

namespace Prompt

/-- What a reply to the prompt amounts to. A refusal is noticed. -/
def outcome (p : Prompt) : Reply → Noted (Except CompletionError Completion)
  | .closed => .silent (.error .closed)
  | .lost fault => .silent (.error (.unreachable p.model fault))
  | .answered status headers body =>
    if 400 ≤ status then ⟨.error (.refused status p.model body),
      [.completionRefused status p.model body]⟩
    else .silent ((Completion.ofReply p.model headers body).mapError .misshapen)

def complete (p : Prompt) (endpoint : Endpoint) (transport : Transport) :
    Noted (Except CompletionError Completion) :=
  if !isWritable p.temperature then .silent (.error .unwritable)
  else
    let request := endpoint.request service p.body
    (⟨transport request, [.requestSent request]⟩ : Noted Reply).andThen p.outcome

end Prompt

end CodeRetrieval.Proxy
