import CodeRetrieval.Scoring.Answer
import CodeRetrieval.Scoring.Prompt
import CodeRetrieval.Scoring.Relevance

/-!
# Models that judge and shorten

A model is anything that answers prompts. Each judgement and each shortening takes one
prompt, whose answer is read in the form that the prompt asks for.
-/

namespace CodeRetrieval.Scoring

variable {E : Type}

/-- Something that answers prompts with texts. -/
abbrev Model (E : Type) := Proxy.Prompt → Noted (Except E String)

/-- Why a model did not do its task. -/
inductive TaskError (E : Type) where
  /-- There is no answer. -/
  | silent (reason : E)
  /-- The answer cannot be read. -/
  | unreadable (form : AnswerForm) (fault : AnswerFault)

namespace TaskError

def message (describe : E → String) : TaskError E → String
  | silent reason => describe reason
  | unreadable form fault => fault.message form

end TaskError

def ask {α : Type} (model : Model E) (form : AnswerForm)
    (read : String → Except AnswerFault α) (p : Proxy.Prompt) :
    Noted (Except (TaskError E) α) :=
  (model p).map fun
    | .error reason => .error (.silent reason)
    | .ok answer => (read answer).mapError (.unreadable form)

def judge (model : Model E) (name : String) (temperature : Float)
    (query : String) (c : Chunk) :
    Noted (Except (TaskError E) Relevance) :=
  (ask model .ranker readJudgement (judgePrompt name temperature query c)).map fun answer =>
    answer.map fun j => .make j.total j.explanation

def shorten (model : Model E) (name : String) (temperature : Float)
    (c : Chunk) (target : Int) :
    Noted (Except (TaskError E) String) :=
  ask model .compressor readShortened (shorteningPrompt name temperature c target)

def proxied (endpoint : Proxy.Endpoint) (transport : Proxy.Transport) :
    Model Proxy.CompletionError := fun p =>
  (p.complete endpoint transport).map fun answer => answer.map Proxy.Completion.content

end CodeRetrieval.Scoring
