import CodeRetrieval.Data.Json
import CodeRetrieval.Data.Number
import CodeRetrieval.Text.Alphanumeric

/-!
# Answers of models

A model answers with a JSON object, which may stand inside a code fence. An answer has
fields of certain types, some of which may be missing; other fields are passed over.
-/

namespace CodeRetrieval.Scoring

def fence : List Char := ['\x60', '\x60', '\x60']

/-- What stands inside the fence that surrounds a text: an opening fence with a word for
the kind of its content, the content, perhaps a line feed, and the closing fence. -/
def insideFence? (s : List Char) : Option (List Char) :=
  if !fence.isPrefixOf s then none
  else
    match (s.drop 3).dropWhile fun c => Text.isWordChar c || c == '-' with
    | '\n' :: rest =>
      if !fence.isSuffixOf rest then none
      else
        let body := rest.take (rest.length - 3)
        some (if body.getLast? == some '\n' then body.dropLast else body)
    | _ => none

/-- The text without blanks and a fence around it. -/
def unfenced (s : List Char) : List Char :=
  let trimmed := Text.trim s
  (insideFence? trimmed).getD trimmed

/-- The answers that a model is asked for. -/
inductive AnswerForm where
  /-- A judgement. -/
  | ranker
  /-- Shortened code. -/
  | compressor
deriving DecidableEq, Repr

namespace AnswerForm

def name : AnswerForm → String
  | ranker => "RankerOutput"
  | compressor => "CompressorOutput"

end AnswerForm

/-- What is wrong with an answer. -/
inductive AnswerFault where
  /-- The answer is no JSON text. -/
  | malformed
  /-- The answer lacks a field, or a field has another type. -/
  | misshapen
  /-- The answer holds a whole number with too many digits. -/
  | tooManyDigits
deriving DecidableEq, Repr

namespace AnswerFault

def message (form : AnswerForm) : AnswerFault → String
  | tooManyDigits => "Exceeds the limit (4300 digits) for integer string conversion"
  | _ => s!"invalid {form.name} reply"

end AnswerFault

/-- A judgement: the total, and why. -/
structure Judgement where
  total : Float
  explanation : String

def readAnswer (answer : String) : Except AnswerFault Data :=
  match Data.Json.read (unfenced answer.toList) with
  | .ok d => .ok d
  | .error .malformed => .error .malformed
  | .error .tooManyDigits => .error .tooManyDigits

def optional {α : Type} (read : Data → Option α) (default : α) (d : Data)
    (key : String) : Option α :=
  match d.get? key with
  | some value => read value
  | none => some default

def textList? (d : Data) : Option (List String) :=
  d.asList?.bind fun items => items.mapM Data.asText?

def judgementOf? (d : Data) : Option Judgement := do
  let total ← (d.get? "score").bind Data.toAsciiFloat?
  let _ ← optional Data.toAsciiFloat? 0.0 d "relevance"
  let _ ← optional Data.toAsciiFloat? 0.0 d "completeness"
  let _ ← optional Data.toAsciiFloat? 0.0 d "quality"
  return ⟨total, ← optional Data.asText? "" d "explanation"⟩

def shortenedOf? (d : Data) : Option String := do
  let code ← (d.get? "compressed").bind Data.asText?
  let _ ← optional textList? [] d "key_components"
  let _ ← optional Data.asText? "" d "purpose"
  let _ ← optional textList? [] d "dependencies"
  return code

def answered {α : Type} (read : Data → Option α) (answer : String) :
    Except AnswerFault α := do
  match read (← readAnswer answer) with
  | some x => return x
  | none => .error .misshapen

def readJudgement : String → Except AnswerFault Judgement :=
  answered judgementOf?

def readShortened : String → Except AnswerFault String :=
  answered shortenedOf?

end CodeRetrieval.Scoring
