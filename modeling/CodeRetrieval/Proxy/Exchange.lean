import CodeRetrieval.Data.Json
import CodeRetrieval.Data.Number
import CodeRetrieval.Text.Case

/-!
# Exchanges with the model proxy

Completions and embeddings come from a proxy that takes JSON bodies and answers with
JSON bodies. A transport carries a request there and says what came back. The body of a
reply is read as a data value, whose parts are then taken by name; each way in which a
reply may fail to have the expected shape has its own error.
-/

namespace CodeRetrieval.Proxy

/-- Where the proxy is, and the key that it asks for. Without a key none is sent. -/
structure Endpoint where
  baseUrl : String := "http://localhost:4000"
  apiKey : String := ""

/-- A request to the proxy. Requests are posted, their bodies written as JSON. -/
structure Request where
  url : String
  authorization : Option String
  body : Data

namespace Request

def method : String := "POST"

def contentType : String := "application/json"

def model (r : Request) : String :=
  ((r.body.get? "model").bind Data.asText?).getD ""

end Request

def Endpoint.request (e : Endpoint) (service : String) (body : Data) : Request where
  url := String.ofList (Text.dropEndWhile (· == '/') e.baseUrl.toList) ++ service
  authorization := if e.apiKey.isEmpty then none else some ("Bearer " ++ e.apiKey)
  body

/-- Why no reply came. -/
structure ConnectionFault where
  kind : String
  reason : String
deriving DecidableEq, Repr

/-- What comes of a request. -/
inductive Reply where
  /-- The proxy answered. -/
  | answered (status : Nat) (headers : List (String × String)) (body : String)
  /-- The connection failed. -/
  | lost (fault : ConnectionFault)
  /-- The connection had been closed before. -/
  | closed

abbrev Transport := Request → Reply

/-- The value of a header, whose name may be written in either case. The values of a
header that is there several times are listed. -/
def header? (headers : List (String × String)) (name : String) : Option String :=
  match (headers.filter fun h => Text.lowerText h.1 == name).map Prod.snd with
  | [] => none
  | values => some (Text.join ", " values)

/-! ## Reading replies -/

/-- What is wrong with the body of a reply. -/
inductive ReplyError where
  /-- The body is no JSON text. -/
  | malformed
  /-- The body holds a whole number with too many digits. -/
  | tooManyDigits
  /-- A value that has to be a table is none. -/
  | notTable
  /-- A table lacks a key. -/
  | missingKey (key : String)
  /-- A value that has to be a sequence is none. -/
  | notSequence
  /-- A value that has to be a number is none. -/
  | number (e : Data.NumberError)
deriving DecidableEq, Repr

def ReplyError.message : ReplyError → String
  | malformed => "the reply is not JSON"
  | tooManyDigits => "the reply holds a number with too many digits"
  | notTable => "a part of the reply is no table"
  | missingKey key => s!"the reply lacks {key}"
  | notSequence => "a part of the reply is no sequence"
  | number _ => "a part of the reply is no number"

/-- The value of a body, before which a byte order mark may stand. -/
def readBody (body : String) : Except ReplyError Data :=
  let text :=
    match body.toList with
    | '\uFEFF' :: s => s
    | s => s
  match Data.Json.read text with
  | .ok d => .ok d
  | .error .malformed => .error .malformed
  | .error .tooManyDigits => .error .tooManyDigits

def entriesOf (d : Data) : Except ReplyError (List (String × Data)) :=
  match d with
  | .table entries => .ok entries
  | _ => .error .notTable

/-- The items that a sequence yields: those of a list, the characters of a text, the
keys of a table. -/
def itemsOf (d : Data) : Except ReplyError (List Data) :=
  match d with
  | .list items => .ok items
  | .text s => .ok (s.toList.map fun c => .text (String.ofList [c]))
  | .table entries => .ok (entries.map fun e => .text e.1)
  | _ => .error .notSequence

def numberOf (d : Data) : Except ReplyError Float :=
  d.toFloat.mapError .number

def integerOf (d : Data) : Except ReplyError Int :=
  d.toInteger.mapError .number

end CodeRetrieval.Proxy
