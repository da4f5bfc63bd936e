import CodeRetrieval.Chunk.Basic
import CodeRetrieval.Decimal.Fixed
import CodeRetrieval.Lexical.Tokens
import CodeRetrieval.Proxy.Completion
import CodeRetrieval.Ranking.Scalar

/-!
# Prompts about chunks

What a model is told when it judges or shortens a chunk: a list of labelled sections,
after a description of its task.
-/

namespace CodeRetrieval.Scoring

def labelled (sections : List (String × String)) : String :=
  Text.join "\n\n" (sections.map fun (label, content) => label ++ ":\n" ++ content)

def jsonAnswer : Data :=
  .table [("type", .text "json_object")]

/-! ## Judging -/

def judgeTask : String :=
  Text.unlines [
    "You are an expert code relevance evaluator.",
    "",
    "Your task is to evaluate how well a code chunk matches a user\x27s query.",
    "",
    "Scoring rubric (0-10 total):",
    "",
    "1. Relevance (0-4 points): 4 directly answers the query, 0 not related.",
    "2. Completeness (0-3 points): 3 complete and self-contained, 0 does not answer it.",
    "3. Quality (0-3 points): 3 right level of detail, 0 wrong abstraction level.",
    "",
    "Rules:",
    "- Be strict: most results should score 3-7",
    "- Only give 9-10 for exceptional matches",
    "- Consider the query\x27s intent (feature vs implementation)",
    "",
    "Respond with a JSON object with the keys \"score\", \"relevance\", \"completeness\",",
    "\"quality\" and \"explanation\" (one or two sentences)."]

def judgeText (query : String) (c : Chunk) : String :=
  labelled ([("query", query), ("chunkType", c.kind.text), ("chunkName", c.name),
    ("filePath", c.path),
      ("language", c.language)]
    ++ (Lexical.present c.docComment).map (fun s => ("documentation", s))
    ++ (Lexical.present c.parentClass).map (fun s => ("parentClass", s))
    ++ [("code", c.code)])

def judgeTemperature : Float := 0.0

def judgePrompt (model : String) (temperature : Float) (query : String)
    (c : Chunk) : Proxy.Prompt where
  text := judgeText query c
  model
  system := judgeTask
  temperature
  responseFormat := some jsonAnswer

/-! ## Shortening -/

def shorteningTask : String :=
  Text.unlines [
    "You are an expert code compression specialist.",
    "",
    "Compress code while preserving semantic meaning and structure:",
    "- keep function signatures, class definitions, imports and key constants",
    "- keep the core logic flow",
    "- shorten verbose comments and repetitive or detailed implementation",
    "- the result must still be valid, readable code",
    "",
    "Respond with a JSON object with the keys \"compressed\" (the compressed code),",
    "\"key_components\" (list of main functions or variables), \"purpose\" (one",
    "sentence) and \"dependencies\" (list of imports used)."]

/-- By how many per cent code of size `current` shrinks to size `target`; nothing
shrinks by nothing. -/
def reduction (current : Nat) (target : Int) : Int :=
  if current = 0 then 0
  else Decimal.nearestInt ((1.0 - Scalar.ofInt target / Scalar.ofNat current) * 100.0)

def shorteningText (c : Chunk) (target : Int) : String :=
  let size := c.code.length
  labelled [("language", c.language), ("type", c.kind.text), ("name", c.name),
    ("filePath", c.path),
    ("currentSize", s!"{size} characters"),
    ("targetSize", s!"~{target} characters ({reduction size target}% reduction)"),
    ("code", c.code),
    ("instructions",
     s!"Compress this {c.language} {c.kind.text} while preserving its semantic meaning.")]

def shorteningTemperature : Float := 0.1

def shorteningPrompt (model : String) (temperature : Float) (c : Chunk)
    (target : Int) : Proxy.Prompt where
  text := shorteningText c target
  model
  system := shorteningTask
  temperature
  responseFormat := some jsonAnswer

end CodeRetrieval.Scoring
