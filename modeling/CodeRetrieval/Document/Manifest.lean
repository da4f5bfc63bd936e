import CodeRetrieval.Data.Json
import CodeRetrieval.Data.Toml
import CodeRetrieval.Document.Markdown

/-!
# Chunks of package manifests

A manifest is one chunk. A manifest that reads as a table gives its dependencies and, as
keywords, its name, the longer words of its description, its own keywords and its
dependencies; all of them may also stand in the tables `project`, `package` and
`tool.poetry`. Any other manifest gives its most frequent longer words.
-/

namespace CodeRetrieval.Document

/-- How many keywords a manifest that is no table gives. -/
def frequentWordLimit : Nat := 20

def endsWith (name suffix : String) : Bool :=
  suffix.toList.isSuffixOf name.toList

def manifestName (path : String) : String :=
  String.ofList (Language.baseName path.toList)

def manifestTable? (path content : String) : Option (List (String × Data)) :=
  let name := manifestName path
  if endsWith name ".json" then
    match Data.Json.read content.toList with
    | .ok d => d.asTable?
    | .error _ => none
  else if endsWith name ".toml" then Data.Toml.read? content.toList
  else none

def isPackageNameChar (c : Char) : Bool :=
  c.isAlphanum || c == '.' || c == '_' || c == '-'

def requirementName? (requirement : List Char) : Option String :=
  let s := requirement.dropWhile Text.isBlank
  match s with
  | c :: _ => if c.isAlphanum then some (String.ofList (s.takeWhile isPackageNameChar))
    else none
  | [] => none

def requirementNames (items : List Data) : Except Data.TooManyDigits (List String) := do
  let written ← items.mapM Data.written
  return written.filterMap fun w => requirementName? w.toList

/-- The tables of a manifest that may describe the package. -/
def describingTables (root : List (String × Data)) : List (List (String × Data)) :=
  let below (key : String) := (root.lookup key).bind Data.asTable?
  let poetry := ((below "tool").bind fun tool => tool.lookup "poetry").bind Data.asTable?
  [root] ++ (below "project").toList ++ (below "package").toList ++ poetry.toList

/-- The dependencies that one table lists: the keys of a table, or the package names of
a list. -/
def listedDependencies (table : List (String × Data)) :
    Except Data.TooManyDigits (List String) :=
  match table.lookup "dependencies" with
  | some (.table entries) => .ok ((entries.map (·.1)).filter (· != "python"))
  | some (.list items) => requirementNames items
  | _ => .ok []

def listedKeywords (table : List (String × Data)) :
    Except Data.TooManyDigits (List String) := do
  let name := ((table.lookup "name").bind Data.asText?).toList
  let description :=
    ((table.lookup "description").bind Data.asText?).elim [] fun d => longWords d.toList
  let written ← (((table.lookup "keywords").bind Data.asList?).getD []).mapM Data.written
  return name ++ description ++ written.map Text.lowerText

/-- The keywords and the dependencies of a manifest that is a table. -/
def describedFields (root : List (String × Data)) :
    Except Data.TooManyDigits (List String × List String) := do
  let fields ← (describingTables root).mapM fun table => do
    return (← listedKeywords table, ← listedDependencies table)
  let dependencies := fields.flatMap (·.2)
  return (fields.flatMap (·.1) ++ dependencies, dependencies.eraseDups)

/-- The most frequent longer words of a text; of equally frequent ones the first to
occur comes first. -/
def frequentWords (content : String) : List String :=
  let words := longWords content.toList
  let counted := words.eraseDups.map fun w => (w, words.count w)
  ((counted.mergeSort fun a b => decide (b.2 ≤ a.2)).take frequentWordLimit).map (·.1)

def manifestLanguage (name : String) : String :=
  if endsWith name ".json" then "json" else if endsWith name ".toml" then "toml" else "text"

def manifestChunk (path content : String) : Except Data.TooManyDigits Chunk := do
  let (keywords, dependencies) ←
    match manifestTable? path content with
    | some root => describedFields root
    | none => pure (frequentWords content, [])
  let name := fileNameOr "metadata" path
  return {
    id := chunkId path 1
    path
    span := LineSpan.ofCount (Text.lines content).length (one_le_length_lines content)
    kind := .metadata
    name
    language := manifestLanguage name
    code := content
    docComment := none
    parentClass := none
    imports := []
    calls := []
    keywords := keywords.eraseDups
    dependencies
    embedding := none
    fullSize := none }

def documentChunks (path content : String) : Except Data.TooManyDigits (List Chunk) :=
  if isReadme path then .ok [readmeChunk path content]
  else if isMarkdown path then .ok (markdownChunks path content)
  else if isManifest path then do return [← manifestChunk path content]
  else .ok []

end CodeRetrieval.Document
