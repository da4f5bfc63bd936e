import CodeRetrieval.Chunk.Extraction
import CodeRetrieval.Document.Manifest
import CodeRetrieval.Log.Notice

/-!
# Chunks of files

A chunker cuts files into chunks: prose and manifests by their own rules, code along its
syntax tree, and nothing out of any other file. A code file whose tree cannot be made or
cut gives no chunks and a notice.
-/

namespace CodeRetrieval

/-- A file to index. -/
structure IndexFile where
  path : String
  content : String

namespace IndexFile

/-- The file with the given path and content. Backslashes in the path become slashes. -/
def make (path content : String) : IndexFile :=
  ⟨String.ofList (path.toList.map fun c => if c = '\\' then '/' else c), content⟩

/-- The file that a table of fields describes, if path and content are texts. -/
def ofFields? (fields : Data) : Option IndexFile := do
  let path ← (fields.get? "path").bind Data.asText?
  let content ← (fields.get? "content").bind Data.asText?
  return make path content

end IndexFile

/-- What cuts files into chunks: the languages whose files it takes, and how trees are
made of them. -/
structure Chunker where
  languages : LanguageSet
  parse : Language → String → Option Syntax.Tree

namespace Chunker

def indexes (c : Chunker) (path : String) : Bool :=
  Document.isDocument path || c.languages.supports path

def codeChunks (c : Chunker) (language : Language) (path content : String) :
    Noted (List Chunk) :=
  match c.parse language content with
  | none => ⟨[], [.parseFailed path language.name]⟩
  | some root =>
    match SourceFile.extract ⟨path, language, .ofString content⟩ root with
    | .ok chunks => .silent chunks
    | .error _ => ⟨[], [.extractionFailed path language.name]⟩

def chunkFile (c : Chunker) (path content : String) :
    Noted (Except Data.TooManyDigits (List Chunk)) :=
  if Document.isDocument path then .silent (Document.documentChunks path content)
  else
    match (Language.ofPath? path).filter c.languages.contains with
    | none => .silent (.ok [])
    | some language => (c.codeChunks language path content).map .ok

def chunkFiles (c : Chunker) (files : List IndexFile) :
    Noted (Except Data.TooManyDigits (List (List Chunk))) :=
  (Noted.sequence (files.map fun f => c.chunkFile f.path f.content)).map fun results =>
    results.mapM id

end Chunker

end CodeRetrieval
