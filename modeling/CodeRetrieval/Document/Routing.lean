import CodeRetrieval.Syntax.Language

/-!
# Prose and manifests

Which files are markdown, READMEs and package manifests, by their names.
-/

namespace CodeRetrieval.Document

def manifestNames : List String :=
  ["package.json", "Cargo.toml", "go.mod", "requirements.txt", "setup.py", "pyproject.toml",
   "composer.json", "Gemfile"]

def markdownExtensions : List String :=
  ["md", "markdown"]

def cutAtLastPoint? (name : List Char) : Option (List Char × List Char) :=
  match name.reverse.dropWhile (· != '.') with
  | [] => none
  | _ :: before => some (before.reverse, (name.reverse.takeWhile (· != '.')).reverse)

def isMarkdown (path : String) : Bool :=
  (cutAtLastPoint? (Language.baseName path.toList)).any fun (_, extension) =>
    markdownExtensions.contains (String.ofList (Text.lower extension))

/-- A markdown file whose name without extension reads `readme`, in either case. -/
def isReadme (path : String) : Bool :=
  isMarkdown path
    && (cutAtLastPoint? (Language.baseName path.toList)).any fun (stem, _) =>
      Text.lower stem == "readme".toList

def isManifest (path : String) : Bool :=
  manifestNames.contains (String.ofList (Language.baseName path.toList))

def isDocument (path : String) : Bool :=
  isMarkdown path || isManifest path

end CodeRetrieval.Document
