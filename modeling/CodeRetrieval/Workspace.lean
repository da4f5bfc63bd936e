import CodeRetrieval.Chunk.Chunker
import CodeRetrieval.Text.Utf8

/-!
# Workspaces

A workspace is a directory whose files are loaded to be indexed. Files that the chunker
does not take, files that are too large, and directories with generated or foreign
content are passed over. Each directory's files are visited before its subdirectories,
both in the order of their names, so that a limit on the number of files keeps the same
files whatever order the directory lists them in.
-/

namespace CodeRetrieval.Workspace

/-- What a name in a directory stands for. -/
inductive Entry where
  /-- A file with its octets. -/
  | file (octets : List UInt8)
  /-- A name behind which there is nothing to read. -/
  | unreadable
  | directory (entries : List (String × Entry))
  /-- A link to a directory. Links are not followed on the way, but a workspace may be
  given by one. -/
  | link (entries : List (String × Entry))
deriving Inhabited

/-- Directories whose content is generated or foreign. -/
def skippedNames : List String :=
  [".git", ".mypy_cache", ".next", ".pytest_cache", ".ruff_cache", ".tox", ".venv",
   "__pycache__", "build", "dist", "node_modules", "target", "vendor"]

def defaultMaxSize : Int := 102400

def defaultMaxFiles : Int := 2000

/-- A file on the way through a workspace: its path, and its octets if it can be read. -/
structure Visit where
  path : List String
  octets : Option (List UInt8)

mutual

def Entry.visits (path : List String) : Entry → List Visit
  | .file octets => [⟨path, some octets⟩]
  | .unreadable => [⟨path, none⟩]
  | .directory entries => visitsBelow path entries
  | .link _ => []

def visitsBelow (path : List String) : List (String × Entry) → List Visit
  | [] => []
  | (name, e) :: entries => e.visits (path ++ [name]) ++ visitsBelow path entries

end

/-- The first path is visited no later than the second: files before directories, and
both by name. -/
def visitedBefore : List String → List String → Bool
  | [], _ => true
  | _ :: _, [] => false
  | [a], [b] => decide (a ≤ b)
  | [_], _ :: _ :: _ => true
  | _ :: _ :: _, [_] => false
  | a :: r, b :: s => if a = b then visitedBefore r s else decide (a ≤ b)

/-- The path leads through a directory that is passed over. -/
def isSkipped (path : List String) : Bool :=
  path.dropLast.any skippedNames.contains

/-- The files of a directory that are not passed over with a directory, in the order of
visits. -/
def tour (entries : List (String × Entry)) : List Visit :=
  ((visitsBelow [] entries).filter fun v => !isSkipped v.path).mergeSort fun a b =>
    visitedBefore a.path b.path

namespace Visit

def pathText (v : Visit) : String :=
  Text.join "/" v.path

def content (octets : List UInt8) : String :=
  String.ofList (Text.unifyLineEnds (Text.decodeOctets octets))

/-- What a visit to a file that the chunker takes adds. -/
def load (v : Visit) (maxSize : Int) : Noted (List IndexFile) :=
  match v.octets with
  | none => ⟨[], [.unreadableFile v.pathText]⟩
  | some octets =>
    if maxSize < octets.length then .silent []
      else .silent [IndexFile.make v.pathText (content octets)]

end Visit

/-- The files that a tour gathers, after those gathered before. It ends at the first
file beyond the limit. -/
def gather (accepts : String → Bool) (maxSize maxFiles : Int) :
    List IndexFile → List Visit → Noted (List IndexFile)
  | taken, [] => .silent taken
  | taken, v :: visits =>
    if maxFiles ≤ taken.length then ⟨taken, [.fileLimitReached maxFiles]⟩
    else if accepts v.pathText then
      (v.load maxSize).andThen fun more =>
        gather accepts maxSize maxFiles (taken ++ more) visits
    else gather accepts maxSize maxFiles taken visits

/-- There is no directory at a path. -/
structure NotFound where
  path : String
deriving DecidableEq, Repr

def NotFound.message (e : NotFound) : String :=
  "workspace not found: " ++ e.path

/-- The names on the way to a path, without empty ones, points for "here", and steps
back. Nothing is above the top. -/
def steps? (path : String) : Option (List String) :=
  ((Text.splitAtChar '/' path.toList).map String.ofList).foldl (fun way name =>
    way.bind fun names =>
      if name == "" || name == "." then some names
      else if name == ".." then (if names.isEmpty then none else some names.dropLast)
      else some (names ++ [name])) (some [])

/-- The entries of the directory that names lead to. -/
def directoryAt? : List (String × Entry) → List String → Option (List (String × Entry))
  | entries, [] => some entries
  | entries, name :: names =>
    match entries.lookup name with
    | some (.directory below) | some (.link below) => directoryAt? below names
    | _ => none

/-- The files of the directory at a path, in the order of their paths. -/
def load (languages : LanguageSet) (top : List (String × Entry)) (path : String)
    (maxSize maxFiles : Int) :
    Noted (Except NotFound (List IndexFile)) :=
  match (steps? path).bind (directoryAt? top) with
  | none => .silent (.error ⟨path⟩)
  | some entries =>
    let accepts (p : String) := languages.supports p || Document.isDocument p
    (gather accepts maxSize maxFiles [] (tour entries)).map fun files =>
      .ok (files.mergeSort fun a b => decide (a.path ≤ b.path))

end CodeRetrieval.Workspace
