import CodeRetrieval.Text.Case
import CodeRetrieval.Text.Quoted

/-!
# Languages

The languages whose files are cut along their syntax trees, and the file extensions that
belong to them. A selection of languages refuses the ones that are not supported.
-/

namespace CodeRetrieval

/-- A supported language. -/
inductive Language where
  | javascript
  | typescript
  | tsx
  | python
  | go
  | rust
deriving DecidableEq, Repr

namespace Language

def all : List Language :=
  [javascript, typescript, tsx, python, go, rust]

def name : Language → String
  | javascript => "javascript"
  | typescript => "typescript"
  | tsx => "tsx"
  | python => "python"
  | go => "go"
  | rust => "rust"

def ofName? (s : String) : Option Language :=
  all.find? fun l => l.name == s

def extensions : List (String × Language) :=
  [("js", javascript), ("jsx", javascript), ("mjs", javascript), ("cjs", javascript),
   ("ts", typescript), ("mts", typescript), ("cts", typescript), ("tsx", tsx),
   ("py", python), ("pyw", python), ("pyi", python), ("go", go), ("rs", rust)]

/-- The part of a path after its last slash. -/
def baseName (path : List Char) : List Char :=
  (path.reverse.takeWhile (· != '/')).reverse

/-- The text behind the last point of a file name. A point that only points come before
makes a hidden file and no extension. -/
def extension? (name : List Char) : Option (List Char) :=
  let rest := name.reverse.dropWhile (· != '.')
  if rest.tail.all (· == '.') then none
  else some (name.reverse.takeWhile (· != '.')).reverse

/-- The language of a file, by the extension of its path. Backslashes count as slashes. -/
def ofPath? (path : String) : Option Language :=
  let path := path.toList.map fun c => if c = '\\' then '/' else c
  (extension? (baseName path)).bind fun e =>
    extensions.lookup (String.ofList (Text.lower e))

end Language

/-- Why a language is refused. -/
inductive LanguageError where
  /-- These names stand for no supported language. -/
  | unknown (names : List String)
  /-- This name is not among the selected languages. -/
  | notSelected (name : String)
deriving DecidableEq, Repr

namespace LanguageError

def message : LanguageError → String
  | unknown names => "no node kind table for: " ++ Text.quotedList names
  | notSelected name => "unsupported language: " ++ name

end LanguageError

/-- A selection of languages. -/
structure LanguageSet where
  members : List Language

namespace LanguageSet

def all : LanguageSet :=
  ⟨Language.all⟩

/-- The set of the named languages. Names that are not supported are reported sorted,
each once. -/
def ofNames (names : List String) : Except LanguageError LanguageSet :=
  match (names.filter fun n => (Language.ofName? n).isNone).eraseDups with
  | [] => .ok ⟨Language.all.filter fun l => names.contains l.name⟩
  | unknown => .error (.unknown (unknown.mergeSort fun a b => decide (a ≤ b)))

def contains (s : LanguageSet) (l : Language) : Bool :=
  s.members.contains l

def names (s : LanguageSet) : List String :=
  (s.members.map Language.name).mergeSort fun a b => decide (a ≤ b)

def supports (s : LanguageSet) (path : String) : Bool :=
  (Language.ofPath? path).any s.contains

def select (s : LanguageSet) (name : String) : Except LanguageError Language :=
  match (Language.ofName? name).filter s.contains with
  | some l => .ok l
  | none => .error (.notSelected name)

end LanguageSet

end CodeRetrieval
