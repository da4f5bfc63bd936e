/-!
# Kinds of chunks

A chunk is a piece of code, a piece of prose, or a package manifest. Each kind has one
written name.
-/

namespace CodeRetrieval

/-- What a chunk is. -/
inductive ChunkKind where
  | function
  | method
  | class_
  | component
  | interface
  | constant
  | readme
  | documentation
  | metadata
deriving DecidableEq, Repr

namespace ChunkKind

def all : List ChunkKind :=
  [function, method, class_, component, interface, constant, readme,
   documentation, metadata]

def text : ChunkKind → String
  | function => "function"
  | method => "method"
  | class_ => "class"
  | component => "component"
  | interface => "interface"
  | constant => "constant"
  | readme => "readme"
  | documentation => "documentation"
  | metadata => "metadata"

def ofText? (s : String) : Option ChunkKind :=
  all.find? fun k => k.text == s

def isCode : ChunkKind → Bool
  | function | method | class_ | component | interface | constant => true
  | readme | documentation | metadata => false

end ChunkKind

end CodeRetrieval
