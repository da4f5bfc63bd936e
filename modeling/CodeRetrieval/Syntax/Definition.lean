import CodeRetrieval.Syntax.Callee
import CodeRetrieval.Text.Case

/-!
# Definitions in a syntax tree

A definition is a node that defines a unit, together with what its place in the tree
says about it: its name, its kind and the class it belongs to. A walk over the tree
finds them in text order. The walk keeps a list of nodes to enter and scopes to leave, a
stack of the names of the open classes, and a stack that tells of each open definition
whether it scopes methods.
-/

namespace CodeRetrieval.Syntax

/-- The name of units that have none. -/
def anonymous : String := "anonymous"

def nameFields : List String :=
  ["name", "identifier", "id"]

/-- Functions that take their name from the place they stand in. -/
def expressionFunctions : List String :=
  ["arrow_function", "function_expression", "function"]

/-- Places that name the function that stands in them. -/
def namingParents : List String :=
  ["variable_declarator", "public_field_definition", "pair"]

def nameFromParent? (parent : Option Tree) : Option Tree := do
  let p ← parent
  if namingParents.contains p.type then (p.child? "name").or (p.child? "key") else none

/-- The name in the first type specification of a grouped type declaration. -/
def specName? (t : Tree) : Option Tree :=
  if t.type == "type_declaration" then
    t.children.findSome? fun c =>
      if c.type == "type_spec" || c.type == "type_alias" then c.child? "name" else none
  else none

/-- The node that names a definition. An implementation block is named by the type it
implements, a function expression by its place, and any other definition by its name
field or its first identifier. -/
def nameNode? (parent : Option Tree) (t : Tree) : Option Tree :=
  let implemented := if t.type == "impl_item" then t.child? "type" else none
  (implemented.or (nameFields.findSome? t.child?)).or <|
    (specName? t).or <|
      if expressionFunctions.contains t.type then nameFromParent? parent
      else t.children.find? fun c => c.type == "identifier" || c.type == "type_identifier"

def nameOf (source : Source) (parent : Option Tree) (t : Tree) : String :=
  (nameNode? parent t).elim anonymous source.text

/-- The type that a method declaration with a receiver belongs to. -/
def receiverType? (source : Source) (t : Tree) : Option String := do
  if t.type == "method_declaration" then
    let receiver ← t.child? "receiver"
    let type ← receiver.firstDescendant? ["type_identifier"]
    return source.text type
  else none

def holdsMarkup (t : Tree) : Bool :=
  (t.firstDescendant? markupTypes).isSome

/-- A function with an upper-case name that renders markup is a component. -/
def isComponent (language : Language) (name : String) (t : Tree) : Bool :=
  rendersMarkup language && Text.startsUpper name.toList && holdsMarkup t

/-- A node where it stands in a tree: with its parent, which the root has not. -/
structure Place where
  parent : Option Tree
  node : Tree

/-- A node that defines a unit, with what its place in the tree says about it. -/
structure Definition where
  parent : Option Tree
  node : Tree
  name : String
  kind : ChunkKind
  parentClass : Option String

def Definition.place (d : Definition) : Place :=
  ⟨d.parent, d.node⟩

/-- A step that the walk still has to make. -/
inductive Frame where
  /-- Enter a node with the given parent. -/
  | enter (parent : Option Tree) (node : Tree)
  /-- Leave the innermost open definition. -/
  | leave

/-- The open definitions, innermost first. -/
structure Scopes where
  /-- Whether each open definition scopes methods. -/
  containers : List Bool
  /-- The names of those that do. -/
  classes : List String

namespace Scopes

def empty : Scopes := ⟨[], []⟩

def push (s : Scopes) (container : Bool) (name : String) : Scopes :=
  ⟨container :: s.containers, if container then name :: s.classes else s.classes⟩

/-- Closes the innermost definition; nothing if none is open, or if it scopes methods
and no class is open. -/
def pop? : Scopes → Option Scopes
  | ⟨false :: containers, classes⟩ => some ⟨containers, classes⟩
  | ⟨true :: containers, _ :: classes⟩ => some ⟨containers, classes⟩
  | _ => none

end Scopes

/-- The definition that a node makes inside the given scopes, when its type is one of a
unit of kind `kind`. -/
def defineIn (language : Language) (source : Source) (scopes : Scopes)
    (parent : Option Tree) (t : Tree) (kind : ChunkKind) : Definition :=
  let name := nameOf source parent t
  let kind :=
    if kind == .function && scopes.containers.head? == some true then .method else kind
  if kind == .method then
    let receiver := (receiverType? source t).filter fun r => !r.isEmpty
    ⟨parent, t, name, kind, receiver.or scopes.classes.head?⟩
  else if kind == .function && isComponent language name t then
    ⟨parent, t, name, .component, none⟩
  else ⟨parent, t, name, kind, none⟩

/-- The work that a step stands for: two for each node below it, one for a scope to
leave. -/
def Frame.work : Frame → Nat
  | enter _ t => 2 * t.size
  | leave => 1

def totalWork : List Frame → Nat
  | [] => 0
  | f :: fs => f.work + totalWork fs

def enterChildren (t : Tree) : List Frame :=
  t.children.map (Frame.enter (some t))

theorem totalWork_enterChildren (t : Tree) :
    totalWork (enterChildren t) = 2 * Tree.sizeAll t.children := by
  unfold enterChildren
  generalize t.children = ts
  induction ts with
  | nil => simp [totalWork]
  | cons c cs ih => simp_all [totalWork, Frame.work, Nat.mul_add]

theorem totalWork_cons (f : Frame) (fs : List Frame) :
    totalWork (f :: fs) = f.work + totalWork fs := by
  rfl

theorem totalWork_append (fs gs : List Frame) :
    totalWork (fs ++ gs) = totalWork fs + totalWork gs := by
  induction fs with
  | nil => simp [totalWork]
  | cons f fs ih => rw [List.cons_append, totalWork_cons, totalWork_cons, ih, Nat.add_assoc]

/-- The definitions that the remaining steps find, in text order, and the scopes open at
the end. Nothing if a scope is left that was not open. -/
def walkFrom (language : Language) (source : Source) :
    List Frame → Scopes → Option (List Definition × Scopes)
  | [], scopes => some ([], scopes)
  | .leave :: frames, scopes => do walkFrom language source frames (← scopes.pop?)
  | .enter parent t :: frames, scopes =>
    match kindOf? language t.type with
    | none => walkFrom language source (enterChildren t ++ frames) scopes
    | some kind =>
      let d := defineIn language source scopes parent t kind
      let inside := scopes.push (isContainer kind t.type) d.name
      (walkFrom language source (enterChildren t ++ .leave :: frames) inside).map
        fun found => (d :: found.1, found.2)
termination_by frames => totalWork frames
decreasing_by
  all_goals
    simp only [totalWork_append, totalWork_cons, totalWork_enterChildren,
      Frame.work, Tree.size_eq]
    omega

def definitions? (language : Language) (source : Source) (root : Tree) :
    Option (List Definition) :=
  (walkFrom language source [.enter none root] .empty).map (·.1)

end CodeRetrieval.Syntax
