import CodeRetrieval.Syntax.Roles
import CodeRetrieval.Syntax.Source

/-!
# Called names

The name that a call calls is found from its callee by going to the member's name as
long as the callee names a member, down to an identifier. A callee of any other form has
no name. The calls of a unit are the distinct names called anywhere inside it, in order
of first appearance.
-/

namespace CodeRetrieval.Syntax

def memberName? (t : Tree) : Option Tree :=
  if nameTypes.contains t.type then some t
  else
    match memberFields.lookup t.type with
    | none => none
    | some field =>
      match h : t.child? field with
      | none => none
      | some member =>
        have : sizeOf member < sizeOf t := Tree.sizeOf_child?_lt h
        memberName? member
termination_by sizeOf t

def calleeName? (source : Source) (t : Tree) : Option String := do
  let field ← calleeFields.lookup t.type
  let callee ← t.child? field
  let name ← memberName? callee
  return source.text name

def addCallee (source : Source) (names : List String) (t : Tree) : List String :=
  match calleeName? source t with
  | some name => if name.isEmpty || names.contains name then names else names ++ [name]
  | none => names

def addCallees (source : Source) (names : List String) : List Tree → List String
  | [] => names
  | t :: stack => addCallees source (addCallee source names t) (t.children ++ stack)
termination_by stack => Tree.sizeAll stack
decreasing_by exact Tree.sizeAll_children_append_lt t stack

/-- The names called inside a node, each once, in order of first appearance. -/
def calledNames (source : Source) (t : Tree) : List String :=
  addCallees source [] t.children

end CodeRetrieval.Syntax
