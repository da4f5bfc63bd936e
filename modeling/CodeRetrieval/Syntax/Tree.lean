/-!
# Syntax trees

A node of a syntax tree has a type, a start and a stop in the text, the name of the
field it fills in its parent, if any, and its children in text order. Nothing is assumed
about the points of a tree: a node may stop before it starts or lie outside its parent.
-/

namespace CodeRetrieval.Syntax

/-- A place in a text: the row, counted from 0, and the octet within the row. -/
structure Point where
  row : Nat
  column : Nat
deriving DecidableEq, Repr, Inhabited

/-- A node with everything below it. -/
structure Tree where
  type : String
  start : Point
  stop : Point
  field : Option String
  children : List Tree
deriving Inhabited

namespace Tree

def child? (t : Tree) (field : String) : Option Tree :=
  t.children.find? fun c => c.field == some field

theorem sizeOf_child?_lt {t c : Tree} {field : String} (h : t.child? field = some c) :
    sizeOf c < sizeOf t := by
  have := List.sizeOf_lt_of_mem (List.mem_of_find?_eq_some h)
  cases t
  simp only [mk.sizeOf_spec]
  simp only at this
  omega

mutual

def size : Tree → Nat
  | ⟨_, _, _, _, children⟩ => 1 + sizeAll children

def sizeAll : List Tree → Nat
  | [] => 0
  | t :: ts => size t + sizeAll ts

end

@[simp] theorem sizeAll_nil : sizeAll [] = 0 := by
  simp [sizeAll]

@[simp] theorem sizeAll_cons (t : Tree) (ts : List Tree) :
    sizeAll (t :: ts) = size t + sizeAll ts := by
  simp [sizeAll]

theorem size_eq (t : Tree) : t.size = 1 + sizeAll t.children := by
  cases t
  simp [size]

theorem sizeAll_append (ts us : List Tree) :
    sizeAll (ts ++ us) = sizeAll ts + sizeAll us := by
  induction ts with
  | nil => simp
  | cons t ts ih => rw [List.cons_append, sizeAll_cons, sizeAll_cons, ih, Nat.add_assoc]

/-- A node is replaced by its children: the stack gets smaller. -/
theorem sizeAll_children_append_lt (t : Tree) (stack : List Tree) :
    sizeAll (t.children ++ stack) < sizeAll (t :: stack) := by
  rw [sizeAll_append, sizeAll_cons, size_eq]
  omega

/-- The first node of one of the types among those on a stack and below them. -/
def firstOnStack? (types : List String) : List Tree → Option Tree
  | [] => none
  | t :: stack =>
    if types.contains t.type then some t else firstOnStack? types (t.children ++ stack)
termination_by stack => sizeAll stack
decreasing_by exact sizeAll_children_append_lt t stack

def firstDescendant? (t : Tree) (types : List String) : Option Tree :=
  firstOnStack? types t.children

end Tree

end CodeRetrieval.Syntax
