import CodeRetrieval.Proofs.Data.Distinct
import CodeRetrieval.Syntax.Callee

/-!
# Searches with a stack

A search that takes a node from a stack and puts its children in its place goes through
the nodes below it in text order, each node before its children. So it finds the first
node with a property, and it collects names in the order in which they come first.
-/

namespace CodeRetrieval.Syntax

namespace Tree

mutual

/-- The node and everything below it, each node before its children. -/
def preorder : Tree → List Tree
  | ⟨type, start, stop, field, children⟩ =>
    ⟨type, start, stop, field, children⟩ :: preorderAll children

def preorderAll : List Tree → List Tree
  | [] => []
  | t :: ts => preorder t ++ preorderAll ts

end

def descendants (t : Tree) : List Tree :=
  preorderAll t.children

theorem preorder_eq (t : Tree) : t.preorder = t :: preorderAll t.children := by
  cases t
  rw [preorder]

theorem preorderAll_append (ts us : List Tree) :
    preorderAll (ts ++ us) = preorderAll ts ++ preorderAll us := by
  induction ts with
  | nil => rfl
  | cons t ts ih =>
      rw [List.cons_append, preorderAll, preorderAll, ih, List.append_assoc]

/-- The node on top of a stack comes first, and then what its children leave on the
stack. -/
theorem preorderAll_cons (t : Tree) (stack : List Tree) :
    preorderAll (t :: stack) = t :: preorderAll (t.children ++ stack) := by
  rw [preorderAll, preorder_eq, preorderAll_append, List.cons_append]

theorem firstOnStack?_eq (types : List String) (stack : List Tree) :
    firstOnStack? types stack =
      (preorderAll stack).find? fun t => types.contains t.type := by
  induction stack using firstOnStack?.induct types with
  | case1 => simp [firstOnStack?, preorderAll]
  | case2 t stack htype =>
      rw [firstOnStack?, if_pos htype, preorderAll_cons, List.find?_cons, htype]
  | case3 t stack htype ih =>
      rw [Bool.not_eq_true] at htype
      rw [firstOnStack?, htype, preorderAll_cons, List.find?_cons, htype]
      exact ih

theorem firstDescendant?_eq (t : Tree) (types : List String) :
    t.firstDescendant? types = t.descendants.find? fun t => types.contains t.type :=
  firstOnStack?_eq types t.children

end Tree

/-! ## Names in the order in which they come first -/

variable (source : Source)

/-- The names called by some nodes, as often as they are called. -/
def calleeNames (ts : List Tree) : List String :=
  (ts.filterMap (calleeName? source)).filter fun name => !name.isEmpty

/-- One more node adds the name that it calls to the different names called before it. -/
theorem addCallee_eraseDups (names : List String) (t : Tree) :
    addCallee source names.eraseDups t = (names ++ calleeNames source [t]).eraseDups := by
  rw [addCallee]
  cases hcallee : calleeName? source t with
  | none => simp [calleeNames, hcallee]
  | some name =>
      by_cases hempty : name.isEmpty = true
      · simp [calleeNames, hcallee, hempty]
      · have hname : calleeNames source [t] = [name] := by
          simp [calleeNames, hcallee, hempty]
        simp only [hname, eraseDups_concat, Bool.or_eq_true, hempty, Bool.false_eq_true,
          false_or, List.contains_iff_mem, List.mem_eraseDups]

theorem foldl_addCallee_eraseDups (names : List String) (ts : List Tree) :
    ts.foldl (addCallee source) names.eraseDups =
      (names ++ calleeNames source ts).eraseDups := by
  induction ts generalizing names with
  | nil => simp [calleeNames]
  | cons t ts ih =>
      have hcons : calleeNames source (t :: ts) =
          calleeNames source [t] ++ calleeNames source ts := by
        rw [← List.singleton_append, calleeNames, List.filterMap_append, List.filter_append]
        rfl
      rw [List.foldl_cons, addCallee_eraseDups, ih, hcons, List.append_assoc]

/-- The search goes through the nodes in text order. -/
theorem addCallees_eq_foldl (names : List String) (stack : List Tree) :
    addCallees source names stack =
      (Tree.preorderAll stack).foldl (addCallee source) names := by
  induction names, stack using addCallees.induct source with
  | case1 names => rw [addCallees, Tree.preorderAll, List.foldl_nil]
  | case2 names t stack ih => rw [addCallees, ih, Tree.preorderAll_cons, List.foldl_cons]

theorem calledNames_eq_eraseDups (t : Tree) :
    calledNames source t = (calleeNames source t.descendants).eraseDups := by
  rw [calledNames, addCallees_eq_foldl]
  exact foldl_addCallee_eraseDups source [] t.descendants

end CodeRetrieval.Syntax
