import CodeRetrieval.Proofs.Syntax.Descent
import CodeRetrieval.Syntax.Definition

/-!
# The walk over a tree

The walk keeps nodes to enter and scopes to leave on one stack and the open scopes on
two others. It finds what a plain recursion over the tree finds, where each node hands
its scopes down to its children: every scope that is opened below a node is closed again
before the node's next sibling is entered. So the walk never leaves a scope that is not
open, and the definitions come in the order of the nodes in the text.
-/

namespace CodeRetrieval.Syntax

namespace Tree

mutual

/-- All places of a tree whose root has the given parent, each node before its children. -/
def places (parent : Option Tree) : Tree → List Place
  | ⟨type, start, stop, field, children⟩ =>
    ⟨parent, ⟨type, start, stop, field, children⟩⟩
      :: placesAll (some ⟨type, start, stop, field, children⟩) children

def placesAll (parent : Option Tree) : List Tree → List Place
  | [] => []
  | t :: ts => places parent t ++ placesAll parent ts

end

mutual

theorem map_node_places (parent : Option Tree) :
    ∀ t : Tree, (t.places parent).map Place.node = t.preorder
  | ⟨type, start, stop, field, children⟩ => by
    rw [places, preorder, List.map_cons, map_node_placesAll]

theorem map_node_placesAll (parent : Option Tree) :
    ∀ ts : List Tree, (placesAll parent ts).map Place.node = preorderAll ts
  | [] => rfl
  | t :: ts => by
    rw [placesAll, preorderAll, List.map_append, map_node_places parent t,
      map_node_placesAll parent ts]

end

end Tree

def Place.isMapped (language : Language) (p : Place) : Bool :=
  (kindOf? language p.node.type).isSome

section

variable (language : Language) (source : Source)

mutual

/-- The definitions of a tree inside the given scopes. -/
def definitionsIn (scopes : Scopes) (parent : Option Tree) : Tree → List Definition
  | ⟨type, start, stop, field, children⟩ =>
    let t : Tree := ⟨type, start, stop, field, children⟩
    match kindOf? language type with
    | none => definitionsBelow scopes (some t) children
    | some kind =>
      let d := defineIn language source scopes parent t kind
      d :: definitionsBelow (scopes.push (isContainer kind type) d.name) (some t) children

def definitionsBelow (scopes : Scopes) (parent : Option Tree) : List Tree → List Definition
  | [] => []
  | t :: ts => definitionsIn scopes parent t ++ definitionsBelow scopes parent ts

end

variable {language source}

theorem definitionsIn_of_none {scopes : Scopes} {parent : Option Tree} {t : Tree}
    (h : kindOf? language t.type = none) :
    definitionsIn language source scopes parent t
      = definitionsBelow language source scopes (some t) t.children := by
  cases t
  simp only [definitionsIn, h]

theorem definitionsIn_of_some {scopes : Scopes} {parent : Option Tree} {t : Tree}
    {kind : ChunkKind} (h : kindOf? language t.type = some kind) :
    definitionsIn language source scopes parent t =
      defineIn language source scopes parent t kind
        :: definitionsBelow language source
          (scopes.push (isContainer kind t.type)
            (defineIn language source scopes parent t kind).name)
          (some t) t.children := by
  cases t
  simp only [definitionsIn, h]

/-- Leaving the scope that was opened last gives the scopes before it. -/
@[simp] theorem Scopes.pop?_push (s : Scopes) (container : Bool) (name : String) :
    (s.push container name).pop? = some s := by
  cases container <;> rfl

/-- Entering a node finds its definitions first and then goes on in the same scopes. -/
abbrev FindsFirst (language : Language) (source : Source) (scopes : Scopes)
    (steps : List Frame) (found : List Definition) : Prop :=
  ∀ frames, walkFrom language source (steps ++ frames) scopes
    = (walkFrom language source frames scopes).map fun rest => (found ++ rest.1, rest.2)

mutual

theorem walkFrom_enter (scopes : Scopes) (parent : Option Tree) :
    ∀ t : Tree, FindsFirst language source scopes [.enter parent t]
      (definitionsIn language source scopes parent t)
  | ⟨type, start, stop, field, children⟩ => by
    intro frames
    rw [List.singleton_append, walkFrom]
    cases h : kindOf? language type with
    | none =>
        rw [definitionsIn_of_none h]
        exact walkFrom_enterAll scopes
          (some ⟨type, start, stop, field, children⟩) children frames
    | some kind =>
        rw [definitionsIn_of_some h]
        -- the scope of the node is open while its children are walked, and is left
        -- before `frames`
        have below := walkFrom_enterAll
          (scopes.push (isContainer kind type)
            (defineIn language source scopes parent ⟨type, start, stop, field,
             children⟩ kind).name)
          (some ⟨type, start, stop, field, children⟩) children (.leave :: frames)
        rw [walkFrom, Scopes.pop?_push] at below
        simp only [enterChildren, below, Option.map_map]
        rfl

theorem walkFrom_enterAll (scopes : Scopes) (parent : Option Tree) :
    ∀ ts : List Tree, FindsFirst language source scopes (ts.map (Frame.enter parent))
      (definitionsBelow language source scopes parent ts)
  | [] => by
    intro frames
    simp [definitionsBelow]
  | t :: ts => by
    intro frames
    have first := walkFrom_enter scopes parent t (ts.map (Frame.enter parent) ++ frames)
    have rest := walkFrom_enterAll scopes parent ts frames
    rw [List.map_cons, List.cons_append, ← List.singleton_append, first,
      rest, Option.map_map]
    simp [definitionsBelow, Function.comp_def]

end

/-- The walk ends, with all scopes closed, and finds the definitions of the tree. -/
theorem walkFrom_root (root : Tree) :
    walkFrom language source [.enter none root] .empty
      = some (definitionsIn language source .empty none root, .empty) := by
  have h : FindsFirst language source .empty [.enter none root] _ :=
    walkFrom_enter .empty none root
  simpa [walkFrom] using h []

theorem definitions?_eq (root : Tree) :
    definitions? language source root =
      some (definitionsIn language source .empty none root) := by
  rw [definitions?, walkFrom_root]
  rfl

/-! ## Where definitions stand -/

@[simp] theorem place_defineIn (scopes : Scopes) (parent : Option Tree) (t : Tree)
    (kind : ChunkKind) :
    (defineIn language source scopes parent t kind).place = ⟨parent, t⟩ := by
  simp only [defineIn]
  repeat' split
  all_goals rfl

mutual

theorem map_place_definitionsIn (scopes : Scopes) (parent : Option Tree) :
    ∀ t : Tree, (definitionsIn language source scopes parent t).map Definition.place
      = (t.places parent).filter (Place.isMapped language)
  | ⟨type, start, stop, field, children⟩ => by
    rw [Tree.places]
    cases h : kindOf? language type with
    | none =>
        rw [definitionsIn_of_none h, List.filter_cons_of_neg (by simp [Place.isMapped, h])]
        exact map_place_definitionsBelow scopes _ children
    | some kind =>
        rw [definitionsIn_of_some h, List.filter_cons_of_pos (by simp [Place.isMapped, h]),
          List.map_cons, place_defineIn]
        exact congrArg _ (map_place_definitionsBelow _ _ children)

theorem map_place_definitionsBelow (scopes : Scopes) (parent : Option Tree) :
    ∀ ts : List Tree, (definitionsBelow language source scopes parent ts).map
      Definition.place
      = (Tree.placesAll parent ts).filter (Place.isMapped language)
  | [] => rfl
  | t :: ts => by
    rw [definitionsBelow, Tree.placesAll, List.map_append, List.filter_append,
      map_place_definitionsIn scopes parent t, map_place_definitionsBelow scopes parent ts]

end

end

end CodeRetrieval.Syntax
