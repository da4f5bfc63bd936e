import CodeRetrieval.Proofs.Syntax.Walk

/-!
# What a unit is by its ancestors

Inside the walk the open scopes stand for the path from the root to the present node:
one for each ancestor that defines a unit, and one name for each of these that scopes
methods. So the kind of a unit and the class it belongs to are decided by its ancestors
alone, whatever the walk met before.
-/

namespace CodeRetrieval.Syntax

/-- A node of a tree with the nodes above it, its parent first. -/
structure Site where
  ancestors : List Tree
  node : Tree

namespace Tree

mutual

/-- All sites of a tree below the given ancestors, each node before its children. -/
def sites (ancestors : List Tree) : Tree → List Site
  | ⟨type, start, stop, field, children⟩ =>
    ⟨ancestors, ⟨type, start, stop, field, children⟩⟩
      :: sitesAll (⟨type, start, stop, field, children⟩ :: ancestors) children

def sitesAll (ancestors : List Tree) : List Tree → List Site
  | [] => []
  | t :: ts => sites ancestors t ++ sitesAll ancestors ts

end

end Tree

namespace Site

/-- The nodes of a path that leads up to the root, each where it stands. -/
def onPath : List Tree → List Site
  | [] => []
  | t :: path => ⟨path, t⟩ :: onPath path

def above (s : Site) : List Site :=
  onPath s.ancestors

def place (s : Site) : Place :=
  ⟨s.ancestors.head?, s.node⟩

def name (source : Source) (s : Site) : String :=
  nameOf source s.ancestors.head? s.node

def kind? (language : Language) (s : Site) : Option ChunkKind :=
  kindOf? language s.node.type

def isMapped (language : Language) (s : Site) : Bool :=
  (s.kind? language).isSome

/-- The node defines a unit that makes the functions directly inside it methods. A node
whose type defines no unit in this language scopes nothing. -/
def isContainer (language : Language) (s : Site) : Bool :=
  (s.kind? language).any fun kind => Syntax.isContainer kind s.node.type

/-! ## Kinds and classes -/

/-- The unit is a method: by the type of its node, or as a function whose nearest
ancestor that defines a unit is a container. -/
def IsMethod (language : Language) (s : Site) (mapped : ChunkKind) : Prop :=
  mapped = .method ∨
    mapped = .function ∧ ∃ a, s.above.find? (isMapped language) = some a ∧
      a.isContainer language = true

/-- The unit is a function with an upper-case name, and markup stands somewhere below it. -/
structure IsComponent (language : Language) (source : Source) (s : Site)
    (mapped : ChunkKind) : Prop where
  isFunction : mapped = .function
  rendersMarkup : Syntax.rendersMarkup language = true
  startsUpper : Text.startsUpper (s.name source).toList = true
  exists_markup : ∃ n ∈ s.node.descendants, n.type ∈ markupTypes

/-- A method declaration with a receiver, the first type below which reads `text`. -/
def HasReceiver (source : Source) (t : Tree) (text : String) : Prop :=
  t.type = "method_declaration" ∧ ∃ receiver type, t.child? "receiver" = some receiver ∧
    receiver.descendants.find? (fun n => n.type == "type_identifier") = some type ∧
      source.text type = text

/-- The kind of a unit and the class it belongs to, where the type of its node gives the
kind `mapped`. -/
structure IsClassified (language : Language) (source : Source) (s : Site)
    (mapped kind : ChunkKind) (parentClass : Option String) : Prop where
  method : s.IsMethod language mapped → kind = .method
  component : ¬ s.IsMethod language mapped →
    s.IsComponent language source mapped → kind = .component
  other : ¬ s.IsMethod language mapped →
    ¬ s.IsComponent language source mapped → kind = mapped
  receiver : kind = .method → ∀ text, HasReceiver source s.node text → text ≠ "" →
    parentClass = some text
  enclosing : kind = .method → (∀ text, HasReceiver source s.node text → text = "") →
    parentClass = (s.above.find? (isContainer language)).map (name source)
  no_class : kind ≠ .method → parentClass = none

end Site

/-! ## Scopes and paths -/

section

variable (language : Language) (source : Source)

def scopesBelow : List Tree → Scopes
  | [] => .empty
  | t :: path =>
    match kindOf? language t.type with
    | none => scopesBelow path
    | some kind =>
        (scopesBelow path).push (isContainer kind t.type) (nameOf source path.head? t)

variable {language source}

theorem scopesBelow_cons_of_none {t : Tree} {path : List Tree}
    (h : kindOf? language t.type = none) :
    scopesBelow language source (t :: path) = scopesBelow language source path := by
  rw [scopesBelow, h]

theorem scopesBelow_cons_of_some {t : Tree} {path : List Tree} {kind : ChunkKind}
    (h : kindOf? language t.type = some kind) :
    scopesBelow language source (t :: path) =
      (scopesBelow language source path).push (isContainer kind t.type)
        (nameOf source path.head? t) := by
  rw [scopesBelow, h]

theorem Site.isContainer_of_none {t : Tree} (path : List Tree)
    (h : kindOf? language t.type = none) :
    Site.isContainer language ⟨path, t⟩ = false := by
  simp [Site.isContainer, Site.kind?, h]

theorem Site.isContainer_of_some {t : Tree} (path : List Tree) {kind : ChunkKind}
    (h : kindOf? language t.type = some kind) :
    Site.isContainer language ⟨path, t⟩ = Syntax.isContainer kind t.type := by
  simp [Site.isContainer, Site.kind?, h]

/-- There is one flag for each node on the path that defines a unit. -/
theorem containers_scopesBelow (path : List Tree) :
    (scopesBelow language source path).containers =
      ((Site.onPath path).filter (Site.isMapped language)).map
        (Site.isContainer language) := by
  induction path with
  | nil => rfl
  | cons t path ih =>
      rw [Site.onPath]
      cases h : kindOf? language t.type with
      | none =>
          have hunmapped : ¬ Site.isMapped language ⟨path, t⟩ = true := by
            simp [Site.isMapped, Site.kind?, h]
          rw [scopesBelow_cons_of_none h, List.filter_cons_of_neg hunmapped, ih]
      | some kind =>
          have hmapped : Site.isMapped language ⟨path, t⟩ = true := by
            simp [Site.isMapped, Site.kind?, h]
          rw [scopesBelow_cons_of_some h, List.filter_cons_of_pos hmapped, List.map_cons,
            Site.isContainer_of_some path h, ← ih]
          rfl

/-- There is one name for each container on the path. -/
theorem classes_scopesBelow (path : List Tree) :
    (scopesBelow language source path).classes =
      ((Site.onPath path).filter (Site.isContainer language)).map (Site.name source) := by
  induction path with
  | nil => rfl
  | cons t path ih =>
      rw [Site.onPath]
      cases h : kindOf? language t.type with
      | none =>
          have hplain : ¬ Site.isContainer language ⟨path, t⟩ = true := by
            simp [Site.isContainer_of_none path h]
          rw [scopesBelow_cons_of_none h, List.filter_cons_of_neg hplain, ih]
      | some kind =>
          have hflag := Site.isContainer_of_some path h
          rw [scopesBelow_cons_of_some h]
          by_cases hcontainer : isContainer kind t.type = true
          · rw [List.filter_cons_of_pos (hflag.trans hcontainer), List.map_cons, ← ih,
              Scopes.push, if_pos hcontainer]
            rfl
          · rw [List.filter_cons_of_neg (by rwa [hflag]), ← ih,
              Scopes.push, if_neg hcontainer]

/-! ## Definitions and sites -/

def Site.definition (language : Language) (source : Source) (s : Site)
    (kind : ChunkKind) : Definition :=
  defineIn language source (scopesBelow language source s.ancestors)
    s.ancestors.head? s.node kind

def Site.withKind? (language : Language) (s : Site) : Option (Site × ChunkKind) :=
  (s.kind? language).map fun kind => (s, kind)

def Tree.unitSites (language : Language) (root : Tree) : List (Site × ChunkKind) :=
  (root.sites []).filterMap (Site.withKind? language)

theorem name_defineIn (scopes : Scopes) (parent : Option Tree) (t : Tree)
    (kind : ChunkKind) :
    (defineIn language source scopes parent t kind).name = nameOf source parent t := by
  simp only [defineIn]
  repeat' split
  all_goals rfl

mutual

/-- Below a path the walk finds what each site defines by itself. -/
theorem definitionsIn_scopesBelow (path : List Tree) :
    ∀ t : Tree, definitionsIn language source
      (scopesBelow language source path) path.head? t =
      ((t.sites path).filterMap (Site.withKind? language)).map fun u =>
        u.1.definition language source u.2
  | ⟨type, start, stop, field, children⟩ => by
    have below :=
      definitionsBelow_scopesBelow (⟨type, start, stop, field, children⟩ :: path) children
    rw [Tree.sites]
    cases h : kindOf? language type with
    | none =>
        rw [definitionsIn_of_none h,
          List.filterMap_cons_none (by simp [Site.withKind?, Site.kind?, h]), ← below,
          scopesBelow_cons_of_none h]
        rfl
    | some kind =>
        rw [definitionsIn_of_some h,
          List.filterMap_cons_some (by simp [Site.withKind?, Site.kind?, h]; rfl),
          List.map_cons, ← below, scopesBelow_cons_of_some h, name_defineIn]
        rfl

theorem definitionsBelow_scopesBelow (path : List Tree) :
    ∀ ts : List Tree, definitionsBelow language source
      (scopesBelow language source path) path.head? ts =
      ((Tree.sitesAll path ts).filterMap (Site.withKind? language)).map fun u =>
        u.1.definition language source u.2
  | [] => rfl
  | t :: ts => by
    rw [definitionsBelow, Tree.sitesAll, List.filterMap_append, List.map_append,
      definitionsIn_scopesBelow path t, definitionsBelow_scopesBelow path ts]

end

/-! ## Kinds and classes of definitions -/

variable {s : Site} {kind : ChunkKind}

theorem Site.isMethod_iff (source : Source) :
    s.IsMethod language kind ↔
      kind = .method ∨ kind = .function ∧
        (scopesBelow language source s.ancestors).containers.head? = some true := by
  rw [IsMethod, containers_scopesBelow, List.head?_map, List.head?_filter,
    Option.map_eq_some_iff]
  rfl

theorem Site.isComponent_iff :
    s.IsComponent language source kind ↔
      kind = .function ∧ Syntax.isComponent language (s.name source) s.node = true := by
  simp only [Syntax.isComponent, holdsMarkup, Tree.firstDescendant?_eq, List.find?_isSome,
    Bool.and_eq_true, List.contains_iff_mem]
  constructor
  · intro h
    exact ⟨h.isFunction, ⟨h.rendersMarkup, h.startsUpper⟩, h.exists_markup⟩
  · rintro ⟨hfunction, ⟨hmarkup, hupper⟩, hexists⟩
    exact ⟨hfunction, hmarkup, hupper, hexists⟩

theorem Site.hasReceiver_iff {t : Tree} {text : String} :
    HasReceiver source t text ↔ receiverType? source t = some text := by
  have hfirst : ∀ receiver : Tree, receiver.firstDescendant? ["type_identifier"] =
      receiver.descendants.find? fun n => n.type == "type_identifier" := by
    intro receiver
    rw [Tree.firstDescendant?_eq]
    congr 1
    funext n
    simp [beq_eq_decide]
  rw [HasReceiver, receiverType?]
  by_cases h : t.type = "method_declaration"
  · simp only [h, hfirst, beq_self_eq_true, if_true, Option.bind_eq_bind,
      Option.bind_eq_some_iff, Option.pure_def, Option.some.injEq,
      true_and, exists_and_left]
  · simp [h]

/-- A method belongs to the type of its receiver, or else to the nearest container. -/
theorem Site.definition_of_isMethod (source : Source) (h : s.IsMethod language kind) :
    (s.definition language source kind).kind = .method ∧
      (s.definition language source kind).parentClass =
        ((receiverType? source s.node).filter fun r => !r.isEmpty).or
          ((s.above.find? (isContainer language)).map (name source)) := by
  have hclass : (scopesBelow language source s.ancestors).classes.head? =
      (s.above.find? (isContainer language)).map (name source) := by
    rw [classes_scopesBelow, List.head?_map, List.head?_filter]
    rfl
  rw [← hclass, definition]
  rcases (isMethod_iff source).mp h with rfl | ⟨rfl, hhead⟩
  · exact ⟨rfl, rfl⟩
  · simp [defineIn, hhead]

/-- Of the other functions those that render markup are components, and all other units
have the kind of their type. -/
theorem Site.definition_of_not_isMethod (source : Source) (h : ¬ s.IsMethod language kind) :
    (s.definition language source kind).kind =
        (if kind == .function && Syntax.isComponent language (s.name source) s.node
          then .component else kind) ∧
      (s.definition language source kind).parentClass = none := by
  rw [isMethod_iff source, not_or] at h
  obtain ⟨hmethod, houter⟩ := h
  have hkind :
      (kind == .function && (scopesBelow language source s.ancestors).containers.head? ==
        some true) = false := by
    simpa using houter
  have hmethod' : (kind == .method) = false := by simpa using hmethod
  simp only [definition, defineIn, hkind, hmethod', Bool.false_eq_true, if_false]
  by_cases hcomponent :
      (kind == .function && Syntax.isComponent language
        (nameOf source s.ancestors.head? s.node) s.node) = true
  · rw [if_pos hcomponent]
    exact ⟨(if_pos hcomponent).symm, rfl⟩
  · rw [if_neg hcomponent]
    exact ⟨(if_neg hcomponent).symm, rfl⟩

theorem Site.isClassified_definition (language : Language) (source : Source) (s : Site)
    (kind : ChunkKind) :
    s.IsClassified language source kind (s.definition language source kind).kind
      (s.definition language source kind).parentClass := by
  by_cases hmethod : s.IsMethod language kind
  · obtain ⟨hkind, hclass⟩ := definition_of_isMethod source hmethod
    refine ⟨fun _ => hkind, fun h => absurd hmethod h, fun h => absurd hmethod h,
      fun _ text htext hne => ?_,
      fun _ hnone => ?_, fun h => absurd hkind h⟩
    · rw [hclass, hasReceiver_iff.mp htext]
      simp [hne]
    · have hempty : ((receiverType? source s.node).filter fun r => !r.isEmpty) = none := by
        rw [Option.filter_eq_none_iff]
        intro text htext
        simp [hnone text (hasReceiver_iff.mpr htext)]
      rw [hclass, hempty, Option.none_or]
  · obtain ⟨hkind, hclass⟩ := definition_of_not_isMethod source hmethod
    by_cases hcomponent : s.IsComponent language source kind
    · have hkind' : (s.definition language source kind).kind = .component := by
        rw [hkind, if_pos (by simpa using isComponent_iff.mp hcomponent)]
      exact ⟨fun h => absurd h hmethod, fun _ _ => hkind',
        fun _ h => absurd hcomponent h, by simp [hkind'], by simp [hkind'], fun _ => hclass⟩
    · have hkind' : (s.definition language source kind).kind = kind := by
        rw [isComponent_iff] at hcomponent
        rw [hkind, if_neg (by simpa using hcomponent)]
      have hmethod' : kind ≠ .method := fun h => hmethod (.inl h)
      exact ⟨fun h => absurd h hmethod, fun _ h => absurd h hcomponent, fun _ _ => hkind',
        fun h => absurd (hkind' ▸ h) hmethod',
          fun h => absurd (hkind' ▸ h) hmethod', fun _ => hclass⟩

end

end CodeRetrieval.Syntax
