import CodeRetrieval.Proofs.Chunk.Extraction
import CodeRetrieval.Proofs.Syntax.Ancestors

/-!
# Kinds and classes of the chunks of a tree

The walk closes every scope that it opens, and the chunk of a unit has the kind and the
class that the ancestors of the unit give it. An ancestor counts also where it makes no
chunk of its own because another unit starts on its row.
-/

namespace CodeRetrieval.SourceFile

open Syntax

theorem kind_of_chunkOf_eq_ok {f : SourceFile} {d : Definition} {c : Chunk}
    (h : f.chunkOf d = .ok c) :
    c.kind = d.kind ∧ c.parentClass = d.parentClass := by
  simp only [chunkOf] at h
  split at h
  · obtain ⟨span, -, h⟩ := bind_eq_ok.mp h
    obtain rfl := Except.ok.inj h
    exact ⟨rfl, rfl⟩
  · cases h

/-- The chunk has the kind and the class that the ancestors of a unit give it. -/
def IsClassifiedAs (f : SourceFile) (u : Site × ChunkKind) (c : Chunk) : Prop :=
  u.1.IsClassified f.language f.source u.2 c.kind c.parentClass

theorem isClassifiedAs_of_chunkOf {f : SourceFile} {u : Site × ChunkKind} {c : Chunk}
    (h : f.chunkOf (u.1.definition f.language f.source u.2) = .ok c) :
    f.IsClassifiedAs u c := by
  obtain ⟨hkind, hclass⟩ := kind_of_chunkOf_eq_ok h
  rw [IsClassifiedAs, hkind, hclass]
  exact u.1.isClassified_definition f.language f.source u.2

theorem definitionsIn_root (language : Language) (source : Source) (root : Tree) :
    definitionsIn language source .empty none root =
      (root.unitSites language).map fun u => u.1.definition language source u.2 :=
  definitionsIn_scopesBelow [] root

def siteRow (u : Site × ChunkKind) : Nat :=
  u.1.place.startRow

theorem startRow_definition (language : Language) (source : Source) (u : Site × ChunkKind) :
    (u.1.definition language source u.2).place.startRow = siteRow u := by
  rw [Site.definition, place_defineIn]
  rfl

/-- The walk never leaves a scope that is not open, and leaves all that it opened. Every
node whose type defines a unit makes one definition, and the chunk of this definition
has the kind and the class that the ancestors of the node give it. The chunks of the
tree are those of the units that are the first on their rows. -/
theorem units_classified_by_ancestors (f : SourceFile) (root : Tree) :
    let units := root.unitSites f.language
    (∃ ds, walkFrom f.language f.source [.enter none root] .empty = some (ds, .empty) ∧
      List.Forall₂ (fun u d => d.place = u.1.place ∧ ∀ c, f.chunkOf d = .ok c →
        f.IsClassifiedAs u c) units ds) ∧
    ∀ chunks, f.extract root = .ok chunks →
      List.Forall₂ (fun u c => c.span.first = siteRow u + 1 ∧ f.IsClassifiedAs u c)
        (firstByKey siteRow units)
        chunks := by
  intro units
  constructor
  · refine ⟨_, walkFrom_root root, ?_⟩
    rw [definitionsIn_root, List.forall₂_map_right_iff, List.forall₂_same]
    intro u _
    exact ⟨place_defineIn _ _ _ _, fun c => isClassifiedAs_of_chunkOf⟩
  · intro chunks h
    have hrows : (Place.startRow ∘ Definition.place) ∘
        (fun u : Site × ChunkKind => u.1.definition f.language f.source u.2) = siteRow :=
      funext fun u => startRow_definition f.language f.source u
    rw [extract_eq, definitionsIn_root, ← map_firstByKey, hrows,
      List.mapM_map, mapM_eq_ok] at h
    refine h.imp fun u c hc => ⟨?_, isClassifiedAs_of_chunkOf hc⟩
    rw [(chunkOf_isUnit hc).first_eq, startRow_definition]

/-- A class on the row of the function around it, with a function on the next row. -/
def nestedTree : Tree :=
  ⟨"module", ⟨0, 0⟩, ⟨1, 15⟩, none,
    [⟨"function_definition", ⟨0, 0⟩, ⟨1, 15⟩, none,
      [⟨"identifier", ⟨0, 4⟩, ⟨0, 5⟩, some "name", []⟩,
        ⟨"class_definition", ⟨0, 9⟩, ⟨1, 15⟩, none,
          [⟨"identifier", ⟨0, 15⟩, ⟨0, 16⟩, some "name", []⟩,
            ⟨"function_definition", ⟨1, 2⟩, ⟨1, 15⟩, none,
              [⟨"identifier", ⟨1, 6⟩, ⟨1, 7⟩, some "name", []⟩]⟩]⟩]⟩]⟩

/-- The class makes no chunk, and still the function inside it is a method of the class. -/
theorem nestedTree_classified_by_ancestors :
    let f : SourceFile := ⟨"a.py", .python, .ofString "def f(): class C:\n  def m(): pass"⟩
    ∃ chunks, f.extract nestedTree = .ok chunks ∧
      chunks.map (fun c => (c.name, c.kind, c.parentClass)) =
        [("f", .function, none), ("m", .method, some "C")] ∧
      List.Forall₂ (fun u c => c.span.first = siteRow u + 1 ∧ f.IsClassifiedAs u c)
        (firstByKey siteRow (nestedTree.unitSites .python)) chunks := by
  intro f
  have hfound :
      (f.extract nestedTree).toOption.map (fun chunks => chunks.map fun c =>
        (c.name, c.kind, c.parentClass)) =
        some [("f", .function, none), ("m", .method, some "C")] := by decide +kernel
  cases h : f.extract nestedTree with
  | error e => simp [h, Except.toOption] at hfound
  | ok chunks =>
      simp only [h, Except.toOption, Option.map_some, Option.some.injEq] at hfound
      exact ⟨chunks, rfl, hfound, (units_classified_by_ancestors f nestedTree).2 chunks h⟩

end CodeRetrieval.SourceFile
