import CodeRetrieval.Proofs.Chunk.Order
import CodeRetrieval.Proofs.Syntax.Nesting

/-!
# Chunks inside chunks

Where one unit stands inside another its lines are among those of the other, also where
decorators move the start of either, or a stop before the first character of a row moves
its end. So are the names that it calls.
-/

namespace CodeRetrieval

open Syntax

/-- A unit gives up its last row if it stops before the first character there and starts
above. -/
theorem Syntax.Place.endRow_cases (p : Place) :
    p.node.stop.column = 0 ∧ p.startRow < p.node.stop.row ∧ p.endRow + 1 = p.node.stop.row ∨
      ¬ (p.node.stop.column = 0 ∧ p.startRow < p.node.stop.row) ∧
        p.endRow = p.node.stop.row := by
  unfold endRow
  by_cases h : p.node.stop.column = 0 ∧ p.startRow < p.node.stop.row
  · refine .inl ⟨h.1, h.2, ?_⟩
    rw [if_pos (by simpa using h)]
    omega
  · refine .inr ⟨h, ?_⟩
    rw [if_neg (by simpa using h)]

namespace Syntax.Site

def endRow (s : Site) : Nat :=
  s.place.endRow

variable {root : Tree} {s a : Site}

theorem startRow_le_of_isNested (hnested : root.IsNested) (hs : s ∈ root.sites []) :
    s.startRow ≤ s.node.start.row := by
  obtain ⟨ancestors, node⟩ := s
  cases ancestors with
  | nil => exact Nat.le_of_eq (startRow_root node)
  | cons parent path =>
      by_cases hdecorated : parent.type = "decorated_definition"
      · rw [startRow_of_decorated rfl hdecorated]
        exact Point.row_le_of_le
          (hnested.encloses hs (a := ⟨path, parent⟩) List.mem_cons_self).start_le
      · exact Nat.le_of_eq (startRow_of_not_decorated rfl hdecorated)

theorem start_row_le_of_mem_above (hnested : root.IsNested) (hs : s ∈ root.sites [])
    (ha : a ∈ s.above) :
    a.node.start.row ≤ s.startRow := by
  obtain ⟨ancestors, node⟩ := s
  cases ancestors with
  | nil => cases ha
  | cons parent path =>
      by_cases hdecorated : parent.type = "decorated_definition"
      · rw [startRow_of_decorated rfl hdecorated]
        -- the decorators stand inside the outer nodes too
        rcases List.mem_cons.mp ha with rfl | ha
        · exact Nat.le_refl _
        · exact Point.row_le_of_le (hnested.encloses (parent_of_mem_sites hs).1 ha).start_le
      · rw [startRow_of_not_decorated rfl hdecorated]
        exact Point.row_le_of_le (hnested.encloses hs ha).start_le

theorem startRow_le_of_mem_above (hnested : root.IsNested) (hs : s ∈ root.sites [])
    (ha : a ∈ s.above) (hmem : a ∈ root.sites []) : a.startRow ≤ s.startRow :=
  Nat.le_trans (startRow_le_of_isNested hnested hmem)
    (start_row_le_of_mem_above hnested hs ha)

theorem endRow_le_of_mem_above (hnested : root.IsNested) (hs : s ∈ root.sites [])
    (ha : a ∈ s.above) (hfull : s.node.start < s.node.stop) : s.endRow ≤ a.endRow := by
  have hstop : s.place.node.stop ≤ a.place.node.stop := (hnested.encloses hs ha).stop_le
  have hstart : s.place.startRow ≤ s.place.node.start.row :=
    startRow_le_of_isNested hnested hs
  have hnonempty : s.place.node.start < s.place.node.stop := hfull
  rw [Point.le_iff] at hstop
  rw [Point.lt_iff] at hnonempty
  show s.place.endRow ≤ a.place.endRow
  rcases Place.endRow_cases s.place with ⟨-, -, hinner⟩ | ⟨hinner, hkeeps⟩
  · rcases Place.endRow_cases a.place with ⟨-, -, houter⟩ | ⟨-, houter⟩
    · omega
    · omega
  · rcases Place.endRow_cases a.place with ⟨hcolumn, -, houter⟩ | ⟨-, houter⟩
    · -- the inner unit cannot reach the row that the outer one gives up:
      -- as it is not empty it starts above that row,
      -- and would give the row up too
      omega
    · omega

end Syntax.Site

/-- The lines of one chunk are among those of another, and so are the names that it
calls. -/
structure Chunk.IsInside (c d : Chunk) : Prop where
  first_le : d.span.first ≤ c.span.first
  last_le : c.span.last ≤ d.span.last
  calls_subset : c.calls ⊆ d.calls

namespace SourceFile

theorem calls_of_chunkOf_eq_ok {f : SourceFile} {d : Definition} {c : Chunk}
    (h : f.chunkOf d = .ok c) :
    c.calls = calledNames f.source d.node := by
  simp only [chunkOf] at h
  split at h
  · obtain ⟨span, -, h⟩ := bind_eq_ok.mp h
    obtain rfl := Except.ok.inj h
    rfl
  · cases h

section

variable {f : SourceFile} {root : Tree} {u v : Site × ChunkKind} {c d : Chunk}

theorem place_definition (language : Language) (source : Source) (u : Site × ChunkKind) :
    (u.1.definition language source u.2).place = u.1.place :=
  place_defineIn _ _ _ _

theorem span_of_chunkOf_definition
    (h : f.chunkOf (u.1.definition f.language f.source u.2) = .ok c) :
    c.span.first = u.1.startRow + 1 ∧ c.span.last = u.1.endRow + 1 := by
  have hunit := chunkOf_isUnit h
  rw [place_definition] at hunit
  exact ⟨hunit.first_eq, hunit.last_eq⟩

theorem calls_of_chunkOf_definition
    (h : f.chunkOf (u.1.definition f.language f.source u.2) = .ok c) :
    c.calls = calledNames f.source u.1.node := by
  have hnode := congrArg Place.node (place_definition f.language f.source u)
  exact (calls_of_chunkOf_eq_ok h).trans (congrArg (calledNames f.source) hnode)

theorem of_mem_unitSites {language : Language} (hu : u ∈ root.unitSites language) :
    u.1 ∈ root.sites [] ∧ (kindOf? language u.1.node.type).isSome = true := by
  obtain ⟨s, hs, hkind⟩ := List.mem_filterMap.mp hu
  obtain ⟨rfl, hkind⟩ := withKind?_eq_some.mp hkind
  exact ⟨hs, Option.isSome_iff_exists.mpr ⟨u.2, hkind⟩⟩

theorem isInside_of_mem_above (hnested : root.IsNested)
    (hfull : root.HasFullUnits f.language) (hu : u ∈ root.unitSites f.language)
    (hv : v ∈ root.unitSites f.language) (habove : v.1 ∈ u.1.above)
    (hc : f.chunkOf (u.1.definition f.language f.source u.2) = .ok c)
    (hd : f.chunkOf (v.1.definition f.language f.source v.2) = .ok d) : c.IsInside d := by
  obtain ⟨hsite, hmapped⟩ := of_mem_unitSites hu
  obtain ⟨hcfirst, hclast⟩ := span_of_chunkOf_definition hc
  obtain ⟨hdfirst, hdlast⟩ := span_of_chunkOf_definition hd
  constructor
  · rw [hcfirst, hdfirst]
    exact Nat.succ_le_succ
      (Site.startRow_le_of_mem_above hnested hsite habove (of_mem_unitSites hv).1)
  · rw [hclast, hdlast]
    exact Nat.succ_le_succ
      (Site.endRow_le_of_mem_above hnested hsite habove
        (hfull _ (node_mem_preorder hsite) hmapped))
  · rw [calls_of_chunkOf_definition hc, calls_of_chunkOf_definition hd]
    exact calledNames_subset_of_mem_above f.source hsite habove

/-- Where each node lies in the range of its parent and no unit is empty, nesting of
units is nesting of chunks. Of the units that are the first on their rows, which make
the chunks of the tree, one that stands inside another makes a chunk inside that of the
other. -/
theorem nested_units_make_nested_chunks {chunks : List Chunk} (hnested : root.IsNested)
    (hfull : root.HasFullUnits f.language) (h : f.extract root = .ok chunks) :
    let units := firstByKey siteRow (root.unitSites f.language)
    List.Forall₂ (fun u c => f.chunkOf (u.1.definition f.language f.source u.2) =
      .ok c) units chunks ∧
      ∀ u c v d, (u, c) ∈ units.zip chunks → (v, d) ∈ units.zip chunks →
        v.1 ∈ u.1.above → c.IsInside d := by
  intro units
  have hmade : List.Forall₂ (fun u c => f.chunkOf (u.1.definition f.language f.source u.2) =
      .ok c) units chunks :=
    (forall₂_chunkOf_of_extract_eq_ok h).imp fun _ _ hc => hc.1
  have hunit : ∀ {u}, u ∈ units → u ∈ root.unitSites f.language := mem_of_mem_firstByKey
  obtain ⟨-, hzip⟩ := List.forall₂_iff_zip.mp hmade
  refine ⟨hmade, ?_⟩
  intro u c v d huc hvd habove
  exact isInside_of_mem_above hnested hfull (hunit (List.of_mem_zip huc).1)
    (hunit (List.of_mem_zip hvd).1) habove
    (hzip huc) (hzip hvd)

/-- A function that calls two others. It stops before the first character of the last
row. -/
def callingFunction : Tree :=
  ⟨"function_definition", ⟨2, 2⟩, ⟨3, 0⟩, some "definition",
    [⟨"identifier", ⟨2, 6⟩, ⟨2, 7⟩, some "name", []⟩,
      ⟨"call", ⟨2, 11⟩, ⟨2, 17⟩, none,
        [⟨"identifier", ⟨2, 11⟩, ⟨2, 12⟩, some "function", []⟩,
          ⟨"argument_list", ⟨2, 12⟩, ⟨2, 17⟩, some "arguments",
            [⟨"call", ⟨2, 13⟩, ⟨2, 16⟩, none,
              [⟨"identifier", ⟨2, 13⟩, ⟨2, 14⟩, some "function", []⟩]⟩]⟩]⟩]⟩

def decoratedCalling : Tree :=
  ⟨"decorated_definition", ⟨1, 2⟩, ⟨3, 0⟩, none,
   [⟨"decorator", ⟨1, 2⟩, ⟨1, 4⟩, none, []⟩, callingFunction]⟩

def classAround : Tree :=
  ⟨"class_definition", ⟨0, 0⟩, ⟨3, 0⟩, none,
   [⟨"identifier", ⟨0, 6⟩, ⟨0, 7⟩, some "name", []⟩, decoratedCalling]⟩

def moduleAround : Tree :=
  ⟨"module", ⟨0, 0⟩, ⟨3, 0⟩, none, [classAround]⟩

theorem moduleAround_nested :
    let f : SourceFile := ⟨"a.py", .python, .ofString "class A:\n  @d\n  def f(): g(h())\n"⟩
    moduleAround.IsNested ∧ moduleAround.HasFullUnits f.language ∧
      ∃ c d, f.extract moduleAround = .ok [d, c] ∧
        (d.name, d.span.first, d.span.last) = ("A", 1, 3) ∧
        (c.name, c.span.first, c.span.last, c.calls) =
          ("f", 2, 3, ["g", "h"]) ∧ c.IsInside d := by
  intro f
  have hnested : moduleAround.IsNested := by decide
  have hfull : moduleAround.HasFullUnits .python := by decide
  have hunits : firstByKey siteRow (moduleAround.unitSites .python) =
      [(⟨[moduleAround], classAround⟩, .class_),
       (⟨[decoratedCalling, classAround, moduleAround], callingFunction⟩, .function)] := rfl
  have hfound : (f.extract moduleAround).toOption.map
      (fun chunks => chunks.map fun c => (c.name, c.span.first, c.span.last, c.calls)) =
        some [("A", 1, 3, ["g", "h"]), ("f", 2, 3, ["g", "h"])] := by decide +kernel
  refine ⟨hnested, hfull, ?_⟩
  cases h : f.extract moduleAround with
  | error e => simp [h, Except.toOption] at hfound
  | ok chunks =>
      simp only [h, Except.toOption, Option.map_some, Option.some.injEq] at hfound
      obtain ⟨d, others, rfl, hd, hothers⟩ := List.map_eq_cons_iff.mp hfound
      obtain ⟨c, rest, rfl, hc, hrest⟩ := List.map_eq_cons_iff.mp hothers
      obtain rfl := List.map_eq_nil_iff.mp hrest
      have hinside : c.IsInside d := (nested_units_make_nested_chunks hnested hfull h).2
        (⟨[decoratedCalling, classAround, moduleAround], callingFunction⟩, .function) c
        (⟨[moduleAround], classAround⟩, .class_) d (by simp [f, hunits])
          (by simp [f, hunits])
        (by simp [Site.above, Site.onPath])
      simp only [Prod.mk.injEq] at hd
      exact ⟨c, d, rfl, by simp [hd], hc, hinside⟩

end

end SourceFile

end CodeRetrieval
