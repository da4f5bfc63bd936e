import CodeRetrieval.Proofs.Chunk.Classification
import CodeRetrieval.Proofs.Syntax.Order

/-!
# Which units make chunks, and in what order

A unit is left out of the chunks of a tree only for one that comes before it in text
order and starts on the same row. So every row on which a unit starts has a chunk, and
the chunks come in text order. Where decorators do not let a unit start above one that
comes before it, their first lines ascend.
-/

namespace CodeRetrieval

open Syntax

namespace Syntax

/-- In text order nodes start on rows that never descend. -/
def Tree.StartsInOrder (root : Tree) : Prop :=
  root.preorder.Pairwise fun a b => a.start.row ≤ b.start.row

/-- Where a unit is a child of a node that holds decorators, the first unit anywhere
below the node is such a child. -/
def Tree.LeadsWithDecorated (language : Language) (root : Tree) : Prop :=
  ∀ s ∈ root.sites [], s.node.type = "decorated_definition" →
    (∃ c ∈ s.node.children, (kindOf? language c.type).isSome = true) →
    ∀ first, (Tree.sitesAll (s.node :: s.ancestors) s.node.children).find?
      (Site.isMapped language) = some first →
      first.ancestors = s.node :: s.ancestors

namespace Site

def startRow (s : Site) : Nat :=
  s.place.startRow

theorem startRow_root (t : Tree) : startRow ⟨[], t⟩ = t.start.row := rfl

theorem startRow_of_decorated {s : Site} {parent : Tree} {path : List Tree}
    (hancestors : s.ancestors = parent :: path)
    (h : parent.type = "decorated_definition") : s.startRow = parent.start.row := by
  simp [startRow, place, Place.startRow, hancestors, h]

theorem startRow_of_not_decorated {s : Site} {parent : Tree} {path : List Tree}
    (hancestors : s.ancestors = parent :: path) (h : parent.type ≠ "decorated_definition") :
    s.startRow = s.node.start.row := by
  simp [startRow, place, Place.startRow, hancestors, h]

end Site

section

variable {language : Language} {root : Tree} {before after : List Site} {s : Site}

theorem row_le_of_mem_before (horder : root.StartsInOrder)
    (h : root.sites [] = before ++ s :: after) {a : Site} (ha : a ∈ before) :
    a.node.start.row ≤ s.node.start.row := by
  rw [Tree.StartsInOrder, ← Tree.map_node_sites [], List.pairwise_map, h] at horder
  exact (List.pairwise_append.mp horder).2.2 a ha s List.mem_cons_self

theorem startRow_le (horder : root.StartsInOrder)
    (h : root.sites [] = before ++ s :: after) :
    s.startRow ≤ s.node.start.row := by
  rcases followsParent_of_sites [] root h with ⟨-, rfl⟩ | ⟨parent, path, above, between, _,
    hancestors, -, hbefore, -⟩
  · exact Nat.le_of_eq (Site.startRow_root root)
  · by_cases hdecorated : parent.type = "decorated_definition"
    · rw [Site.startRow_of_decorated hancestors hdecorated]
      exact row_le_of_mem_before horder h (a := ⟨path, parent⟩) (by simp [hbefore])
    · exact Nat.le_of_eq (Site.startRow_of_not_decorated hancestors hdecorated)

theorem startRow_le_of_mem_before (horder : root.StartsInOrder)
    (h : root.sites [] = before ++ s :: after) {a : Site} (ha : a ∈ before) :
    a.startRow ≤ s.node.start.row := by
  obtain ⟨front, rest, rfl⟩ := List.append_of_mem ha
  have hsplit : root.sites [] = front ++ a :: (rest ++ s :: after) := by
    rw [h, List.append_assoc, List.cons_append]
  exact Nat.le_trans (startRow_le horder hsplit) (row_le_of_mem_before horder h ha)

/-- A unit that is the first on its row starts below all units before it. -/
theorem startRow_lt_of_first (horder : root.StartsInOrder)
    (hleads : root.LeadsWithDecorated language) (h : root.sites [] = before ++ s :: after)
    (hmapped : s.isMapped language = true)
    (hfirst : ∀ a ∈ before, a.isMapped language = true → a.startRow ≠ s.startRow) {a : Site}
    (ha : a ∈ before) (hunit : a.isMapped language = true) : a.startRow < s.startRow := by
  refine Nat.lt_of_le_of_ne ?_ (hfirst a ha hunit)
  rcases followsParent_of_sites [] root h with
    ⟨rfl, -⟩ | ⟨parent, path, above, between, others, hancestors, hmem, hbefore, hbelow⟩
  · cases ha
  by_cases hdecorated : parent.type = "decorated_definition"
  · have hrow : s.startRow = parent.start.row :=
      Site.startRow_of_decorated hancestors hdecorated
    have hparent : root.sites [] = above ++ ⟨path, parent⟩ :: (between ++ s :: after) := by
      rw [h, hbefore, List.append_assoc, List.cons_append]
    rw [hbefore, List.mem_append, List.mem_cons] at ha
    rw [hrow]
    rcases ha with ha | rfl | ha
    · exact startRow_le_of_mem_before horder hparent ha
    · exact startRow_le horder hparent
    · -- `a` stands below the parent, so the first unit there is a child of it that
      -- has taken the row of `s`
      exfalso
      obtain ⟨first, hfound⟩ :=
        Option.isSome_iff_exists.mp (List.find?_isSome.mpr ⟨a, ha, hunit⟩)
      have hchild : first.ancestors = parent :: path := by
        exact hleads ⟨path, parent⟩ (by simp [hparent]) hdecorated ⟨s.node,
          hmem, hmapped⟩ first
          (by simp [hbelow, hfound])
      have hsame : first.startRow = s.startRow := by
        rw [hrow, Site.startRow_of_decorated hchild hdecorated]
      have hmem : first ∈ before := by
        rw [hbefore]
        exact List.mem_append_right
          _ (List.mem_cons_of_mem _ (List.mem_of_find?_eq_some hfound))
      exact hfirst first hmem (List.find?_some hfound) hsame
  · rw [Site.startRow_of_not_decorated hancestors hdecorated]
    exact startRow_le_of_mem_before horder h ha

end

end Syntax

namespace SourceFile

/-! ## The list of units -/

theorem withKind?_eq_some {language : Language} {s : Site} {u : Site × ChunkKind} :
    s.withKind? language = some u ↔ u.1 = s ∧ s.kind? language = some u.2 := by
  rw [Site.withKind?, Option.map_eq_some_iff]
  constructor
  · rintro ⟨kind, hkind, rfl⟩
    exact ⟨rfl, hkind⟩
  · rintro ⟨rfl, hkind⟩
    exact ⟨u.2, hkind, rfl⟩

section

variable {language : Language} {root : Tree} {before after : List (Site × ChunkKind)}
  {u : Site × ChunkKind}

/-- What comes before a unit are the units among the sites before it. -/
theorem exists_sites_split (h : root.unitSites language = before ++ u :: after) :
    ∃ front rest, root.sites [] = front ++ u.1 :: rest ∧
      before = front.filterMap (Site.withKind? language) ∧
      u.1.isMapped language = true := by
  obtain ⟨front, rest, hsites, rfl, hrest⟩ := List.filterMap_eq_append_iff.mp h
  obtain ⟨skipped, s, rest', rfl, hskipped, hs, -⟩ := List.filterMap_eq_cons_iff.mp hrest
  obtain ⟨rfl, hkind⟩ := withKind?_eq_some.mp hs
  refine ⟨front ++ skipped, rest', by simp [hsites], ?_, by simp [Site.isMapped, hkind]⟩
  rw [List.filterMap_append, List.filterMap_eq_nil_iff.mpr hskipped, List.append_nil]

theorem exists_mem_of_isMapped {sites : List Site} {s : Site} (hs : s ∈ sites)
    (hmapped : s.isMapped language = true) :
    ∃ v ∈ sites.filterMap (Site.withKind? language), v.1 = s := by
  obtain ⟨kind, hkind⟩ := Option.isSome_iff_exists.mp hmapped
  exact ⟨(s, kind), List.mem_filterMap.mpr ⟨s, hs, withKind?_eq_some.mpr ⟨rfl, hkind⟩⟩, rfl⟩

theorem startRow_ne_of_mem_above (h : IsFirstOfKey siteRow (root.unitSites language) u)
    {a : Site} (ha : a ∈ u.1.above) (hunit : a.isMapped language = true) :
    a.startRow ≠ siteRow u := by
  obtain ⟨before, after, hsplit, hfirst⟩ := h
  obtain ⟨front, rest, hsites, rfl, -⟩ := exists_sites_split hsplit
  obtain ⟨v, hv, rfl⟩ := exists_mem_of_isMapped (mem_of_mem_above hsites ha) hunit
  exact hfirst v hv

theorem siteRow_lt_of_first (horder : root.StartsInOrder)
    (hleads : root.LeadsWithDecorated language)
    (h : root.unitSites language = before ++ u :: after)
    (hfirst : ∀ v ∈ before, siteRow v ≠ siteRow u) {v : Site × ChunkKind}
    (hv : v ∈ before) : siteRow v < siteRow u := by
  obtain ⟨front, rest, hsites, rfl, hmapped⟩ := exists_sites_split h
  obtain ⟨s, hs, hsv⟩ := List.mem_filterMap.mp hv
  obtain ⟨rfl, hkind⟩ := withKind?_eq_some.mp hsv
  refine startRow_lt_of_first horder hleads hsites hmapped (fun a ha hunit => ?_) hs
    (by simp [Site.isMapped, hkind])
  obtain ⟨w, hw, rfl⟩ := exists_mem_of_isMapped ha hunit
  exact hfirst w hw

end

/-! ## The chunks of a tree -/

section

variable {f : SourceFile} {root : Tree} {chunks : List Chunk}

/-- The units that are the first on their rows make the chunks, one each. -/
theorem forall₂_chunkOf_of_extract_eq_ok (h : f.extract root = .ok chunks) :
    List.Forall₂ (fun u c => f.chunkOf (u.1.definition f.language f.source u.2) = .ok c ∧
      c.span.first = siteRow u + 1)
      (firstByKey siteRow (root.unitSites f.language)) chunks := by
  have hrows : (Place.startRow ∘ Definition.place) ∘
      (fun u : Site × ChunkKind => u.1.definition f.language f.source u.2) = siteRow :=
    funext fun u => startRow_definition f.language f.source u
  rw [extract_eq, definitionsIn_root, ← map_firstByKey, hrows,
    List.mapM_map, mapM_eq_ok] at h
  refine h.imp fun u c hc => ⟨hc, ?_⟩
  rw [(chunkOf_isUnit hc).first_eq, startRow_definition]

theorem map_first_of_extract_eq_ok (h : f.extract root = .ok chunks) :
    chunks.map (fun c => c.span.first) =
      (firstByKey siteRow (root.unitSites f.language)).map fun u => siteRow u + 1 :=
  (map_eq_of_forall₂ (forall₂_chunkOf_of_extract_eq_ok h) fun _ _ hc => hc.2.symm).symm

/-- No unit is lost but to an earlier one on the same row. The chunks of a tree are made
of some of its units, in text order, each of the first unit on its row, and no unit
around it starts there. The lines that chunks start on are those that units start on.
They ascend where nodes start in order and decorated units lead what stands below their
decorators. -/
theorem units_lost_only_to_earlier (h : f.extract root = .ok chunks) :
    let units := root.unitSites f.language
    (∃ kept : List (Site × ChunkKind), kept.Sublist units ∧
      List.Forall₂ (fun u c => f.chunkOf (u.1.definition f.language f.source u.2) = .ok c ∧
        c.span.first = siteRow u + 1) kept chunks ∧
      ∀ u ∈ kept, IsFirstOfKey siteRow units u ∧
        ∀ a ∈ u.1.above, a.isMapped f.language = true → a.startRow ≠ siteRow u) ∧
    (∀ line, (∃ c ∈ chunks, c.span.first = line) ↔ ∃ u ∈ units, siteRow u + 1 = line) ∧
    (root.StartsInOrder → root.LeadsWithDecorated f.language →
      chunks.Pairwise fun c d => c.span.first < d.span.first) := by
  intro units
  have hlines := map_first_of_extract_eq_ok h
  refine ⟨⟨firstByKey siteRow units, firstByKey_sublist units,
    forall₂_chunkOf_of_extract_eq_ok h, ?_⟩, ?_, ?_⟩
  · intro u hu
    have hfirst := mem_firstByKey.mp hu
    exact ⟨hfirst, fun a ha hunit => startRow_ne_of_mem_above hfirst ha hunit⟩
  · intro line
    rw [← List.mem_map, hlines, List.mem_map]
    constructor
    · rintro ⟨u, hu, hline⟩
      exact ⟨u, mem_of_mem_firstByKey hu, hline⟩
    · rintro ⟨u, hu, rfl⟩
      obtain ⟨first, hfirst, hrow⟩ : ∃ first ∈ firstByKey siteRow units,
          siteRow first = siteRow u :=
        exists_mem_firstByKey hu
      exact ⟨first, hfirst, by rw [hrow]⟩
  · intro horder hleads
    have hascend : (firstByKey siteRow units).Pairwise fun u v =>
        siteRow u + 1 < siteRow v + 1 :=
      pairwise_firstByKey fun before u after hsplit hfirst v hv =>
        Nat.succ_lt_succ (siteRow_lt_of_first horder hleads hsplit hfirst hv)
    rw [← List.pairwise_map (R := (· < ·)), ← hlines, List.pairwise_map] at hascend
    exact hascend

def decoratedFunction : Tree :=
  ⟨"decorated_definition", ⟨0, 0⟩, ⟨2, 15⟩, none,
    [⟨"decorator", ⟨0, 0⟩, ⟨0, 2⟩, none, []⟩,
      ⟨"function_definition", ⟨1, 0⟩, ⟨2, 15⟩, some "definition",
        [⟨"identifier", ⟨1, 4⟩, ⟨1, 5⟩, some "name", []⟩,
          ⟨"function_definition", ⟨2, 2⟩, ⟨2, 15⟩, none,
            [⟨"identifier", ⟨2, 6⟩, ⟨2, 7⟩, some "name", []⟩]⟩]⟩]⟩

/-- Behind the decorated function stands a class with a function on the row of the class. -/
def decoratedTree : Tree :=
  ⟨"module", ⟨0, 0⟩, ⟨4, 0⟩, none,
    [decoratedFunction,
      ⟨"class_definition", ⟨3, 0⟩, ⟨3, 24⟩, none,
        [⟨"identifier", ⟨3, 6⟩, ⟨3, 7⟩, some "name", []⟩,
          ⟨"function_definition", ⟨3, 9⟩, ⟨3, 24⟩, none,
            [⟨"identifier", ⟨3, 13⟩, ⟨3, 14⟩, some "name", []⟩]⟩]⟩]⟩

/-- The function on the row of the class makes no chunk, and the first lines ascend. -/
theorem decoratedTree_units_lost_only_to_earlier :
    let f : SourceFile :=
  ⟨"a.py", .python, .ofString "@d\ndef f():\n  def g(): pass\nclass C: def m(): pass\n"⟩
    decoratedTree.StartsInOrder ∧ decoratedTree.LeadsWithDecorated f.language ∧
      ∃ chunks, f.extract decoratedTree = .ok chunks ∧
        chunks.map (fun c => (c.name, c.span.first)) = [("f", 1), ("g", 3), ("C", 4)] ∧
        chunks.Pairwise fun c d => c.span.first < d.span.first := by
  intro f
  have hfound : (f.extract decoratedTree).toOption.map (fun chunks => chunks.map fun c =>
      (c.name, c.span.first)) =
      some [("f", 1), ("g", 3), ("C", 4)] := by decide +kernel
  have horder : decoratedTree.StartsInOrder := by
    unfold Tree.StartsInOrder
    decide
  have hleads : decoratedTree.LeadsWithDecorated .python := by
    intro s hs htype _ first hfirst
    have hdecorated : (decoratedTree.sites []).filter
        (fun s => s.node.type == "decorated_definition") =
        [⟨[decoratedTree], decoratedFunction⟩] := rfl
    have hmem : s ∈ (decoratedTree.sites []).filter
        (fun s => s.node.type == "decorated_definition") :=
      List.mem_filter.mpr ⟨hs, by rw [htype]; rfl⟩
    rw [hdecorated, List.mem_singleton] at hmem
    subst hmem
    obtain rfl := Option.some.inj hfirst
    rfl
  refine ⟨horder, hleads, ?_⟩
  cases h : f.extract decoratedTree with
  | error e => simp [h, Except.toOption] at hfound
  | ok chunks =>
      simp only [h, Except.toOption, Option.map_some, Option.some.injEq] at hfound
      exact ⟨chunks, rfl, hfound, (units_lost_only_to_earlier h).2.2 horder hleads⟩

end

end SourceFile

end CodeRetrieval
