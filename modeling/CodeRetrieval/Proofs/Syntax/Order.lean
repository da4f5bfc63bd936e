import CodeRetrieval.Proofs.Syntax.Ancestors

/-!
# Nodes in text order

In text order a node comes behind its parent, and only nodes below the parent stand
between the two. So all ancestors of a node come before it, and what comes before a node
but not before its parent lies below the parent.
-/

namespace CodeRetrieval.Syntax

namespace Tree

mutual

theorem map_place_sites (path : List Tree) :
    ∀ t : Tree, (t.sites path).map Site.place = t.places path.head?
  | ⟨type, start, stop, field, children⟩ => by
    rw [sites, places, List.map_cons, map_place_sitesAll]
    rfl

theorem map_place_sitesAll (path : List Tree) :
    ∀ ts : List Tree, (sitesAll path ts).map Site.place = placesAll path.head? ts
  | [] => rfl
  | t :: ts => by
    rw [sitesAll, placesAll, List.map_append, map_place_sites path t,
      map_place_sitesAll path ts]

end

theorem map_node_sites (path : List Tree) (t : Tree) :
    (t.sites path).map Site.node = t.preorder := by
  rw [← map_node_places path.head? t, ← map_place_sites path t, List.map_map]
  rfl

end Tree

/-- Before a site stands its parent, and between them stand only sites below the parent. -/
def Site.FollowsParent (before : List Site) (s : Site) : Prop :=
  ∃ parent path above between after, s.ancestors = parent :: path ∧
    s.node ∈ parent.children ∧
    before = above ++ ⟨path, parent⟩ :: between ∧
    Tree.sitesAll (parent :: path) parent.children = between ++ s :: after

theorem Site.FollowsParent.append_left {before : List Site} {s : Site}
    (h : s.FollowsParent before) (front : List Site) :
    s.FollowsParent (front ++ before) := by
  obtain ⟨parent, path, above, between, after, hancestors, hchild, rfl, hbelow⟩ := h
  exact ⟨parent, path, front ++ above, between, after, hancestors, hchild, by simp, hbelow⟩

mutual

/-- A site of a tree is that of its root or follows its parent. -/
theorem followsParent_of_sites (path : List Tree) :
    ∀ (t : Tree) {before after : List Site} {s : Site}, t.sites path =
      before ++ s :: after →
      before = [] ∧ s = ⟨path, t⟩ ∨ s.FollowsParent before
  | ⟨type, start, stop, field, children⟩, before, after, s, h => by
    rw [Tree.sites] at h
    cases before with
    | nil => exact .inl ⟨rfl, (List.cons.inj h).1.symm⟩
    | cons root before =>
        obtain ⟨rfl, hchildren⟩ := List.cons.inj h
        rcases followsParent_of_sitesAll _ children hchildren with
          ⟨hancestors, hchild⟩ | hbelow
        · exact .inr ⟨_, path, [], before, after, hancestors, hchild, rfl, hchildren⟩
        · exact .inr (hbelow.append_left [_])

theorem followsParent_of_sitesAll (path : List Tree) :
    ∀ (ts : List Tree) {before after : List Site} {s : Site}, Tree.sitesAll path ts =
      before ++ s :: after →
      (s.ancestors = path ∧ s.node ∈ ts) ∨ s.FollowsParent before
  | [], before, after, s, h => by
    rw [Tree.sitesAll] at h
    simp at h
  | t :: ts, before, after, s, h => by
    rw [Tree.sitesAll] at h
    rcases List.append_eq_append_iff.mp h with ⟨between, rfl,
      hrest⟩ | ⟨between, hfirst, hrest⟩
    · rcases followsParent_of_sitesAll path ts hrest with ⟨hancestors, hmem⟩ | hbelow
      · exact .inl ⟨hancestors, List.mem_cons_of_mem t hmem⟩
      · exact .inr (hbelow.append_left _)
    · cases between with
      | nil =>
          -- the site is the first one of the other trees
          have hrest : Tree.sitesAll path ts = [] ++ s :: after := hrest.symm
          rcases followsParent_of_sitesAll path ts hrest with ⟨hancestors, hmem⟩ | hbelow
          · exact .inl ⟨hancestors, List.mem_cons_of_mem t hmem⟩
          · exact .inr (by simpa using hbelow.append_left before)
      | cons s' between =>
          obtain ⟨rfl, -⟩ := List.cons.inj hrest
          rcases followsParent_of_sites path t hfirst with ⟨-, rfl⟩ | hbelow
          · exact .inl ⟨rfl, List.mem_cons_self⟩
          · exact .inr hbelow

end

theorem mem_of_mem_above {root : Tree} {before after : List Site} {s : Site}
    (h : root.sites [] = before ++ s :: after) {a : Site}
    (ha : a ∈ s.above) : a ∈ before := by
  rcases followsParent_of_sites [] root h with ⟨-, rfl⟩ | ⟨parent, path, above, between, _,
    hancestors, -, hbefore, -⟩
  · cases ha
  · rw [Site.above, hancestors, Site.onPath, List.mem_cons] at ha
    rcases ha with rfl | ha
    · rw [hbefore]
      exact List.mem_append_right above List.mem_cons_self
    · -- an ancestor of the parent comes before the parent
      have hparent : root.sites [] =
          above ++ ⟨path, parent⟩ :: (between ++ s :: after) := by
        rw [h, hbefore]
        simp
      have := mem_of_mem_above hparent ha
      rw [hbefore]
      exact List.mem_append_left _ this
termination_by before.length
decreasing_by
  rw [hbefore, List.length_append, List.length_cons]
  omega

end CodeRetrieval.Syntax
