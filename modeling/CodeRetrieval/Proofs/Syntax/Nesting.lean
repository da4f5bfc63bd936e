import CodeRetrieval.Proofs.Syntax.Callee
import CodeRetrieval.Proofs.Syntax.Order

/-!
# Nodes inside nodes

What goes from a node to its children, and so on step by step, goes from each ancestor
of a site down to its node. So a node lies in the ranges of all its ancestors where each
node lies in that of its parent, and the names called inside a node are called inside
each of its ancestors.
-/

namespace CodeRetrieval.Syntax

section

variable {root : Tree} {s a : Site}

theorem node_mem_preorder (hs : s ∈ root.sites []) : s.node ∈ root.preorder := by
  rw [← Tree.map_node_sites []]
  exact List.mem_map_of_mem hs

theorem parent_of_mem_sites {node parent : Tree} {path : List Tree}
    (hs : ⟨parent :: path, node⟩ ∈ root.sites []) :
    ⟨path, parent⟩ ∈ root.sites [] ∧ node ∈ parent.children := by
  obtain ⟨before, after, hsplit⟩ := List.append_of_mem hs
  rcases followsParent_of_sites [] root hsplit with
    ⟨-, hroot⟩ | ⟨parent', path', above, between, -, hancestors, hchild, rfl, -⟩
  · cases hroot
  · obtain ⟨rfl, rfl⟩ := List.cons.inj hancestors
    exact ⟨by simp [hsplit], hchild⟩

/-- A transitive relation between nodes and their children holds between a site and all
sites above it. -/
theorem rel_of_mem_above {R : Tree → Tree → Prop}
    (htrans : ∀ {t u v}, R t u → R u v → R t v)
    (hchild : ∀ t ∈ root.preorder, ∀ c ∈ t.children, R t c) (hs : s ∈ root.sites [])
    (ha : a ∈ s.above) :
    R a.node s.node := by
  obtain ⟨ancestors, node⟩ := s
  induction ancestors generalizing node with
  | nil => cases ha
  | cons parent path ih =>
      obtain ⟨hparent, hmem⟩ := parent_of_mem_sites hs
      have hstep : R parent node := hchild parent (node_mem_preorder hparent) node hmem
      rcases List.mem_cons.mp ha with rfl | ha
      · exact hstep
      · exact htrans (ih parent hparent ha) hstep

end

/-! ## Ranges -/

/-- Places in the order of the text: by rows, and in a row by columns. -/
instance : Preorder Point where
  le p q := p.row < q.row ∨ p.row = q.row ∧ p.column ≤ q.column
  lt p q := p.row < q.row ∨ p.row = q.row ∧ p.column < q.column
  le_refl p := .inr ⟨rfl, Nat.le_refl p.column⟩
  le_trans p q r hpq hqr := by omega
  lt_iff_le_not_ge p q := by omega

namespace Point

variable {p q : Point}

theorem le_iff : p ≤ q ↔ p.row < q.row ∨ p.row = q.row ∧ p.column ≤ q.column :=
  Iff.rfl

theorem lt_iff : p < q ↔ p.row < q.row ∨ p.row = q.row ∧ p.column < q.column :=
  Iff.rfl

instance (p q : Point) : Decidable (p ≤ q) :=
  decidable_of_iff _ le_iff.symm

instance (p q : Point) : Decidable (p < q) :=
  decidable_of_iff _ lt_iff.symm

theorem row_le_of_le (h : p ≤ q) : p.row ≤ q.row := by
  rcases le_iff.mp h with h | ⟨h, -⟩
  · exact h.le
  · exact h.le

end Point

namespace Tree

/-- The second node lies in the range of the first. -/
structure Encloses (t u : Tree) : Prop where
  start_le : t.start ≤ u.start
  stop_le : u.stop ≤ t.stop

theorem Encloses.trans {t u v : Tree} (htu : t.Encloses u)
    (huv : u.Encloses v) : t.Encloses v :=
  ⟨le_trans htu.start_le huv.start_le, le_trans huv.stop_le htu.stop_le⟩

instance (t u : Tree) : Decidable (t.Encloses u) :=
  decidable_of_iff (t.start ≤ u.start ∧ u.stop ≤ t.stop) ⟨fun h => ⟨h.1, h.2⟩,
    fun h => ⟨h.1, h.2⟩⟩

def IsNested (root : Tree) : Prop :=
  ∀ t ∈ root.preorder, ∀ c ∈ t.children, t.Encloses c

def HasFullUnits (language : Language) (root : Tree) : Prop :=
  ∀ t ∈ root.preorder, (kindOf? language t.type).isSome = true → t.start < t.stop

instance (root : Tree) : Decidable root.IsNested :=
  inferInstanceAs (Decidable (∀ t ∈ root.preorder, ∀ c ∈ t.children, t.Encloses c))

instance (language : Language) (root : Tree) : Decidable (root.HasFullUnits language) :=
  inferInstanceAs (Decidable (∀ t ∈ root.preorder, (kindOf? language t.type).isSome =
    true → t.start < t.stop))

theorem IsNested.encloses {root : Tree} (h : root.IsNested) {s a : Site}
    (hs : s ∈ root.sites []) (ha : a ∈ s.above) :
    a.node.Encloses s.node :=
  rel_of_mem_above Encloses.trans h hs ha

end Tree

/-! ## Called names -/

theorem CallsAt.of_child {source : Source} {t c : Tree} {name : String} {i : ℕ}
    {address : List ℕ} (hc : t.children[i]? = some c) (h : CallsAt source c name address) :
    CallsAt source t name (i :: address) := by
  obtain ⟨call, hat, hcall⟩ := h.exists_call
  exact ⟨List.cons_ne_nil i address, h.named, call,
    Tree.at?_cons_eq_some_iff.mpr ⟨c, hc, hat⟩, hcall⟩

theorem calledNames_subset_of_mem_above {root : Tree} (source : Source) {s a : Site}
    (hs : s ∈ root.sites []) (ha : a ∈ s.above) :
    calledNames source s.node ⊆ calledNames source a.node := by
  refine rel_of_mem_above (R := fun t u => calledNames source u ⊆ calledNames source t)
    (fun htu huv => List.Subset.trans huv htu) ?_ hs ha
  intro t _ c hc name hname
  obtain ⟨i, hi⟩ := List.mem_iff_getElem?.mp hc
  obtain ⟨address, hcall⟩ := mem_calledNames_iff.mp hname
  exact mem_calledNames_iff.mpr ⟨i :: address, hcall.of_child hi⟩

end CodeRetrieval.Syntax
