import CodeRetrieval.Proofs.Data.Sorting
import CodeRetrieval.Proofs.Workspace.Tree
import Mathlib.Data.List.Lex
import Mathlib.Data.Prod.Lex
import Mathlib.Data.String.Basic

/-!
# The walk through a tree

A walk visits the files of a directory in the order of their names, and then its
subdirectories in the order of theirs. The order of paths by which a tour is sorted is
that of the walk. So the tour of a tree is its walk without the files that are passed
over, in whatever order the directories of the tree are listed.
-/

namespace CodeRetrieval.Workspace

/-! ## The order of paths -/

def marked : List String → List (Bool ×ₗ String)
  | [] => []
  | name :: names => toLex (!names.isEmpty, name) :: marked names

theorem marked_injective : Function.Injective marked := by
  intro p
  induction p with
  | nil =>
      intro q h
      cases q with
      | nil => rfl
      | cons b s => cases h
  | cons a r ih =>
      intro q h
      cases q with
      | nil => cases h
      | cons b s =>
          obtain ⟨hname, hnames⟩ := List.cons.inj h
          rw [ih hnames, (Prod.mk.inj (toLex.injective hname)).2]

theorem cons_le_cons_iff {α : Type} [LinearOrder α] {a b : α} {r s : List α} :
    a :: r ≤ b :: s ↔ a < b ∨ a = b ∧ r ≤ s := by
  rw [le_iff_lt_or_eq, List.cons_lt_cons_iff, List.cons.injEq, le_iff_lt_or_eq (a := r)]
  tauto

theorem exists_cons_of_longer {r s : List String} (hshort : r = [] → s = [] → False)
    (hfirst : ∀ d t, r = [] → s = d :: t → False) : ∃ c r', r = c :: r' := by
  cases r with
  | nil =>
      cases s with
      | nil => exact (hshort rfl rfl).elim
      | cons d t => exact (hfirst d t rfl rfl).elim
  | cons c r => exact ⟨c, r, rfl⟩

/-- The order of visits is the lexicographic order of the marked paths. -/
theorem visitedBefore_iff (p q : List String) :
    visitedBefore p q = true ↔ marked p ≤ marked q := by
  fun_induction visitedBefore p q with
  | case1 q => exact iff_of_true rfl (le_of_not_gt (List.not_lt_nil (marked q)))
  | case2 a r => exact iff_of_false Bool.false_ne_true (not_le_of_gt (List.nil_lt_cons _ _))
  | case3 a b =>
      rw [decide_eq_true_eq, le_iff_lt_or_eq]
      simp [marked, cons_le_cons_iff, Prod.Lex.toLex_lt_toLex]
  | case4 a b c r => simp [marked, cons_le_cons_iff, Prod.Lex.toLex_lt_toLex]
  | case5 a b c r => simp [marked, cons_le_cons_iff, Prod.Lex.toLex_lt_toLex]
  | case6 r a s hshort hfirst hsecond ih =>
      obtain ⟨c, r, rfl⟩ := exists_cons_of_longer hshort hfirst
      obtain ⟨d, s, rfl⟩ := List.exists_cons_of_ne_nil (hsecond c r rfl)
      rw [ih]
      simp [marked, cons_le_cons_iff]
  | case7 a r b s hshort hfirst hsecond hne =>
      obtain ⟨c, r, rfl⟩ := exists_cons_of_longer hshort hfirst
      obtain ⟨d, s, rfl⟩ := List.exists_cons_of_ne_nil (hsecond c r rfl)
      rw [decide_eq_true_eq, le_iff_lt_or_eq]
      simp [marked, cons_le_cons_iff, Prod.Lex.toLex_lt_toLex, hne]

theorem visitedBefore_trans (p q r : List String) (hpq : visitedBefore p q = true)
    (hqr : visitedBefore q r = true) :
    visitedBefore p r = true := by
  rw [visitedBefore_iff] at *
  exact hpq.trans hqr

theorem visitedBefore_total (p q : List String) :
    (visitedBefore p q || visitedBefore q p) = true := by
  rw [Bool.or_eq_true, visitedBefore_iff, visitedBefore_iff]
  exact le_total (marked p) (marked q)

theorem visitedBefore_antisymm {p q : List String} (hpq : visitedBefore p q = true)
    (hqp : visitedBefore q p = true) :
    p = q := by
  rw [visitedBefore_iff] at hpq hqp
  exact marked_injective (le_antisymm hpq hqp)

theorem visitedBefore_append (path : List String) {p q : List String}
    (hp : p ≠ []) (hq : q ≠ []) :
    visitedBefore (path ++ p) (path ++ q) = visitedBefore p q := by
  induction path with
  | nil => rfl
  | cons name path ih =>
      obtain ⟨a, r, hr⟩ :=
        List.exists_cons_of_ne_nil (List.append_ne_nil_of_right_ne_nil path hp)
      obtain ⟨b, s, hs⟩ :=
        List.exists_cons_of_ne_nil (List.append_ne_nil_of_right_ne_nil path hq)
      rw [← ih, List.cons_append, List.cons_append, hr, hs]
      simp [visitedBefore]

/-! ## The walk -/

/-- Lists with names, put together in the order of the names. -/
def byName {α : Type} (named : List (String × List α)) : List α :=
  ((named.mergeSort fun a b => decide (a.1 ≤ b.1)).map Prod.snd).flatten

def Entry.visit (path : List String) : Entry → List Visit
  | .file octets => [⟨path, some octets⟩]
  | .unreadable => [⟨path, none⟩]
  | _ => []

def filesOf (path : List String) (entries : List (String × Entry)) :
    List (String × List Visit) :=
  entries.map fun e => (e.1, e.2.visit (path ++ [e.1]))

mutual

/-- The walk through an entry that is a directory: first its files in the order of their
names, then the walks through its subdirectories in the order of theirs. -/
def Entry.walk (path : List String) : Entry → List Visit
  | .directory entries => byName (filesOf path entries) ++ byName (walksOf path entries)
  | _ => []

def walksOf (path : List String) : List (String × Entry) → List (String × List Visit)
  | [] => []
  | (name, e) :: entries => (name, e.walk (path ++ [name])) :: walksOf path entries

end

def walk (entries : List (String × Entry)) : List Visit :=
  (Entry.directory entries).walk []

variable {entries entries' : List (String × Entry)} {e : Entry} {v : Visit}
  {path : List String}

theorem byName_perm {α : Type} (named : List (String × List α)) :
    (byName named).Perm (named.map Prod.snd).flatten :=
  ((List.mergeSort_perm named _).map Prod.snd).flatten

mutual

theorem Entry.walk_perm :
    ∀ (path : List String) (e : Entry), (e.visit path ++ e.walk path).Perm (e.visits path)
  | _, .file _ => .refl _
  | _, .unreadable => .refl _
  | _, .link _ => .refl _
  | path, .directory entries => by
    show (byName (filesOf path entries) ++ byName (walksOf path entries)).Perm
      (visitsBelow path entries)
    exact ((byName_perm _).append (byName_perm _)).trans (walksOf_perm path entries)

theorem walksOf_perm : ∀ (path : List String) (entries : List (String × Entry)),
    (((filesOf path entries).map Prod.snd).flatten ++
      ((walksOf path entries).map Prod.snd).flatten).Perm
      (visitsBelow path entries)
  | _, [] => .refl _
  | path, (name, e) :: entries => by
    have hfirst := Entry.walk_perm (path ++ [name]) e
    have hrest := walksOf_perm path entries
    show ((e.visit (path ++ [name]) ++ ((filesOf path entries).map Prod.snd).flatten) ++
      (e.walk (path ++ [name]) ++ ((walksOf path entries).map Prod.snd).flatten)).Perm
        (e.visits (path ++ [name]) ++ visitsBelow path entries)
    refine List.Perm.trans ?_ (hfirst.append hrest)
    rw [List.append_assoc, List.append_assoc]
    exact (List.perm_append_comm_assoc _ _ _).append_left _

end

theorem walk_perm (entries : List (String × Entry)) :
    (walk entries).Perm (visitsBelow [] entries) :=
  Entry.walk_perm [] (.directory entries)

theorem mem_walk_iff :
    v ∈ walk entries ↔ (Entry.directory entries).HasFile v.path v.octets := by
  rw [(walk_perm entries).mem_iff, mem_visitsBelow_iff]
  constructor
  · rintro ⟨names, hpath, hfile⟩
    rwa [hpath, List.nil_append]
  · intro hfile
    exact ⟨v.path, rfl, hfile⟩

/-! ## The walk is sorted -/

theorem path_of_mem_visit (hv : v ∈ e.visit path) : v.path = path := by
  cases e with
  | file octets =>
      obtain rfl := List.mem_singleton.mp hv
      rfl
  | unreadable =>
      obtain rfl := List.mem_singleton.mp hv
      rfl
  | directory entries => cases hv
  | link entries => cases hv

theorem exists_path_of_mem_walk (hv : v ∈ e.walk path) :
    ∃ name names, v.path = path ++ name :: names := by
  have hvisit : v ∈ e.visits path :=
    (Entry.walk_perm path e).subset (List.mem_append_right _ hv)
  cases e with
  | directory entries =>
      obtain ⟨name, names, hpath, -⟩ := exists_name_of_mem_visitsBelow hvisit
      exact ⟨name, names, hpath⟩
  | file octets => cases hv
  | unreadable => cases hv
  | link entries => cases hv

theorem exists_of_mem_byName {α : Type} {named : List (String × List α)} {a : α}
    (ha : a ∈ byName named) :
    ∃ x ∈ named, a ∈ x.2 := by
  obtain ⟨xs, hxs, ha⟩ := List.mem_flatten.mp ((byName_perm named).mem_iff.mp ha)
  obtain ⟨x, hx, rfl⟩ := List.mem_map.mp hxs
  exact ⟨x, hx, ha⟩

/-- Sorted lists are sorted together if their names are, and names put their values in
order. -/
theorem pairwise_byName {α : Type} {r : α → α → Prop} {named : List (String × List α)}
    (hnames : (named.map Prod.fst).Nodup) (hsorted : ∀ x ∈ named, x.2.Pairwise r)
    (hordered : ∀ x ∈ named, ∀ y ∈ named, x.1 < y.1 → ∀ a ∈ x.2, ∀ b ∈ y.2, r a b) :
    (byName named).Pairwise r := by
  have hperm := List.mergeSort_perm named fun x y => decide (x.1 ≤ y.1)
  have hle : (named.mergeSort fun x y => decide (x.1 ≤ y.1)).Pairwise fun x y =>
      x.1 ≤ y.1 :=
    pairwise_mergeSort_key Prod.fst named
  have hne : (named.mergeSort fun x y => decide (x.1 ≤ y.1)).Pairwise fun x y =>
      x.1 ≠ y.1 :=
    List.pairwise_map.mp ((hperm.map Prod.fst).nodup_iff.mpr hnames)
  unfold byName
  rw [List.pairwise_flatten]
  constructor
  · intro xs hxs
    obtain ⟨x, hx, rfl⟩ := List.mem_map.mp hxs
    exact hsorted x (hperm.mem_iff.mp hx)
  · rw [List.pairwise_map]
    refine (hle.and hne).imp_of_mem fun {x y} hx hy h => ?_
    exact hordered x (hperm.mem_iff.mp hx) y (hperm.mem_iff.mp hy) (lt_of_le_of_ne h.1 h.2)

theorem map_fst_filesOf (path : List String) (entries : List (String × Entry)) :
    (filesOf path entries).map Prod.fst = entries.map Prod.fst := by
  rw [filesOf, List.map_map]
  rfl

theorem walksOf_eq (path : List String) (entries : List (String × Entry)) :
    walksOf path entries = entries.map fun e => (e.1, e.2.walk (path ++ [e.1])) := by
  induction entries with
  | nil => rfl
  | cons first entries ih => rw [walksOf, ih, List.map_cons]

theorem pairwise_byName_filesOf (h : IsTree entries) :
    (byName (filesOf path entries)).Pairwise fun v w =>
      visitedBefore v.path w.path = true := by
  apply pairwise_byName
  · rw [map_fst_filesOf]
    exact h.nodup
  · intro x hx
    obtain ⟨⟨name, e⟩, -, rfl⟩ := List.mem_map.mp hx
    cases e with
    | file octets => exact List.pairwise_singleton _ _
    | unreadable => exact List.pairwise_singleton _ _
    | directory entries => exact List.Pairwise.nil
    | link entries => exact List.Pairwise.nil
  · intro x hx y hy hlt v hv w hw
    obtain ⟨⟨a, d⟩, -, rfl⟩ := List.mem_map.mp hx
    obtain ⟨⟨b, e⟩, -, rfl⟩ := List.mem_map.mp hy
    rw [path_of_mem_visit hv, path_of_mem_visit hw,
      visitedBefore_append path (by simp) (by simp), visitedBefore, decide_eq_true_eq]
    exact hlt.le

theorem pairwise_byName_walksOf (h : IsTree entries)
    (hsorted : ∀ x ∈ walksOf path entries, x.2.Pairwise fun v w =>
    visitedBefore v.path w.path = true) :
    (byName (walksOf path entries)).Pairwise fun v w =>
      visitedBefore v.path w.path = true := by
  refine pairwise_byName ?_ hsorted fun x hx y hy hlt v hv w hw => ?_
  · rw [walksOf_eq, List.map_map]
    exact h.nodup
  · rw [walksOf_eq] at hx hy
    obtain ⟨⟨a, d⟩, -, rfl⟩ := List.mem_map.mp hx
    obtain ⟨⟨b, e⟩, -, rfl⟩ := List.mem_map.mp hy
    obtain ⟨c, r, hvpath⟩ := exists_path_of_mem_walk hv
    obtain ⟨d, s, hwpath⟩ := exists_path_of_mem_walk hw
    have hne : a ≠ b := hlt.ne
    rw [hvpath, hwpath, List.append_assoc, List.append_assoc,
      visitedBefore_append path (by simp) (by simp)]
    simp [visitedBefore, hne, hlt.le]

/-- The files of a directory come before what is below its subdirectories. -/
theorem visitedBefore_of_mem_byName {w : Visit} (hv : v ∈ byName (filesOf path entries))
    (hw : w ∈ byName (walksOf path entries)) : visitedBefore v.path w.path = true := by
  obtain ⟨x, hx, hv⟩ := exists_of_mem_byName hv
  obtain ⟨y, hy, hw⟩ := exists_of_mem_byName hw
  rw [walksOf_eq] at hy
  obtain ⟨⟨a, d⟩, -, rfl⟩ := List.mem_map.mp hx
  obtain ⟨⟨b, e⟩, -, rfl⟩ := List.mem_map.mp hy
  obtain ⟨c, r, hwpath⟩ := exists_path_of_mem_walk hw
  rw [path_of_mem_visit hv, hwpath, List.append_assoc,
    visitedBefore_append path (by simp) (by simp)]
  rfl

mutual

theorem Entry.IsTree.pairwise_walk : ∀ (path : List String) {e : Entry}, e.IsTree →
    (e.walk path).Pairwise fun v w => visitedBefore v.path w.path = true
  | _, .file _, _ => List.Pairwise.nil
  | _, .unreadable, _ => List.Pairwise.nil
  | _, .link _, _ => List.Pairwise.nil
  | path, .directory entries, h => by
    have htree : Workspace.IsTree entries := h
    show (byName (filesOf path entries) ++ byName (walksOf path entries)).Pairwise _
    rw [List.pairwise_append]
    refine ⟨pairwise_byName_filesOf htree, ?_, fun v hv w hw =>
      visitedBefore_of_mem_byName hv hw⟩
    exact pairwise_byName_walksOf htree (IsTree.pairwise_walksOf path htree)

theorem IsTree.pairwise_walksOf :
    ∀ (path : List String) {entries : List (String × Entry)}, IsTree entries →
    ∀ x ∈ walksOf path entries, x.2.Pairwise fun v w => visitedBefore v.path w.path = true
  | _, [], _ => by rintro x ⟨⟩
  | path, (name, e) :: entries, h => by
    obtain ⟨-, -, -, he, hentries⟩ := h
    intro x hx
    rcases List.mem_cons.mp hx with rfl | hx
    · exact Entry.IsTree.pairwise_walk (path ++ [name]) he
    · exact IsTree.pairwise_walksOf path hentries x hx

end

/-! ## Tours -/

/-- Visits to a tree are sorted alike in whatever order they are given. -/
theorem IsTree.mergeSort_visits_eq (h : IsTree entries) {visits others : List Visit}
    (hvisits : visits ⊆ visitsBelow [] entries) (hperm : visits.Perm others) :
    (visits.mergeSort fun v w => visitedBefore v.path w.path) =
      others.mergeSort fun v w => visitedBefore v.path w.path := by
  refine mergeSort_eq_of_perm (fun u v w => visitedBefore_trans u.path v.path w.path)
    (fun v w => visitedBefore_total v.path w.path) (fun v hv w hw hvw hwv => ?_) hperm
  exact List.inj_on_of_nodup_map (h.nodup_paths []) (hvisits hv) (hvisits hw)
    (visitedBefore_antisymm hvw hwv)

/-- The tour of a tree is its walk without the files below directories that are passed
over. -/
theorem tour_eq_filter_walk (h : IsTree entries) :
    tour entries = (walk entries).filter fun v => !isSkipped v.path := by
  have hsorted : ((walk entries).filter fun v => !isSkipped v.path).Pairwise
      fun v w => visitedBefore v.path w.path = true :=
    (Entry.IsTree.pairwise_walk [] (e := .directory entries) h).filter _
  unfold tour
  rw [← List.mergeSort_of_pairwise hsorted]
  exact h.mergeSort_visits_eq (List.filter_subset_self _)
    ((walk_perm entries).symm.filter _)

theorem Reordered.tour_eq (h : Reordered entries entries') (htree : IsTree entries) :
    tour entries = tour entries' :=
  htree.mergeSort_visits_eq (List.filter_subset_self _) ((h.visitsBelow_perm []).filter _)

end CodeRetrieval.Workspace
