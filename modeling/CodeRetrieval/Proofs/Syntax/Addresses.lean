import CodeRetrieval.Proofs.Syntax.Descent
import Mathlib.Data.List.Lex

/-!
# Addresses of nodes

A node of a tree is addressed by the way down to it, on which each number says which
child to take. Going through the nodes each before its children meets the addresses in
lexicographic order, where a node comes before what stands below it and what stands
below a child before what stands below a later one.
-/

namespace CodeRetrieval.Syntax.Tree

/-- The node at an address, if the way does not leave the tree. -/
def at? (t : Tree) : List ℕ → Option Tree
  | [] => some t
  | i :: address => t.children[i]?.bind fun c => c.at? address

@[simp] theorem at?_nil (t : Tree) : t.at? [] = some t := rfl

theorem at?_cons_eq_some_iff {t n : Tree} {i : ℕ} {address : List ℕ} :
    t.at? (i :: address) = some n ↔ ∃ c, t.children[i]? = some c ∧
      c.at? address = some n := by
  rw [at?, Option.bind_eq_some_iff]

mutual

/-- The nodes of a tree with their addresses, each node before its children. -/
def addressed : Tree → List (List ℕ × Tree)
  | ⟨type, start, stop, field, children⟩ =>
    ([], ⟨type, start, stop, field, children⟩) :: addressedAll 0 children

def addressedAll (i : ℕ) : List Tree → List (List ℕ × Tree)
  | [] => []
  | t :: ts => (addressed t).map (fun n => (i :: n.1, n.2)) ++ addressedAll (i + 1) ts

end

/-! ## Nodes -/

mutual

theorem map_snd_addressed : ∀ t : Tree, (addressed t).map Prod.snd = t.preorder
  | ⟨type, start, stop, field, children⟩ => by
    rw [addressed, preorder, List.map_cons, map_snd_addressedAll 0 children]

theorem map_snd_addressedAll (i : ℕ) :
    ∀ ts : List Tree, (addressedAll i ts).map Prod.snd = preorderAll ts
  | [] => rfl
  | t :: ts => by
    rw [addressedAll, preorderAll, List.map_append, map_snd_addressedAll (i + 1) ts,
      List.map_map, ← map_snd_addressed t]
    rfl

end

/-! ## Addresses -/

mutual

theorem mem_addressed_iff {n : Tree} {address : List ℕ} :
    ∀ t : Tree, (address, n) ∈ addressed t ↔ t.at? address = some n
  | ⟨type, start, stop, field, children⟩ => by
    rw [addressed, List.mem_cons]
    cases address with
    | nil =>
        have hno : ([], n) ∉ addressedAll 0 children := by
          rw [mem_addressedAll_iff 0 children]
          simp
        simp [hno, eq_comm]
    | cons i address =>
        rw [mem_addressedAll_iff 0 children, at?_cons_eq_some_iff]
        simp

theorem mem_addressedAll_iff {n : Tree} {address : List ℕ} (first : ℕ) :
    ∀ ts : List Tree, (address, n) ∈ addressedAll first ts ↔
      ∃ i rest c, address = (first + i) :: rest ∧ ts[i]? = some c ∧ c.at? rest = some n
  | [] => by simp [addressedAll]
  | t :: ts => by
    rw [addressedAll, List.mem_append, mem_addressedAll_iff (first + 1) ts, List.mem_map]
    constructor
    · rintro (⟨⟨rest, m⟩, hmem, heq⟩ | ⟨i, rest, c, rfl, hc, hn⟩)
      · obtain ⟨rfl, rfl⟩ := Prod.mk.inj heq
        exact ⟨0, rest, t, rfl, rfl, (mem_addressed_iff t).mp hmem⟩
      · exact ⟨i + 1, rest, c, by rw [Nat.add_right_comm, Nat.add_assoc], hc, hn⟩
    · rintro ⟨i, rest, c, rfl, hc, hn⟩
      cases i with
      | zero =>
          obtain rfl := Option.some.inj hc
          exact .inl ⟨(rest, n), (mem_addressed_iff t).mpr hn, rfl⟩
      | succ i => exact .inr ⟨i, rest, c, by rw [Nat.add_right_comm, Nat.add_assoc], hc, hn⟩

end

mutual

theorem pairwise_addressed : ∀ t : Tree, (addressed t).Pairwise fun m n => m.1 < n.1
  | ⟨type, start, stop, field, children⟩ => by
    rw [addressed, List.pairwise_cons]
    refine ⟨?_, pairwise_addressedAll 0 children⟩
    rintro ⟨address, n⟩ hmem
    obtain ⟨i, rest, -, rfl, -⟩ := (mem_addressedAll_iff 0 children).mp hmem
    exact List.nil_lt_cons _ _

theorem pairwise_addressedAll (i : ℕ) :
    ∀ ts : List Tree, (addressedAll i ts).Pairwise fun m n => m.1 < n.1
  | [] => List.Pairwise.nil
  | t :: ts => by
    rw [addressedAll, List.pairwise_append]
    refine ⟨?_, pairwise_addressedAll (i + 1) ts, ?_⟩
    · rw [List.pairwise_map]
      exact (pairwise_addressed t).imp fun h => List.cons_lt_cons_iff.mpr (.inr ⟨rfl, h⟩)
    · rintro m hm ⟨address, n⟩ hn
      obtain ⟨k, -, rfl⟩ := List.mem_map.mp hm
      obtain ⟨j, rest, -, rfl, -⟩ := (mem_addressedAll_iff (i + 1) ts).mp hn
      exact List.cons_lt_cons_iff.mpr (.inl (by omega))

end

/-! ## Below a node -/

def addressedBelow (t : Tree) : List (List ℕ × Tree) :=
  addressedAll 0 t.children

theorem map_snd_addressedBelow (t : Tree) : t.addressedBelow.map Prod.snd = t.descendants :=
  map_snd_addressedAll 0 t.children

theorem pairwise_addressedBelow (t : Tree) :
    t.addressedBelow.Pairwise fun m n => m.1 < n.1 :=
  pairwise_addressedAll 0 t.children

theorem mem_addressedBelow_iff {t n : Tree} {address : List ℕ} :
    (address, n) ∈ t.addressedBelow ↔ address ≠ [] ∧ t.at? address = some n := by
  rw [addressedBelow, mem_addressedAll_iff]
  constructor
  · rintro ⟨i, rest, c, rfl, hc, hn⟩
    rw [Nat.zero_add]
    exact ⟨List.cons_ne_nil i rest, at?_cons_eq_some_iff.mpr ⟨c, hc, hn⟩⟩
  · rintro ⟨hne, hn⟩
    obtain ⟨i, rest, rfl⟩ := List.exists_cons_of_ne_nil hne
    obtain ⟨c, hc, hn⟩ := at?_cons_eq_some_iff.mp hn
    exact ⟨i, rest, c, by rw [Nat.zero_add], hc, hn⟩

end CodeRetrieval.Syntax.Tree
