import CodeRetrieval.Proofs.Graph.Reachability
import Mathlib.Algebra.BigOperators.Finprod
import Mathlib.Data.Set.Card

/-!
# Names between chunks

The chunks that call a name and the chunks that the name stands for are two sides of one
relation: a chunk is one call away from another exactly when the other is among the
callers of its name and it is among the definitions of it. The figures of a graph count
this relation.
-/

namespace CodeRetrieval.CallGraph

/-- The list holds exactly the counting chunks with a property, each once and in the
order of the chunks. -/
structure ListsCounting (chunks : List Chunk) (P : Chunk → Prop)
    (listed : List Chunk) : Prop where
  mem_iff : ∀ c, c ∈ listed ↔ Counts chunks c ∧ P c
  nodup_id : (listed.map Chunk.id).Nodup
  sublist : listed.Sublist (firstByKey Chunk.id chunks)

structure Defines (c : Chunk) (name : String) : Prop where
  isCode : c.isCode = true
  name_eq : c.name = name
  name_ne_empty : name ≠ ""
  name_ne_anonymous : name ≠ "anonymous"

variable {chunks : List Chunk}

theorem listsCounting_filter {P : Chunk → Prop} {p : Chunk → Bool}
    (hp : ∀ c, p c = true ↔ P c) :
    ListsCounting chunks P ((counting chunks).filter p) where
  mem_iff c := by rw [List.mem_filter, mem_firstByKey, hp]
  nodup_id :=
    (nodup_map_firstByKey Chunk.id chunks).sublist (List.filter_sublist.map Chunk.id)
  sublist := List.filter_sublist

/-! ## Callers -/

/-- Where no chunk calls a name twice, the callers of a name are the chunks that call it. -/
theorem callers_eq_filter (hcalls : ∀ c ∈ chunks, c.calls.Nodup) (name : String) :
    (ofChunks chunks).callers name = (counting chunks).filter fun c =>
      c.calls.contains name := by
  have hcounted : ∀ c ∈ counting chunks, c.calls.Nodup := fun c hc =>
    hcalls c (mem_of_mem_firstByKey hc)
  rw [callers_ofChunks]
  generalize counting chunks = cs at hcounted
  induction cs with
  | nil => rfl
  | cons c cs ih =>
      have hrest := ih fun d hd => hcounted d (List.mem_cons_of_mem c hd)
      have hcount := (hcounted c List.mem_cons_self).count (a := name)
      rw [List.flatMap_cons, hrest, hcount, List.filter_cons]
      by_cases hname : name ∈ c.calls
      · rw [if_pos hname, if_pos (List.contains_iff_mem.mpr hname)]
        rfl
      · rw [if_neg hname, if_neg (by simpa using hname)]
        rfl

theorem listsCounting_callers (hcalls : ∀ c ∈ chunks, c.calls.Nodup) (name : String) :
    ListsCounting chunks (fun c => name ∈ c.calls) ((ofChunks chunks).callers name) := by
  rw [callers_eq_filter hcalls]
  apply listsCounting_filter
  intro c
  exact List.contains_iff_mem

def allCalls (chunks : List Chunk) : List String :=
  (counting chunks).flatMap Chunk.calls

theorem length_callers (chunks : List Chunk) (name : String) :
    ((ofChunks chunks).callers name).length = (allCalls chunks).count name := by
  rw [callers_ofChunks, List.length_flatMap, allCalls, List.count_flatMap]
  simp only [List.length_replicate]
  rfl

/-! ## Definitions -/

theorem isDefinition_iff {c : Chunk} {name : String} :
    (isDefinition c && c.name == name) = true ↔ Defines c name := by
  rw [isDefinition, Bool.and_eq_true, Bool.and_eq_true, Bool.and_eq_true, Bool.not_eq_true',
    bne_iff_ne, beq_iff_eq, String.isEmpty_eq_false_iff]
  constructor
  · rintro ⟨⟨⟨hcode, hempty⟩, hanonymous⟩, rfl⟩
    exact ⟨hcode, rfl, hempty, hanonymous⟩
  · rintro ⟨hcode, rfl, hempty, hanonymous⟩
    exact ⟨⟨⟨hcode, hempty⟩, hanonymous⟩, rfl⟩

theorem listsCounting_definitions (name : String) :
    ListsCounting chunks (fun c => Defines c name)
      ((ofChunks chunks).definitions name) := by
  rw [definitions_ofChunks]
  apply listsCounting_filter
  intro c
  exact isDefinition_iff

/-- A chunk calls another one when it is a caller of the name that the other one defines. -/
theorem calls_iff {a b : Chunk} (ha : Counts chunks a) (hb : Counts chunks b) :
    Calls chunks a b ↔ Defines b b.name ∧ b.name ∈ a.calls := by
  constructor
  · intro h
    exact ⟨⟨h.isCode, rfl, h.name_ne_empty, h.name_ne_anonymous⟩, h.name_mem⟩
  · rintro ⟨h, hname⟩
    exact ⟨ha, hb, hname, h.isCode, h.name_ne_empty, h.name_ne_anonymous⟩

theorem mem_related_one {a b : Chunk} (ha : Counts chunks a) :
    b ∈ (ofChunks chunks).related a.id 1 ↔ b ≠ a ∧ Calls chunks a b := by
  rw [mem_related ha]
  apply and_congr_right
  intro _
  constructor
  · rintro ⟨n, hn, hlimit, path⟩
    obtain rfl : n = 1 := by omega
    cases path with
    | snoc path call =>
        cases path with
        | nil => exact call
  · intro call
    exact ⟨1, Nat.le_refl 1, Int.le_refl 1, .snoc .nil call⟩

/-! ## Figures -/

theorem calls_figures (chunks : List Chunk) :
    (ofChunks chunks).figures.calls = (allCalls chunks).length := by
  show (ofChunks chunks).callEdges.foldr (fun edges n => edges.2.length + n) 0 = _
  rw [(describes_ofChunks chunks).callEdges_eq, allCalls]
  induction counting chunks with
  | nil => rfl
  | cons c cs ih =>
      rw [List.flatMap_cons, List.length_append, ← ih, List.filter_cons]
      -- a chunk that calls nothing has no entry, and would add nothing
      split
      · rfl
      · rename_i hcalls
        simp at hcalls
        simp [hcalls]

theorem support_length_callers (chunks : List Chunk) :
    (Function.support fun name => ((ofChunks chunks).callers name).length) =
      ↑(allCalls chunks).toFinset := by
  ext name
  rw [Function.mem_support, length_callers, Finset.mem_coe,
    List.mem_toFinset, ← List.count_pos_iff, Nat.pos_iff_ne_zero]

theorem calls_figures_eq_finsum (chunks : List Chunk) :
    (ofChunks chunks).figures.calls = ∑ᶠ name, ((ofChunks chunks).callers name).length := by
  have hsupport := support_length_callers chunks
  calc (ofChunks chunks).figures.calls
      = (allCalls chunks).length := calls_figures chunks
    _ = ∑ name ∈ (allCalls chunks).toFinset, (allCalls chunks).count name :=
        (List.sum_toFinset_count_eq_length _).symm
    _ = ∑ name ∈ (allCalls chunks).toFinset, ((ofChunks chunks).callers name).length := by
        simp only [length_callers]
    _ = ∑ᶠ name, ((ofChunks chunks).callers name).length :=
        (finsum_eq_sum_of_support_subset _ hsupport.le).symm

theorem setOf_definitions_ne_nil (chunks : List Chunk) :
    {name | (ofChunks chunks).definitions name ≠ []} =
      ↑(((counting chunks).filter isDefinition).map Chunk.name).toFinset := by
  ext name
  rw [Set.mem_ofPred_eq, definitions_ofChunks, Finset.mem_coe,
    List.mem_toFinset, List.mem_map]
  constructor
  · intro h
    obtain ⟨c, hc⟩ := List.exists_mem_of_ne_nil _ h
    obtain ⟨hmem, hdefines⟩ := List.mem_filter.mp hc
    rw [Bool.and_eq_true, beq_iff_eq] at hdefines
    exact ⟨c, List.mem_filter.mpr ⟨hmem, hdefines.1⟩, hdefines.2⟩
  · rintro ⟨c, hc, rfl⟩
    obtain ⟨hmem, hdefinition⟩ := List.mem_filter.mp hc
    apply List.ne_nil_of_mem (a := c)
    exact List.mem_filter.mpr ⟨hmem, by simp [hdefinition]⟩

theorem names_figures_eq_ncard (chunks : List Chunk) :
    (ofChunks chunks).figures.names =
      {name | (ofChunks chunks).definitions name ≠ []}.ncard := by
  let names := ((counting chunks).filter isDefinition).map Chunk.name
  have hkeys : (ofChunks chunks).figures.names = names.eraseDups.length := by
    rw [← (describes_ofChunks chunks).keys_definerIds, Table.keys, List.length_map]
    rfl
  have hsame : names.eraseDups.toFinset = names.toFinset := by
    ext name
    rw [List.mem_toFinset, List.mem_toFinset, List.mem_eraseDups]
  rw [hkeys, setOf_definitions_ne_nil, Set.ncard_coe_finset, ← hsame,
    List.toFinset_card_of_nodup (nodup_eraseDups names)]

/-- Callers and definitions of all names describe one relation between the chunks that
count. Where no chunk calls a name twice, the callers of a name are the chunks that call
it. Other than a chunk itself, those one call away from it are the ones whose name it is
a caller of. The figures count the callers of all names, and the names that stand for
something; both are finitely many. -/
theorem callers_and_definitions_agree (chunks : List Chunk)
    (hcalls : ∀ c ∈ chunks, c.calls.Nodup) :
    let g := ofChunks chunks
    (∀ name, ListsCounting chunks (fun c => name ∈ c.calls) (g.callers name)) ∧
    (∀ name, ListsCounting chunks (fun c => Defines c name) (g.definitions name)) ∧
    (∀ a b, Counts chunks a → Counts chunks b → a ≠ b →
      (b ∈ g.related a.id 1 ↔ b ∈ g.definitions b.name ∧ a ∈ g.callers b.name)) ∧
    (Function.support fun name => (g.callers name).length).Finite ∧
    g.figures.calls = ∑ᶠ name, (g.callers name).length ∧
    {name | g.definitions name ≠ []}.Finite ∧
    g.figures.names = {name | g.definitions name ≠ []}.ncard := by
  intro g
  refine ⟨listsCounting_callers hcalls, listsCounting_definitions, ?_, ?_,
    calls_figures_eq_finsum chunks, ?_,
    names_figures_eq_ncard chunks⟩
  · intro a b ha hb hne
    rw [mem_related_one ha, calls_iff ha hb, (listsCounting_definitions b.name).mem_iff,
      (listsCounting_callers hcalls b.name).mem_iff]
    constructor
    · rintro ⟨-, hdefines, hname⟩
      exact ⟨⟨hb, hdefines⟩, ha, hname⟩
    · rintro ⟨⟨-, hdefines⟩, -, hname⟩
      exact ⟨hne.symm, hdefines, hname⟩
  · rw [support_length_callers]
    exact Finset.finite_toSet _
  · rw [setOf_definitions_ne_nil]
    exact Finset.finite_toSet _

/-- In the diamond the last function has three callers, itself among them, and eight
calls lead to four names. -/
theorem callers_and_definitions_sampleDiamond :
    let g := ofChunks sampleDiamond
    (∀ c ∈ sampleDiamond, c.calls.Nodup) ∧
      (g.callers "k").map Chunk.name = ["g", "h", "k"] ∧
      ListsCounting sampleDiamond (fun c => "k" ∈ c.calls) (g.callers "k") ∧
      ∑ᶠ name, (g.callers name).length = 8 ∧
        {name | g.definitions name ≠ []}.ncard = 4 := by
  intro g
  have hcalls : ∀ c ∈ sampleDiamond, c.calls.Nodup := by decide
  have hcallers : (g.callers "k").map Chunk.name = ["g", "h", "k"] := by decide +kernel
  have hfigures : g.figures.calls = 8 ∧ g.figures.names = 4 := by decide +kernel
  obtain ⟨hlists, -, -, -, hsum, -, hnames⟩ :=
    callers_and_definitions_agree sampleDiamond hcalls
  exact ⟨hcalls, hcallers, hlists "k", hsum.symm.trans hfigures.1,
    hnames.symm.trans hfigures.2⟩

end CodeRetrieval.CallGraph
