import CodeRetrieval.Proofs.Data.Distinct
import CodeRetrieval.Proofs.Syntax.Addresses
import CodeRetrieval.Syntax.Callee
import Mathlib.Logic.Relation
import Mathlib.Order.Bounds.Defs

/-!
# Which names are called, and in what order

A call has a name if going from its callee to the member's name, again and again, ends
at an identifier. The names called inside a node are those of the calls below it, each
at its first place in the order of addresses.
-/

namespace CodeRetrieval.Syntax

/-! ## The name of a call -/

def IsCalleeField (type field : String) : Prop :=
  (type = "call" ∨ type = "call_expression") ∧ field = "function" ∨
    type = "new_expression" ∧ field = "constructor"

def IsMemberField (type field : String) : Prop :=
  type = "attribute" ∧ field = "attribute" ∨ type = "member_expression" ∧
    field = "property" ∨
    (type = "selector_expression" ∨ type = "field_expression") ∧ field = "field" ∨
    type = "scoped_identifier" ∧ field = "name"

def IsNameType (type : String) : Prop :=
  type = "identifier" ∨ type = "type_identifier" ∨ type = "property_identifier" ∨
    type = "field_identifier"

/-- The expression names a member, and this node is the member's name. -/
def NamesMember (t member : Tree) : Prop :=
  ∃ field, IsMemberField t.type field ∧ t.child? field = some member

/-- Following the names of members ends at this identifier. -/
def EndsIn (t name : Tree) : Prop :=
  Relation.ReflTransGen NamesMember t name ∧ IsNameType name.type

def IsCallOf (source : Source) (call : Tree) (name : String) : Prop :=
  ∃ field callee identifier, IsCalleeField call.type field ∧
    call.child? field = some callee ∧
    EndsIn callee identifier ∧ source.text identifier = name

theorem lookup_calleeFields_eq_some_iff {type field : String} :
    calleeFields.lookup type = some field ↔ IsCalleeField type field := by
  rw [lookup_eq_some_iff_mem (by decide)]
  simp [calleeFields, IsCalleeField, or_and_right, or_assoc]

theorem lookup_memberFields_eq_some_iff {type field : String} :
    memberFields.lookup type = some field ↔ IsMemberField type field := by
  rw [lookup_eq_some_iff_mem (by decide)]
  simp [memberFields, IsMemberField, or_and_right, or_assoc]

theorem contains_nameTypes_iff {type : String} :
    nameTypes.contains type = true ↔ IsNameType type := by
  simp [nameTypes, IsNameType]

theorem not_isMemberField_of_isNameType {type field : String} (h : IsNameType type) :
    ¬ IsMemberField type field := by
  unfold IsNameType at h
  unfold IsMemberField
  rcases h with rfl | rfl | rfl | rfl
  all_goals simp

theorem endsIn_of_isNameType {t name : Tree} (h : IsNameType t.type) :
    EndsIn t name ↔ name = t := by
  constructor
  · rintro ⟨hsteps, -⟩
    rcases hsteps.cases_head with heq | ⟨member, ⟨field, hfield, -⟩, -⟩
    · exact heq.symm
    · exact absurd hfield (not_isMemberField_of_isNameType h)
  · rintro rfl
    exact ⟨.refl, h⟩

theorem endsIn_of_isMemberField {t name : Tree} {field : String}
    (h : IsMemberField t.type field) :
    EndsIn t name ↔ ∃ member, t.child? field = some member ∧ EndsIn member name := by
  constructor
  · rintro ⟨hsteps, hname⟩
    rcases hsteps.cases_head with rfl | ⟨member, ⟨field', hfield', hchild⟩, hrest⟩
    · exact absurd h (not_isMemberField_of_isNameType hname)
    · have hsame : field' = field := Option.some.inj
        ((lookup_memberFields_eq_some_iff.mpr hfield').symm.trans
          (lookup_memberFields_eq_some_iff.mpr h))
      exact ⟨member, hsame ▸ hchild, hrest, hname⟩
  · rintro ⟨member, hchild, hsteps, hname⟩
    exact ⟨.head ⟨field, h, hchild⟩ hsteps, hname⟩

theorem not_endsIn_of_other {t name : Tree} (hname : ¬ IsNameType t.type)
    (hmember : ∀ field, ¬ IsMemberField t.type field) : ¬ EndsIn t name := by
  rintro ⟨hsteps, hend⟩
  rcases hsteps.cases_head with rfl | ⟨member, ⟨field, hfield, -⟩, -⟩
  · exact hname hend
  · exact hmember field hfield

theorem memberName?_of_lookup {t : Tree} {field : String}
    (hname : ¬ nameTypes.contains t.type = true)
    (hfield : memberFields.lookup t.type = some field) :
    memberName? t = (t.child? field).bind memberName? := by
  rw [memberName?, if_neg hname, hfield]
  dsimp only
  split
  · rename_i hchild
    rw [hchild]
    rfl
  · rename_i member hchild
    rw [hchild]
    rfl

theorem memberName?_eq_some_iff {t name : Tree} :
    memberName? t = some name ↔ EndsIn t name := by
  induction t using memberName?.induct with
  | case1 t hname =>
      rw [memberName?, if_pos hname, endsIn_of_isNameType (contains_nameTypes_iff.mp hname),
        Option.some.injEq, eq_comm]
  | case2 t hname hfield =>
      have hother : ∀ field, ¬ IsMemberField t.type field := by
        intro field h
        rw [← lookup_memberFields_eq_some_iff, hfield] at h
        cases h
      rw [memberName?, if_neg hname, hfield]
      simp [not_endsIn_of_other (mt contains_nameTypes_iff.mpr hname) hother]
  | case3 t hname field hfield hchild =>
      rw [memberName?_of_lookup hname hfield,
        endsIn_of_isMemberField (lookup_memberFields_eq_some_iff.mp hfield), hchild]
      simp
  | case4 t hname field hfield member hchild _ ih =>
      rw [memberName?_of_lookup hname hfield,
        endsIn_of_isMemberField (lookup_memberFields_eq_some_iff.mp hfield), hchild]
      simpa using ih

theorem calleeName?_eq_some_iff {source : Source} {t : Tree} {name : String} :
    calleeName? source t = some name ↔ IsCallOf source t name := by
  simp only [calleeName?, IsCallOf, Option.bind_eq_some_iff, Option.pure_def,
    Option.some.injEq, bind, lookup_calleeFields_eq_some_iff, memberName?_eq_some_iff]
  grind

/-! ## The names called inside a node -/

variable {source : Source} {t : Tree} {name : String}

/-- The name is called inside the node, not empty, by the call at the given address. -/
structure CallsAt (source : Source) (t : Tree) (name : String)
    (address : List ℕ) : Prop where
  below : address ≠ []
  named : name ≠ ""
  exists_call : ∃ call, t.at? address = some call ∧ IsCallOf source call name

/-- The calls inside a node that have a name, with their addresses. -/
def addressedCalls (source : Source) (t : Tree) : List (List ℕ × String) :=
  t.addressedBelow.filterMap fun n =>
      ((calleeName? source n.2).filter fun name => !name.isEmpty).map fun name =>
    (n.1, name)

theorem mem_addressedCalls_iff {address : List ℕ} :
    (address, name) ∈ addressedCalls source t ↔ CallsAt source t name address := by
  unfold addressedCalls
  rw [List.mem_filterMap]
  constructor
  · rintro ⟨⟨address', call⟩, hmem, hcall⟩
    obtain ⟨name', hname, heq⟩ := Option.map_eq_some_iff.mp hcall
    obtain ⟨rfl, rfl⟩ := Prod.mk.inj heq
    obtain ⟨hname, hne⟩ := Option.filter_eq_some_iff.mp hname
    obtain ⟨hbelow, hat⟩ := Tree.mem_addressedBelow_iff.mp hmem
    exact ⟨hbelow, by simpa using hne, call, hat, calleeName?_eq_some_iff.mp hname⟩
  · rintro ⟨hbelow, hne, call, hat, hcall⟩
    refine ⟨(address, call), Tree.mem_addressedBelow_iff.mpr ⟨hbelow, hat⟩, ?_⟩
    rw [calleeName?_eq_some_iff.mpr hcall, Option.filter_some, if_pos (by simpa using hne)]
    rfl

theorem map_snd_addressedCalls (source : Source) (t : Tree) :
    (addressedCalls source t).map Prod.snd = calleeNames source t.descendants := by
  rw [calleeNames, ← Tree.map_snd_addressedBelow, List.filterMap_map, List.filter_filterMap,
    addressedCalls, List.map_filterMap]
  apply List.filterMap_congr
  intro n _
  simp [Option.map_map, Function.comp_def]

theorem pairwise_addressedCalls (source : Source) (t : Tree) :
    (addressedCalls source t).Pairwise fun m n => m.1 < n.1 := by
  refine List.Pairwise.filterMap _ ?_ t.pairwise_addressedBelow
  intro m n hlt m' hm n' hn
  obtain ⟨-, -, rfl⟩ := Option.map_eq_some_iff.mp hm
  obtain ⟨-, -, rfl⟩ := Option.map_eq_some_iff.mp hn
  exact hlt

theorem calledNames_eq (source : Source) (t : Tree) :
    calledNames source t =
      (firstByKey Prod.snd (addressedCalls source t)).map Prod.snd := by
  rw [map_firstByKey_self, map_snd_addressedCalls, calledNames_eq_eraseDups]

theorem isLeast_of_mem_firstByKey {address : List ℕ}
    (h : (address, name) ∈ firstByKey Prod.snd (addressedCalls source t)) :
    IsLeast {a | CallsAt source t name a} address := by
  -- what stands before in the list calls other names, and what stands behind has a
  -- greater address
  obtain ⟨before, after, hsplit, hbefore⟩ := mem_firstByKey.mp h
  have hordered := pairwise_addressedCalls source t
  rw [hsplit, List.pairwise_append, List.pairwise_cons] at hordered
  refine ⟨mem_addressedCalls_iff.mp (mem_of_mem_firstByKey h), ?_⟩
  intro a ha
  have hmem : (a, name) ∈ addressedCalls source t := mem_addressedCalls_iff.mpr ha
  rw [hsplit, List.mem_append, List.mem_cons] at hmem
  rcases hmem with hmem | heq | hmem
  · exact absurd rfl (hbefore (a, name) hmem)
  · exact le_of_eq (Prod.mk.inj heq).1.symm
  · exact le_of_lt (hordered.2.1.1 _ hmem)

theorem mem_calledNames_iff :
    name ∈ calledNames source t ↔ ∃ address, CallsAt source t name address := by
  have hmem : name ∈ calledNames source t ↔
      name ∈ (addressedCalls source t).map Prod.snd := by
    rw [map_snd_addressedCalls, calledNames_eq_eraseDups, List.mem_eraseDups]
  rw [hmem, List.mem_map]
  constructor
  · rintro ⟨⟨address, name⟩, hcall, rfl⟩
    exact ⟨address, mem_addressedCalls_iff.mp hcall⟩
  · rintro ⟨address, hcall⟩
    exact ⟨(address, name), mem_addressedCalls_iff.mpr hcall, rfl⟩

/-- The names called inside a node are listed once each, exactly those of the calls
below it that have a name, in the order in which nodes that call them first come. -/
theorem calledNames_lists_callees (source : Source) (t : Tree) :
    (calledNames source t).Nodup ∧
      (∀ name, name ∈ calledNames source t ↔ ∃ address, CallsAt source t name address) ∧
      ∃ addresses : List (List ℕ), addresses.Pairwise (· < ·) ∧
        List.Forall₂ (fun address name =>
          IsLeast {a | CallsAt source t name a} address) addresses
          (calledNames source t) := by
  refine ⟨?_, fun name => mem_calledNames_iff,
    (firstByKey Prod.snd (addressedCalls source t)).map Prod.fst, ?_, ?_⟩
  · rw [calledNames_eq]
    exact nodup_map_firstByKey Prod.snd _
  · rw [List.pairwise_map]
    exact (pairwise_addressedCalls source t).sublist (firstByKey_sublist _)
  · rw [calledNames_eq, List.forall₂_map_left_iff,
      List.forall₂_map_right_iff, List.forall₂_same]
    rintro ⟨address, name⟩ hmem
    exact isLeast_of_mem_firstByKey hmem

end CodeRetrieval.Syntax
