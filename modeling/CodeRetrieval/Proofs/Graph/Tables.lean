import CodeRetrieval.Graph.EntryPoint
import CodeRetrieval.Proofs.Data.Table
import Mathlib.Data.List.Induction

/-!
# The tables of a call graph

After the pass over a list of chunks every table says of the chunks that count what it
is there for: where each of them stands, what it calls, which of them call a name and
which of them a name stands for. So the definitions and the callers of a name are chunks
of the list, in its order.
-/

namespace CodeRetrieval.CallGraph

/-- Of chunks with one identifier only the first counts. -/
abbrev Counts (chunks : List Chunk) (c : Chunk) : Prop :=
  IsFirstOfKey Chunk.id chunks c

abbrev counting (chunks : List Chunk) : List Chunk :=
  firstByKey Chunk.id chunks

def placeOf (chunks : List Chunk) (c : Chunk) : ℕ :=
  chunks.findIdx fun d => d.id == c.id

/-- The tables are those of the chunks. -/
structure Describes (g : CallGraph) (chunks : List Chunk) : Prop where
  byId_eq : g.byId = (counting chunks).map fun c => (c.id, c)
  lookup_order : ∀ c ∈ counting chunks, g.order.lookup c.id = some (placeOf chunks c)
  callEdges_eq : g.callEdges =
    ((counting chunks).filter fun c => !c.calls.isEmpty).map fun c => (c.id, c.calls)
  callerIdsOf_eq : ∀ name, g.callerIdsOf name =
    (counting chunks).flatMap fun c => List.replicate (c.calls.count name) c.id
  definerIdsOf_eq : ∀ name, g.definerIdsOf name =
    ((counting chunks).filter fun c => isDefinition c && c.name == name).map Chunk.id
  keys_definerIds : g.definerIds.keys =
    (((counting chunks).filter isDefinition).map Chunk.name).eraseDups

theorem describes_empty : empty.Describes [] where
  byId_eq := rfl
  lookup_order c hc := by cases hc
  callEdges_eq := rfl
  callerIdsOf_eq name := rfl
  definerIdsOf_eq name := rfl
  keys_definerIds := rfl

variable {g : CallGraph} {chunks : List Chunk} {c : Chunk}

/-! ## One more chunk -/

theorem lookup_foldl_push (names : List String) (id name : String)
    (t : Table (List String)) :
    ((names.foldl (fun t name => t.push name id) t).lookup name).getD [] =
      (t.lookup name).getD [] ++ List.replicate (names.count name) id := by
  induction names generalizing t with
  | nil => simp
  | cons first names ih =>
      rw [List.foldl_cons, ih, Table.push, Table.lookup_update, List.count_cons]
      by_cases hname : name = first
      · subst hname
        rw [if_pos rfl, if_pos (beq_self_eq_true name), List.replicate_succ]
        simp
      · rw [if_neg hname, if_neg (by simpa using Ne.symm hname), Nat.add_zero]

theorem lookup_definers_add (t : Table (List String)) (c : Chunk) (name : String) :
    ((if isDefinition c then t.push c.name c.id else t).lookup name).getD [] =
      (t.lookup name).getD [] ++
        ([c].filter fun c => isDefinition c && c.name == name).map Chunk.id := by
  by_cases hdefines : isDefinition c = true
  · rw [if_pos hdefines, Table.push, Table.lookup_update]
    by_cases hname : name = c.name
    · subst hname
      simp [hdefines]
    · rw [if_neg hname]
      simp [Ne.symm hname]
  · simp [hdefines]

theorem keys_definers_add {t : Table (List String)} {cs : List Chunk}
    (h : t.keys = ((cs.filter isDefinition).map Chunk.name).eraseDups) :
    (if isDefinition c then t.push c.name c.id else t).keys =
      ((cs.filter isDefinition).map Chunk.name ++
        ([c].filter isDefinition).map Chunk.name).eraseDups := by
  by_cases hdefines : isDefinition c = true
  · rw [if_pos hdefines, Table.push, Table.keys_update, List.filter_cons_of_pos hdefines,
      List.filter_nil, List.map_singleton, eraseDups_concat, h]
    simp only [List.mem_eraseDups]
  · rw [if_neg hdefines, List.filter_cons_of_neg hdefines, List.filter_nil, List.map_nil,
      List.append_nil, h]

theorem placeOf_append_of_mem {more : List Chunk} (h : c.id ∈ chunks.map Chunk.id) :
    placeOf (chunks ++ more) c = placeOf chunks c := by
  obtain ⟨d, hd, hid⟩ := List.mem_map.mp h
  have hfound : chunks.findIdx (fun e => e.id == c.id) < chunks.length :=
    List.findIdx_lt_length_of_exists ⟨d, hd, beq_iff_eq.mpr hid⟩
  rw [placeOf, List.findIdx_append, if_pos hfound, placeOf]

theorem placeOf_concat_of_not_mem (h : c.id ∉ chunks.map Chunk.id) :
    placeOf (chunks ++ [c]) c = chunks.length := by
  have hmissing : ¬ chunks.findIdx (fun e => e.id == c.id) < chunks.length := by
    rw [List.findIdx_lt_length]
    rintro ⟨d, hd, hid⟩
    exact h (beq_iff_eq.mp hid ▸ List.mem_map_of_mem hd)
  rw [placeOf, List.findIdx_append, if_neg hmissing]
  simp

namespace Describes

theorem keys_byId (h : g.Describes chunks) :
    g.byId.keys = (counting chunks).map Chunk.id := by
  rw [h.byId_eq, Table.keys, List.map_map]
  rfl

theorem mem_keys_byId (h : g.Describes chunks) (id : String) :
    id ∈ g.byId.keys ↔ id ∈ chunks.map Chunk.id := by
  rw [h.keys_byId, map_firstByKey_self, List.mem_eraseDups]

theorem keys_callEdges_subset (h : g.Describes chunks) {id : String}
    (hid : id ∈ g.callEdges.keys) :
    id ∈ chunks.map Chunk.id := by
  rw [h.callEdges_eq, Table.keys, List.map_map] at hid
  obtain ⟨d, hd, rfl⟩ := List.mem_map.mp hid
  exact List.mem_map_of_mem (mem_of_mem_firstByKey (List.mem_of_mem_filter hd))

/-- A chunk with a known identifier changes nothing. -/
theorem add_of_mem (h : g.Describes chunks) (place : ℕ)
    (hold : c.id ∈ chunks.map Chunk.id) :
    (g.add c place).Describes (chunks ++ [c]) := by
  have hkey : (g.byId.lookup c.id).isSome = true :=
    Table.mem_keys_iff.mp ((h.mem_keys_byId c.id).mpr hold)
  have hcounting : counting (chunks ++ [c]) = counting chunks := by
    rw [counting, firstByKey_concat, if_pos hold]
  rw [add, if_pos hkey]
  constructor <;> rw [hcounting]
  · exact h.byId_eq
  · intro d hd
    rw [placeOf_append_of_mem (List.mem_map_of_mem (mem_of_mem_firstByKey hd))]
    exact h.lookup_order d hd
  · exact h.callEdges_eq
  · exact h.callerIdsOf_eq
  · exact h.definerIdsOf_eq
  · exact h.keys_definerIds

/-- A chunk with a new identifier goes to the end of the tables. -/
theorem add_of_not_mem (h : g.Describes chunks) (hnew : c.id ∉ chunks.map Chunk.id) :
    (g.add c chunks.length).Describes (chunks ++ [c]) := by
  have hkey : ¬ (g.byId.lookup c.id).isSome = true := fun hsome =>
    hnew ((h.mem_keys_byId c.id).mp (Table.mem_keys_iff.mpr hsome))
  have hcounting : counting (chunks ++ [c]) = counting chunks ++ [c] := by
    rw [counting, firstByKey_concat, if_neg hnew]
  have hcounted : ∀ d ∈ counting chunks, d.id ∈ chunks.map Chunk.id := fun d hd =>
    List.mem_map_of_mem (mem_of_mem_firstByKey hd)
  rw [add, if_neg hkey]
  constructor
  · show g.byId.set c.id c = _
    rw [Table.set, Table.update_of_not_mem (mt (h.mem_keys_byId c.id).mp hnew), h.byId_eq,
      hcounting, List.map_append]
    rfl
  · intro d hd
    rw [hcounting, List.mem_append, List.mem_singleton] at hd
    show (g.order.set c.id chunks.length).lookup d.id = _
    rw [Table.set, Table.lookup_update]
    rcases hd with hd | rfl
    · have hother : d.id ≠ c.id := fun hsame => hnew (hsame ▸ hcounted d hd)
      rw [if_neg hother, h.lookup_order d hd, placeOf_append_of_mem (hcounted d hd)]
    · rw [if_pos rfl, placeOf_concat_of_not_mem hnew]
  · show (if c.calls.isEmpty then g.callEdges else g.callEdges.set c.id c.calls) = _
    rw [hcounting, List.filter_append, List.map_append, ← h.callEdges_eq]
    split
    · rename_i hcalls
      simp [hcalls]
    · rename_i hcalls
      rw [Table.set, Table.update_of_not_mem (mt h.keys_callEdges_subset hnew)]
      simp [hcalls]
  · intro name
    rw [hcounting, List.flatMap_append, List.flatMap_singleton, ← h.callerIdsOf_eq]
    exact lookup_foldl_push c.calls c.id name g.callerIds
  · intro name
    rw [hcounting, List.filter_append, List.map_append, ← h.definerIdsOf_eq]
    exact lookup_definers_add g.definerIds c name
  · rw [hcounting, List.filter_append, List.map_append]
    exact keys_definers_add h.keys_definerIds

end Describes

/-- After the pass the tables are those of the chunks. -/
theorem describes_ofChunks (chunks : List Chunk) : (ofChunks chunks).Describes chunks := by
  -- from the end, as the pass adds each chunk to the graph of those before it
  induction chunks using List.reverseRecOn with
  | nil => exact describes_empty
  | append_singleton chunks c ih =>
      have hpass : ofChunks (chunks ++ [c]) = (ofChunks chunks).add c chunks.length := by
        rw [ofChunks, List.zipIdx_append, List.foldl_append, Nat.zero_add]
        rfl
      rw [hpass]
      by_cases hid : c.id ∈ chunks.map Chunk.id
      · exact ih.add_of_mem chunks.length hid
      · exact ih.add_of_not_mem hid

/-! ## What the tables say -/

theorem chunks_ofChunks (chunks : List Chunk) :
    (ofChunks chunks).chunks = counting chunks := by
  rw [CallGraph.chunks, (describes_ofChunks chunks).byId_eq, List.map_map]
  exact List.map_id' (counting chunks)

theorem mem_chunks_ofChunks : c ∈ (ofChunks chunks).chunks ↔ Counts chunks c := by
  rw [chunks_ofChunks, mem_firstByKey]

theorem get?_eq_some_iff {id : String} :
    (ofChunks chunks).get? id = some c ↔ Counts chunks c ∧ c.id = id := by
  have hdescribes := describes_ofChunks chunks
  have hkeys : (ofChunks chunks).byId.keys.Nodup := by
    rw [hdescribes.keys_byId]
    exact nodup_map_firstByKey Chunk.id chunks
  rw [get?, lookup_eq_some_iff_mem hkeys, hdescribes.byId_eq, List.mem_map]
  simp only [Prod.mk.injEq, mem_firstByKey]
  constructor
  · rintro ⟨d, hd, hid, rfl⟩
    exact ⟨hd, hid⟩
  · rintro ⟨hc, hid⟩
    exact ⟨c, hc, hid, rfl⟩

theorem get?_of_counts (h : Counts chunks c) : (ofChunks chunks).get? c.id = some c :=
  get?_eq_some_iff.mpr ⟨h, rfl⟩

theorem get?_eq_none {id : String} (h : ∀ c ∈ chunks, c.id ≠ id) :
    (ofChunks chunks).get? id = none := by
  rw [Option.eq_none_iff_forall_ne_some]
  intro c hc
  obtain ⟨hcounts, hid⟩ := get?_eq_some_iff.mp hc
  exact h c (mem_of_mem_firstByKey (mem_firstByKey.mpr hcounts)) hid

theorem filterMap_get? {cs : List Chunk} (h : ∀ c ∈ cs, Counts chunks c) :
    (cs.map Chunk.id).filterMap (ofChunks chunks).get? = cs := by
  induction cs with
  | nil => rfl
  | cons c cs ih =>
      have hc := get?_of_counts (h c List.mem_cons_self)
      rw [List.map_cons, List.filterMap_cons_some hc, ih fun d hd =>
        h d (List.mem_cons_of_mem c hd)]

theorem counts_of_mem_filter {p : Chunk → Bool} (h : c ∈ (counting chunks).filter p) :
    Counts chunks c :=
  mem_firstByKey.mp (List.mem_of_mem_filter h)

theorem definitions_ofChunks (chunks : List Chunk) (name : String) :
    (ofChunks chunks).definitions name =
      (counting chunks).filter fun c => isDefinition c && c.name == name := by
  rw [definitions, (describes_ofChunks chunks).definerIdsOf_eq]
  exact filterMap_get? fun c hc => counts_of_mem_filter hc

theorem map_id_definitions (chunks : List Chunk) (name : String) :
    ((ofChunks chunks).definitions name).map Chunk.id =
      (ofChunks chunks).definerIdsOf name := by
  rw [definitions_ofChunks, (describes_ofChunks chunks).definerIdsOf_eq]

/-- The callers of a name are the chunks that count, each as often as it calls the name. -/
theorem callers_ofChunks (chunks : List Chunk) (name : String) :
    (ofChunks chunks).callers name =
      (counting chunks).flatMap fun c => List.replicate (c.calls.count name) c := by
  have hids : (ofChunks chunks).callerIdsOf name =
      ((counting chunks).flatMap fun c =>
        List.replicate (c.calls.count name) c).map Chunk.id := by
    rw [(describes_ofChunks chunks).callerIdsOf_eq, List.map_flatMap]
    simp only [List.map_replicate]
  rw [callers, hids]
  apply filterMap_get?
  intro c hc
  obtain ⟨d, hd, hc⟩ := List.mem_flatMap.mp hc
  rw [List.eq_of_mem_replicate hc]
  exact mem_firstByKey.mp hd

theorem length_callers_eq (chunks : List Chunk) (name : String) :
    ((ofChunks chunks).callers name).length = (ofChunks chunks).timesCalled name := by
  rw [timesCalled, (describes_ofChunks chunks).callerIdsOf_eq, callers_ofChunks,
    List.length_flatMap, List.length_flatMap]
  simp only [List.length_replicate]

theorem eq_of_id_eq {a b : Chunk} (ha : Counts chunks a) (hb : Counts chunks b)
    (h : a.id = b.id) : a = b :=
  List.inj_on_of_nodup_map (nodup_map_firstByKey Chunk.id chunks) (mem_firstByKey.mpr ha)
    (mem_firstByKey.mpr hb) h

theorem lookup_callEdges (h : Counts chunks c) :
    ((ofChunks chunks).callEdges.lookup c.id).getD [] = c.calls := by
  have hedges := (describes_ofChunks chunks).callEdges_eq
  have hkeys : ((ofChunks chunks).callEdges.map Prod.fst).Nodup := by
    rw [hedges, List.map_map]
    exact (nodup_map_firstByKey Chunk.id chunks).sublist (List.filter_sublist.map Chunk.id)
  cases hfound : (ofChunks chunks).callEdges.lookup c.id with
  | some names =>
      rw [lookup_eq_some_iff_mem hkeys, hedges, List.mem_map] at hfound
      obtain ⟨d, hd, hentry⟩ := hfound
      obtain ⟨hid, rfl⟩ := Prod.mk.inj hentry
      rw [eq_of_id_eq (counts_of_mem_filter hd) h hid, Option.getD_some]
  | none =>
      by_contra hcalls
      have hmem : c ∈ (counting chunks).filter fun c => !c.calls.isEmpty :=
        List.mem_filter.mpr ⟨mem_firstByKey.mpr h, by simpa using Ne.symm hcalls⟩
      have hsome := (lookup_eq_some_iff_mem hkeys).mpr (hedges ▸ List.mem_map_of_mem hmem)
      rw [hfound] at hsome
      cases hsome

/-- What a chunk calls is found by the names of its calls. -/
theorem calledIds_of_counts (h : Counts chunks c) :
    (ofChunks chunks).calledIds c.id =
      (c.calls.flatMap (ofChunks chunks).definitions).map Chunk.id := by
  rw [calledIds, lookup_callEdges h, List.map_flatMap]
  simp only [map_id_definitions]

theorem position_of_counts (h : Counts chunks c) :
    (ofChunks chunks).position c = placeOf chunks c := by
  rw [position, (describes_ofChunks chunks).lookup_order c (mem_firstByKey.mpr h),
    Option.getD_some]

end CodeRetrieval.CallGraph
