import CodeRetrieval.Chunk.Basic
import CodeRetrieval.Data.Basic
import CodeRetrieval.Data.Table
import CodeRetrieval.Syntax.Definition

/-!
# Call graph

Which chunks call which. A chunk calls names, and a name stands for every piece of code
that has it, so that one call may lead to several chunks. The tables of a graph are
filled in one pass over the chunks, in which only the first chunk of each identifier
counts. The chunks reached from one are found by a search with a queue, the nearest
first and each chunk once.
-/

namespace CodeRetrieval

structure CallGraph where
  byId : Table Chunk
  /-- Where each chunk stands in the list that the graph is made of. -/
  order : Table Nat
  /-- The names that a chunk calls, for each chunk that calls any. -/
  callEdges : Table (List String)
  /-- The chunks that call a name, as often as they call it. -/
  callerIds : Table (List String)
  /-- The chunks that a name stands for. -/
  definerIds : Table (List String)

namespace CallGraph

def empty : CallGraph :=
  ⟨[], [], [], [], []⟩

/-- The chunk is what its name stands for: code with a name of its own. -/
def isDefinition (c : Chunk) : Bool :=
  c.isCode && !c.name.isEmpty && c.name != Syntax.anonymous

/-- The graph with one more chunk, unless there is one with its identifier. -/
def add (g : CallGraph) (c : Chunk) (place : Nat) : CallGraph :=
  if (g.byId.lookup c.id).isSome then g
  else
    { byId := g.byId.set c.id c
      order := g.order.set c.id place
      callEdges := if c.calls.isEmpty then g.callEdges else g.callEdges.set c.id c.calls
      callerIds := c.calls.foldl (fun t name => t.push name c.id) g.callerIds
      definerIds := if isDefinition c then g.definerIds.push c.name c.id else g.definerIds }

def ofChunks (chunks : List Chunk) : CallGraph :=
  chunks.zipIdx.foldl (fun g p => g.add p.1 p.2) empty

def chunks (g : CallGraph) : List Chunk :=
  g.byId.map Prod.snd

def get? (g : CallGraph) (id : String) : Option Chunk :=
  g.byId.lookup id

def callerIdsOf (g : CallGraph) (name : String) : List String :=
  (g.callerIds.lookup name).getD []

def definerIdsOf (g : CallGraph) (name : String) : List String :=
  (g.definerIds.lookup name).getD []

/-- The chunks that a name stands for, in order. -/
def definitions (g : CallGraph) (name : String) : List Chunk :=
  (g.definerIdsOf name).filterMap g.get?

/-- The chunks that call a name, in order, as often as they call it. -/
def callers (g : CallGraph) (name : String) : List Chunk :=
  (g.callerIdsOf name).filterMap g.get?

/-! ## Searching -/

/-- The chunks that a search has met, and those of them that it has still to visit, each
with the number of calls that led to it. -/
structure Search where
  visited : List String
  queue : List (String × Nat)

/-- Meets a chunk: it goes to the end of the queue unless it has been met before. -/
def Search.meet (distance : Nat) (s : Search) (id : String) : Search :=
  if s.visited.contains id then s else ⟨s.visited ++ [id], s.queue ++ [(id, distance)]⟩

/-- The chunks that a chunk calls, by call and then in order. -/
def calledIds (g : CallGraph) (id : String) : List String :=
  ((g.callEdges.lookup id).getD []).flatMap g.definerIdsOf

/-- The chunks that a search may meet yet, if it has met the given ones. -/
def unmet (g : CallGraph) (visited : List String) : List String :=
  (g.definerIds.flatMap Prod.snd).filter fun id => !visited.contains id

/-- What a search has still to do. -/
def work (g : CallGraph) (s : Search) : Nat :=
  (g.unmet s.visited).length + s.queue.length

theorem length_unmet_concat_lt {g : CallGraph} {visited : List String} {id : String}
    (h : id ∈ g.unmet visited) :
    (g.unmet (visited ++ [id])).length < (g.unmet visited).length := by
  have hmet : g.unmet (visited ++ [id]) = (g.unmet visited).filter fun i => i != id := by
    unfold unmet
    rw [List.filter_filter]
    apply List.filter_congr
    intro i _
    rw [Bool.eq_iff_iff]
    simp [and_comm]
  rw [hmet, List.length_filter_lt_length_iff_exists]
  exact ⟨id, h, by simp⟩

theorem work_meet_le {g : CallGraph} {id : String}
    (hid : id ∈ g.definerIds.flatMap Prod.snd) (distance : Nat) (s : Search) :
    g.work (s.meet distance id) ≤ g.work s := by
  unfold Search.meet
  split
  · exact Nat.le_refl _
  · rename_i hnew
    have hmem : id ∈ g.unmet s.visited := List.mem_filter.mpr ⟨hid, by simpa using hnew⟩
    have hfewer := length_unmet_concat_lt hmem
    simp only [work, List.length_append, List.length_singleton]
    omega

theorem mem_definers_of_mem_calledIds {g : CallGraph} {id called : String}
    (h : called ∈ g.calledIds id) : called ∈ g.definerIds.flatMap Prod.snd := by
  obtain ⟨name, -, h⟩ := List.mem_flatMap.mp h
  unfold definerIdsOf at h
  cases hids : g.definerIds.lookup name with
  | none =>
      rw [hids] at h
      cases h
  | some ids =>
      rw [hids] at h
      obtain ⟨before, after, hsplit, -⟩ := List.lookup_eq_some_iff.mp hids
      exact List.mem_flatMap.mpr ⟨(name, ids), by rw [hsplit]; simp, h⟩

theorem work_foldl_meet_le {g : CallGraph} {ids : List String} (distance : Nat)
    (hids : ∀ id ∈ ids, id ∈ g.definerIds.flatMap Prod.snd) (s : Search) :
    g.work (ids.foldl (Search.meet distance) s) ≤ g.work s := by
  induction ids generalizing s with
  | nil => exact Nat.le_refl _
  | cons id ids ih =>
      have hrest :=
        ih (fun i hi => hids i (List.mem_cons_of_mem id hi)) (s.meet distance id)
      exact Nat.le_trans hrest (work_meet_le (hids id List.mem_cons_self) distance s)

/-- The chunks that the search visits from now on. Those at distance `depth` lead no
farther, and the chunk that it started from, at distance zero, is left out. -/
def searchFrom (g : CallGraph) (depth : Nat) : Search → List Chunk
  | ⟨_, []⟩ => []
  | ⟨visited, (id, distance) :: queue⟩ =>
    let here := if distance = 0 then [] else (g.get? id).toList
    let s : Search := ⟨visited, queue⟩
    if depth ≤ distance then here ++ g.searchFrom depth s
    else here ++ g.searchFrom depth ((g.calledIds id).foldl (Search.meet (distance + 1)) s)
termination_by s => g.work s
decreasing_by
  · simp [work]
  · have hmet : ∀ called ∈ g.calledIds id, called ∈ g.definerIds.flatMap Prod.snd :=
      fun _ => mem_definers_of_mem_calledIds
    have hle := work_foldl_meet_le (distance + 1) hmet ⟨visited, queue⟩
    exact Nat.lt_of_le_of_lt hle (by simp [work])

/-- The chunks reached from the chunk with the given identifier by at most the given
number of calls, the nearest first. -/
def related (g : CallGraph) (id : String) (depth : Int) : List Chunk :=
  if depth ≤ 0 || (g.get? id).isNone then []
  else g.searchFrom depth.toNat ⟨[id], [(id, 0)]⟩

def defaultDepth : Int := 3

/-! ## Figures -/

structure Figures where
  chunks : Nat
  /-- The chunks that call anything. -/
  calling : Nat
  /-- The names that stand for some chunk. -/
  names : Nat
  calls : Nat

def figures (g : CallGraph) : Figures :=
  { chunks := g.byId.length
    calling := g.callEdges.length
    names := g.definerIds.length
    calls := g.callEdges.foldr (fun edges n => edges.2.length + n) 0 }

def Figures.fields (f : Figures) : List (String × Data) :=
  [("total_chunks", .int f.chunks), ("chunks_with_calls", .int f.calling),
   ("unique_names", .int f.names), ("total_call_edges", .int f.calls)]

end CallGraph

end CodeRetrieval
