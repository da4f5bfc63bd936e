import CodeRetrieval.Proofs.Graph.Tables

/-!
# The queue of a search holds layers

A search meets the chunks at one distance one after the other. While it visits them,
what they call and it has not met goes to the end of the queue. So when the last of them
has been visited the queue holds the next layer, and the search visits layer after
layer.
-/

namespace CodeRetrieval.CallGraph

def called (g : CallGraph) (c : Chunk) : List Chunk :=
  c.calls.flatMap g.definitions

/-- The chunks that a layer calls and that have not been seen, each once. -/
def nextLayer (g : CallGraph) (seen : List String) (layer : List Chunk) : List Chunk :=
  firstByKey Chunk.id ((layer.flatMap g.called).filter fun c => !seen.contains c.id)

def reachedFrom (g : CallGraph) : ℕ → List String → List Chunk → List Chunk
  | 0, _, _ => []
  | depth + 1, seen, layer =>
    let next := g.nextLayer seen layer
    next ++ g.reachedFrom depth (seen ++ next.map Chunk.id) next

def fresh (visited ids : List String) : List String :=
  (ids.filter fun id => !visited.contains id).eraseDups

/-! ## Meeting chunks -/

theorem fresh_cons_of_mem {visited : List String} {id : String} (h : id ∈ visited)
    (ids : List String) : fresh visited (id :: ids) = fresh visited ids := by
  rw [fresh, List.filter_cons_of_neg (by simpa using h), fresh]

theorem fresh_cons_of_not_mem {visited : List String} {id : String} (h : id ∉ visited)
    (ids : List String) :
    fresh visited (id :: ids) = id :: fresh (visited ++ [id]) ids := by
  rw [fresh, List.filter_cons_of_pos (by simpa using h), List.eraseDups_cons,
    List.filter_filter, fresh]
  congr 2
  apply List.filter_congr
  intro i _
  rw [Bool.eq_iff_iff]
  simp [and_comm]

/-- Each fresh identifier goes once to the end of the queue. -/
theorem foldl_meet (distance : ℕ) (ids visited : List String) (queue : List (String × ℕ)) :
    ids.foldl (Search.meet distance) ⟨visited, queue⟩ =
      ⟨visited ++ fresh visited ids,
        queue ++ (fresh visited ids).map fun id => (id, distance)⟩ := by
  induction ids generalizing visited queue with
  | nil => simp [fresh]
  | cons id ids ih =>
      rw [List.foldl_cons, Search.meet]
      by_cases hold : id ∈ visited
      · rw [if_pos (by simpa using hold), ih, fresh_cons_of_mem hold]
      · rw [if_neg (by simpa using hold), ih, fresh_cons_of_not_mem hold]
        simp

theorem fresh_append (visited as bs : List String) :
    fresh visited (as ++ bs) =
      fresh visited as ++ fresh (visited ++ fresh visited as) bs := by
  have hmet := foldl_meet 0 (as ++ bs) visited []
  rw [List.foldl_append, foldl_meet, foldl_meet] at hmet
  have hvisited := congrArg Search.visited hmet
  rw [List.append_assoc] at hvisited
  exact (List.append_cancel_left hvisited).symm

theorem map_id_nextLayer (g : CallGraph) (seen : List String) (layer : List Chunk) :
    (g.nextLayer seen layer).map Chunk.id =
      fresh seen ((layer.flatMap g.called).map Chunk.id) := by
  rw [nextLayer, map_firstByKey_self, fresh, List.filter_map]
  rfl

/-! ## Visiting a layer -/

/-- What a search finds of a layer: nothing where it starts. -/
def found (distance : ℕ) (layer : List Chunk) : List Chunk :=
  if distance = 0 then [] else layer

theorem found_append (distance : ℕ) (as bs : List Chunk) :
    found distance (as ++ bs) = found distance as ++ found distance bs := by
  unfold found
  split <;> rfl

section

variable {chunks : List Chunk} {depth distance : ℕ}

theorem searchFrom_cons {c : Chunk} (hc : Counts chunks c) (visited : List String)
    (queue : List (String × ℕ)) :
    (ofChunks chunks).searchFrom depth ⟨visited, (c.id, distance) :: queue⟩ =
      found distance [c] ++ (ofChunks chunks).searchFrom depth
        (if depth ≤ distance then ⟨visited, queue⟩
          else (((ofChunks chunks).called c).map Chunk.id).foldl
            (Search.meet (distance + 1)) ⟨visited, queue⟩) := by
  rw [searchFrom, get?_of_counts hc, calledIds_of_counts hc]
  split <;> rfl

/-- While a layer is visited, what it calls goes behind the rest of the queue. -/
theorem searchFrom_layer (hdepth : distance < depth) {layer : List Chunk}
    (hlayer : ∀ c ∈ layer, Counts chunks c) (visited : List String)
    (queue : List (String × ℕ)) :
    let met := fresh visited ((layer.flatMap (ofChunks chunks).called).map Chunk.id)
    (ofChunks chunks).searchFrom depth
        ⟨visited, layer.map (fun c => (c.id, distance)) ++ queue⟩ =
      found distance layer ++ (ofChunks chunks).searchFrom depth
        ⟨visited ++ met, queue ++ met.map fun id => (id, distance + 1)⟩ := by
  induction layer generalizing visited queue with
  | nil => simp [fresh, found]
  | cons c layer ih =>
      intro met
      have hrest := ih fun d hd => hlayer d (List.mem_cons_of_mem c hd)
      let own := fresh visited (((ofChunks chunks).called c).map Chunk.id)
      let others := (layer.flatMap (ofChunks chunks).called).map Chunk.id
      have hmet : met = own ++ fresh (visited ++ own) others := by
        rw [← fresh_append, ← List.map_append, ← List.flatMap_cons]
      rw [List.map_cons, List.cons_append, searchFrom_cons (hlayer c List.mem_cons_self),
        if_neg (Nat.not_le_of_lt hdepth), foldl_meet, List.append_assoc, hrest, hmet]
      rw [show found distance (c :: layer) = found distance [c] ++ found distance layer from
        found_append distance [c] layer]
      simp only [List.append_assoc, List.map_append, own, others]

theorem searchFrom_last (hdepth : depth ≤ distance) {layer : List Chunk}
    (hlayer : ∀ c ∈ layer, Counts chunks c) (visited : List String) :
    (ofChunks chunks).searchFrom depth ⟨visited, layer.map fun c => (c.id, distance)⟩ =
      found distance layer := by
  induction layer with
  | nil => simp [searchFrom, found]
  | cons c layer ih =>
      rw [List.map_cons, searchFrom_cons (hlayer c List.mem_cons_self), if_pos hdepth,
        ih fun d hd => hlayer d (List.mem_cons_of_mem c hd), ← found_append,
        List.singleton_append]

theorem counts_of_mem_nextLayer {seen : List String} {layer : List Chunk} :
    ∀ c ∈ (ofChunks chunks).nextLayer seen layer, Counts chunks c := by
  intro c hc
  have hcalled := List.mem_of_mem_filter (mem_of_mem_firstByKey hc)
  obtain ⟨b, -, hcalled⟩ := List.mem_flatMap.mp hcalled
  obtain ⟨name, -, hdefines⟩ := List.mem_flatMap.mp hcalled
  rw [definitions_ofChunks] at hdefines
  exact counts_of_mem_filter hdefines

/-- The search visits the layers one after the other. -/
theorem searchFrom_eq_layers (depth : ℕ) {layer : List Chunk}
    (hlayer : ∀ c ∈ layer, Counts chunks c) (distance : ℕ) (visited : List String) :
    (ofChunks chunks).searchFrom (distance + depth)
        ⟨visited, layer.map fun c => (c.id, distance)⟩ =
      found distance layer ++ (ofChunks chunks).reachedFrom depth visited layer := by
  induction depth generalizing layer distance visited with
  | zero =>
      rw [Nat.add_zero, searchFrom_last (Nat.le_refl distance) hlayer,
        reachedFrom, List.append_nil]
  | succ depth ih =>
      let next := (ofChunks chunks).nextLayer visited layer
      have hdepth : distance < distance + (depth + 1) :=
        Nat.lt_add_of_pos_right depth.succ_pos
      have hvisit := searchFrom_layer hdepth hlayer visited []
      have hcounts : ∀ c ∈ next, Counts chunks c := counts_of_mem_nextLayer
      have hnext := ih hcounts (distance + 1) (visited ++ next.map Chunk.id)
      simp only [← map_id_nextLayer, List.map_map, List.append_nil,
        List.nil_append] at hvisit
      rw [Nat.add_assoc, Nat.add_comm 1 depth] at hnext
      rw [hvisit, reachedFrom]
      exact congrArg (found distance layer ++ ·) hnext

theorem related_of_counts {start : Chunk} (hstart : Counts chunks start) (depth : Int) :
    (ofChunks chunks).related start.id depth =
      (ofChunks chunks).reachedFrom depth.toNat [start.id] [start] := by
  have hknown : ((ofChunks chunks).get? start.id).isNone = false := by
    rw [get?_of_counts hstart]
    rfl
  rw [related, hknown, Bool.or_false]
  split
  · rename_i hdepth
    have hzero : depth.toNat = 0 := Int.toNat_eq_zero.mpr (of_decide_eq_true hdepth)
    rw [hzero, reachedFrom]
  · have hlayer : ∀ c ∈ [start], Counts chunks c := by simpa using hstart
    have hlayers := searchFrom_eq_layers depth.toNat hlayer 0 [start.id]
    rw [Nat.zero_add] at hlayers
    exact hlayers

end

end CodeRetrieval.CallGraph
