import CodeRetrieval.Proofs.Graph.Reachability

/-!
# Searching deeper

A search that may go one call deeper finds the same chunks in the same places, and
behind them one layer more: what the chunks at the last distance call and the search has
not found yet.
-/

namespace CodeRetrieval.CallGraph

open Classical in
noncomputable def atDistance (chunks : List Chunk) (start : Chunk) (distance : ℕ)
    (cs : List Chunk) : List Chunk :=
  cs.filter fun c => decide (IsDistance chunks start distance c)

variable {chunks : List Chunk} {start : Chunk}

/-! ## Chunks at one distance -/

theorem atDistance_append (distance : ℕ) (as bs : List Chunk) :
    atDistance chunks start distance (as ++ bs)
      = atDistance chunks start distance as ++ atDistance chunks start distance bs :=
  List.filter_append as bs

theorem atDistance_eq_self {distance : ℕ} {cs : List Chunk}
    (h : ∀ c ∈ cs, IsDistance chunks start distance c) :
    atDistance chunks start distance cs = cs := by
  apply List.filter_eq_self.mpr
  intro c hc
  simpa using h c hc

theorem atDistance_eq_nil {distance : ℕ} {cs : List Chunk}
    (h : ∀ c ∈ cs, ¬ IsDistance chunks start distance c) :
    atDistance chunks start distance cs = [] := by
  apply List.filter_eq_nil_iff.mpr
  intro c hc
  simpa using h c hc

/-! ## One layer more -/

section

variable {g : CallGraph} {seen : List String} {layer : List Chunk}

theorem reachedFrom_zero : g.reachedFrom 0 seen layer = [] := rfl

theorem reachedFrom_succ (depth : ℕ) :
    g.reachedFrom (depth + 1) seen layer = g.nextLayer seen layer ++
      g.reachedFrom depth (seen ++ (g.nextLayer seen layer).map Chunk.id)
        (g.nextLayer seen layer) :=
  rfl

theorem isPrefix_reachedFrom {m n : ℕ} (h : m ≤ n) :
    g.reachedFrom m seen layer <+: g.reachedFrom n seen layer := by
  induction m generalizing n seen layer with
  | zero => exact List.nil_prefix
  | succ m ih =>
      obtain ⟨k, rfl⟩ : ∃ k, n = k + 1 := ⟨n - 1, by omega⟩
      rw [reachedFrom_succ, reachedFrom_succ, List.prefix_append_right_inj]
      apply ih
      omega

end

namespace IsFrontier

variable {distance : ℕ} {seen : List String} {layer : List Chunk}

/-- One call deeper the search finds what the chunks call that it found last. -/
theorem reachedFrom_deeper (hstart : Counts chunks start)
    (h : IsFrontier chunks start distance seen layer) (depth : ℕ) :
    let g := ofChunks chunks
    let found := g.reachedFrom depth seen layer
    g.reachedFrom (depth + 1) seen layer = found ++
      g.nextLayer (seen ++ found.map Chunk.id)
        (atDistance chunks start (distance + depth) (layer ++ found)) := by
  intro g found
  induction depth generalizing distance seen layer with
  | zero =>
      have hlayer : atDistance chunks start distance layer = layer :=
        atDistance_eq_self fun c hc => (h.mem_layer c).mp hc
      have hfound : found = [] := rfl
      rw [reachedFrom_succ, reachedFrom_zero, hfound, List.map_nil, List.append_nil,
        List.append_nil, List.append_nil, List.nil_append, Nat.add_zero, hlayer]
  | succ depth ih =>
      let next := g.nextLayer seen layer
      let rest := g.reachedFrom depth (seen ++ next.map Chunk.id) next
      have hnext : IsFrontier chunks start (distance + 1) (seen ++ next.map Chunk.id)
          next := h.next hstart
      have hfound : found = next ++ rest := reachedFrom_succ depth
      have hdeeper : g.reachedFrom (depth + 1) (seen ++ next.map Chunk.id) next = rest ++
          g.nextLayer (seen ++ next.map Chunk.id ++ rest.map Chunk.id)
            (atDistance chunks start (distance + 1 + depth) (next ++ rest)) := ih hnext
      -- the chunks of the first layer are nearer than those that were found last
      have hnearer : atDistance chunks start (distance + (depth + 1)) layer = [] := by
        apply atDistance_eq_nil
        intro c hc hdistance
        have := ((h.mem_layer c).mp hc).unique hdistance
        omega
      have hlast : atDistance chunks start (distance + (depth + 1)) (layer ++ found)
          = atDistance chunks start (distance + 1 + depth) (next ++ rest) := by
        rw [atDistance_append, hnearer, List.nil_append, hfound, Nat.add_assoc,
          Nat.add_comm 1 depth]
      have hseen : seen ++ found.map Chunk.id =
          seen ++ next.map Chunk.id ++ rest.map Chunk.id := by
        rw [hfound, List.map_append, List.append_assoc]
      calc g.reachedFrom (depth + 1 + 1) seen layer
          = next ++ g.reachedFrom (depth + 1) (seen ++ next.map Chunk.id) next :=
            reachedFrom_succ (depth + 1)
        _ = next ++ rest ++ g.nextLayer (seen ++ next.map Chunk.id ++ rest.map Chunk.id)
              (atDistance chunks start (distance + 1 + depth) (next ++ rest)) := by
            rw [hdeeper, List.append_assoc next rest]
        _ = found ++ g.nextLayer (seen ++ found.map Chunk.id)
              (atDistance chunks start (distance + (depth + 1)) (layer ++ found)) := by
            rw [hlast, hseen, hfound]

end IsFrontier

/-! ## Related chunks -/

theorem related_succ (hstart : Counts chunks start) (depth : ℕ) :
    let g := ofChunks chunks
    let found := g.related start.id depth
    g.related start.id (depth + 1) = found ++
      g.nextLayer ((start :: found).map Chunk.id)
        (atDistance chunks start depth (start :: found)) := by
  intro g found
  have hdeeper := (isFrontier_start hstart).reachedFrom_deeper hstart depth
  have hdepth : ((depth : ℤ) + 1).toNat = depth + 1 := by omega
  simp only [found, g, related_of_counts hstart, hdepth, Int.toNat_natCast]
  rw [Nat.zero_add] at hdeeper
  exact hdeeper

/-- A greater depth only appends to the related chunks of a chunk. What one call more
adds are the definitions of the calls of the chunks at the last distance, the chunk
itself being at distance zero: by chunk in the order in which the search found them, by
call and then in the order of the graph, each once, and neither the chunk itself nor
what was found before. -/
theorem related_grows_by_layers (chunks : List Chunk) {start : Chunk}
    (hstart : Counts chunks start) :
    let g := ofChunks chunks
    (∀ d d' : ℤ, d ≤ d' → g.related start.id d <+: g.related start.id d') ∧
    ∀ d : ℕ,
      let found := g.related start.id d
      let called := (atDistance chunks start d (start :: found)).flatMap fun c =>
        c.calls.flatMap g.definitions
      g.related start.id (d + 1) = found ++
        firstByKey Chunk.id (called.filter fun c =>
          !((start :: found).map Chunk.id).contains c.id) := by
  intro g
  constructor
  · intro d d' hd
    rw [related_of_counts hstart, related_of_counts hstart]
    apply isPrefix_reachedFrom
    omega
  · intro d
    exact related_succ hstart d

/-- In the diamond the second call adds the last function once, though two of the
functions before it call it. -/
theorem related_sampleDiamond_grows :
    let start := sampleFunction "f" ["g", "h"]
    let found := (ofChunks sampleDiamond).related "f:1" 1
    Counts sampleDiamond start ∧ found <+: (ofChunks sampleDiamond).related "f:1" 2 ∧
      found.map Chunk.name = ["g", "h"] ∧
      ((firstByKey Chunk.id
        (((atDistance sampleDiamond start 1 (start :: found)).flatMap fun c =>
        c.calls.flatMap (ofChunks sampleDiamond).definitions).filter fun c =>
          !((start :: found).map Chunk.id).contains c.id)).map Chunk.name) = ["k"] := by
  intro start found
  have hstart : Counts sampleDiamond start := ⟨[], sampleDiamond.tail, rfl, by simp⟩
  have hid : start.id = "f:1" := by decide +kernel
  obtain ⟨hgrows, hlayer⟩ := related_grows_by_layers sampleDiamond hstart
  have hlayer1 := hlayer 1
  rw [hid] at hgrows
  have hnames1 : ((ofChunks sampleDiamond).related "f:1" 1).map Chunk.name =
      ["g", "h"] := by decide +kernel
  have hnames2 : ((ofChunks sampleDiamond).related "f:1" 2).map Chunk.name =
      ["g", "h", "k"] := by decide +kernel
  refine ⟨hstart, hgrows 1 2 (by decide), hnames1, ?_⟩
  have hboth := congrArg (List.map Chunk.name) hlayer1
  rw [List.map_append, hid] at hboth
  exact List.append_cancel_left
    ((hnames2.symm.trans hboth).symm.trans (congrArg (· ++ ["k"]) hnames1.symm))

end CodeRetrieval.CallGraph
