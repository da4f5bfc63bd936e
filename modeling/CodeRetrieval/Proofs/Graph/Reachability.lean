import CodeRetrieval.Proofs.Chunk.Version
import CodeRetrieval.Proofs.Graph.Queue
import Mathlib.Data.Nat.Find
import Mathlib.Order.Bounds.Basic

/-!
# Chunks that calls lead to

A call path leads from one chunk to another by calls, and the distance of a chunk is the
length of its shortest path. The layers of the search from a chunk are the chunks at
distance one, two and so on. So the related chunks are those that a path of limited
length leads to, each once, the nearest first.
-/

namespace CodeRetrieval.CallGraph

/-- The first chunk calls a name, and the second is code with that name and has it as a
name of its own. -/
structure Calls (chunks : List Chunk) (a b : Chunk) : Prop where
  caller_counts : Counts chunks a
  callee_counts : Counts chunks b
  name_mem : b.name ∈ a.calls
  isCode : b.isCode = true
  name_ne_empty : b.name ≠ ""
  name_ne_anonymous : b.name ≠ "anonymous"

/-- A path of the given number of calls leads from `start` to a chunk. -/
inductive CallPath (chunks : List Chunk) (start : Chunk) : Nat → Chunk → Prop where
  | nil : CallPath chunks start 0 start
  | snoc {n : Nat} {a b : Chunk} (path : CallPath chunks start n a)
    (call : Calls chunks a b) :
      CallPath chunks start (n + 1) b

/-- The length of the shortest call paths from `start` to a chunk. -/
def IsDistance (chunks : List Chunk) (start : Chunk) (n : Nat) (c : Chunk) : Prop :=
  IsLeast {n | CallPath chunks start n c} n

/-- The first chunk is at most as far away from `start` as the second. -/
def NoFarther (chunks : List Chunk) (start a b : Chunk) : Prop :=
  ∃ m n, IsDistance chunks start m a ∧ IsDistance chunks start n b ∧ m ≤ n

variable {chunks : List Chunk} {start : Chunk}

/-! ## Calls in the graph -/

theorem mem_called {a b : Chunk} (ha : Counts chunks a) :
    b ∈ (ofChunks chunks).called a ↔ Calls chunks a b := by
  simp only [called, definitions_ofChunks, List.mem_flatMap, List.mem_filter,
    mem_firstByKey, isDefinition, Syntax.anonymous, Bool.and_eq_true, Bool.not_eq_true',
    bne_iff_ne, beq_iff_eq, String.isEmpty_eq_false_iff]
  constructor
  · rintro ⟨name, hname, hb, ⟨⟨hcode, hempty⟩, hanonymous⟩, rfl⟩
    exact ⟨ha, hb, hname, hcode, hempty, hanonymous⟩
  · intro h
    exact ⟨b.name, h.name_mem, h.callee_counts,
      ⟨⟨h.isCode, h.name_ne_empty⟩, h.name_ne_anonymous⟩, rfl⟩

/-! ## Distances -/

theorem CallPath.counts {n : Nat} {c : Chunk} (hstart : Counts chunks start)
    (h : CallPath chunks start n c) :
    Counts chunks c := by
  cases h with
  | nil => exact hstart
  | snoc path call => exact call.callee_counts

theorem callPath_zero {c : Chunk} : CallPath chunks start 0 c ↔ c = start := by
  constructor
  · rintro ⟨⟩
    rfl
  · rintro rfl
    exact .nil

theorem CallPath.exists_distance {n : Nat} {c : Chunk} (h : CallPath chunks start n c) :
    ∃ m ≤ n, IsDistance chunks start m c := by
  classical
  have hsome : ∃ m, CallPath chunks start m c := ⟨n, h⟩
  exact ⟨Nat.find hsome, Nat.find_min' hsome h, Nat.find_spec hsome, fun m hm =>
    Nat.find_min' hsome hm⟩

theorem isDistance_zero {c : Chunk} : IsDistance chunks start 0 c ↔ c = start := by
  constructor
  · intro h
    exact callPath_zero.mp h.1
  · rintro rfl
    exact ⟨.nil, fun n _ => Nat.zero_le n⟩

theorem IsDistance.counts {n : Nat} {c : Chunk} (hstart : Counts chunks start)
    (h : IsDistance chunks start n c) :
    Counts chunks c :=
  h.1.counts hstart

theorem IsDistance.unique {m n : Nat} {c : Chunk} (hm : IsDistance chunks start m c)
    (hn : IsDistance chunks start n c) : m = n :=
  IsLeast.unique hm hn

/-- A chunk is one call farther away than some chunk that calls it. -/
theorem isDistance_succ {n : Nat} {c : Chunk} :
    IsDistance chunks start (n + 1) c ↔
      (∃ b, IsDistance chunks start n b ∧ Calls chunks b c) ∧
        ∀ m ≤ n, ¬ IsDistance chunks start m c := by
  constructor
  · intro h
    refine ⟨?_, fun m hm hdistance => ?_⟩
    · have hpath : CallPath chunks start (n + 1) c := h.1
      cases hpath with
      | snoc path call =>
          obtain ⟨m, hm, hb⟩ := path.exists_distance
          -- a shorter path to the caller would make a shorter one to `c`
          have hlength : n + 1 ≤ m + 1 := h.2 (hb.1.snoc call)
          obtain rfl : m = n := by omega
          exact ⟨_, hb, call⟩
    · have := hdistance.unique h
      omega
  · rintro ⟨⟨b, hb, call⟩, hfar⟩
    obtain ⟨m, hm, hc⟩ := (hb.1.snoc call).exists_distance
    have hm' : ¬ m ≤ n := fun hle => hfar m hle hc
    obtain rfl : m = n + 1 := by omega
    exact hc

/-! ## Layers -/

/-- The layer holds the chunks at one distance, and seen are the chunks up to that
distance. -/
structure IsFrontier (chunks : List Chunk) (start : Chunk) (distance : Nat)
    (seen : List String) (layer : List Chunk) : Prop where
  mem_layer : ∀ c, c ∈ layer ↔ IsDistance chunks start distance c
  mem_seen : ∀ c, Counts chunks c →
    (c.id ∈ seen ↔ ∃ n ≤ distance, IsDistance chunks start n c)

theorem isFrontier_start (hstart : Counts chunks start) :
    IsFrontier chunks start 0 [start.id] [start] where
  mem_layer c := by rw [List.mem_singleton, isDistance_zero]
  mem_seen c hc := by
    rw [List.mem_singleton]
    constructor
    · intro hid
      exact ⟨0, Nat.le_refl 0, isDistance_zero.mpr (eq_of_id_eq hc hstart hid)⟩
    · rintro ⟨n, hn, hdistance⟩
      obtain rfl : n = 0 := by omega
      rw [isDistance_zero.mp hdistance]

namespace IsFrontier

variable {distance : Nat} {seen : List String} {layer : List Chunk}

/-- The next layer holds the chunks that are one call farther away. -/
theorem mem_nextLayer (hstart : Counts chunks start)
    (h : IsFrontier chunks start distance seen layer) (c : Chunk) :
    c ∈ (ofChunks chunks).nextLayer seen layer ↔
      IsDistance chunks start (distance + 1) c := by
  have hcalled : ∀ d, d ∈ layer.flatMap (ofChunks chunks).called ↔
      ∃ b, IsDistance chunks start distance b ∧ Calls chunks b d := by
    intro d
    rw [List.mem_flatMap]
    constructor
    · rintro ⟨b, hb, hd⟩
      have hdistance := (h.mem_layer b).mp hb
      exact ⟨b, hdistance, (mem_called (hdistance.counts hstart)).mp hd⟩
    · rintro ⟨b, hdistance, hd⟩
      exact ⟨b, (h.mem_layer b).mpr hdistance,
        (mem_called (hdistance.counts hstart)).mpr hd⟩
  have hnext : c ∈ (ofChunks chunks).nextLayer seen layer ↔
      c ∈ (layer.flatMap (ofChunks chunks).called).filter fun d => !seen.contains d.id := by
    -- all chunks called count, so no two of them share an identifier
    refine mem_firstByKey_of_injOn fun a ha b hb hid => ?_
    obtain ⟨_, _, hacall⟩ := (hcalled a).mp (List.mem_of_mem_filter ha)
    obtain ⟨_, _, hbcall⟩ := (hcalled b).mp (List.mem_of_mem_filter hb)
    exact eq_of_id_eq hacall.callee_counts hbcall.callee_counts hid
  rw [hnext, List.mem_filter, hcalled, isDistance_succ]
  refine and_congr_right ?_
  rintro ⟨b, -, call⟩
  simp [h.mem_seen c call.callee_counts]

/-- From one layer to the next the search stays exact. -/
theorem next (hstart : Counts chunks start)
    (h : IsFrontier chunks start distance seen layer) :
    IsFrontier chunks start (distance + 1)
      (seen ++ ((ofChunks chunks).nextLayer seen layer).map Chunk.id)
        ((ofChunks chunks).nextLayer seen layer) where
  mem_layer := h.mem_nextLayer hstart
  mem_seen c hc := by
    have hnew : c.id ∈ ((ofChunks chunks).nextLayer seen layer).map Chunk.id ↔
        IsDistance chunks start (distance + 1) c := by
      rw [← h.mem_nextLayer hstart, List.mem_map]
      constructor
      · rintro ⟨d, hd, hid⟩
        have hd' := ((h.mem_nextLayer hstart d).mp hd).counts hstart
        exact eq_of_id_eq hd' hc hid ▸ hd
      · intro hc
        exact ⟨c, hc, rfl⟩
    rw [List.mem_append, h.mem_seen c hc, hnew]
    constructor
    · rintro (⟨n, hn, hdistance⟩ | hdistance)
      · exact ⟨n, by omega, hdistance⟩
      · exact ⟨distance + 1, Nat.le_refl _, hdistance⟩
    · rintro ⟨n, hn, hdistance⟩
      by_cases hlast : n = distance + 1
      · exact .inr (hlast ▸ hdistance)
      · exact .inl ⟨n, by omega, hdistance⟩

/-! ## All layers -/

/-- From a layer the search reaches the chunks that are farther away, up to the limit. -/
theorem mem_reachedFrom (hstart : Counts chunks start)
    (h : IsFrontier chunks start distance seen layer) (depth : Nat) (c : Chunk) :
    c ∈ (ofChunks chunks).reachedFrom depth seen layer ↔
      ∃ n, distance < n ∧ n ≤ distance + depth ∧ IsDistance chunks start n c := by
  induction depth generalizing distance seen layer with
  | zero =>
      simp only [reachedFrom, List.not_mem_nil, false_iff]
      rintro ⟨n, hn, hlimit, -⟩
      omega
  | succ depth ih =>
      have hnext := h.next hstart
      rw [reachedFrom, List.mem_append, hnext.mem_layer, ih hnext]
      constructor
      · rintro (hdistance | ⟨n, hn, hlimit, hdistance⟩)
        · exact ⟨distance + 1, by omega, by omega, hdistance⟩
        · exact ⟨n, by omega, by omega, hdistance⟩
      · rintro ⟨n, hn, hlimit, hdistance⟩
        by_cases hfirst : n = distance + 1
        · exact .inl (hfirst ▸ hdistance)
        · exact .inr ⟨n, by omega, by omega, hdistance⟩

/-- The search reaches each chunk once, and none before a nearer one. -/
theorem pairwise_reachedFrom (hstart : Counts chunks start)
    (h : IsFrontier chunks start distance seen layer) (depth : Nat) :
    ((ofChunks chunks).reachedFrom depth seen layer).Pairwise fun a b =>
      a.id ≠ b.id ∧ NoFarther chunks start a b := by
  induction depth generalizing distance seen layer with
  | zero => exact List.Pairwise.nil
  | succ depth ih =>
      have hnext := h.next hstart
      rw [reachedFrom]
      refine List.pairwise_append.mpr ⟨?_, ih hnext, ?_⟩
      · have hdistinct := List.pairwise_map.mp
          (nodup_map_firstByKey Chunk.id
            ((layer.flatMap (ofChunks chunks).called).filter fun c =>
            !seen.contains c.id))
        refine List.Pairwise.imp_of_mem (fun {a b} ha hb hid => ⟨hid, ?_⟩) hdistinct
        exact ⟨distance + 1, distance + 1, (hnext.mem_layer a).mp ha,
          (hnext.mem_layer b).mp hb, Nat.le_refl _⟩
      · intro a ha b hb
        have ha' := (hnext.mem_layer a).mp ha
        obtain ⟨n, hn, -, hb'⟩ := (hnext.mem_reachedFrom hstart depth b).mp hb
        refine ⟨fun hid => ?_, distance + 1, n, ha', hb', by omega⟩
        obtain rfl := eq_of_id_eq (ha'.counts hstart) (hb'.counts hstart) hid
        have := ha'.unique hb'
        omega

end IsFrontier

/-! ## Related chunks -/

theorem mem_related (hstart : Counts chunks start) {depth : Int} {c : Chunk} :
    c ∈ (ofChunks chunks).related start.id depth ↔
      c ≠ start ∧ ∃ n : Nat, 1 ≤ n ∧ n ≤ depth ∧ CallPath chunks start n c := by
  rw [related_of_counts hstart, (isFrontier_start hstart).mem_reachedFrom hstart]
  constructor
  · rintro ⟨n, hn, hlimit, hdistance⟩
    refine ⟨?_, n, hn, by omega, hdistance.1⟩
    rintro rfl
    have := hdistance.unique (isDistance_zero.mpr rfl)
    omega
  · rintro ⟨hne, n, hn, hlimit, path⟩
    obtain ⟨m, hm, hdistance⟩ := path.exists_distance
    have hm0 : m ≠ 0 := by
      rintro rfl
      exact hne (isDistance_zero.mp hdistance)
    exact ⟨m, by omega, by omega, hdistance⟩

/-- The related chunks of a chunk are exactly those, beside itself, that a path of at
least one call and no more than the given number leads to. Each is there once, and the
nearest come first. An unknown chunk has none, and a number below one gives none. -/
theorem related_exact (chunks : List Chunk) (id : String) (depth : Int) :
    let found := (ofChunks chunks).related id depth
    (∀ start, Counts chunks start → start.id = id →
      (id :: found.map Chunk.id).Nodup ∧
      (∀ c, c ∈ found ↔ c ≠ start ∧ ∃ n : Nat, 1 ≤ n ∧ n ≤ depth ∧
        CallPath chunks start n c) ∧
      found.Pairwise (NoFarther chunks start)) ∧
    ((∀ c ∈ chunks, c.id ≠ id) → found = []) ∧
    (depth ≤ 0 → found = []) := by
  intro found
  refine ⟨?_, ?_, ?_⟩
  · rintro start hstart rfl
    have hpairs : found.Pairwise fun a b => a.id ≠ b.id ∧ NoFarther chunks start a b := by
      have hlayers := (isFrontier_start hstart).pairwise_reachedFrom hstart depth.toNat
      rwa [← related_of_counts hstart depth] at hlayers
    refine ⟨List.nodup_cons.mpr ⟨?_, ?_⟩, fun c => mem_related hstart,
      hpairs.imp fun h => h.2⟩
    · intro hmem
      obtain ⟨c, hc, hid⟩ := List.mem_map.mp hmem
      obtain ⟨hne, n, -, -, path⟩ := (mem_related hstart).mp hc
      exact hne (eq_of_id_eq (path.counts hstart) hstart hid)
    · exact List.pairwise_map.mpr (hpairs.imp fun h => h.1)
  · intro hunknown
    have hget : (ofChunks chunks).get? id = none := get?_eq_none hunknown
    simp only [found, related, hget, Option.isNone_none, Bool.or_true, if_true]
  · intro hdepth
    simp only [found, related, decide_eq_true hdepth, Bool.true_or, if_true]

def sampleFunction (name : String) (calls : List String) : Chunk :=
  { Chunk.sample name "" with calls }

/-- Two ways lead from the first function to the last, which calls all of them. -/
def sampleDiamond : List Chunk :=
  [sampleFunction "f" ["g", "h"], sampleFunction "g" ["k"], sampleFunction "h" ["k"],
    sampleFunction "k" ["f", "g", "h", "k"]]

theorem related_sampleDiamond :
    let start := sampleFunction "f" ["g", "h"]
    Counts sampleDiamond start ∧ start.id = "f:1" ∧
      ((ofChunks sampleDiamond).related "f:1" 2).map Chunk.name = ["g", "h", "k"] ∧
      ∃ c, c.name = "k" ∧ c ≠ start ∧ ∃ n : Nat, 1 ≤ n ∧ (n : Int) ≤ 2 ∧
        CallPath sampleDiamond start n c := by
  intro start
  have hstart : Counts sampleDiamond start := ⟨[], sampleDiamond.tail, rfl, by simp⟩
  have hid : start.id = "f:1" := by decide +kernel
  have hnames : ((ofChunks sampleDiamond).related "f:1" 2).map Chunk.name =
      ["g", "h", "k"] := by decide +kernel
  obtain ⟨hknown, -⟩ := related_exact sampleDiamond "f:1" 2
  obtain ⟨-, hmem, -⟩ := hknown start hstart hid
  obtain ⟨c, hc, hname⟩ : ∃ c ∈ (ofChunks sampleDiamond).related "f:1" 2, c.name = "k" := by
    rw [← List.mem_map, hnames]
    simp
  exact ⟨hstart, hid, hnames, c, hname, (hmem c).mp hc⟩

end CodeRetrieval.CallGraph
