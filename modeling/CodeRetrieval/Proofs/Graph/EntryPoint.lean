import CodeRetrieval.Graph.EntryPoint
import CodeRetrieval.Proofs.Graph.Names
import CodeRetrieval.Proofs.Ranking.Order
import CodeRetrieval.Proofs.Text.Contains
import Mathlib.Data.Bool.AllAny
import Mathlib.Data.List.TakeWhile

/-!
# The choice of entry points

The candidates are the pieces of code that others can see, that answer to users by their
path, or that call much. They stand in a strict order: those called least come first,
then those that call most, then those that come first. The entry points are the first
ones in this order, and no flow leads back to its entry.
-/

namespace CodeRetrieval

namespace Chunk

/-! ## What others can see -/

/-- The text is a word with blanks before it and anything after it. -/
def StartsWithWord (word text : String) : Prop :=
  ∃ blanks rest, text.toList = blanks ++ word.toList ++ rest ∧
    ∀ b ∈ blanks, Text.isBlank b = true

/-- By the rule of its language others can see the chunk. -/
inductive Exported (c : Chunk) : Prop where
  | script (language : c.language ∈ ["javascript", "typescript", "tsx"])
    (keyword : StartsWithWord "export " c.code)
  | crate (language : c.language = "rust") (keyword : StartsWithWord "pub " c.code)
  | package (language : c.language = "go") (capital : ∃ a rest, c.name.toList = a :: rest ∧
    Text.isUpper a = true)
  | indented (language : c.language = "python") (outermost : c.parentClass = none)
      (noUnderscore : ¬ ∃ rest, c.name.toList = '_' :: rest)
      (noIndent : ¬ ∃ a rest, c.code.toList = a :: rest ∧ Text.isBlank a = true)

theorem isPrefixOf_trimStart_iff {word text : String}
    (hword : ∀ a ∈ word.toList.head?, Text.isBlank a = false) :
    word.toList.isPrefixOf (Text.trimStart text.toList) = true ↔
      StartsWithWord word text := by
  rw [List.isPrefixOf_iff_prefix, StartsWithWord, Text.trimStart]
  constructor
  · rintro ⟨rest, hrest⟩
    refine ⟨text.toList.takeWhile Text.isBlank, rest, ?_, fun b hb =>
      List.mem_takeWhile_imp hb⟩
    rw [List.append_assoc, hrest, List.takeWhile_append_dropWhile]
  · rintro ⟨blanks, rest, htext, hblanks⟩
    rw [htext, List.append_assoc, List.dropWhile_append_of_pos hblanks]
    cases hchars : word.toList with
    | nil => exact List.nil_prefix
    | cons a as =>
        rw [List.cons_append, List.dropWhile_cons_of_neg
          (by simp [hword a (by rw [hchars]; rfl)])]
        exact List.prefix_append (a :: as) rest

theorem head?_any_iff {p : Char → Bool} {s : List Char} :
    s.head?.any p = true ↔ ∃ a rest, s = a :: rest ∧ p a = true := by
  cases s <;> simp

section

variable {c : Chunk}

theorem isExported_of_script (h : c.language ∈ ["javascript", "typescript", "tsx"]) :
    c.isExported = true ↔ StartsWithWord "export " c.code := by
  have hkeyword : ∀ a ∈ "export ".toList.head?, Text.isBlank a = false := by
    intro a ha
    obtain rfl : 'e' = a := Option.some.inj ha
    rfl
  unfold isExported
  rw [if_pos (List.contains_iff_mem.mpr h)]
  exact isPrefixOf_trimStart_iff hkeyword

theorem isExported_of_crate (h : c.language = "rust") :
    c.isExported = true ↔ StartsWithWord "pub " c.code := by
  have hkeyword : ∀ a ∈ "pub ".toList.head?, Text.isBlank a = false := by
    intro a ha
    obtain rfl : 'p' = a := Option.some.inj ha
    rfl
  unfold isExported
  simp only [h]
  exact isPrefixOf_trimStart_iff hkeyword

theorem isExported_of_package (h : c.language = "go") :
    c.isExported = true ↔ ∃ a rest, c.name.toList = a :: rest ∧ Text.isUpper a = true := by
  unfold isExported
  simp only [h]
  exact head?_any_iff

theorem isExported_of_indented (h : c.language = "python") :
    c.isExported = true ↔ c.parentClass = none ∧ (¬ ∃ rest, c.name.toList = '_' :: rest) ∧
      ¬ ∃ a rest, c.code.toList = a :: rest ∧ Text.isBlank a = true := by
  have hrule : c.isExported =
      (c.parentClass.isNone && !(c.name.toList.head? == some '_') &&
        !c.code.toList.head?.any Text.isBlank) := by
    unfold isExported
    simp only [h]
    rfl
  rw [hrule, Bool.and_eq_true, Bool.and_eq_true, Option.isNone_iff_eq_none,
    Bool.not_eq_true', Bool.not_eq_true', beq_eq_false_iff_ne, Ne,
    List.head?_eq_some_iff, ← head?_any_iff, Bool.not_eq_true, and_assoc]

theorem isExported_of_other (hscript : c.language ∉ ["javascript", "typescript", "tsx"])
    (hcrate : c.language ≠ "rust")
    (hpackage : c.language ≠ "go") (hindented : c.language ≠ "python") :
    c.isExported = false := by
  unfold isExported
  rw [if_neg (mt List.contains_iff_mem.mp hscript), if_neg (mt beq_iff_eq.mp hcrate),
    if_neg (mt beq_iff_eq.mp hpackage), if_neg (mt beq_iff_eq.mp hindented)]

theorem isExported_iff : c.isExported = true ↔ Exported c := by
  constructor
  · intro h
    by_cases hscript : c.language ∈ ["javascript", "typescript", "tsx"]
    · exact .script hscript ((isExported_of_script hscript).mp h)
    by_cases hcrate : c.language = "rust"
    · exact .crate hcrate ((isExported_of_crate hcrate).mp h)
    by_cases hpackage : c.language = "go"
    · exact .package hpackage ((isExported_of_package hpackage).mp h)
    by_cases hindented : c.language = "python"
    · obtain ⟨houtermost, hname, hcode⟩ := (isExported_of_indented hindented).mp h
      exact .indented hindented houtermost hname hcode
    · rw [isExported_of_other hscript hcrate hpackage hindented] at h
      cases h
  · rintro (⟨hscript, hkeyword⟩ | ⟨hcrate, hkeyword⟩ | ⟨hpackage, hcapital⟩ | ⟨hindented,
      houtermost, hname, hcode⟩)
    · exact (isExported_of_script hscript).mpr hkeyword
    · exact (isExported_of_crate hcrate).mpr hkeyword
    · exact (isExported_of_package hpackage).mpr hcapital
    · exact (isExported_of_indented hindented).mpr ⟨houtermost, hname, hcode⟩

end

end Chunk

namespace CallGraph

/-! ## Candidates -/

/-- The path contains, in any case, a word for code that answers to users. -/
def HasEntryMarker (path : String) : Prop :=
  ∃ marker ∈ ["route", "controller", "handler"], ∃ part, part <:+: path.toList ∧
    part.map Char.toLower = marker.toList

theorem pathMarksEntry_iff {path : String} :
    pathMarksEntry path = true ↔ HasEntryMarker path := by
  have hletters : ∀ marker ∈ entryMarkers, ∀ c ∈ marker.toList, Text.IsOwnLower c := by
    intro marker hmarker
    simp only [entryMarkers, List.mem_cons, List.not_mem_nil, or_false] at hmarker
    rcases hmarker with rfl | rfl | rfl
    all_goals exact List.all_iff_forall_prop.mp (by decide)
  rw [pathMarksEntry, List.any_eq_true]
  apply exists_congr
  intro marker
  apply and_congr_right
  intro hmarker
  rw [containsText_iff, Text.infix_lower_iff (hletters marker hmarker)]

/-- The chunk is code that counts and has one of the marks of an entry point. -/
structure IsCandidate (chunks : List Chunk) (minCalls : ℤ) (c : Chunk) : Prop where
  counts : Counts chunks c
  isCode : c.isCode = true
  mark : c.Exported ∨ HasEntryMarker c.path ∨ minCalls ≤ c.calls.length

def callerCount (chunks : List Chunk) (c : Chunk) : ℕ :=
  ((ofChunks chunks).callers c.name).length

/-- Among entry points the first chunk stands before the second: its name has fewer
callers, or as many and it makes more calls, or as many and it comes first. -/
def Outranks (chunks : List Chunk) (a b : Chunk) : Prop :=
  callerCount chunks a < callerCount chunks b ∨
    callerCount chunks a = callerCount chunks b ∧
    (b.calls.length < a.calls.length ∨ a.calls.length = b.calls.length ∧
      placeOf chunks a < placeOf chunks b)

variable {chunks : List Chunk}

theorem Outranks.asymm {a b : Chunk} (h : Outranks chunks a b) : ¬ Outranks chunks b a := by
  unfold Outranks at *
  omega

theorem qualifies_iff {minCalls : ℤ} {c : Chunk} :
    qualifies minCalls c = true ↔ c.Exported ∨ HasEntryMarker c.path ∨
      minCalls ≤ c.calls.length := by
  rw [qualifies, Bool.or_eq_true, Bool.or_eq_true, decide_eq_true_iff, Chunk.isExported_iff,
    pathMarksEntry_iff, or_assoc]

def candidates (chunks : List Chunk) (minCalls : ℤ) : List Chunk :=
  ((ofChunks chunks).chunks.filter Chunk.isCode).filter (qualifies minCalls)

theorem mem_candidates {minCalls : ℤ} {c : Chunk} :
    c ∈ candidates chunks minCalls ↔ IsCandidate chunks minCalls c := by
  rw [candidates, List.mem_filter, List.mem_filter, mem_chunks_ofChunks, qualifies_iff]
  constructor
  · rintro ⟨⟨hcounts, hcode⟩, hmark⟩
    exact ⟨hcounts, hcode, hmark⟩
  · rintro ⟨hcounts, hcode, hmark⟩
    exact ⟨⟨hcounts, hcode⟩, hmark⟩

theorem pairwise_placeOf_candidates (minCalls : ℤ) :
    (candidates chunks minCalls).Pairwise fun a b =>
      placeOf chunks a < placeOf chunks b := by
  have hfirst : (firstByKey Chunk.id chunks).Pairwise fun a b =>
      placeOf chunks a < placeOf chunks b := by
    apply pairwise_firstByKey
    rintro before c after rfl hbefore b hb
    have hfound : before.findIdx (fun d => d.id == b.id) < before.length :=
      List.findIdx_lt_length_of_exists ⟨b, hb, beq_self_eq_true b.id⟩
    have hmissing : ¬ before.findIdx (fun d => d.id == c.id) < before.length := by
      rw [List.findIdx_lt_length]
      rintro ⟨d, hd, hid⟩
      exact hbefore d hd (beq_iff_eq.mp hid)
    rw [placeOf, placeOf, List.findIdx_append, List.findIdx_append,
      if_pos hfound, if_neg hmissing]
    exact Nat.lt_of_lt_of_le hfound (Nat.le_add_left _ _)
  rw [candidates, chunks_ofChunks]
  exact hfirst.sublist (List.filter_sublist.trans List.filter_sublist)

/-! ## Ranking the candidates -/

section

variable (g : CallGraph)

theorem entryBefore_iff {a b : Chunk} : g.entryBefore a b = true ↔
    g.timesCalled a.name < g.timesCalled b.name ∨ g.timesCalled a.name =
      g.timesCalled b.name ∧
      (b.calls.length < a.calls.length ∨
        a.calls.length = b.calls.length ∧ g.position a ≤ g.position b) := by
  unfold entryBefore
  split
  · rw [decide_eq_true_iff]
    omega
  · split
    · rw [decide_eq_true_iff]
      omega
    · rw [decide_eq_true_iff]
      omega

theorem entryBefore_trans (a b c : Chunk) (hab : g.entryBefore a b)
    (hbc : g.entryBefore b c) :
    g.entryBefore a c := by
  rw [entryBefore_iff] at *
  omega

theorem entryBefore_total (a b : Chunk) : g.entryBefore a b || g.entryBefore b a := by
  rw [Bool.or_eq_true, entryBefore_iff, entryBefore_iff]
  omega

end

def ranked (chunks : List Chunk) (minCalls : ℤ) : List Chunk :=
  (candidates chunks minCalls).mergeSort (ofChunks chunks).entryBefore

theorem mem_ranked {minCalls : ℤ} {c : Chunk} :
    c ∈ ranked chunks minCalls ↔ IsCandidate chunks minCalls c := by
  rw [ranked, List.mem_mergeSort, mem_candidates]

theorem pairwise_ranked (minCalls : ℤ) :
    (ranked chunks minCalls).Pairwise (Outranks chunks) := by
  have hsorted : (ranked chunks minCalls).Pairwise fun a b =>
      (ofChunks chunks).entryBefore a b :=
    List.pairwise_mergeSort (ofChunks chunks).entryBefore_trans
      (ofChunks chunks).entryBefore_total _
  have hplaces : (ranked chunks minCalls).Pairwise fun a b =>
      placeOf chunks a ≠ placeOf chunks b := by
    have hdistinct : (candidates chunks minCalls).Pairwise fun a b =>
        placeOf chunks a ≠ placeOf chunks b :=
      (pairwise_placeOf_candidates minCalls).imp Nat.ne_of_lt
    exact hdistinct.perm (List.mergeSort_perm _ _).symm Ne.symm
  refine (hsorted.and hplaces).imp_of_mem fun {a b} ha hb h => ?_
  obtain ⟨hbefore, hplace⟩ := h
  have hposition := position_of_counts (mem_ranked.mp ha).counts
  have hposition' := position_of_counts (mem_ranked.mp hb).counts
  rw [entryBefore_iff, ← length_callers_eq, ← length_callers_eq, hposition,
    hposition'] at hbefore
  unfold Outranks callerCount
  omega

theorem entryPoints_of_candidate {minCalls : ℤ}
    (h : ∃ c, IsCandidate chunks minCalls c) (limit : ℤ) :
    (ofChunks chunks).entryPoints limit minCalls =
      (ranked chunks minCalls).take limit.toNat := by
  obtain ⟨c, hc⟩ := h
  have hsome : candidates chunks minCalls ≠ [] := List.ne_nil_of_mem (mem_candidates.mpr hc)
  have hempty : ¬ (candidates chunks minCalls).isEmpty = true :=
    fun hnil => hsome (List.isEmpty_iff.mp hnil)
  exact if_neg hempty

theorem entryPoints_of_no_candidate {minCalls : ℤ}
    (h : ¬ ∃ c, IsCandidate chunks minCalls c) (limit : ℤ) :
    (ofChunks chunks).entryPoints limit minCalls =
      ((counting chunks).filter Chunk.isCode).take limit.toNat := by
  have hnone : candidates chunks minCalls = [] := by
    rw [List.eq_nil_iff_forall_not_mem]
    intro c hc
    exact h ⟨c, mem_candidates.mp hc⟩
  have hempty : (candidates chunks minCalls).isEmpty = true := List.isEmpty_iff.mpr hnone
  rw [← chunks_ofChunks]
  exact if_pos hempty

/-- What is left out of the first entries of a list stands behind each of them. -/
theorem rel_of_not_mem_take {α : Type} {r : α → α → Prop} {xs : List α} (h : xs.Pairwise r)
    {n : ℕ} {x y : α} (hx : x ∈ xs.take n) (hy : y ∈ xs)
    (hout : y ∉ xs.take n) : r x y := by
  rw [← List.take_append_drop n xs, List.pairwise_append] at h
  rw [← List.take_append_drop n xs, List.mem_append] at hy
  exact h.2.2 x hx y (hy.resolve_left hout)

theorem counts_of_mem_entryPoints {limit minCalls : ℤ} {c : Chunk}
    (h : c ∈ (ofChunks chunks).entryPoints limit minCalls) : Counts chunks c := by
  by_cases hsome : ∃ c, IsCandidate chunks minCalls c
  · rw [entryPoints_of_candidate hsome] at h
    exact (mem_ranked.mp (List.mem_of_mem_take h)).counts
  · rw [entryPoints_of_no_candidate hsome] at h
    exact mem_firstByKey.mp (List.mem_of_mem_filter (List.mem_of_mem_take h))

/-! ## Flows -/

theorem not_mem_related_self {start : Chunk} (hstart : Counts chunks start) (depth : ℤ) :
    ∀ c ∈ (ofChunks chunks).related start.id depth, c.id ≠ start.id := by
  intro c hc hid
  obtain ⟨hne, n, -, -, path⟩ := (mem_related hstart).mp hc
  exact hne (eq_of_id_eq (path.counts hstart) hstart hid)

/-- The entry points are the first candidates in their order. All of them are
candidates, and no candidate that is left out outranks one that is chosen. Where there
is no candidate, the first pieces of code are chosen. A limit below one leaves none. The
flows are the entry points in their order, each with the chunks reached from it, and the
entry is not among these. -/
theorem entryPoints_chosen_by_rank (chunks : List Chunk) (limit minCalls depth : ℤ) :
    let g := ofChunks chunks
    let chosen := g.entryPoints limit minCalls
    ((∃ c, IsCandidate chunks minCalls c) →
      (∃ ranked : List Chunk, (∀ c, c ∈ ranked ↔ IsCandidate chunks minCalls c) ∧
        ranked.Pairwise (Outranks chunks) ∧
        chosen = ranked.take limit.toNat) ∧
      (∀ c ∈ chosen, IsCandidate chunks minCalls c) ∧
      ∀ c, IsCandidate chunks minCalls c → c ∉ chosen →
        ∀ e ∈ chosen, ¬ Outranks chunks c e) ∧
    ((¬ ∃ c, IsCandidate chunks minCalls c) →
      ∃ code, ListsCounting chunks (fun c => c.isCode = true) code ∧
        chosen = code.take limit.toNat) ∧
    g.flows limit depth minCalls = chosen.map (fun e => ⟨e, g.related e.id depth⟩) ∧
    ∀ flow ∈ g.flows limit depth minCalls, ∀ c ∈ flow.related, c.id ≠ flow.entry.id := by
  intro g chosen
  refine ⟨fun hsome => ?_, fun hnone => ?_, rfl, ?_⟩
  · have hchosen : chosen = (ranked chunks minCalls).take limit.toNat :=
      entryPoints_of_candidate hsome limit
    refine ⟨⟨ranked chunks minCalls, fun c => mem_ranked,
      pairwise_ranked minCalls, hchosen⟩, ?_, ?_⟩
    · intro c hc
      rw [hchosen] at hc
      exact mem_ranked.mp (List.mem_of_mem_take hc)
    · intro c hc hout e he
      rw [hchosen] at hout he
      exact (rel_of_not_mem_take (pairwise_ranked minCalls) he
        (mem_ranked.mpr hc) hout).asymm
  · exact ⟨_, listsCounting_filter fun c => Iff.rfl,
      entryPoints_of_no_candidate hnone limit⟩
  · intro flow hflow
    obtain ⟨e, he, rfl⟩ := List.mem_map.mp hflow
    exact not_mem_related_self (counts_of_mem_entryPoints he) depth

/-- A hidden helper, a leaf that is called twice, and two functions that nothing calls. -/
def sampleProgram : List Chunk :=
  [sampleFunction "_helper" [], sampleFunction "leaf" [], sampleFunction "first" ["leaf"],
    sampleFunction "main" ["leaf", "_helper"]]

/-- Of the functions that nothing calls the later one makes more calls and comes first.
The leaf is left out by the limit, and the helper is no candidate. -/
theorem entryPoints_sampleProgram :
    let leaf := sampleFunction "leaf" []
    let chosen := (ofChunks sampleProgram).entryPoints 2 3
    IsCandidate sampleProgram 3 leaf ∧ chosen.map Chunk.name = ["main", "first"] ∧
      (∀ e ∈ chosen, ¬ Outranks sampleProgram leaf e) ∧
      ((ofChunks sampleProgram).flows 2 1 3).map (fun flow => flow.related.map Chunk.name) =
        [["leaf", "_helper"], ["leaf"]] := by
  intro leaf chosen
  let first := sampleFunction "first" ["leaf"]
  let main := sampleFunction "main" ["leaf", "_helper"]
  have hcandidates : candidates sampleProgram 3 = [leaf, first, main] := rfl
  have hleaf : IsCandidate sampleProgram 3 leaf :=
    mem_candidates.mp (by rw [hcandidates]; exact List.mem_cons_self)
  have hinsert := fun c cs => (mergeSort_cons_eq (ofChunks sampleProgram).entryBefore_trans
    (ofChunks sampleProgram).entryBefore_total c cs).1
  have hranked : ranked sampleProgram 3 = [main, first, leaf] := by
    rw [ranked, hcandidates, hinsert, hinsert, hinsert, List.mergeSort_nil]
    rfl
  have hchosen : chosen = [main, first] := by
    rw [show chosen = _ from entryPoints_of_candidate ⟨leaf, hleaf⟩ 2, hranked]
    rfl
  have hout : leaf ∉ chosen := by
    intro hmem
    have hname := List.mem_map_of_mem (f := Chunk.name) hmem
    rw [hchosen] at hname
    exact absurd hname (by decide)
  obtain ⟨hsome, -, hflows, -⟩ := entryPoints_chosen_by_rank sampleProgram 2 3 1
  obtain ⟨-, -, hrank⟩ := hsome ⟨leaf, hleaf⟩
  refine ⟨hleaf, by rw [hchosen]; rfl, hrank leaf hleaf hout, ?_⟩
  rw [hflows, show (ofChunks sampleProgram).entryPoints 2 3 = [main, first] from hchosen]
  decide +kernel

end CallGraph

end CodeRetrieval
