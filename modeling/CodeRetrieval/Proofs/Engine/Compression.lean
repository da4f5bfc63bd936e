import CodeRetrieval.Engine.Compression
import CodeRetrieval.Proofs.Chunk.Version
import CodeRetrieval.Proofs.Data.Results

/-!
# What compression makes of chunks

Compression keeps the number and the order of the chunks, and replaces each by itself or
by itself with shorter code.
-/

namespace CodeRetrieval.Compression

/-- A text that is not blank replaces the code of a chunk, and nothing else changes it. -/
theorem value_applied_eq_ok {c d : Chunk} {answer : Except Refusal String}
    (h : (applied c answer).value = .ok d) :
    (∃ reply, answer = .ok reply ∧ Text.allBlank reply.toList = false ∧
      d = c.withCompressedCode reply) ∨
      (∀ reply, answer = .ok reply → Text.allBlank reply.toList = true) ∧ d = c := by
  cases answer with
  | error refusal =>
      cases refusal with
      | failed reason =>
          obtain rfl := Except.ok.inj h
          exact .inr ⟨by simp, rfl⟩
      | notText reason => cases h
  | ok code =>
      rw [applied] at h
      split at h
      · rename_i hblank
        obtain rfl := Except.ok.inj h
        refine .inr ⟨fun reply hreply => ?_, rfl⟩
        obtain rfl := Except.ok.inj hreply
        exact hblank
      · rename_i hblank
        obtain rfl := Except.ok.inj h
        exact .inl ⟨code, rfl, Bool.not_eq_true _ ▸ hblank, rfl⟩

theorem isCompressedFrom_of_applied {o c : Chunk} {answer : Except Refusal String}
    (h : (applied o answer).value = .ok c) : c.IsCompressedFrom o := by
  rcases value_applied_eq_ok h with ⟨reply, -, -, rfl⟩ | ⟨-, rfl⟩
  · exact .inr ⟨reply, rfl⟩
  · exact .inl rfl

theorem forall₂_compressFrom (compressor : Compressor) (limits : Limits) (asked : Nat)
    (chunks : List Chunk) :
    List.Forall₂ (fun o result => ∀ c, result.value = .ok c → c.IsCompressedFrom o) chunks
      (compressFrom compressor limits asked chunks) := by
  induction chunks generalizing asked with
  | nil => exact .nil
  | cons o chunks ih =>
      rw [compressFrom]
      split
      · exact .cons (fun c h => isCompressedFrom_of_applied h) (ih (asked + 1))
      · refine .cons (fun c h => ?_) (ih asked)
        obtain rfl := Except.ok.inj h
        exact .inl rfl

theorem forall₂_of_compress_eq_ok {compressor : Compressor} {limits : Limits}
    {chunks prepared : List Chunk}
    (h : (compress compressor limits chunks).value = .ok prepared) :
    List.Forall₂ (fun o c => c.IsCompressedFrom o) chunks prepared := by
  rw [compress, Noted.value_andThen, Noted.value_map, Noted.value_sequence, mapM_eq_ok,
    List.forall₂_map_left_iff] at h
  exact forall₂_trans (forall₂_compressFrom compressor limits 0 chunks) h
    fun o result c hresult hc => hresult c hc

/-! ## One chunk among others -/

variable {compressor : Compressor} {limits : Limits} {chunks result : List Chunk}

theorem admits_iff {c : Chunk} :
    limits.admits c ↔ limits.threshold < c.code.length ∧
      (c.code.length : Int) ≤ limits.ceiling := by
  rw [Limits.admits, Bool.and_eq_true, decide_eq_true_iff, decide_eq_true_iff]

/-- The chunks that are handed to the compressor, each with the number of those before
it. -/
def requests (limits : Limits) (chunks : List Chunk) : List (Chunk × Nat) :=
  (chunks.filter limits.admits).zipIdx

def compressOne (compressor : Compressor) (limits : Limits) (asked : Nat) (c : Chunk) :
    Noted (Except String Chunk) :=
  if limits.admits c then (compressor asked c limits.threshold).andThen (applied c)
    else .silent (.ok c)

theorem compressFrom_cons (asked : Nat) (c : Chunk) :
    compressFrom compressor limits asked (c :: chunks) =
      compressOne compressor limits asked c ::
        compressFrom compressor limits (asked + [c].countP limits.admits) chunks := by
  rw [compressFrom, compressOne, List.countP_singleton]
  split <;> rfl

theorem getElem?_compressFrom (asked i : Nat) :
    (compressFrom compressor limits asked chunks)[i]? =
      chunks[i]?.map (compressOne compressor limits
        (asked + (chunks.take i).countP limits.admits)) := by
  induction chunks generalizing asked i with
  | nil => rfl
  | cons c chunks ih =>
      rw [compressFrom_cons]
      cases i with
      | zero => rfl
      | succ i =>
          rw [List.getElem?_cons_succ, List.getElem?_cons_succ, ih, List.take_succ_cons,
            Nat.add_assoc, ← List.countP_append]
          rfl

theorem value_compress : (compress compressor limits chunks).value
    = (compressFrom compressor limits 0 chunks).mapM Noted.value := by
  rw [compress, Noted.value_andThen, Noted.value_map, Noted.value_sequence, List.mapM_map]
  rfl

/-- The answer about the chunk `c` at place `i`, if it is handed over. -/
def answerAt (compressor : Compressor) (limits : Limits) (chunks : List Chunk)
    (i : Nat) (c : Chunk) :
    Except Refusal String :=
  (compressor ((chunks.take i).countP limits.admits) c limits.threshold).value

/-- What comes of a chunk depends on the answer about it alone. -/
theorem exists_of_compress_eq_ok
    (h : (compress compressor limits chunks).value = .ok result) {i : Nat} {c : Chunk}
    (hc : chunks[i]? = some c) :
    ∃ d, result[i]? = some d ∧
      (if limits.admits c then (applied c (answerAt compressor limits chunks i c)).value
        else .ok c) = .ok d := by
  rw [value_compress, mapM_eq_ok] at h
  have hone : (compressFrom compressor limits 0 chunks)[i]?
      = some (compressOne compressor limits ((chunks.take i).countP limits.admits) c) := by
    rw [getElem?_compressFrom, hc, Nat.zero_add]
    rfl
  obtain ⟨d, hd, hvalue⟩ := exists_of_getElem?_left h hone
  refine ⟨d, hd, ?_⟩
  rw [← hvalue, compressOne]
  split <;> rfl

theorem notices_compressFrom (asked : Nat) :
    (compressFrom compressor limits asked chunks).flatMap Noted.notices =
      ((chunks.filter limits.admits).zipIdx asked).flatMap fun (c, asked) =>
        ((compressor asked c limits.threshold).andThen (applied c)).notices := by
  induction chunks generalizing asked with
  | nil => rfl
  | cons c chunks ih =>
      rw [compressFrom]
      split
      · rename_i h
        rw [List.filter_cons_of_pos h, List.zipIdx_cons, List.flatMap_cons,
          List.flatMap_cons, ih]
      · rename_i h
        rw [List.filter_cons_of_neg h, List.flatMap_cons, ih]
        rfl

theorem exists_applied_eq_ok {c : Chunk} {answer : Except Refusal String}
    (h : ∀ reason, answer ≠ .error (.notText reason)) :
    ∃ d, (applied c answer).value = .ok d := by
  cases answer with
  | error refusal =>
      cases refusal with
      | failed reason => exact ⟨c, rfl⟩
      | notText reason => exact absurd rfl (h reason)
  | ok code =>
      rw [applied]
      split
      · exact ⟨c, rfl⟩
      · exact ⟨_, rfl⟩

/-- A chunk in the limits is handed over after those in the limits that come before it. -/
theorem mem_requests {i : Nat} {c : Chunk} (hc : chunks[i]? = some c)
    (h : limits.admits c) :
    (c, (chunks.take i).countP limits.admits) ∈ requests limits chunks := by
  rw [requests, List.mem_zipIdx_iff_getElem?]
  induction chunks generalizing i with
  | nil => cases hc
  | cons a chunks ih =>
      cases i with
      | zero =>
          obtain rfl := Option.some.inj hc
          rw [List.filter_cons_of_pos h]
          rfl
      | succ i =>
          have ih := ih hc
          rw [List.take_succ_cons]
          by_cases ha : limits.admits a
          · rw [List.filter_cons_of_pos ha, List.countP_cons_of_pos ha]
            exact ih
          · rw [List.filter_cons_of_neg ha, List.countP_cons_of_neg ha]
            exact ih

/-- Where all answers are texts or failures, nothing ends the compression. -/
theorem exists_compress_eq_ok
    (h : ∀ request ∈ requests limits chunks, ∀ reason,
      (compressor request.2 request.1 limits.threshold).value ≠ .error (.notText reason)) :
    ∃ result, (compress compressor limits chunks).value = .ok result := by
  rw [value_compress]
  apply exists_mapM_eq_ok
  intro x hx
  obtain ⟨i, hi⟩ := List.mem_iff_getElem?.mp hx
  rw [getElem?_compressFrom, Nat.zero_add] at hi
  obtain ⟨c, hc, rfl⟩ := Option.map_eq_some_iff.mp hi
  rw [compressOne]
  split
  · rename_i hadmits
    exact exists_applied_eq_ok (h _ (mem_requests hc hadmits))
  · exact ⟨c, rfl⟩

/-- Compression touches only what it may. Where the compressor answers by texts or
fails, all chunks stay in their places. It is asked about the chunks whose code is
longer than the threshold and not longer than the ceiling, about each once and in order,
and about no others. A chunk about which it answers by a text that is not blank gets
that text for its code and the size of the code it had; any other chunk stays as it is.
The answer about one chunk changes no other one: where another compressor says the same
about a chunk, it gives the same in its place. -/
theorem compression_touches_only_admitted (compressor : Compressor) (limits : Limits)
    (chunks : List Chunk) (htexts : ∀ request ∈ requests limits chunks, ∀ reason,
    (compressor request.2 request.1 limits.threshold).value ≠ .error (.notText reason)) :
    ∃ result, (compress compressor limits chunks).value = .ok result ∧
      result.length = chunks.length ∧
      (∀ c, limits.admits c ↔ limits.threshold < c.code.length ∧
        (c.code.length : Int) ≤ limits.ceiling) ∧
      (compress compressor limits chunks).notices =
        oversizeNotice limits chunks ++ ((requests limits chunks).flatMap fun (c, asked) =>
          ((compressor asked c limits.threshold).andThen (applied c)).notices) ∧
      (∀ i c, chunks[i]? = some c →
        (∀ reply, limits.admits c → answerAt compressor limits chunks i c = .ok reply →
          Text.allBlank reply.toList = false →
          ∃ d, result[i]? = some d ∧
            d = { c with code := reply, fullSize := some c.code.length } ∧
            d.compressed = true) ∧
        ((limits.admits c → ∀ reply, answerAt compressor limits chunks i c = .ok reply →
          Text.allBlank reply.toList = true) → result[i]? = some c)) ∧
      ∀ (other : Compressor)
        (result' : List Chunk), (compress other limits chunks).value = .ok result' →
        ∀ i c, chunks[i]? = some c →
          (limits.admits c → answerAt other limits chunks i c =
            answerAt compressor limits chunks i c) →
          result'[i]? = result[i]? := by
  obtain ⟨result, hresult⟩ := exists_compress_eq_ok htexts
  refine ⟨result, hresult, (forall₂_of_compress_eq_ok hresult).length_eq.symm,
    fun c => admits_iff, ?_, ?_, ?_⟩
  · rw [compress, Noted.notices_andThen, Noted.notices_map, Noted.notices_sequence,
      notices_compressFrom]
    rfl
  · intro i c hc
    obtain ⟨d, hd, hone⟩ := exists_of_compress_eq_ok hresult hc
    rw [hd]
    constructor
    · intro reply hadmits hreply htext
      rw [if_pos hadmits] at hone
      rcases value_applied_eq_ok hone with ⟨reply', hreply', -, rfl⟩ | ⟨hblank, -⟩
      · obtain rfl := Except.ok.inj (hreply.symm.trans hreply')
        exact ⟨_, rfl, rfl, rfl⟩
      · cases htext.symm.trans (hblank reply hreply)
    · intro hblank
      split at hone
      · rename_i hadmits
        rcases value_applied_eq_ok hone with ⟨reply, hreply, htext, -⟩ | ⟨-, rfl⟩
        · cases htext.symm.trans (hblank hadmits reply hreply)
        · rfl
      · rw [Except.ok.inj hone]
  · intro other result' hresult' i c hc hsame
    obtain ⟨d, hd, hone⟩ := exists_of_compress_eq_ok hresult hc
    obtain ⟨d', hd', hone'⟩ := exists_of_compress_eq_ok hresult' hc
    rw [hd, hd']
    by_cases hadmits : limits.admits c
    · rw [if_pos hadmits] at hone hone'
      rw [hsame hadmits, hone] at hone'
      rw [Except.ok.inj hone']
    · rw [if_neg hadmits] at hone hone'
      rw [← Except.ok.inj hone, ← Except.ok.inj hone']

/-- It shortens one function, fails about another one and gives blanks for all others. -/
def sampleCompressor : Compressor := fun _ c _ =>
  .silent <|
    if c.name == "g" then .ok "..."
    else if c.name == "h" then .error (.failed "overloaded")
    else .ok " "

def sampleUnits : List Chunk :=
  [.sample "f" "pass", .sample "g" "return 1", .sample "h" "return 2",
   .sample "k" "return 3", .sample "l" "return 1000"]

/-- Of five functions three are neither too short nor too long, and one of these is
shortened. -/
theorem compression_touches_only_admitted_sampleUnits :
    (∀ request ∈ requests ⟨4, 8⟩ sampleUnits, ∀ reason,
      (sampleCompressor request.2 request.1 4).value ≠ .error (.notText reason)) ∧
      (requests ⟨4, 8⟩ sampleUnits).map (fun request => request.1.name) = ["g", "h", "k"] ∧
      ∃ result, (compress sampleCompressor ⟨4, 8⟩ sampleUnits).value =
        .ok result ∧ result.length = 5 ∧
        result[0]? = some (.sample "f" "pass") ∧
        result[1]? = some { Chunk.sample "g" "..." with fullSize := some 8 } ∧
        result[2]? = some (.sample "h" "return 2") ∧
          result[3]? = some (.sample "k" "return 3") ∧
        result[4]? = some (.sample "l" "return 1000") := by
  have htexts : ∀ request ∈ requests ⟨4, 8⟩ sampleUnits, ∀ reason,
      (sampleCompressor request.2 request.1 4).value ≠ .error (.notText reason) := by
    intro request _ reason
    simp only [sampleCompressor, Noted.value_silent]
    split
    · simp
    · split <;> simp
  obtain ⟨result, hresult, hlength, -, -, hplaces, -⟩ :=
    compression_touches_only_admitted sampleCompressor ⟨4, 8⟩ sampleUnits htexts
  refine ⟨htexts, by decide +kernel, result, hresult, hlength, ?_, ?_, ?_, ?_, ?_⟩
  · refine (hplaces 0 (.sample "f" "pass") rfl).2 fun hadmits => ?_
    have hshort : (Limits.mk 4 8).admits (.sample "f" "pass") = false := by decide +kernel
    cases hshort.symm.trans hadmits
  · obtain ⟨d, hd, rfl, -⟩ :=
      (hplaces 1 (.sample "g" "return 1") rfl).1 "..." (by decide +kernel)
        rfl (by decide +kernel)
    have hsize : "return 1".length = 8 := by decide +kernel
    rw [hd]
    show some { Chunk.sample "g" "..." with fullSize := some "return 1".length } = _
    rw [hsize]
  · exact (hplaces 2 (.sample "h" "return 2") rfl).2 fun _ reply hreply => by cases hreply
  · refine (hplaces 3 (.sample "k" "return 3") rfl).2 fun _ reply hreply => ?_
    obtain rfl := Except.ok.inj hreply
    decide +kernel
  · refine (hplaces 4 (.sample "l" "return 1000") rfl).2 fun hadmits => ?_
    have hlong : (Limits.mk 4 8).admits (.sample "l" "return 1000") = false := by
      decide +kernel
    cases hlong.symm.trans hadmits

end CodeRetrieval.Compression
