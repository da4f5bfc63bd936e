import CodeRetrieval.Proofs.Embedding.Batches

/-!
# Places in batches

Cutting a list into batches does not show in what comes of it: each chunk gets the
vector that the source gave for its own text, which its place in the list tells among
all batches. A source that makes each vector of one text alone gives the same for
batches of all sizes.
-/

namespace CodeRetrieval.Embedding

/-! ## Batches of a list -/

section

variable {α : Type}

/-- Pieces of a list: each has `size` entries, except that the last one may have fewer.
None is empty. -/
def AreBatches (size : Nat) (pieces : List (List α)) : Prop :=
  ∀ (q : Nat) (piece : List α), pieces[q]? = some piece →
    piece ≠ [] ∧ piece.length ≤ size ∧ (q + 1 < pieces.length → piece.length = size)

theorem areBatches_cons {size : Nat} {piece : List α} {pieces : List (List α)} :
    AreBatches size (piece :: pieces) ↔
      piece ≠ [] ∧ piece.length ≤ size ∧ (pieces ≠ [] → piece.length = size) ∧
        AreBatches size pieces := by
  constructor
  · intro h
    obtain ⟨hne, hle, hfull⟩ := h 0 piece rfl
    refine ⟨hne, hle, fun hmore => hfull ?_, fun q piece' hpiece' => ?_⟩
    · simpa using List.length_pos_iff.mpr hmore
    · obtain ⟨hne', hle', hfull'⟩ := h (q + 1) piece' hpiece'
      exact ⟨hne', hle', fun hq => hfull' (Nat.succ_lt_succ hq)⟩
  · rintro ⟨hne, hle, hfull, hrest⟩ q piece' hpiece'
    cases q with
    | zero =>
        obtain rfl := Option.some.inj hpiece'
        exact ⟨hne, hle, fun hq =>
          hfull (List.length_pos_iff.mp (Nat.lt_of_succ_lt_succ hq))⟩
    | succ q =>
        obtain ⟨hne', hle', hfull'⟩ := hrest q piece' hpiece'
        exact ⟨hne', hle', fun hq => hfull' (Nat.lt_of_succ_lt_succ hq)⟩

theorem AreBatches.of_forall₂ {β : Type} {size : Nat} {pieces : List (List α)}
    {others : List (List β)} (h : AreBatches size pieces)
    (hlength : List.Forall₂ (fun p o => o.length = p.length) pieces others) :
    AreBatches size others := by
  intro q other hother
  obtain ⟨piece, hpiece, hsame⟩ := exists_of_getElem?_right hlength hother
  obtain ⟨hne, hle, hfull⟩ := h q piece hpiece
  refine ⟨?_, hsame ▸ hle, fun hq => hsame ▸ hfull (hlength.length_eq ▸ hq)⟩
  rwa [← List.length_pos_iff, hsame, List.length_pos_iff]

/-- The entry at a place of the list is in the batch that its place says. -/
theorem AreBatches.getElem?_flatten {size : Nat} {pieces : List (List α)}
    (h : AreBatches size pieces) (i : Nat) :
    pieces.flatten[i]? = pieces[i / size]?.bind fun piece => piece[i % size]? := by
  induction pieces generalizing i with
  | nil => rfl
  | cons piece pieces ih =>
      obtain ⟨hne, hle, hfull, hrest⟩ := areBatches_cons.mp h
      have hpos : 0 < piece.length := List.length_pos_iff.mpr hne
      rw [List.flatten_cons]
      by_cases hi : i < size
      · rw [Nat.div_eq_of_lt hi, Nat.mod_eq_of_lt hi]
        by_cases hin : i < piece.length
        · rw [List.getElem?_append_left hin]
          rfl
        · -- a batch that is not full is the last one
          have hlast : pieces = [] := by
            by_contra hmore
            have hsame := hfull hmore
            omega
          rw [hlast, List.flatten_nil, List.append_nil]
          rfl
      · have hbehind : i / size = (i - size) / size + 1 := by
          rw [← Nat.add_div_right _ (by omega), Nat.sub_add_cancel (by omega)]
        rw [hbehind, List.getElem?_cons_succ, Nat.mod_eq_sub_mod (by omega), ← ih hrest]
        by_cases hmore : pieces = []
        · rw [hmore, List.flatten_nil, List.append_nil,
            List.getElem?_eq_none (by omega), List.getElem?_nil]
        · rw [List.getElem?_append_right (by rw [hfull hmore]; omega), hfull hmore]

theorem areBatches_batches {size : Nat} (hsize : 0 < size) (xs : List α) :
    AreBatches size (batches size xs) := by
  induction xs using batches.induct size with
  | case1 =>
      intro q piece hpiece
      rw [batches] at hpiece
      cases hpiece
  | case2 x xs h => omega
  | case3 x xs h ih =>
      rw [batches, if_neg h, areBatches_cons]
      refine ⟨?_, ?_, ?_, ih⟩
      · simp [h]
      · rw [List.length_take]
        omega
      · intro hmore
        have hleft : xs.drop (size - 1) ≠ [] := by
          intro hnone
          rw [hnone, batches] at hmore
          exact hmore rfl
        have hlong := List.length_pos_iff.mpr hleft
        rw [List.length_drop] at hlong
        rw [List.length_take, List.length_cons]
        omega

end

/-! ## Embedding the batches -/

variable {E : Type} {source : Source E} {batchSize : Int} {chunks : List Chunk}

def requests (batchSize : Int) (chunks : List Chunk) : List (List String) :=
  (batches batchSize.toNat chunks).map fun batch => batch.map text

theorem flatten_requests (hsize : 1 ≤ batchSize) :
    (requests batchSize chunks).flatten = chunks.map text := by
  rw [requests, ← List.map_flatten, flatten_batches (by omega)]

theorem areBatches_requests (hsize : 1 ≤ batchSize) :
    AreBatches batchSize.toNat (requests batchSize chunks) := by
  refine (areBatches_batches (by omega) chunks).of_forall₂ ?_
  rw [requests, List.forall₂_map_right_iff, List.forall₂_same]
  exact fun batch _ => List.length_map text

theorem notices_embedBatch (count total number : Nat) (batch : List Chunk) :
    (embedBatch source count total number batch).notices =
      .batchStarted number batch.length :: (source number (batch.map text)).notices ++
        if (source number (batch.map text)).value.isOk then []
          else [.batchFailed count total number] := by
  rw [embedBatch, Noted.notices_andThen, Noted.notices_andThen,
    List.singleton_append, List.cons_append]
  cases (source number (batch.map text)).value <;> rfl

/-- The source is asked for each batch once and in order, and each batch that gets no
vectors is noticed. -/
theorem notices_embed (hsize : 1 ≤ batchSize) :
    (embed source batchSize chunks).notices =
      ((requests batchSize chunks).zipIdx 1).flatMap fun (texts, number) =>
        .batchStarted number texts.length :: (source number texts).notices ++
          if (source number texts).value.isOk then []
          else [.batchFailed chunks.length (requests batchSize chunks).length number] := by
  rw [embed, if_neg (by omega), Noted.notices_map, Noted.notices_sequence, List.flatMap_map,
    requests, List.zipIdx_map, List.flatMap_map, List.length_map]
  apply List.flatMap_congr
  rintro ⟨batch, number⟩ -
  rw [notices_embedBatch]
  simp

theorem someBatchFails_iff (hsize : 1 ≤ batchSize) :
    SomeBatchFails source batchSize chunks ↔
      ∃ q texts, (requests batchSize chunks)[q]? = some texts ∧
      ∀ vectors, (source (q + 1) texts).value = .ok vectors →
        vectors.length ≠ texts.length := by
  constructor
  · rintro ⟨-, batch, number, hentry, hfails⟩
    obtain ⟨q, hq⟩ := List.mem_iff_getElem?.mp hentry
    rw [List.getElem?_zipIdx] at hq
    obtain ⟨batch', hbatch, hsame⟩ := Option.map_eq_some_iff.mp hq
    obtain ⟨rfl, rfl⟩ := Prod.mk.inj hsame
    refine ⟨q, batch'.map text, by rw [requests, List.getElem?_map, hbatch]; rfl,
      fun vectors hvectors => ?_⟩
    rw [List.length_map]
    exact hfails vectors (by rwa [Nat.add_comm])
  · rintro ⟨q, texts, htexts, hfails⟩
    rw [requests, List.getElem?_map] at htexts
    obtain ⟨batch, hbatch, rfl⟩ := Option.map_eq_some_iff.mp htexts
    refine ⟨hsize, batch, q + 1, List.mem_of_getElem? (i := q) ?_,
      fun vectors hvectors => ?_⟩
    · rw [List.getElem?_zipIdx, hbatch, Nat.add_comm]
      rfl
    · rw [← List.length_map text]
      exact hfails vectors hvectors

/-- Where no batch fails, each chunk gets the vector at the place of its text in the
answer about its batch. -/
theorem exists_embed_eq_ok (hsize : 1 ≤ batchSize)
    (h : ¬ SomeBatchFails source batchSize chunks) :
    ∃ embedded, (embed source batchSize chunks).value = .ok embedded ∧
      embedded.length = chunks.length ∧
      ∀ i c, chunks[i]? = some c → ∃ texts vectors vector,
        (requests batchSize chunks)[i / batchSize.toNat]? = some texts ∧
        texts[i % batchSize.toNat]? = some (text c) ∧
        (source (i / batchSize.toNat + 1) texts).value = .ok vectors ∧
        vectors[i % batchSize.toNat]? = some vector ∧
        embedded[i]? = some (c.withEmbedding vector) := by
  let size := batchSize.toNat
  let parts := batches size chunks
  have hanswers : ∀ entry ∈ parts.zipIdx 1, ∃ part,
      attach entry.2 entry.1 (source entry.2 (entry.1.map text)).value = .ok part := by
    intro entry hentry
    cases hpart : attach entry.2 entry.1 (source entry.2 (entry.1.map text)).value with
    | ok part => exact ⟨part, rfl⟩
    | error e =>
        exact absurd ⟨hsize, entry.1, entry.2, hentry,
          exists_attach_eq_error.mp ⟨e, hpart⟩⟩ h
  obtain ⟨results, hresults⟩ := exists_mapM_eq_ok hanswers
  have hattached := mapM_eq_ok.mp hresults
  have hlengths : List.Forall₂ (fun batch part => part.length =
      batch.length) parts results := by
    rw [← List.zipIdx_map_fst 1 parts, List.forall₂_map_left_iff]
    exact hattached.imp fun entry part hpart =>
      (forall₂_of_attach_eq_ok hpart).length_eq.symm
  have hparts : AreBatches size parts := areBatches_batches (by omega) chunks
  have hflatten : parts.flatten = chunks := flatten_batches (by omega) chunks
  have hvalue : (embed source batchSize chunks).value = .ok results.flatten := by
    rw [value_embed hsize, hresults]
    rfl
  refine ⟨results.flatten, hvalue,
    (forall₂_of_embed_eq_ok hvalue).length_eq.symm, fun i c hc => ?_⟩
  rw [← hflatten, hparts.getElem?_flatten] at hc
  obtain ⟨batch, hbatch, hc⟩ := Option.bind_eq_some_iff.mp hc
  have hentry : (parts.zipIdx 1)[i / size]? = some (batch, 1 + i / size) := by
    rw [List.getElem?_zipIdx, hbatch]
    rfl
  obtain ⟨part, hpart, hattach⟩ := exists_of_getElem?_left hattached hentry
  obtain ⟨vectors, hvectors, hlength, rfl⟩ := attach_eq_ok.mp hattach
  obtain ⟨hin, -⟩ := List.getElem?_eq_some_iff.mp hc
  obtain ⟨vector, hvector⟩ : ∃ vector, vectors[i % size]? = some vector :=
    ⟨vectors[i % size], List.getElem?_eq_getElem _⟩
  refine ⟨batch.map text, vectors, vector, ?_, ?_, ?_, hvector, ?_⟩
  · rw [requests, List.getElem?_map, hbatch]
    rfl
  · rw [List.getElem?_map, hc]
    rfl
  · rw [Nat.add_comm]
    exact hvectors
  · rw [(hparts.of_forall₂ hlengths).getElem?_flatten, hpart]
    show (List.zipWith Chunk.withEmbedding batch vectors)[i % size]? = _
    rw [List.getElem?_zipWith, hc, hvector]

/-- Where every batch gets its vectors, and all of one length, each chunk gets a vector
of that length. -/
theorem exists_embed_eq_ok_of_length {d : Nat} (hsize : 1 ≤ batchSize) (chunks : List Chunk)
    (h : ∀ number texts, ∃ vectors, (source number texts).value = .ok vectors ∧
    vectors.length = texts.length ∧ ∀ vector ∈ vectors, vector.length = d) :
    ∃ embedded, (embed source batchSize chunks).value = .ok embedded ∧
      ∀ e ∈ embedded, ∀ vector, e.embedding = some vector → vector.length = d := by
  have hbatches : ¬ SomeBatchFails source batchSize chunks := by
    rintro ⟨-, batch, number, -, hfails⟩
    obtain ⟨vectors, hvectors, hlength, -⟩ := h number (batch.map text)
    exact hfails vectors hvectors (by rw [hlength, List.length_map])
  obtain ⟨embedded, hembedded, hlength, hplaces⟩ := exists_embed_eq_ok hsize hbatches
  refine ⟨embedded, hembedded, fun e he vector hvector => ?_⟩
  obtain ⟨i, hi⟩ := List.mem_iff_getElem?.mp he
  obtain ⟨hlt, -⟩ := List.getElem?_eq_some_iff.mp hi
  obtain ⟨texts, vectors, vector', -, -, hvectors, hvector', hplace⟩ :=
    hplaces i _ (List.getElem?_eq_getElem (hlength ▸ hlt))
  obtain ⟨vectors', hanswer, -, hd⟩ := h (i / batchSize.toNat + 1) texts
  obtain rfl := Except.ok.inj (hvectors.symm.trans hanswer)
  obtain rfl := Option.some.inj (hi.symm.trans hplace)
  obtain rfl := Option.some.inj hvector
  exact hd vector' (List.mem_of_getElem? hvector')

/-! ## Vectors of single texts -/

section

variable {vectorOf : String → Option (List Float)}

def withVectorOf (vectorOf : String → Option (List Float)) (c : Chunk) : Option Chunk :=
  (vectorOf (text c)).map c.withEmbedding

theorem mapM_withVectorOf (batch : List Chunk) :
    batch.mapM (withVectorOf vectorOf) =
      ((batch.map text).mapM vectorOf).map (List.zipWith Chunk.withEmbedding batch) := by
  induction batch with
  | nil => rfl
  | cons c batch ih =>
      rw [List.mapM_cons, ih, withVectorOf, List.map_cons, List.mapM_cons]
      cases vectorOf (text c) with
      | none => rfl
      | some vector => cases (batch.map text).mapM vectorOf <;> rfl

theorem length_of_mapM_eq_some {texts : List String} {vectors : List (List Float)}
    (h : texts.mapM vectorOf = some vectors) : vectors.length = texts.length := by
  induction texts generalizing vectors with
  | nil =>
      obtain rfl := Option.some.inj h
      rfl
  | cons t texts ih =>
      rw [List.mapM_cons] at h
      obtain ⟨vector, -, h⟩ := Option.bind_eq_some_iff.mp h
      obtain ⟨rest, hrest, h⟩ := Option.bind_eq_some_iff.mp h
      obtain rfl := Option.some.inj h
      rw [List.length_cons, List.length_cons, ih hrest]

theorem toOption_attach {number : Nat} {batch : List Chunk}
    {answer : Except (Fault E) (List (List Float))}
    (h : answer.toOption = (batch.map text).mapM vectorOf) :
    (attach number batch answer).toOption = batch.mapM (withVectorOf vectorOf) := by
  rw [mapM_withVectorOf, ← h]
  cases answer with
  | error fault => cases fault <;> rfl
  | ok vectors =>
      have hlength : vectors.length = batch.length := by
        rw [length_of_mapM_eq_some h.symm, List.length_map]
      rw [attach, if_pos hlength]
      rfl

/-- A source that makes each vector of one text alone embeds chunk by chunk. -/
theorem toOption_value_embed (hsize : 1 ≤ batchSize)
    (h : ∀ number texts, (source number texts).value.toOption = texts.mapM vectorOf) :
    (embed source batchSize chunks).value.toOption =
      chunks.mapM (withVectorOf vectorOf) := by
  have hbatch : (fun entry : List Chunk × Nat =>
      (attach entry.2 entry.1 (source entry.2 (entry.1.map text)).value).toOption)
        = List.mapM (withVectorOf vectorOf) ∘ Prod.fst :=
    funext fun entry => toOption_attach (h entry.2 (entry.1.map text))
  rw [value_embed hsize, toOption_map, toOption_mapM, hbatch, ← List.mapM_map,
    List.zipIdx_map_fst, mapM_flatten, flatten_batches (by omega)]

end

/-- Batching is invisible. The source is given the texts of the chunks in order, in
batches of which all but the last are full and none is empty. If it fails for a batch or
gives another number of vectors, nothing is embedded, and that is not blamed on the size
of batches. Otherwise each chunk stays in its place and gets the vector that stands in
the place of its own text. What a source makes of each text alone does not depend on the
size of batches. -/
theorem batching_is_invisible (source : Source E) {batchSize : Int} (hsize : 1 ≤ batchSize)
    (chunks : List Chunk) :
    let size := batchSize.toNat
    let asked := requests batchSize chunks
    let result := embed source batchSize chunks
    asked.flatten = chunks.map text ∧
    (∀ q texts, asked[q]? = some texts →
      texts ≠ [] ∧ texts.length ≤ size ∧ (q + 1 < asked.length → texts.length = size)) ∧
    result.notices = ((asked.zipIdx 1).flatMap fun (texts, number) =>
      .batchStarted number texts.length :: (source number texts).notices ++
        if (source number texts).value.isOk then []
          else [.batchFailed chunks.length asked.length number]) ∧
    ((∃ q texts, asked[q]? = some texts ∧
        ∀ vectors, (source (q + 1) texts).value = .ok vectors →
          vectors.length ≠ texts.length) →
      ∃ e, result.value = .error e ∧ ∀ n, e ≠ .batchSize n) ∧
    ((∀ q texts, asked[q]? = some texts →
        ∃ vectors, (source (q + 1) texts).value = .ok vectors ∧
          vectors.length = texts.length) →
      ∃ embedded, result.value = .ok embedded ∧ embedded.length = chunks.length ∧
        ∀ i c, chunks[i]? = some c → ∃ texts vectors vector,
          asked[i / size]? = some texts ∧ texts[i % size]? = some (text c) ∧
          (source (i / size + 1) texts).value = .ok vectors ∧
            vectors[i % size]? = some vector ∧
          embedded[i]? = some { c with embedding := some vector }) ∧
    ∀ vectorOf : String → Option (List Float),
      (∀ number texts, (source number texts).value.toOption = texts.mapM vectorOf) →
        result.value.toOption = chunks.mapM fun c =>
          (vectorOf (text c)).map c.withEmbedding := by
  intro size asked result
  refine ⟨flatten_requests hsize, areBatches_requests hsize,
    notices_embed hsize, ?_, ?_, ?_⟩
  · intro hfails
    obtain ⟨e, he⟩ := exists_embed_eq_error ((someBatchFails_iff hsize).mpr hfails)
    rcases embed_eq_error he with ⟨hsmall, -⟩ | ⟨-, hblamed⟩
    · omega
    · exact ⟨e, he, hblamed⟩
  · intro hanswers
    refine exists_embed_eq_ok hsize fun hfails => ?_
    obtain ⟨q, texts, htexts, hnone⟩ := (someBatchFails_iff hsize).mp hfails
    obtain ⟨vectors, hvectors, hlength⟩ := hanswers q texts htexts
    exact hnone vectors hvectors hlength
  · exact fun vectorOf h => toOption_value_embed hsize h

/-- A source whose vectors tell the number of the batch and the place in the batch. -/
def sampleSource : Source Empty := fun number texts =>
  .silent (.ok (texts.zipIdx.map fun (_, place) => [Float.ofNat number, Float.ofNat place]))

def sampleUnits : List Chunk :=
  [.sample "f" "pass", .sample "g" "pass", .sample "h" "pass"]

/-- The third of three chunks is the first one of the second batch of two. -/
theorem batching_is_invisible_sampleUnits :
    (1 : Int) ≤ 2 ∧ (requests 2 sampleUnits).map List.length = [2, 1] ∧
      ∃ embedded, (embed sampleSource 2 sampleUnits).value = .ok embedded ∧
        embedded.length = 3 ∧
        embedded[2]? =
          some { Chunk.sample "h" "pass" with embedding := some [2.0, 0.0] } := by
  have hanswers : ∀ q texts, (requests 2 sampleUnits)[q]? = some texts →
      ∃ vectors, (sampleSource (q + 1) texts).value = .ok vectors ∧
        vectors.length = texts.length :=
    fun q texts _ => ⟨_, rfl, by rw [List.length_map, List.length_zipIdx]⟩
  have hsize : (1 : Int) ≤ 2 := by decide
  obtain ⟨-, -, -, -, hembeds, -⟩ := batching_is_invisible sampleSource hsize sampleUnits
  obtain ⟨embedded, hembedded, hlength, hplaces⟩ := hembeds hanswers
  obtain ⟨texts, vectors, vector, htexts, -, hvectors, hvector, hthird⟩ := hplaces 2 _ rfl
  have hlast : (requests 2 sampleUnits)[1]? = some [text (.sample "h" "pass")] := by
    decide +kernel
  obtain rfl := Option.some.inj (hlast.symm.trans htexts)
  obtain rfl := Except.ok.inj hvectors
  obtain rfl := Option.some.inj hvector
  refine ⟨hsize, by decide +kernel, embedded, hembedded, hlength, ?_⟩
  have hfloats : [Float.ofNat 2, Float.ofNat 0] = [2.0, 0.0] := by decide +kernel
  rw [hthird, ← hfloats]
  rfl

end CodeRetrieval.Embedding
