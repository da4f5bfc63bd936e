import CodeRetrieval.Embedding.Batches
import CodeRetrieval.Proofs.Chunk.Version
import CodeRetrieval.Proofs.Data.Results

/-!
# Batches of chunks

The batches of a list make up the list, and where every batch gets its vectors each
chunk gets one.
-/

namespace CodeRetrieval.Embedding

theorem flatten_batches {α : Type} {size : Nat} (hsize : 0 < size) (xs : List α) :
    (batches size xs).flatten = xs := by
  induction xs using batches.induct size with
  | case1 => rw [batches, List.flatten_nil]
  | case2 x xs h => omega
  | case3 x xs h ih =>
      have hcut : (x :: xs).drop size = xs.drop (size - 1) := by
        obtain ⟨n, rfl⟩ := Nat.exists_eq_succ_of_ne_zero h
        rfl
      rw [batches, if_neg h, List.flatten_cons, ih, ← hcut, List.take_append_drop]

variable {E : Type}

theorem attach_eq_ok {number : Nat} {batch embedded : List Chunk}
    {answer : Except (Fault E) (List (List Float))} :
    attach number batch answer = .ok embedded ↔
      ∃ vectors, answer = .ok vectors ∧ vectors.length = batch.length ∧
        embedded = List.zipWith Chunk.withEmbedding batch vectors := by
  cases answer with
  | error fault => cases fault <;> simp [attach]
  | ok vectors =>
      rw [attach]
      split
      · rename_i hlength
        simp [hlength, eq_comm]
      · rename_i hlength
        simp [hlength]

theorem forall₂_of_attach_eq_ok {number : Nat} {batch embedded : List Chunk}
    {answer : Except (Fault E) (List (List Float))}
    (h : attach number batch answer = .ok embedded) :
    List.Forall₂ (fun c e => e.IsEmbeddingOf c) batch embedded := by
  obtain ⟨vectors, -, hlength, rfl⟩ := attach_eq_ok.mp h
  clear h
  -- there are as many vectors as chunks, so zipping them drops none of either
  induction batch generalizing vectors with
  | nil => exact .nil
  | cons c batch ih =>
      cases vectors with
      | nil => cases hlength
      | cons vector vectors =>
          exact .cons ⟨vector, rfl⟩ (ih vectors (Nat.succ.inj hlength))

/-- Batches are embedded one by one, and the first failure counts. -/
theorem value_embed {source : Source E} {batchSize : Int} (hsize : 1 ≤ batchSize)
    (chunks : List Chunk) :
    (embed source batchSize chunks).value =
      (((batches batchSize.toNat chunks).zipIdx 1).mapM fun entry =>
        attach entry.2 entry.1 (source entry.2 (entry.1.map text)).value).map
          List.flatten := by
  rw [embed, if_neg (by omega), Noted.value_map, Noted.value_sequence,
    List.map_map, List.mapM_map]
  rfl

/-- Where embedding succeeds every chunk gets a vector, and the chunks keep their order. -/
theorem forall₂_of_embed_eq_ok {source : Source E} {batchSize : Int}
    {chunks embedded : List Chunk}
    (h : (embed source batchSize chunks).value = .ok embedded) :
    List.Forall₂ (fun c e => e.IsEmbeddingOf c) chunks embedded := by
  by_cases hsize : 1 ≤ batchSize
  · rw [value_embed hsize] at h
    obtain ⟨parts, hparts, rfl⟩ := map_eq_ok.mp h
    have hbatches : List.Forall₂ (List.Forall₂ fun c e => Chunk.IsEmbeddingOf e c)
        (batches batchSize.toNat chunks)
        parts := by
      rw [← List.zipIdx_map_fst 1 (batches batchSize.toNat chunks),
        List.forall₂_map_left_iff]
      exact (mapM_eq_ok.mp hparts).imp fun entry part hpart => forall₂_of_attach_eq_ok hpart
    rw [← flatten_batches (show 0 < batchSize.toNat by omega) chunks]
    exact List.rel_flatten hbatches
  · rw [embed, if_pos (by omega)] at h
    cases h

/-! ## Failures -/

/-- The source gives no vectors for a batch, or not as many as it has chunks. -/
def BatchFails (source : Source E) (number : Nat) (batch : List Chunk) : Prop :=
  ∀ vectors, (source number (batch.map text)).value = .ok vectors →
    vectors.length ≠ batch.length

def SomeBatchFails (source : Source E) (batchSize : Int) (chunks : List Chunk) : Prop :=
  1 ≤ batchSize ∧ ∃ batch number, (batch, number) ∈
    (batches batchSize.toNat chunks).zipIdx 1 ∧
    BatchFails source number batch

theorem exists_attach_eq_error {source : Source E} {number : Nat} {batch : List Chunk} :
    (∃ e, attach number batch (source number (batch.map text)).value = .error e) ↔
      BatchFails source number batch := by
  rw [BatchFails]
  cases (source number (batch.map text)).value with
  | error fault =>
      simp only [reduceCtorEq, false_implies, implies_true, iff_true]
      cases fault with
      | refused reason => exact ⟨_, rfl⟩
      | broken reason => exact ⟨_, rfl⟩
  | ok vectors =>
      simp only [attach, Except.ok.injEq, forall_eq']
      split
      · rename_i h
        simp [h]
      · rename_i h
        simp [h]

theorem ne_batchSize_of_attach {number : Nat} {batch : List Chunk}
    {answer : Except (Fault E) (List (List Float))} {e : Error E}
    (h : attach number batch answer = .error e) (size : Int) : e ≠ .batchSize size := by
  rintro rfl
  cases answer with
  | error fault => cases fault <;> cases h
  | ok vectors =>
      rw [attach] at h
      split at h <;> cases h

/-- Embedding fails because batches hold nothing, which is then blamed, or because some
batch fails. -/
theorem embed_eq_error {source : Source E} {batchSize : Int} {chunks : List Chunk}
    {e : Error E} (h : (embed source batchSize chunks).value = .error e) :
    batchSize < 1 ∧ e = .batchSize batchSize ∨
      SomeBatchFails source batchSize chunks ∧ ∀ size, e ≠ .batchSize size := by
  by_cases hsize : 1 ≤ batchSize
  · rw [value_embed hsize, map_eq_error, mapM_eq_error] at h
    obtain ⟨before, ⟨batch, number⟩, after, hsplit, herror, -⟩ := h
    refine .inr ⟨⟨hsize, batch, number, by simp [hsplit], ?_⟩,
      ne_batchSize_of_attach herror⟩
    exact exists_attach_eq_error.mp ⟨e, herror⟩
  · rw [embed, if_pos (by omega)] at h
    exact .inl ⟨by omega, (Except.error.inj h).symm⟩

theorem exists_embed_eq_error {source : Source E} {batchSize : Int} {chunks : List Chunk}
    (h : SomeBatchFails source batchSize chunks) :
    ∃ e, (embed source batchSize chunks).value = .error e := by
  obtain ⟨hsize, batch, number, hentry, hfails⟩ := h
  simp only [value_embed hsize, map_eq_error]
  exact exists_mapM_eq_error.mpr ⟨(batch, number), hentry,
    exists_attach_eq_error.mpr hfails⟩

end CodeRetrieval.Embedding
