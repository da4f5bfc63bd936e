import CodeRetrieval.Chunk.Basic

/-!
# Versions of a chunk

A chunk may be compressed and may then get a vector. Neither changes what unit it is,
and only compression changes its code.
-/

namespace CodeRetrieval.Chunk

def IsCompressedFrom (c o : Chunk) : Prop :=
  c = o ∨ ∃ code, c = o.withCompressedCode code

def IsEmbeddingOf (c o : Chunk) : Prop :=
  ∃ vector, c = o.withEmbedding vector

def IsEmbeddedFrom (c o : Chunk) : Prop :=
  c = o ∨ c.IsEmbeddingOf o

/-- The chunk is the other one after compression and embedding, of which each may have
left it as it was. -/
def IsVersionOf (c o : Chunk) : Prop :=
  ∃ m : Chunk, m.IsCompressedFrom o ∧ c.IsEmbeddedFrom m

theorem IsCompressedFrom.id_eq {c o : Chunk} (h : c.IsCompressedFrom o) : c.id = o.id := by
  rcases h with rfl | ⟨code, rfl⟩ <;> rfl

theorem IsCompressedFrom.embedding_eq {c o : Chunk} (h : c.IsCompressedFrom o) :
    c.embedding = o.embedding := by
  rcases h with rfl | ⟨code, rfl⟩ <;> rfl

namespace IsVersionOf

variable {c o : Chunk}

/-- A version of a chunk is that chunk in all that compression and embedding do not
touch. -/
theorem eq_with (h : c.IsVersionOf o) :
    c = { o with code := c.code, embedding := c.embedding, fullSize := c.fullSize } := by
  obtain ⟨m, hm, hc⟩ := h
  rcases hm with rfl | ⟨code, rfl⟩
  all_goals rcases hc with rfl | ⟨vector, rfl⟩ <;> rfl

theorem id_eq (h : c.IsVersionOf o) : c.id = o.id := by
  rw [h.eq_with]

theorem path_eq (h : c.IsVersionOf o) : c.path = o.path := by
  rw [h.eq_with]

theorem span_eq (h : c.IsVersionOf o) : c.span = o.span := by
  rw [h.eq_with]

theorem name_eq (h : c.IsVersionOf o) : c.name = o.name := by
  rw [h.eq_with]

theorem kind_eq (h : c.IsVersionOf o) : c.kind = o.kind := by
  rw [h.eq_with]

theorem code_eq (h : c.IsVersionOf o) (hc : c.compressed = false) : c.code = o.code := by
  obtain ⟨m, hm, hcm⟩ := h
  rcases hm with rfl | ⟨code, rfl⟩
  · rcases hcm with rfl | ⟨vector, rfl⟩ <;> rfl
  · rcases hcm with rfl | ⟨vector, rfl⟩ <;> cases hc

end IsVersionOf

def sample (name code : String) : Chunk where
  id := chunkId name 1
  path := name
  span := .ofCount 1 Nat.one_pos
  kind := .function
  name := name
  language := "python"
  code := code
  docComment := none
  parentClass := none
  imports := []
  calls := []
  keywords := []
  dependencies := []
  embedding := none
  fullSize := none

end CodeRetrieval.Chunk
