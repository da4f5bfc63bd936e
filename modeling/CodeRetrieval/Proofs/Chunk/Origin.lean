import CodeRetrieval.Proofs.Chunk.Identifier
import CodeRetrieval.Proofs.Text.Lines

/-!
# Where chunks come from

A chunk that was cut from a file is named by the file and its first line, and its code
is what stands on its lines.
-/

namespace CodeRetrieval.Chunk

/-- The chunk holds what stands on its lines in a file, and nothing has been made of it
yet. -/
structure IsCutFrom (c : Chunk) (path content : String) : Prop where
  path_eq : c.path = path
  id_eq : c.id = chunkId path c.span.first
  code_eq : c.code = c.span.textIn content
  not_embedded : c.embedding = none
  not_compressed : c.fullSize = none

def EndsIn (c : Chunk) (content : String) : Prop :=
  c.span.last ≤ (Text.lines content).length

/-- Chunks cut from files under one identifier come from one line of one path. -/
theorem IsCutFrom.of_id_eq {c d : Chunk} {p q s t : String} (hc : c.IsCutFrom p s)
    (hd : d.IsCutFrom q t) (h : c.id = d.id) : p = q ∧ c.span.first = d.span.first := by
  rw [hc.id_eq, hd.id_eq, chunkId_inj] at h
  exact ⟨h.1, Int.ofNat_inj.mp h.2⟩

end CodeRetrieval.Chunk
