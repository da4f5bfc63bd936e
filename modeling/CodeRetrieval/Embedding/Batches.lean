import CodeRetrieval.Embedding.Text
import CodeRetrieval.Log.Notice

/-!
# Embedding in batches

Chunks are embedded in batches of one size, of which the last may be smaller. All
batches are handed over in order. Each chunk gets the vector that was made of its own
text, and if any batch fails there is no result at all: the first failure counts.
-/

namespace CodeRetrieval.Embedding

/-- Why a source of vectors gives none for some texts. -/
inductive Fault (E : Type) where
  /-- The source refuses, and gives a reason of its own kind. -/
  | refused (reason : E)
  /-- Something else goes wrong. -/
  | broken (reason : String)

/-- A source of vectors. It is given the number of the batch, counted from 1, and the
texts, and gives as many vectors. -/
abbrev Source (E : Type) := Nat → List String → Noted (Except (Fault E) (List (List Float)))

/-- Why chunks are not embedded. -/
inductive Error (E : Type) where
  /-- Batches of this size hold nothing. -/
  | batchSize (size : Int)
  /-- The source refused. -/
  | refused (reason : E)
  /-- Something else went wrong with a batch. -/
  | batchBroken (batch : Nat) (reason : String)
  /-- The source gave another number of vectors. -/
  | batchCount (batch vectors chunks : Nat)

/-- What is said about a size of batches that hold nothing. -/
def batchSizeText (size : Int) : String :=
  s!"batch_size must be >= 1, got {size}"

namespace Error

def message {E : Type} (describe : E → String) : Error E → String
  | batchSize size => batchSizeText size
  | refused reason => describe reason
  | batchBroken batch reason => s!"embedding batch {batch} failed: {reason}"
  | batchCount batch vectors chunks =>
      s!"embedding batch {batch} returned {vectors} vectors for {chunks} chunks"

end Error

def defaultBatchSize : Nat := 50

def defaultConcurrentBatches : Nat := 10

/-- A list cut into pieces of `size` entries, of which the last may be shorter. -/
def batches {α : Type} (size : Nat) : List α → List (List α)
  | [] => []
  | x :: xs => if size = 0 then []
    else (x :: xs).take size :: batches size (xs.drop (size - 1))
termination_by xs => xs.length
decreasing_by
  rw [List.length_drop, List.length_cons]
  omega

variable {E : Type}

/-- The chunks of a batch with the vectors that the source gave for them. -/
def attach (number : Nat) (batch : List Chunk) :
    Except (Fault E) (List (List Float)) → Except (Error E) (List Chunk)
  | .error (.refused reason) => .error (.refused reason)
  | .error (.broken reason) => .error (.batchBroken number reason)
  | .ok vectors =>
    if vectors.length = batch.length then
      .ok (List.zipWith Chunk.withEmbedding batch vectors)
    else .error (.batchCount number vectors.length batch.length)

/-- Embeds one batch of the given number of chunks and batches. A fault of the source is
noticed. -/
def embedBatch (source : Source E) (chunks count number : Nat) (batch : List Chunk) :
    Noted (Except (Error E) (List Chunk)) :=
  (⟨(), [.batchStarted number batch.length]⟩ : Noted Unit).andThen fun _ =>
    (source number (batch.map text)).andThen fun answer =>
      ⟨attach number batch answer, match answer with
        | .error _ => [.batchFailed chunks count number]
        | .ok _ => []⟩

def embed (source : Source E) (batchSize : Int) (chunks : List Chunk) :
    Noted (Except (Error E) (List Chunk)) :=
  if batchSize < 1 then .silent (.error (.batchSize batchSize))
  else
    let parts := batches batchSize.toNat chunks
    (Noted.sequence ((parts.zipIdx 1).map fun (batch, number) =>
      embedBatch source chunks.length parts.length number batch)).map fun results =>
        (results.mapM fun r => r).map List.flatten

end CodeRetrieval.Embedding
