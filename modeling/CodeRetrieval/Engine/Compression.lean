import CodeRetrieval.Chunk.Basic
import CodeRetrieval.Log.Notice
import CodeRetrieval.Text.Blank

/-!
# Compression

Chunks with more code than a threshold, but not more than a ceiling, are handed to a
compressor. Where it fails or gives blank code the chunk stays as it is; no failure
touches another chunk. An answer that is no text at all ends the compression, and
nothing is compressed.
-/

namespace CodeRetrieval

namespace Compression

/-- Why a compressor gives no shorter code. -/
inductive Refusal where
  /-- It fails. -/
  | failed (reason : String)
  /-- What it gives is no text. -/
  | notText (reason : String)

end Compression

/-- What shortens the code of a chunk to about a given size. It is told how many chunks
it was given before, and gives the shorter code or the reason why there is none. -/
abbrev Compressor := Nat → Chunk → Int → Noted (Except Compression.Refusal String)

namespace Compression

/-- The sizes of code that is compressed: more than the threshold, and at most the
ceiling. -/
structure Limits where
  threshold : Int
  ceiling : Int

def Limits.admits (l : Limits) (c : Chunk) : Bool :=
  decide (l.threshold < c.code.length) && decide ((c.code.length : Int) ≤ l.ceiling)

def Limits.exceeds (l : Limits) (c : Chunk) : Bool :=
  decide (l.ceiling < c.code.length)

/-- What an answer of the compressor makes of a chunk. An answer that is no text gives
the reason to stop. -/
def applied (c : Chunk) : Except Refusal String → Noted (Except String Chunk)
  | .error (.notText reason) => .silent (.error reason)
  | .error (.failed _) => ⟨.ok c, [.compressionFailed c.id]⟩
  | .ok code =>
    if Text.allBlank code.toList then ⟨.ok c, [.blankCompression c.id]⟩
    else .silent (.ok (c.withCompressedCode code))

/-- The chunks after compression, where `asked` chunks were handed over before. -/
def compressFrom (compressor : Compressor) (limits : Limits) :
    Nat → List Chunk → List (Noted (Except String Chunk))
  | _, [] => []
  | asked, c :: chunks =>
    if limits.admits c then
      (compressor asked c limits.threshold).andThen (applied c) ::
        compressFrom compressor limits (asked + 1) chunks
    else .silent (.ok c) :: compressFrom compressor limits asked chunks

/-- The number of chunks that are too large is noticed, if there are any. -/
def oversizeNotice (limits : Limits) (chunks : List Chunk) : List Notice :=
  match chunks.countP limits.exceeds with
  | 0 => []
  | count => [.oversizedSkipped count]

/-- The chunks, those in the limits compressed, or the first reason to stop. -/
def compress (compressor : Compressor) (limits : Limits) (chunks : List Chunk) :
    Noted (Except String (List Chunk)) :=
  (⟨(), oversizeNotice limits chunks⟩ : Noted Unit).andThen fun _ =>
    (Noted.sequence (compressFrom compressor limits 0 chunks)).map fun results =>
      results.mapM id

end Compression

end CodeRetrieval
