import CodeRetrieval.Syntax.Tree
import CodeRetrieval.Text.Lines
import CodeRetrieval.Text.Utf8

/-!
# Source texts

A source text gives its lines, and the text between two points of a syntax tree.
-/

namespace CodeRetrieval.Syntax

/-- A text with the places where its lines start. -/
structure Source where
  lines : List String
  octets : ByteArray
  /-- For each line the offset of its first octet. -/
  lineStarts : Array Nat

namespace Source

def ofString (content : String) : Source :=
  let lines := Text.lines content
  { lines
    octets := content.toUTF8
    lineStarts :=
      (lines.foldl (fun (starts, next) line =>
        (starts.push next, next + line.utf8ByteSize + 1))
      ((#[] : Array Nat), 0)).1 }

/-- The offset of a point, at most the end of the text. -/
def offset (s : Source) (p : Point) : Nat :=
  match s.lineStarts[p.row]? with
  | some start => start + p.column
  | none => s.octets.size

/-- The text between two points. It is empty unless the second point comes after the
first. -/
def slice (s : Source) (start stop : Point) : String :=
  String.ofList (Text.decodeOctets
    (s.octets.extract (s.offset start) (s.offset stop)).toList)

def text (s : Source) (t : Tree) : String :=
  s.slice t.start t.stop

end Source

end CodeRetrieval.Syntax
