import CodeRetrieval.Chunk.Basic
import CodeRetrieval.Document.Routing
import CodeRetrieval.Text.Blank
import CodeRetrieval.Text.Lines

/-!
# Chunks of markdown files

A README is one chunk. Any other markdown file is cut at its headings of level one to
three; headings inside fenced blocks do not count. What stands before the first heading
is a section of its own unless it is blank. The keywords of a section are its title and
the longer words of its headings and bold spans.
-/

namespace CodeRetrieval.Document

/-- The title of a heading line of level one to three: what follows the hash marks and
the blanks after them. The title is not empty. -/
def headingTitle? (line : List Char) : Option (List Char) :=
  let marks := line.takeWhile (· == '#')
  let rest := line.drop marks.length
  let title := rest.dropWhile Text.isBlank
  if marks.isEmpty || decide (3 < marks.length) then none
  else
    match rest, title with
    | [], _ => none
    | c :: _, _ :: _ => if Text.isBlank c then some title else none
    | _ :: _, [] =>
      -- of several blanks the last one can stand for the title
      match rest.reverse with
      | last :: _ :: _ => some [last]
      | _ => none

def isFence (line : List Char) : Bool :=
  let line := line.dropWhile Text.isBlank
  "\x60\x60\x60".toList.isPrefixOf line || "~~~".toList.isPrefixOf line

/-- The lower-case words of more than three characters. -/
def longWords (text : List Char) : List String :=
  ((Text.words (Text.lower text)).filter fun w => decide (3 < w.length)).map String.ofList

/-- The texts between pairs of double asterisks, none of them empty or with an asterisk
inside. The number bounds the characters that are looked at. -/
def boldSpansFrom : Nat → List Char → List (List Char)
  | 0, _ => []
  | _, [] => []
  | n + 1, c :: s =>
    match "**".toList.isPrefixOf (c :: s) with
    | false => boldSpansFrom n s
    | true =>
      let body := s.tail.takeWhile (· != '*')
      let rest := s.tail.drop body.length
      if !body.isEmpty && "**".toList.isPrefixOf rest then
        body :: boldSpansFrom n (rest.drop 2)
      else boldSpansFrom n s

def boldSpans (content : List Char) : List (List Char) :=
  boldSpansFrom (content.length + 1) content

/-- The longer words of all headings and bold spans of a text, each once. -/
def markdownKeywords (content : String) : List String :=
  let lines := Text.splitAtChar '\n' content.toList
  ((lines.filterMap headingTitle?).flatMap longWords ++ (boldSpans content.toList).flatMap
    longWords).eraseDups

/-- The headings that open a section, each with its row. The flag tells whether a fenced
block is open. -/
def headingsFrom : Bool → Nat → List (List Char) → List (Nat × List Char)
  | _, _, [] => []
  | inFence, row, line :: lines =>
    if isFence line then headingsFrom (!inFence) (row + 1) lines
    else if inFence then headingsFrom inFence (row + 1) lines
    else
      match headingTitle? (Text.withoutReturns line) with
      | some title => (row, Text.trim title) :: headingsFrom inFence (row + 1) lines
      | none => headingsFrom inFence (row + 1) lines

/-- The headings that open a section, each with its row, counted from 0, and its title. -/
def headings (lines : List (List Char)) : List (Nat × List Char) :=
  headingsFrom false 0 lines

/-- A section: its title, the row it starts on and its lines. -/
structure Section where
  title : String
  firstRow : Nat
  lines : List String
  lines_ne_nil : lines ≠ []

namespace Section

def span (s : Section) : LineSpan :=
  ⟨s.firstRow + 1, s.firstRow + s.lines.length, by omega, by
    have := List.length_pos_iff.mpr s.lines_ne_nil
    omega⟩

def chunk (path : String) (s : Section) : Chunk :=
  let code := Text.unlines s.lines
  let titleKeywords := if s.title.isEmpty then [] else [Text.lowerText s.title]
  { id := chunkId path (s.firstRow + 1)
    path
    span := s.span
    kind := .documentation
    name := s.title
    language := "markdown"
    code
    docComment := none
    parentClass := none
    imports := []
    calls := []
    keywords := (titleKeywords ++ markdownKeywords code).eraseDups
    dependencies := []
    embedding := none
    fullSize := none }

/-- The section with the rows from `first` up to but without `stop`, if there are any. -/
def ofRows? (lines : List String) (title : String) (first stop : Nat) : Option Section :=
  let own := (lines.take stop).drop first
  if h : own ≠ [] then some ⟨title, first, own, h⟩ else none

end Section

/-- The sections that start at the given headings. Each runs to the next one or to the
end of the file. -/
def sectionsAt (lines : List String) : List (Nat × List Char) → List Section
  | [] => []
  | (row, title) :: rest =>
    let stop := rest.head?.elim lines.length (·.1)
    (Section.ofRows? lines (String.ofList title) row stop).toList ++ sectionsAt lines rest

def fileNameOr (fallback path : String) : String :=
  let name := String.ofList (Language.baseName path.toList)
  if name.isEmpty then fallback else name

def sections (path content : String) : List Section :=
  let lines := Text.lines content
  let fileName := fileNameOr "document" path
  match headings (lines.map String.toList) with
  | [] => (Section.ofRows? lines fileName 0 lines.length).toList
  | (row, title) :: rest =>
    let preamble := lines.take row
    let before :=
      if preamble.all fun l => Text.allBlank l.toList then []
        else (Section.ofRows? lines fileName 0 row).toList
    before ++ sectionsAt lines ((row, title) :: rest)

def markdownChunks (path content : String) : List Chunk :=
  (sections path content).map (Section.chunk path)

/-- A text has at least one line. -/
theorem one_le_length_lines (s : String) : 1 ≤ (Text.lines s).length := by
  simp only [Text.lines, List.length_map]
  exact List.length_pos_iff.mpr (Text.splitAtChar_ne_nil _ _)

def readmeChunk (path content : String) : Chunk :=
  { id := chunkId path 1
    path
    span := LineSpan.ofCount (Text.lines content).length (one_le_length_lines content)
    kind := .readme
    name := "README"
    language := "markdown"
    code := content
    docComment := none
    parentClass := none
    imports := []
    calls := []
    keywords := ("readme" :: "documentation" :: markdownKeywords content).eraseDups
    dependencies := []
    embedding := none
    fullSize := none }

end CodeRetrieval.Document
