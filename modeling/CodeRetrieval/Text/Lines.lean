/-!
# Lines of a text

A text is cut at every line feed, so that a text with `n` line feeds has `n + 1` lines
and a carriage return stays at the end of its line. Joining the lines with line feeds
gives the text back.
-/

namespace CodeRetrieval.Text

/-- Puts `c` in front of the first piece. -/
def consHead (c : Char) : List (List Char) → List (List Char)
  | [] => [[c]]
  | piece :: pieces => (c :: piece) :: pieces

/-- The pieces between the occurrences of `sep`, empty pieces included. -/
def splitAtChar (sep : Char) (s : List Char) : List (List Char) :=
  s.foldr (fun c pieces => if c = sep then [] :: pieces else consHead c pieces) [[]]

/-- The pieces written one after the other with `sep` between them. -/
def joinWith (sep : List Char) (pieces : List (List Char)) : List Char :=
  List.intercalate sep pieces

def lines (s : String) : List String :=
  (splitAtChar '\n' s.toList).map String.ofList

def join (sep : String) (parts : List String) : String :=
  String.ofList (joinWith sep.toList (parts.map String.toList))

def unlines (ls : List String) : String :=
  join "\n" ls

@[simp] theorem consHead_ne_nil (c : Char) (pieces : List (List Char)) :
    consHead c pieces ≠ [] := by
  cases pieces <;> simp [consHead]

@[simp] theorem splitAtChar_nil (sep : Char) : splitAtChar sep [] = [[]] := rfl

@[simp] theorem splitAtChar_cons (sep c : Char) (s : List Char) :
    splitAtChar sep (c :: s) =
      if c = sep then [] :: splitAtChar sep s else consHead c (splitAtChar sep s) := rfl

theorem splitAtChar_ne_nil (sep : Char) (s : List Char) : splitAtChar sep s ≠ [] := by
  cases s with
  | nil => simp
  | cons c s => rw [splitAtChar_cons]; split <;> simp

end CodeRetrieval.Text
