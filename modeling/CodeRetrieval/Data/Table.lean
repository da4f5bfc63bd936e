/-!
# Tables

A table holds values under texts as keys and keeps the order in which its keys first
came. An entry is changed in its place, and a new key goes to the end.
-/

namespace CodeRetrieval

/-- Keys with their values. -/
abbrev Table (α : Type) := List (String × α)

namespace Table

variable {α : Type}

def keys (t : Table α) : List String :=
  t.map Prod.fst

/-- Changes the entry of a key, given its value if there is one. -/
def update (key : String) (change : Option α → α) : Table α → Table α
  | [] => [(key, change none)]
  | (k, a) :: rest =>
    if k = key then (k, change (some a)) :: rest else (k, a) :: update key change rest

def set (key : String) (value : α) (t : Table α) : Table α :=
  t.update key fun _ => value

/-- Gives a key a value if it has none. -/
def setDefault (key : String) (value : α) (t : Table α) : Table α :=
  t.update key fun old => old.getD value

/-- Adds to the end of the list under a key. -/
def push (key : String) (value : α) (t : Table (List α)) : Table (List α) :=
  t.update key fun values => values.getD [] ++ [value]

end Table

end CodeRetrieval
