import CodeRetrieval.Workspace

/-!
# Workspaces from listings

A workspace can be given by lists of its files, directories and links. Directories on
the way to a name are there too. A link stands for what its target, seen from the
directory of the link, stands for; a link that leads nowhere cannot be read.
-/

namespace CodeRetrieval.Workspace

/-- What a workspace holds. -/
structure Listing where
  files : List (String × List UInt8)
  directories : List String
  /-- Links with their targets. -/
  links : List (String × String)

def place (e : Entry) : List String → List (String × Entry) → List (String × Entry)
  | [], entries => entries
  | [name], entries => entries.filter (fun x => x.1 != name) ++ [(name, e)]
  | name :: names, entries =>
    match entries.lookup name with
    | some (.directory below) =>
      entries.map fun x =>
        if x.1 == name then (name, .directory (place e names below)) else x
    | some _ => entries
    | none => entries ++ [(name, .directory (place e names []))]

def placeDirectory (names : List String) (entries : List (String × Entry)) :
    List (String × Entry) :=
  match directoryAt? entries names with
  | some _ => entries
  | none => place (.directory []) names entries

def namesOf (path : String) : List String :=
  (steps? path).getD []

def linked (top : List (String × Entry)) (path target : String) : Entry :=
  match steps? (Text.join "/" ((namesOf path).dropLast ++ [target])) with
  | none => .unreadable
  | some [] => .link top
  | some (name :: names) =>
    match directoryAt? top (name :: names).dropLast with
    | none => .unreadable
    | some entries =>
      match entries.lookup ((name :: names).getLast (by simp)) with
      | some (.directory below) => .link below
      | some e => e
      | none => .unreadable

/-- Puts the links of a listing at their places. -/
def placeLinks (links : List (String × String)) (top : List (String × Entry)) :
    List (String × Entry) :=
  links.foldl (fun entries (path, target) =>
    place (linked entries path target) (namesOf path) entries) top

/-- The entries of the top directory. The links are put in place twice, so that a link
may lead to a later one. -/
def Listing.entries (l : Listing) : List (String × Entry) :=
  let files :=
    l.files.foldl (fun entries (path, octets) =>
      place (.file octets) (namesOf path) entries) []
  let directories :=
    l.directories.foldl (fun entries path => placeDirectory (namesOf path) entries) files
  placeLinks l.links (placeLinks l.links directories)

end CodeRetrieval.Workspace
