import CodeRetrieval.Proofs.Data.Distinct
import CodeRetrieval.Workspace

/-!
# Directory trees

A directory lists its names in an order that nothing depends on: the files below it are
the same whatever the order, and so are the directories that names lead to. In a tree no
two files have the same path.
-/

namespace CodeRetrieval.Workspace

mutual

/-- The entry is, or leads to, a directory tree, or it is no directory. -/
def Entry.IsTree : Entry → Prop
  | .directory entries => IsTree entries
  | .link entries => IsTree entries
  | .file _ => True
  | .unreadable => True

/-- The names of a directory are distinct, without slashes and backslashes, and so are
those below. -/
def IsTree : List (String × Entry) → Prop
  | [] => True
  | (name, e) :: entries =>
    name ∉ entries.map Prod.fst ∧ '/' ∉ name.toList ∧ '\\' ∉ name.toList ∧
      e.IsTree ∧ IsTree entries

end

/-- Names lead from an entry to a file, without following links. The file has octets if
it can be read. -/
inductive Entry.HasFile : Entry → List String → Option (List UInt8) → Prop
  | file {octets : List UInt8} : HasFile (.file octets) [] (some octets)
  | unreadable : HasFile .unreadable [] none
  | directory {entries : List (String × Entry)} {name : String} {e : Entry}
    {names : List String}
      {octets : Option (List UInt8)} (hname : (name, e) ∈ entries)
        (hfile : HasFile e names octets) :
      HasFile (.directory entries) (name :: names) octets

/-- The same tree with directories listed in another order. -/
inductive Reordered : List (String × Entry) → List (String × Entry) → Prop
  | nil : Reordered [] []
  | cons {entries entries' : List (String × Entry)} (first : String × Entry)
    (h : Reordered entries entries') :
      Reordered (first :: entries) (first :: entries')
  | directory {below below' : List (String × Entry)} (name : String)
    (entries : List (String × Entry))
      (h : Reordered below below') :
      Reordered ((name, .directory below) :: entries) ((name, .directory below') :: entries)
  | link {below below' : List (String × Entry)} (name : String)
    (entries : List (String × Entry))
      (h : Reordered below below') : Reordered ((name, .link below) :: entries)
        ((name, .link below') :: entries)
  | swap (first second : String × Entry) (entries : List (String × Entry)) :
      Reordered (first :: second :: entries) (second :: first :: entries)
  | trans {entries entries' entries'' : List (String × Entry)}
    (h : Reordered entries entries')
      (h' : Reordered entries' entries'') : Reordered entries entries''

variable {entries entries' below : List (String × Entry)} {e : Entry}
  {name : String} {v : Visit}

/-! ## Trees -/

theorem IsTree.of_mem (h : IsTree entries) (he : (name, e) ∈ entries) :
    '/' ∉ name.toList ∧ '\\' ∉ name.toList ∧ e.IsTree := by
  induction entries with
  | nil => cases he
  | cons first entries ih =>
      obtain ⟨-, hslash, hbackslash, hfirst, hentries⟩ := h
      rcases List.mem_cons.mp he with rfl | he
      · exact ⟨hslash, hbackslash, hfirst⟩
      · exact ih hentries he

theorem IsTree.nodup (h : IsTree entries) : (entries.map Prod.fst).Nodup := by
  induction entries with
  | nil => exact List.nodup_nil
  | cons first entries ih =>
      obtain ⟨hfirst, -, -, -, hentries⟩ := h
      exact List.nodup_cons.mpr ⟨hfirst, ih hentries⟩

/-! ## Visits -/

theorem Entry.hasFile_directory_cons {names : List String} {octets : Option (List UInt8)} :
    (Entry.directory ((name, e) :: entries)).HasFile names octets ↔
      (∃ rest, names = name :: rest ∧ e.HasFile rest octets) ∨
        (Entry.directory entries).HasFile names octets := by
  constructor
  · rintro (_ | _ | ⟨hname, hfile⟩)
    rcases List.mem_cons.mp hname with hfirst | hname
    · obtain ⟨rfl, rfl⟩ := Prod.mk.inj hfirst
      exact .inl ⟨_, rfl, hfile⟩
    · exact .inr (.directory hname hfile)
  · rintro (⟨rest, rfl, hfile⟩ | (_ | _ | ⟨hname, hfile⟩))
    · exact .directory List.mem_cons_self hfile
    · exact .directory (List.mem_cons_of_mem _ hname) hfile

mutual

theorem Entry.mem_visits_iff : ∀ (path : List String) (e : Entry),
    v ∈ e.visits path ↔ ∃ names, v.path = path ++ names ∧ e.HasFile names v.octets
  | path, .file octets => by
    obtain ⟨vpath, voctets⟩ := v
    rw [Entry.visits, List.mem_singleton]
    constructor
    · rintro ⟨⟩
      exact ⟨[], (List.append_nil path).symm, .file⟩
    · rintro ⟨names, hpath, ⟨⟩⟩
      rw [show vpath = path from hpath.trans (List.append_nil path)]
  | path, .unreadable => by
    obtain ⟨vpath, voctets⟩ := v
    rw [Entry.visits, List.mem_singleton]
    constructor
    · rintro ⟨⟩
      exact ⟨[], (List.append_nil path).symm, .unreadable⟩
    · rintro ⟨names, hpath, hfile⟩
      simp only at hpath hfile
      cases hfile
      rw [hpath, List.append_nil]
  | path, .link entries => by
    rw [Entry.visits]
    constructor
    · rintro ⟨⟩
    · rintro ⟨names, -, ⟨⟩⟩
  | path, .directory entries => by
    rw [Entry.visits, mem_visitsBelow_iff path entries]

theorem mem_visitsBelow_iff : ∀ (path : List String) (entries : List (String × Entry)),
    v ∈ visitsBelow path entries ↔ ∃ names, v.path = path ++ names ∧
      (Entry.directory entries).HasFile names v.octets
  | path, [] => by
    rw [visitsBelow]
    constructor
    · rintro ⟨⟩
    · rintro ⟨names, -, hfile⟩
      cases hfile with
      | directory hname => cases hname
  | path, (name, e) :: entries => by
    rw [visitsBelow, List.mem_append, Entry.mem_visits_iff (path ++ [name]) e,
      mem_visitsBelow_iff path entries]
    simp only [Entry.hasFile_directory_cons, List.append_assoc, List.singleton_append]
    constructor
    · rintro (⟨names, hpath, hfile⟩ | ⟨names, hpath, hfile⟩)
      · exact ⟨name :: names, hpath, .inl ⟨names, rfl, hfile⟩⟩
      · exact ⟨names, hpath, .inr hfile⟩
    · rintro ⟨names, hpath, ⟨rest, rfl, hfile⟩ | hfile⟩
      · exact .inl ⟨rest, hpath, hfile⟩
      · exact .inr ⟨names, hpath, hfile⟩

end

theorem exists_name_of_mem_visitsBelow {path : List String}
    (hv : v ∈ visitsBelow path entries) :
    ∃ name names, v.path = path ++ name :: names ∧ name ∈ entries.map Prod.fst := by
  obtain ⟨names, hpath, hfile⟩ := (mem_visitsBelow_iff path entries).mp hv
  cases hfile with
  | directory hname => exact ⟨_, _, hpath, List.mem_map_of_mem (f := Prod.fst) hname⟩

mutual

theorem Entry.IsTree.pairwise_visits : ∀ (path : List String) {e : Entry}, e.IsTree →
    (e.visits path).Pairwise fun v w => v.path ≠ w.path
  | _, .file _, _ => List.pairwise_singleton _ _
  | _, .unreadable, _ => List.pairwise_singleton _ _
  | _, .link _, _ => List.Pairwise.nil
  | path, .directory _, h => IsTree.pairwise_visitsBelow path h

theorem IsTree.pairwise_visitsBelow :
    ∀ (path : List String) {entries : List (String × Entry)}, IsTree entries →
    (visitsBelow path entries).Pairwise fun v w => v.path ≠ w.path
  | _, [], _ => List.Pairwise.nil
  | path, (name, e) :: entries, h => by
    obtain ⟨hname, -, -, he, hentries⟩ := h
    rw [visitsBelow, List.pairwise_append]
    refine ⟨Entry.IsTree.pairwise_visits (path ++ [name]) he,
      IsTree.pairwise_visitsBelow path hentries, ?_⟩
    intro v hv w hw heq
    obtain ⟨names, hvpath, -⟩ := (Entry.mem_visits_iff (path ++ [name]) e).mp hv
    obtain ⟨name', names', hwpath, hname'⟩ := exists_name_of_mem_visitsBelow hw
    rw [hvpath, hwpath, List.append_assoc, List.append_cancel_left_eq] at heq
    obtain ⟨rfl, -⟩ := List.cons.inj heq
    exact hname hname'

end

theorem IsTree.nodup_paths (h : IsTree entries) (path : List String) :
    ((visitsBelow path entries).map Visit.path).Nodup := by
  unfold List.Nodup
  rw [List.pairwise_map]
  exact h.pairwise_visitsBelow path

/-! ## The order of names -/

namespace Reordered

theorem refl : ∀ entries : List (String × Entry), Reordered entries entries
  | [] => .nil
  | first :: entries => .cons first (refl entries)

theorem map_fst_perm (h : Reordered entries entries') :
    (entries.map Prod.fst).Perm (entries'.map Prod.fst) := by
  induction h with
  | nil => exact .nil
  | cons first _ ih => exact ih.cons first.1
  | directory name entries _ _ => exact .refl _
  | link name entries _ _ => exact .refl _
  | swap first second entries => exact .swap second.1 first.1 _
  | trans _ _ ih ih' => exact ih.trans ih'

theorem isTree (h : Reordered entries entries') (htree : IsTree entries) :
    IsTree entries' := by
  induction h with
  | nil => exact htree
  | cons first h ih =>
      obtain ⟨hname, hslash, hbackslash, he, hentries⟩ := htree
      exact ⟨fun hmem => hname (h.map_fst_perm.mem_iff.mpr hmem), hslash,
        hbackslash, he, ih hentries⟩
  | directory name entries _ ih =>
      obtain ⟨hname, hslash, hbackslash, he, hentries⟩ := htree
      exact ⟨hname, hslash, hbackslash, ih he, hentries⟩
  | link name entries _ ih =>
      obtain ⟨hname, hslash, hbackslash, he, hentries⟩ := htree
      exact ⟨hname, hslash, hbackslash, ih he, hentries⟩
  | swap first second entries =>
      obtain ⟨hfirst, hslash, hbackslash, he, hsecond, hslash', hbackslash',
          he', hentries⟩ := htree
      rw [List.map_cons, List.mem_cons, not_or] at hfirst
      refine ⟨?_, hslash', hbackslash', he', hfirst.2, hslash, hbackslash, he, hentries⟩
      rw [List.map_cons, List.mem_cons, not_or]
      exact ⟨Ne.symm hfirst.1, hsecond⟩
  | trans _ _ ih ih' => exact ih' (ih htree)

theorem visitsBelow_perm (h : Reordered entries entries') :
    ∀ path, (visitsBelow path entries).Perm (visitsBelow path entries') := by
  induction h with
  | nil => exact fun path => .refl _
  | cons first _ ih => exact fun path => (ih path).append_left _
  | directory name entries _ ih => exact fun path => (ih (path ++ [name])).append_right _
  | link name entries _ _ => exact fun path => .refl _
  | swap first second entries =>
      intro path
      simp only [visitsBelow, ← List.append_assoc]
      exact List.perm_append_comm.append_right _
  | trans _ _ ih ih' => exact fun path => (ih path).trans (ih' path)

end Reordered

/-! ## The way to a directory -/

def Entry.opened? : Entry → Option (List (String × Entry))
  | .directory entries => some entries
  | .link entries => some entries
  | _ => none

theorem directoryAt?_cons (entries : List (String × Entry)) (name : String)
    (names : List String) :
    directoryAt? entries (name :: names) =
      ((entries.lookup name).bind Entry.opened?).bind fun below =>
        directoryAt? below names := by
  rw [directoryAt?]
  cases entries.lookup name with
  | none => rfl
  | some e => cases e <;> rfl

theorem isTree_of_opened? (h : e.IsTree)
    (hopened : e.opened? = some below) : IsTree below := by
  cases e with
  | directory entries =>
      obtain rfl := Option.some.inj hopened
      exact h
  | link entries =>
      obtain rfl := Option.some.inj hopened
      exact h
  | file octets => cases hopened
  | unreadable => cases hopened

theorem exists_of_directoryAt? {names : List String} (h : IsTree entries)
    (hbelow : directoryAt? entries (name :: names) = some below) :
    ∃ e inner, (name, e) ∈ entries ∧ e.opened? = some inner ∧
      directoryAt? inner names = some below := by
  rw [directoryAt?_cons] at hbelow
  obtain ⟨inner, hinner, hbelow⟩ := Option.bind_eq_some_iff.mp hbelow
  obtain ⟨e, he, hopened⟩ := Option.bind_eq_some_iff.mp hinner
  exact ⟨e, inner, (lookup_eq_some_iff_mem h.nodup).mp he, hopened, hbelow⟩

theorem isTree_of_directoryAt? {names : List String} (h : IsTree entries)
    (hbelow : directoryAt? entries names = some below) : IsTree below := by
  induction names generalizing entries with
  | nil =>
      obtain rfl := Option.some.inj hbelow
      exact h
  | cons name names ih =>
      obtain ⟨e, inner, he, hopened, hbelow⟩ := exists_of_directoryAt? h hbelow
      exact ih (isTree_of_opened? (h.of_mem he).2.2 hopened) hbelow

theorem Reordered.exists_opened (h : Reordered entries entries') (he : (name, e) ∈ entries)
    (hopened : e.opened? = some below) :
    ∃ e' below', (name, e') ∈ entries' ∧ e'.opened? = some below' ∧
      Reordered below below' := by
  induction h generalizing e below with
  | nil => cases he
  | cons first _ ih =>
      rcases List.mem_cons.mp he with rfl | he
      · exact ⟨e, below, List.mem_cons_self, hopened, .refl below⟩
      · obtain ⟨e', below', he', hrest⟩ := ih he hopened
        exact ⟨e', below', List.mem_cons_of_mem first he', hrest⟩
  | @directory inner inner' n entries h _ =>
      rcases List.mem_cons.mp he with hfirst | he
      · obtain ⟨rfl, rfl⟩ := Prod.mk.inj hfirst
        obtain rfl := Option.some.inj hopened
        exact ⟨.directory inner', inner', List.mem_cons_self, rfl, h⟩
      · exact ⟨e, below, List.mem_cons_of_mem _ he, hopened, .refl below⟩
  | @link inner inner' n entries h _ =>
      rcases List.mem_cons.mp he with hfirst | he
      · obtain ⟨rfl, rfl⟩ := Prod.mk.inj hfirst
        obtain rfl := Option.some.inj hopened
        exact ⟨.link inner', inner', List.mem_cons_self, rfl, h⟩
      · exact ⟨e, below, List.mem_cons_of_mem _ he, hopened, .refl below⟩
  | swap first second entries =>
      exact ⟨e, below, (List.Perm.swap second first entries).mem_iff.mp he,
        hopened, .refl below⟩
  | trans _ _ ih ih' =>
      obtain ⟨e', below', he', hopened', hbelow⟩ := ih he hopened
      obtain ⟨e'', below'', he'', hopened'', hbelow'⟩ := ih' he' hopened'
      exact ⟨e'', below'', he'', hopened'', hbelow.trans hbelow'⟩

/-- Names lead to the same directory in whatever order the directories on the way are
listed. -/
theorem Reordered.exists_directoryAt? {names : List String} (h : Reordered entries entries')
    (htree : IsTree entries) (hbelow : directoryAt? entries names = some below) :
    ∃ below', directoryAt? entries' names = some below' ∧ Reordered below below' := by
  induction names generalizing entries entries' with
  | nil =>
      obtain rfl := Option.some.inj hbelow
      exact ⟨entries', rfl, h⟩
  | cons name names ih =>
      obtain ⟨e, inner, he, hopened, hbelow⟩ := exists_of_directoryAt? htree hbelow
      obtain ⟨e', inner', he', hopened', hinner⟩ := h.exists_opened he hopened
      obtain ⟨below', hbelow', hsame⟩ :=
        ih hinner (isTree_of_opened? (htree.of_mem he).2.2 hopened) hbelow
      refine ⟨below', ?_, hsame⟩
      rw [directoryAt?_cons, (lookup_eq_some_iff_mem (h.isTree htree).nodup).mpr he',
        Option.bind_some, hopened', Option.bind_some, hbelow']

end CodeRetrieval.Workspace
