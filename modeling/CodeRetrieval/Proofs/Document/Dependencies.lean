import CodeRetrieval.Proofs.Data.Distinct
import CodeRetrieval.Proofs.Document.Manifest
import CodeRetrieval.Proofs.Text.Blank
import CodeRetrieval.Proofs.Text.Case
import Mathlib.Data.List.ReduceOption

/-!
# The dependencies of a manifest

The dependencies of a manifest are those that its describing tables list, one table
after the other, each of them once and in order of first occurrence. Whatever else
stands in the place of such a table or of its list adds nothing.
-/

namespace CodeRetrieval.Document

/-! ## What a manifest lists -/

def packagePaths : List (List String) :=
  [[], ["project"], ["package"], ["tool", "poetry"]]

def tableAt? : List String → Data → Option (List (String × Data))
  | [], d => d.asTable?
  | key :: keys, d => (d.get? key).bind (tableAt? keys)

/-- The tables that the paths lead to. A path to anything else is left out. -/
def packageTables (root : List (String × Data)) : List (List (String × Data)) :=
  packagePaths.filterMap fun keys => tableAt? keys (.table root)

/-- After blanks, the requirement starts with the name: a longest run of letters,
digits, points, underscores and dashes that begins with a letter or a digit. -/
def StartsWithPackage (requirement name : List Char) : Prop :=
  ∃ blanks rest, requirement = blanks ++ name ++ rest ∧
    (∀ b ∈ blanks, Text.isBlank b = true) ∧
    (∃ a as, name = a :: as ∧ a.isAlphanum = true) ∧
      (∀ a ∈ name, isPackageNameChar a = true) ∧
    ∀ a ∈ rest.head?, isPackageNameChar a = false

/-- The written form of a value starts with the given name, or with none. -/
def Requires (d : Data) (package : Option String) : Prop :=
  ∃ w, d.written = .ok w ∧ ∀ name, package = some name ↔
    StartsWithPackage w.toList name.toList

/-- What a table lists as dependencies: the keys of a table but `python`, or the
packages that the values of a list require. Any other value, and none, lists nothing. -/
inductive ListsDependencies (table : List (String × Data)) : List String → Prop
  | keys {entries : List (String × Data)} (h : table.lookup "dependencies" =
    some (.table entries)) :
      ListsDependencies table ((entries.map Prod.fst).filter (· != "python"))
  | requirements {items : List Data} {packages : List (Option String)}
      (h : table.lookup "dependencies" = some (.list items))
        (hpackages : List.Forall₂ Requires items packages) :
      ListsDependencies table packages.reduceOption
  | nothing (htable : ∀ entries, table.lookup "dependencies" ≠ some (.table entries))
      (hlist : ∀ items, table.lookup "dependencies" ≠ some (.list items)) :
        ListsDependencies table []

variable {table root : List (String × Data)} {names : List String} {path content : String}

/-! ## Tables -/

theorem describingTables_eq_packageTables (root : List (String × Data)) :
    describingTables root = packageTables root := by
  have hroot : tableAt? [] (.table root) = some root := rfl
  have hbelow : ∀ key, tableAt? [key] (.table root) =
      (root.lookup key).bind Data.asTable? := fun _ => rfl
  have hpoetry : tableAt? ["tool", "poetry"] (.table root)
      = (((root.lookup "tool").bind Data.asTable?).bind fun tool =>
        tool.lookup "poetry").bind Data.asTable? := by
    rw [tableAt?, Data.get?]
    cases root.lookup "tool" with
    | none => rfl
    | some tool => cases tool <;> rfl
  have hcons : ∀ keys paths,
      (keys :: paths).filterMap (fun keys => tableAt? keys (.table root))
      = (tableAt? keys (.table root)).toList ++ paths.filterMap fun keys =>
        tableAt? keys (.table root) := by
    intro keys paths
    cases h : tableAt? keys (.table root) <;> simp [h]
  rw [packageTables, packagePaths, hcons, hcons, hcons, hcons, hroot, hbelow, hbelow,
    hpoetry, describingTables]
  simp

/-! ## Requirements -/

theorem isBlank_of_isAlphanum {a : Char} (h : a.isAlphanum = true) :
    Text.isBlank a = false := by
  by_contra hblank
  rw [Bool.not_eq_false] at hblank
  rw [Text.isAlphanum_of_isBlank hblank] at h
  cases h

theorem isPackageNameChar_of_isAlphanum {a : Char} (h : a.isAlphanum = true) :
    isPackageNameChar a = true := by
  simp [isPackageNameChar, h]

/-- Without the blanks before it, a requirement that begins with a letter or a digit
starts with its first run. -/
theorem startsWithPackage_takeWhile {requirement s : List Char} {a : Char}
    (hstart : requirement.dropWhile Text.isBlank = a :: s) (ha : a.isAlphanum = true) :
    StartsWithPackage requirement ((a :: s).takeWhile isPackageNameChar) := by
  refine ⟨requirement.takeWhile Text.isBlank,
    (a :: s).dropWhile isPackageNameChar, ?_, ?_, ?_, ?_, ?_⟩
  · rw [List.append_assoc, List.takeWhile_append_dropWhile, ← hstart,
      List.takeWhile_append_dropWhile]
  · exact fun b hb => List.mem_takeWhile_imp hb
  · exact ⟨a, _, List.takeWhile_cons_of_pos (isPackageNameChar_of_isAlphanum ha), ha⟩
  · exact fun b hb => List.mem_takeWhile_imp hb
  · intro b hb
    have hstop := List.head?_dropWhile_not isPackageNameChar (a :: s)
    rw [hb] at hstop
    exact hstop

theorem requirementName?_eq_some_iff {requirement : List Char} {name : String} :
    requirementName? requirement = some name ↔
      StartsWithPackage requirement name.toList := by
  rw [requirementName?]
  constructor
  · intro h
    cases hstart : requirement.dropWhile Text.isBlank with
    | nil => simp [hstart] at h
    | cons a s =>
        simp only [hstart] at h
        split at h
        · rename_i ha
          obtain rfl := Option.some.inj h
          rw [String.toList_ofList]
          exact startsWithPackage_takeWhile hstart ha
        · cases h
  · rintro ⟨blanks, rest, rfl, hblanks, ⟨a, as, hname, ha⟩, hrun, hstop⟩
    have hstart : (blanks ++ name.toList ++ rest).dropWhile Text.isBlank =
        a :: (as ++ rest) := by
      rw [List.append_assoc, List.dropWhile_append_of_pos hblanks, hname, List.cons_append,
        List.dropWhile_cons_of_neg (by simp [isBlank_of_isAlphanum ha])]
    have hrest : rest.takeWhile isPackageNameChar = [] := by
      cases rest with
      | nil => rfl
      | cons b rest => exact List.takeWhile_cons_of_neg (by simp [hstop b rfl])
    simp only [hstart, if_pos ha]
    rw [← List.cons_append, ← hname, List.takeWhile_append_of_pos hrun, hrest,
      List.append_nil, String.ofList_toList]

theorem requires_iff {d : Data} {package : Option String} :
    Requires d package ↔ ∃ w, d.written = .ok w ∧ requirementName? w.toList = package := by
  simp only [Requires, ← requirementName?_eq_some_iff]
  constructor
  · rintro ⟨w, hw, hpackage⟩
    exact ⟨w, hw, (Option.ext fun name => hpackage name).symm⟩
  · rintro ⟨w, hw, rfl⟩
    exact ⟨w, hw, fun name => Iff.rfl⟩

theorem forall₂_requires_iff {items : List Data} {packages : List (Option String)} :
    List.Forall₂ Requires items packages ↔ ∃ written,
      List.Forall₂ (fun d w => d.written = .ok w) items written ∧
        written.map (fun w => requirementName? w.toList) = packages := by
  constructor
  · intro h
    induction h with
    | nil => exact ⟨[], .nil, rfl⟩
    | cons hrequires _ ih =>
        obtain ⟨w, hw, hpackage⟩ := requires_iff.mp hrequires
        obtain ⟨written, hwritten, hpackages⟩ := ih
        exact ⟨w :: written, .cons hw hwritten, by rw [List.map_cons, hpackage, hpackages]⟩
  · rintro ⟨written, hwritten, rfl⟩
    rw [List.forall₂_map_right_iff]
    exact hwritten.imp fun d w hw => requires_iff.mpr ⟨w, hw, rfl⟩

theorem requirementNames_eq_ok_iff {items : List Data} :
    requirementNames items = .ok names ↔
      ∃ packages, List.Forall₂ Requires items packages ∧ packages.reduceOption = names := by
  have hnames : ∀ written : List String,
      written.filterMap (fun w => requirementName? w.toList)
      = (written.map fun w => requirementName? w.toList).reduceOption := by
    intro written
    rw [List.reduceOption, List.filterMap_map, Function.id_comp]
  rw [requirementNames, bind_eq_ok]
  simp only [forall₂_requires_iff, mapM_eq_ok]
  constructor
  · rintro ⟨written, hwritten, h⟩
    exact ⟨_, ⟨written, hwritten, rfl⟩, (hnames written).symm.trans (Except.ok.inj h)⟩
  · rintro ⟨_, ⟨written, hwritten, rfl⟩, rfl⟩
    exact ⟨written, hwritten, congrArg Except.ok (hnames written)⟩

/-! ## Lists -/

/-- What a table lists is what the relation says, and nothing else. -/
theorem listedDependencies_eq_ok_iff :
    listedDependencies table = .ok names ↔ ListsDependencies table names := by
  constructor
  · intro h
    rw [listedDependencies] at h
    split at h
    · rename_i entries hlookup
      cases h
      exact .keys hlookup
    · rename_i items hlookup
      obtain ⟨packages, hpackages, rfl⟩ := requirementNames_eq_ok_iff.mp h
      exact .requirements hlookup hpackages
    · rename_i htable hlist
      cases h
      exact .nothing htable hlist
  · rintro (h | ⟨h, hpackages⟩ | ⟨htable, hlist⟩)
    · rw [listedDependencies, h]
    · rw [listedDependencies, h]
      exact requirementNames_eq_ok_iff.mpr ⟨_, hpackages, rfl⟩
    · rw [listedDependencies]
      split
      · rename_i entries hlookup
        exact absurd hlookup (htable entries)
      · rename_i items hlookup
        exact absurd hlookup (hlist items)
      · rfl

theorem describedFields_eq_ok {keywords dependencies : List String}
    (h : describedFields root = .ok (keywords, dependencies)) :
    ∃ listed, List.Forall₂ ListsDependencies (packageTables root) listed ∧
      (∃ described, keywords = described ++ listed.flatten) ∧
        dependencies = listed.flatten.eraseDups := by
  obtain ⟨fields, hfields, h⟩ := bind_eq_ok.mp h
  obtain ⟨rfl, rfl⟩ := Prod.mk.inj (Except.ok.inj h)
  refine ⟨fields.map Prod.snd, ?_,
    ⟨_, by rw [List.flatMap_def (f := Prod.snd)]⟩, by rw [List.flatMap_def]⟩
  rw [← describingTables_eq_packageTables, List.forall₂_map_right_iff]
  refine (mapM_eq_ok.mp hfields).imp fun table field hfield => ?_
  obtain ⟨keywords, -, hfield⟩ := bind_eq_ok.mp hfield
  obtain ⟨dependencies, hdependencies, hfield⟩ := bind_eq_ok.mp hfield
  cases hfield
  exact listedDependencies_eq_ok_iff.mp hdependencies

/-! ## Manifests -/

theorem exists_fields_of_manifestChunk {c : Chunk}
    (h : manifestChunk path content = .ok c) :
    ∃ keywords dependencies, c.keywords = keywords.eraseDups ∧
      c.dependencies = dependencies ∧
      match manifestTable? path content with
      | some root => describedFields root = .ok (keywords, dependencies)
      | none => keywords = frequentWords content ∧ dependencies = [] := by
  rw [manifestChunk] at h
  cases hroot : manifestTable? path content with
  | none =>
      rw [hroot] at h
      obtain rfl := Except.ok.inj h
      exact ⟨_, _, rfl, rfl, rfl, rfl⟩
  | some root =>
      rw [hroot] at h
      obtain ⟨⟨keywords, dependencies⟩, hfields, h⟩ := bind_eq_ok.mp h
      obtain rfl := Except.ok.inj h
      exact ⟨keywords, dependencies, rfl, rfl, hfields⟩

/-- The dependencies of a manifest that is a table are what its describing tables list,
one after the other, each once and in order of first occurrence; a manifest that is no
table has none. Whatever is a dependency can be searched by as a keyword, and neither
repeats itself. -/
theorem manifestChunk_collects_dependencies {c : Chunk}
    (h : manifestChunk path content = .ok c) :
    (∀ root, manifestTable? path content = some root → ∃ listed,
      List.Forall₂ ListsDependencies (packageTables root) listed ∧
        c.dependencies = listed.flatten.eraseDups) ∧
    (manifestTable? path content = none → c.dependencies = []) ∧
    (∀ d ∈ c.dependencies, d ∈ c.keywords) ∧ c.keywords.Nodup ∧ c.dependencies.Nodup := by
  obtain ⟨keywords, dependencies, hkeywords, hdependencies, hfields⟩ :=
    exists_fields_of_manifestChunk h
  rw [hkeywords, hdependencies]
  cases hroot : manifestTable? path content with
  | none =>
      rw [hroot] at hfields
      obtain ⟨-, rfl⟩ := hfields
      exact ⟨by simp, fun _ => rfl, by simp, nodup_eraseDups _, .nil⟩
  | some root =>
      rw [hroot] at hfields
      obtain ⟨listed, hlisted, ⟨described, rfl⟩, rfl⟩ := describedFields_eq_ok hfields
      refine ⟨?_, by simp, fun d hd => ?_, nodup_eraseDups _, nodup_eraseDups _⟩
      · rintro _ ⟨⟩
        exact ⟨listed, hlisted, rfl⟩
      · exact List.mem_eraseDups.mpr
          (List.mem_append_right described (List.mem_eraseDups.mp hd))

/-- A manifest with a number where a list may be, names of packages in one table and
keys in another. -/
def sampleManifest : String :=
  "dependencies = 3\n[project]\ndependencies = [\" a>1\", \"-c\", true]\n" ++
    "[package.dependencies]\npython = 1\na = 1\nd = 2\n"

theorem dependencies_sampleManifest :
    ∃ c, manifestChunk "pyproject.toml" sampleManifest = .ok c ∧
      c.dependencies = ["a", "True", "d"] ∧ (∀ d ∈ c.dependencies, d ∈ c.keywords) ∧
      c.keywords.Nodup := by
  have hdependencies : (manifestChunk "pyproject.toml" sampleManifest).toOption.map
      Chunk.dependencies
      = some ["a", "True", "d"] := by decide +kernel
  cases hc : manifestChunk "pyproject.toml" sampleManifest with
  | error e =>
      rw [hc] at hdependencies
      cases hdependencies
  | ok c =>
      rw [hc] at hdependencies
      obtain ⟨-, -, hsearchable, hkeywords, -⟩ := manifestChunk_collects_dependencies hc
      exact ⟨c, rfl, Option.some.inj hdependencies, hsearchable, hkeywords⟩

end CodeRetrieval.Document
