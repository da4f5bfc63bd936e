import CodeRetrieval.Proofs.Text.Lines
import CodeRetrieval.Proofs.Workspace.Walk

/-!
# Loading a workspace

Loading takes the first files that are to be loaded on the walk through a tree, up to
the limit, and sorts them by their paths. What is not to be loaded does not count
towards the limit. So the loaded files are the same in whatever order directories are
listed, and they are all there are unless the limit is reached.
-/

namespace CodeRetrieval.Workspace

/-- A file is to be loaded: it is not too large, the chunker takes it, and no directory
on the way is passed over. -/
structure IsEligible (c : Chunker) (maxSize : ℤ) (names : List String)
    (octets : List UInt8) : Prop where
  size : octets.length ≤ maxSize
  indexed : c.indexes (Text.join "/" names) = true
  outside : ∀ name ∈ names.dropLast, name ∉ skippedNames

instance (c : Chunker) (maxSize : ℤ) (names : List String) (octets : List UInt8) :
    Decidable (IsEligible c maxSize names octets) :=
  decidable_of_iff
    (octets.length ≤ maxSize ∧ c.indexes (Text.join "/" names) = true ∧
      ∀ name ∈ names.dropLast, name ∉ skippedNames)
    ⟨fun ⟨hsize, hindexed, houtside⟩ => ⟨hsize, hindexed, houtside⟩,
     fun h => ⟨h.size, h.indexed, h.outside⟩⟩

def fileAt (names : List String) (octets : List UInt8) : IndexFile :=
  ⟨Text.join "/" names, Visit.content octets⟩

/-- The file that a visit adds, if it is to a file that can be read and is to be loaded. -/
def Visit.file? (c : Chunker) (maxSize : ℤ) (v : Visit) : Option IndexFile :=
  v.octets.bind fun octets =>
    if IsEligible c maxSize v.path octets then some (fileAt v.path octets) else none

variable {c : Chunker} {maxSize maxFiles : ℤ} {top entries entries' : List (String × Entry)}
  {path : String} {names : List String} {octets : List UInt8} {v : Visit} {f : IndexFile}

theorem Visit.file?_eq_some_iff : v.file? c maxSize = some f ↔
    ∃ octets, v.octets = some octets ∧ IsEligible c maxSize v.path octets ∧
      f = fileAt v.path octets := by
  unfold Visit.file?
  rw [Option.bind_eq_some_iff]
  constructor
  · rintro ⟨octets, hoctets, hfile⟩
    split at hfile
    · rename_i heligible
      exact ⟨octets, hoctets, heligible, (Option.some.inj hfile).symm⟩
    · cases hfile
  · rintro ⟨octets, hoctets, heligible, rfl⟩
    exact ⟨octets, hoctets, if_pos heligible⟩

/-! ## Paths as texts -/

theorem not_mem_of_hasFile {e : Entry} {content : Option (List UInt8)}
    (hfile : e.HasFile names content) (he : e.IsTree) :
    ∀ name ∈ names, '/' ∉ name.toList ∧ '\\' ∉ name.toList := by
  induction hfile with
  | file => rintro name ⟨⟩
  | unreadable => rintro name ⟨⟩
  | @directory entries first e names content hname _ ih =>
      obtain ⟨hslash, hbackslash, he⟩ := IsTree.of_mem he hname
      intro name hmem
      rcases List.mem_cons.mp hmem with rfl | hmem
      · exact ⟨hslash, hbackslash⟩
      · exact ih he name hmem

theorem ne_nil_of_hasFile {content : Option (List UInt8)}
    (hfile : (Entry.directory entries).HasFile names content) :
    names ≠ [] := by
  cases hfile
  exact List.cons_ne_nil _ _

theorem join_injective {names names' : List String} (hne : names ≠ []) (hne' : names' ≠ [])
    (h : ∀ name ∈ names, '/' ∉ name.toList) (h' : ∀ name ∈ names', '/' ∉ name.toList)
    (hjoin : Text.join "/" names = Text.join "/" names') : names = names' := by
  have htext := congrArg (fun s : String => Text.splitAtChar '/' s.toList) hjoin
  simp only [Text.join, String.toList_ofList] at htext
  have hcut : names.map String.toList = names'.map String.toList :=
    (Text.splitAtChar_joinWith hne h).symm.trans
      (htext.trans (Text.splitAtChar_joinWith hne' h'))
  exact (List.map_injective_iff.mpr fun _ _ => String.toList_inj.mp) hcut

theorem make_join (h : ∀ name ∈ names, '\\' ∉ name.toList) (content : String) :
    IndexFile.make (Text.join "/" names) content = ⟨Text.join "/" names, content⟩ := by
  have hplain : '\\' ∉ (Text.join "/" names).toList := by
    intro hmem
    rw [Text.join, String.toList_ofList] at hmem
    rcases Text.mem_joinWith hmem with hsep | ⟨piece, hpiece, hmem⟩
    · exact absurd hsep (by decide)
    · obtain ⟨name, hname, rfl⟩ := List.mem_map.mp hpiece
      exact h name hname hmem
  have hmap : (Text.join "/" names).toList.map (fun c => if c = '\\' then '/' else c) =
      (Text.join "/" names).toList.map id := by
    apply List.map_congr_left
    intro c hc
    exact if_neg (by rintro rfl; exact hplain hc)
  rw [IndexFile.make, hmap, List.map_id, String.ofList_toList]

/-! ## Gathering -/

def Visit.gathered? (accepts : String → Bool) (maxSize : ℤ)
    (v : Visit) : Option IndexFile :=
  v.octets.bind fun octets =>
    if accepts v.pathText = true ∧ octets.length ≤ maxSize then
      some (IndexFile.make v.pathText (Visit.content octets))
    else none

theorem value_gather_cons (accepts : String → Bool) (maxSize : ℤ) {taken : List IndexFile}
    (h : ¬ maxFiles ≤ taken.length) (v : Visit) (visits : List Visit) :
    (gather accepts maxSize maxFiles taken (v :: visits)).value =
      (gather accepts maxSize maxFiles
        (taken ++ (v.gathered? accepts maxSize).toList) visits).value := by
  obtain ⟨path, content⟩ := v
  rw [gather, if_neg h]
  unfold Visit.gathered? Visit.load
  split
  · rename_i haccepts
    rw [Noted.value_andThen]
    cases content with
    | none => rfl
    | some octets =>
        simp only [Option.bind_some, haccepts, true_and]
        by_cases hsize : octets.length ≤ maxSize
        · rw [if_pos hsize, if_neg (Int.not_lt.mpr hsize)]
          rfl
        · rw [if_neg hsize, if_pos (Int.not_le.mp hsize)]
          rfl
  · rename_i haccepts
    cases content with
    | none => rw [Option.bind_none, Option.toList_none, List.append_nil]
    | some octets =>
        rw [Option.bind_some, if_neg (fun h => haccepts h.1),
          Option.toList_none, List.append_nil]

/-- Gathering takes what visits add, in their order, as long as the limit is not reached. -/
theorem value_gather (accepts : String → Bool) (maxSize maxFiles : ℤ)
    (taken : List IndexFile) (visits : List Visit) :
    (gather accepts maxSize maxFiles taken visits).value =
      taken ++ (visits.filterMap (Visit.gathered? accepts maxSize)).take
        (maxFiles.toNat - taken.length) := by
  induction visits generalizing taken with
  | nil =>
      rw [gather, List.filterMap_nil, List.take_nil, List.append_nil]
      rfl
  | cons v visits ih =>
      by_cases hlimit : maxFiles ≤ taken.length
      · rw [gather, if_pos hlimit, show maxFiles.toNat - taken.length = 0 by omega,
          List.take_zero, List.append_nil]
      · rw [value_gather_cons accepts maxSize hlimit, ih]
        cases hadds : v.gathered? accepts maxSize with
        | none => rw [List.filterMap_cons_none hadds, Option.toList_none, List.append_nil]
        | some f =>
            have hleft : maxFiles.toNat - taken.length =
                maxFiles.toNat - (taken ++ [f]).length + 1 := by
              rw [List.length_append, List.length_singleton]
              omega
            rw [List.filterMap_cons_some hadds, Option.toList_some, hleft,
              List.take_succ_cons, List.append_assoc, List.singleton_append]

theorem isSkipped_eq_false_iff :
    isSkipped names = false ↔ ∀ name ∈ names.dropLast, name ∉ skippedNames := by
  unfold isSkipped
  rw [List.any_eq_false]
  simp

/-- The files that a tour of a tree adds are those that are to be loaded on the walk
through it. -/
theorem filterMap_tour (c : Chunker) (maxSize : ℤ) (h : IsTree entries) :
    (tour entries).filterMap
        (Visit.gathered? (fun p => c.languages.supports p ||
          Document.isDocument p) maxSize) =
      (walk entries).filterMap (Visit.file? c maxSize) := by
  rw [tour_eq_filter_walk h, List.filterMap_filter]
  apply List.filterMap_congr
  rintro ⟨names, content⟩ hv
  have hplain := not_mem_of_hasFile (mem_walk_iff.mp hv) h
  unfold Visit.gathered? Visit.file?
  cases content with
  | none => simp only [Option.bind_none, ite_self]
  | some octets =>
      simp only [Option.bind_some, Visit.pathText, make_join fun name hname =>
        (hplain name hname).2]
      by_cases heligible : IsEligible c maxSize names octets
      · have hindexed := heligible.indexed
        rw [Chunker.indexes, Bool.or_comm] at hindexed
        rw [if_pos heligible, if_pos, if_pos ⟨hindexed, heligible.size⟩, fileAt]
        rw [isSkipped_eq_false_iff.mpr heligible.outside, Bool.not_false]
      · rw [if_neg heligible]
        split
        · rename_i houtside
          rw [if_neg]
          rintro ⟨hindexed, hsize⟩
          rw [Bool.or_comm] at hindexed
          exact heligible ⟨hsize, hindexed,
            isSkipped_eq_false_iff.mp (by simpa using houtside)⟩
        · rfl

/-! ## Loading -/

/-- The files of a tree that are to be loaded, in the order of the walk through it, up
to the limit. -/
def firstFiles (c : Chunker) (maxSize maxFiles : ℤ)
    (entries : List (String × Entry)) : List IndexFile :=
  ((walk entries).filterMap (Visit.file? c maxSize)).take maxFiles.toNat

theorem value_load (c : Chunker)
    (hpath : (steps? path).bind (directoryAt? top) = some entries)
    (hentries : IsTree entries') (htour : tour entries = tour entries') :
    (load c.languages top path maxSize maxFiles).value =
      .ok ((firstFiles c maxSize maxFiles entries').mergeSort fun f g =>
        decide (f.path ≤ g.path)) := by
  unfold load firstFiles
  rw [hpath]
  simp only [Noted.value_map, value_gather, List.nil_append, List.length_nil, Nat.sub_zero]
  rw [htour, filterMap_tour c maxSize hentries]

theorem pairwise_firstFiles (h : IsTree entries) :
    (firstFiles c maxSize maxFiles entries).Pairwise fun f g => f.path ≠ g.path := by
  unfold firstFiles
  refine List.Pairwise.sublist (List.take_sublist _ _) ?_
  rw [List.pairwise_filterMap]
  have hdistinct : (walk entries).Pairwise fun v w => v.path ≠ w.path :=
    List.pairwise_map.mp (((walk_perm entries).map Visit.path).nodup_iff.mpr
      (h.nodup_paths []))
  refine hdistinct.imp_of_mem fun {v w} hv hw hne f hf g hg heq => hne ?_
  obtain ⟨octets, -, -, rfl⟩ := Visit.file?_eq_some_iff.mp hf
  obtain ⟨octets', -, -, rfl⟩ := Visit.file?_eq_some_iff.mp hg
  have hvfile := mem_walk_iff.mp hv
  have hwfile := mem_walk_iff.mp hw
  exact join_injective (ne_nil_of_hasFile hvfile) (ne_nil_of_hasFile hwfile)
    (fun name hname => (not_mem_of_hasFile hvfile h name hname).1)
    (fun name hname => (not_mem_of_hasFile hwfile h name hname).1) heq

theorem exists_of_mem_firstFiles (hf : f ∈ firstFiles c maxSize maxFiles entries) :
    ∃ names octets, (Entry.directory entries).HasFile names (some octets) ∧
      IsEligible c maxSize names octets ∧
      f = fileAt names octets := by
  obtain ⟨v, hv, hfile⟩ := List.mem_filterMap.mp (List.mem_of_mem_take hf)
  obtain ⟨octets, hoctets, heligible, rfl⟩ := Visit.file?_eq_some_iff.mp hfile
  have hhas := mem_walk_iff.mp hv
  rw [hoctets] at hhas
  exact ⟨v.path, octets, hhas, heligible, rfl⟩

theorem mem_firstFiles (hlimit : (firstFiles c maxSize maxFiles entries).length < maxFiles)
    (hfile : (Entry.directory entries).HasFile names (some octets))
    (heligible : IsEligible c maxSize names octets) :
    fileAt names octets ∈ firstFiles c maxSize maxFiles entries := by
  unfold firstFiles at hlimit ⊢
  rw [List.length_take] at hlimit
  rw [List.take_of_length_le (by omega)]
  exact List.mem_filterMap.mpr
    ⟨⟨names, some octets⟩, mem_walk_iff.mpr hfile,
     Visit.file?_eq_some_iff.mpr ⟨octets, rfl, heligible, rfl⟩⟩

theorem pairwise_mergeSort_path {files : List IndexFile}
    (h : files.Pairwise fun f g => f.path ≠ g.path) :
    (files.mergeSort fun f g => decide (f.path ≤ g.path)).Pairwise fun f g =>
      f.path < g.path := by
  have hle : (files.mergeSort fun f g => decide (f.path ≤ g.path)).Pairwise fun f g =>
      f.path ≤ g.path :=
    pairwise_mergeSort_key IndexFile.path files
  have hne :=
    h.perm (List.mergeSort_perm files fun f g => decide (f.path ≤ g.path)).symm fun h =>
      Ne.symm h
  exact (hle.and hne).imp fun h => lt_of_le_of_ne h.1 h.2

/-- What is loaded from a directory of a tree. It is the same in whatever order the
directories of the tree are listed. The files are sorted by paths, which are distinct,
and are not more than the limit. Each of them is a file below the directory that is to
be loaded, and below the limit each such file is there. In any case they are the first
ones on the walk through the directory. -/
theorem load_walks_tree (c : Chunker) (maxSize maxFiles : ℤ) (htree : IsTree top)
    (hpath : (steps? path).bind (directoryAt? top) = some entries) :
    ∃ files, (load c.languages top path maxSize maxFiles).value = .ok files ∧
      (∀ top', Reordered top top' →
        (load c.languages top' path maxSize maxFiles).value = .ok files) ∧
      (files.Pairwise fun f g => f.path < g.path) ∧ files.length ≤ max 0 maxFiles ∧
      (∀ f ∈ files, ∃ names octets, (Entry.directory entries).HasFile names (some octets) ∧
        IsEligible c maxSize names octets ∧ f = fileAt names octets) ∧
      (files.length < maxFiles →
        ∀ names octets, (Entry.directory entries).HasFile names (some octets) →
        IsEligible c maxSize names octets → fileAt names octets ∈ files) ∧
      files.Perm (((walk entries).filterMap (Visit.file? c maxSize)).take
        maxFiles.toNat) := by
  obtain ⟨names, hsteps, hbelow⟩ := Option.bind_eq_some_iff.mp hpath
  have hperm := List.mergeSort_perm (firstFiles c maxSize maxFiles entries) fun f g =>
    decide (f.path ≤ g.path)
  have hentries := isTree_of_directoryAt? htree hbelow
  refine ⟨_, value_load c hpath hentries rfl, ?_, ?_, ?_, ?_, ?_, hperm⟩
  · intro top' htop
    obtain ⟨entries', hbelow', hsame⟩ := htop.exists_directoryAt? htree hbelow
    have hpath' : (steps? path).bind (directoryAt? top') = some entries' :=
      Option.bind_eq_some_iff.mpr ⟨names, hsteps, hbelow'⟩
    exact value_load c hpath' hentries (hsame.tour_eq hentries).symm
  · exact pairwise_mergeSort_path (pairwise_firstFiles hentries)
  · rw [List.length_mergeSort, firstFiles, List.length_take]
    omega
  · intro f hf
    exact exists_of_mem_firstFiles (List.mem_mergeSort.mp hf)
  · intro hlimit names octets hfile heligible
    rw [List.length_mergeSort] at hlimit
    exact List.mem_mergeSort.mpr (mem_firstFiles hlimit hfile heligible)

def sampleChunker : Chunker :=
  ⟨.all, fun _ _ => none⟩

/-- A directory that lists its subdirectory first, and its files backwards. -/
def sampleTop : List (String × Entry) :=
  [("lib", .directory [("c.py", .file [])]), ("b.py", .file [97]), ("a.py", .file [98])]

/-- The same directory as another system lists it. -/
def sampleTop' : List (String × Entry) :=
  [("b.py", .file [97]), ("lib", .directory [("c.py", .file [])]), ("a.py", .file [98])]

theorem load_walks_tree_sampleTop :
    IsTree sampleTop ∧ (steps? ".").bind (directoryAt? sampleTop) = some sampleTop ∧
      ∃ files, (load sampleChunker.languages sampleTop "." 10 2).value = .ok files ∧
        (load sampleChunker.languages sampleTop' "." 10 2).value = .ok files ∧
        (files.Pairwise fun f g => f.path < g.path) ∧
        files.Perm [fileAt ["a.py"] [98], fileAt ["b.py"] [97]] := by
  have htree : IsTree sampleTop := by
    simp [sampleTop, IsTree, Entry.IsTree]
  have hpath : (steps? ".").bind (directoryAt? sampleTop) = some sampleTop := by
    have hsteps : steps? "." = some [] := by decide +kernel
    rw [hsteps]
    rfl
  have hfiles : byName (filesOf [] sampleTop) =
      [⟨["a.py"], some [98]⟩, ⟨["b.py"], some [97]⟩] := by
    have hinsert := fun x (xs : List (String × List Visit)) =>
      (mergeSort_cons_eq (key_trans Prod.fst) (key_total Prod.fst) x xs).1
    have hlist : filesOf [] sampleTop =
        [("lib", []), ("b.py", [⟨["b.py"], some [97]⟩]),
         ("a.py", [⟨["a.py"], some [98]⟩])] := rfl
    rw [hlist, byName, hinsert, hinsert, hinsert, List.mergeSort_nil]
    rfl
  have hloaded : (byName (filesOf [] sampleTop)).filterMap (Visit.file? sampleChunker 10) =
      [fileAt ["a.py"] [98], fileAt ["b.py"] [97]] := by
    have ha : IsEligible sampleChunker 10 ["a.py"] [98] := by decide +kernel
    have hb : IsEligible sampleChunker 10 ["b.py"] [97] := by decide +kernel
    rw [hfiles, List.filterMap_cons_some (Visit.file?_eq_some_iff.mpr ⟨_, rfl, ha, rfl⟩),
      List.filterMap_cons_some (Visit.file?_eq_some_iff.mpr ⟨_, rfl, hb, rfl⟩),
      List.filterMap_nil]
  obtain ⟨files, hload, hreordered, hsorted, -, -, -, hfirst⟩ :=
    load_walks_tree sampleChunker 10 2 htree hpath
  refine ⟨htree, hpath, files, hload, hreordered _ (.swap _ _ _), hsorted, ?_⟩
  rw [show walk sampleTop =
    byName (filesOf [] sampleTop) ++ byName (walksOf [] sampleTop) from rfl,
    List.filterMap_append, hloaded] at hfirst
  exact hfirst

end CodeRetrieval.Workspace
