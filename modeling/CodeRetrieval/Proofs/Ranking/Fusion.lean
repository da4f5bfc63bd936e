import CodeRetrieval.Proofs.Data.Results
import CodeRetrieval.Proofs.Data.Table
import CodeRetrieval.Proofs.Ranking.Order
import CodeRetrieval.Ranking.Fusion

/-!
# What fusion keeps

Reading the places one after the other gives each identifier the sum of what its places
add, and keeps the item that was seen first. So a fused ranking holds items of the
rankings that it is made of, each identifier once.
-/

namespace CodeRetrieval.Ranking

variable {R ι : Type} [Scalar R] {id : ι → String} {k topK : Int}
  {rankings : List (List (Ranked R ι))}

/-! ## Places -/

def placed (k : Int) (place : Ranked R ι × Nat) : Ranked R ι :=
  ⟨place.1.item, Scalar.ratio 1 (k + place.2)⟩

/-- All places of all rankings, list by list, each with what it adds. -/
def places (k : Int) (rankings : List (List (Ranked R ι))) : List (Ranked R ι) :=
  rankings.flatMap fun ranking => (ranking.zipIdx 1).map (placed k)

def fusedScore (id : ι → String) (all : List (Ranked R ι)) (key : String) : R :=
  Scalar.sum ((all.filter fun p => id p.item == key).map Ranked.score)

/-- The fused ranking before it is cut: each item once, as it was seen first. -/
def fused (id : ι → String) (k : Int) (rankings : List (List (Ranked R ι))) :
    List (Ranked R ι) :=
  let all := places k rankings
  descending Ranked.score
    ((firstByKey id (all.map Ranked.item)).map fun item =>
      ⟨item, fusedScore id all (id item)⟩)

/-- Some rank and the constant add up to zero. -/
def HasWeightlessRank (k : Int) (rankings : List (List (Ranked R ι))) : Prop :=
  ∃ ranking ∈ rankings, ∃ place ∈ ranking.zipIdx 1, k + place.2 = 0

omit [Scalar R] in
theorem not_hasWeightlessRank (hk : 0 ≤ k) : ¬ HasWeightlessRank k rankings := by
  rintro ⟨ranking, -, place, hplace, hzero⟩
  have hrank := List.le_snd_of_mem_zipIdx hplace
  omega

/-! ## Reading places -/

namespace Tally

/-- The tally is that of the places read so far. -/
structure Describes (id : ι → String) (read : List (Ranked R ι))
    (t : Tally R ι) : Prop where
  keys_scores : t.scores.keys = (read.map fun p => id p.item).eraseDups
  lookup_scores : ∀ key ∈ t.scores.keys, t.scores.lookup key = some (fusedScore id read key)
  lookup_firstSeen : ∀ key,
    t.firstSeen.lookup key = (read.find? fun p => id p.item == key).map Ranked.item

theorem describes_empty : (empty : Tally R ι).Describes id [] where
  keys_scores := rfl
  lookup_scores key hkey := by cases hkey
  lookup_firstSeen key := rfl

variable {t : Tally R ι} {read : List (Ranked R ι)}

theorem Describes.mem_keys (h : t.Describes id read) {key : String} :
    key ∈ t.scores.keys ↔ ∃ p ∈ read, id p.item = key := by
  rw [h.keys_scores, List.mem_eraseDups, List.mem_map]

theorem fusedScore_concat (read : List (Ranked R ι)) (p : Ranked R ι) (key : String) :
    fusedScore id (read ++ [p]) key =
      if id p.item = key then fusedScore id read key + p.score
        else fusedScore id read key := by
  unfold fusedScore Scalar.sum
  rw [List.filter_append, List.map_append, List.foldl_append]
  by_cases h : id p.item = key
  · simp [h]
  · simp [h]

theorem fusedScore_of_forall_ne {key : String} (h : ∀ p ∈ read, id p.item ≠ key) :
    fusedScore id read key = (0 : R) := by
  have hnone : read.filter (fun p => id p.item == key) = [] := by
    rw [List.filter_eq_nil_iff]
    intro p hp hid
    exact h p hp (beq_iff_eq.mp hid)
  unfold fusedScore
  rw [hnone]
  rfl

/-- An identifier that has not been read counts with the empty sum. -/
theorem Describes.getD_lookup_scores (h : t.Describes id read) (key : String) :
    (t.scores.lookup key).getD 0 = fusedScore id read key := by
  by_cases hold : key ∈ t.scores.keys
  · rw [h.lookup_scores key hold, Option.getD_some]
  · have hnone : t.scores.lookup key = none := by
      rwa [Table.mem_keys_iff, Option.not_isSome_iff_eq_none] at hold
    rw [hnone, Option.getD_none]
    symm
    apply fusedScore_of_forall_ne
    intro p hp hid
    exact hold (h.mem_keys.mpr ⟨p, hp, hid⟩)

/-- One more place adds to the score of its identifier. -/
theorem Describes.add (h : t.Describes id read) (p : Ranked R ι) :
    (t.add (id p.item) p.item p.score).Describes id (read ++ [p]) where
  keys_scores := by
    show (t.scores.update _ _).keys = _
    rw [Table.keys_update, h.keys_scores, List.map_append,
      List.map_singleton, eraseDups_concat]
    simp only [List.mem_eraseDups]
  lookup_scores := by
    intro key hkey
    show (t.scores.update _ _).lookup key = _
    rw [Table.lookup_update, fusedScore_concat]
    by_cases hsame : id p.item = key
    · subst hsame
      rw [if_pos rfl, if_pos rfl, h.getD_lookup_scores]
    · rw [if_neg (Ne.symm hsame), if_neg hsame]
      apply h.lookup_scores
      have hkeys : key ∈ (t.scores.update (id p.item) _).keys := hkey
      rw [Table.keys_update] at hkeys
      split at hkeys
      · exact hkeys
      · rcases List.mem_append.mp hkeys with hold | hlast
        · exact hold
        · exact absurd (List.mem_singleton.mp hlast).symm hsame
  lookup_firstSeen := by
    intro key
    show (t.firstSeen.setDefault _ _).lookup key = _
    rw [Table.setDefault, Table.lookup_update, h.lookup_firstSeen, h.lookup_firstSeen,
      List.find?_append]
    by_cases hsame : id p.item = key
    · subst hsame
      cases (read.find? fun q => id q.item == id p.item) <;> simp
    · simp [hsame, Ne.symm hsame]

theorem Describes.foldlM_addPlace (h : t.Describes id read) {ps : List (Ranked R ι × Nat)}
    (hps : ∀ p ∈ ps, k + p.2 ≠ 0) :
    ∃ t', ps.foldlM (addPlace id k) t = .ok t' ∧
      t'.Describes id (read ++ ps.map (placed k)) := by
  induction ps generalizing t read with
  | nil => exact ⟨t, rfl, by rwa [List.map_nil, List.append_nil]⟩
  | cons p ps ih =>
      have hweight : weight k p.2 = .ok (Scalar.ratio 1 (k + p.2) : R) :=
        if_neg (hps p List.mem_cons_self)
      have hadd : addPlace id k t p =
          .ok (t.add (id p.1.item) p.1.item (placed k p).score) :=
        bind_eq_ok.mpr ⟨_, hweight, rfl⟩
      obtain ⟨t', hfold, ht'⟩ :=
        ih (h.add (placed k p)) fun q hq => hps q (List.mem_cons_of_mem p hq)
      refine ⟨t', ?_, by rwa [List.map_cons, List.append_cons]⟩
      rw [List.foldlM_cons, hadd]
      exact hfold

theorem Describes.foldlM_rankings (h : t.Describes id read)
    (hrankings : ¬ HasWeightlessRank k rankings) :
    ∃ t', rankings.foldlM (fun t ranking => (ranking.zipIdx 1).foldlM (addPlace id k) t) t =
        .ok t' ∧
      t'.Describes id (read ++ places k rankings) := by
  induction rankings generalizing t read with
  | nil => exact ⟨t, rfl, by rwa [places, List.flatMap_nil, List.append_nil]⟩
  | cons ranking rankings ih =>
      have hplaces : ∀ p ∈ ranking.zipIdx 1, k + p.2 ≠ 0 := by
        intro p hp hzero
        exact hrankings ⟨ranking, List.mem_cons_self, p, hp, hzero⟩
      have hothers : ¬ HasWeightlessRank k rankings := by
        rintro ⟨r, hr, hzero⟩
        exact hrankings ⟨r, List.mem_cons_of_mem ranking hr, hzero⟩
      obtain ⟨t₁, hfirst, ht₁⟩ := h.foldlM_addPlace hplaces
      obtain ⟨t₂, hrest, ht₂⟩ := ih ht₁ hothers
      refine ⟨t₂, ?_, ?_⟩
      · rw [List.foldlM_cons, hfirst]
        exact hrest
      · rwa [places, List.flatMap_cons, ← List.append_assoc]

/-- Where no place is without a weight, reading all rankings gives the tally of all
places. -/
theorem exists_ofRankings_eq_ok (id : ι → String)
    (hrankings : ¬ HasWeightlessRank k rankings) :
    ∃ t, ofRankings id k rankings = .ok t ∧ t.Describes id (places k rankings) :=
  describes_empty.foldlM_rankings hrankings

end Tally

/-! ## The fused ranking -/

/-- The best entries of the tally of the places are the first ones of the fused ranking. -/
theorem Tally.Describes.best_eq {t : Tally R ι} (h : t.Describes id (places k rankings)) :
    t.best topK = cut topK (fused id k rankings) := by
  let all := places k rankings
  let entries : List (Ranked R ι) :=
    (firstByKey id (all.map Ranked.item)).map fun item =>
      ⟨item, fusedScore id all (id item)⟩
  have hkeys : t.scores.keys = entries.map fun r => id r.item := by
    have hfirst : (firstByKey id (all.map Ranked.item)).map id =
        ((all.map Ranked.item).map id).eraseDups := map_firstByKey_self id _
    calc t.scores.keys
        = ((all.map Ranked.item).map id).eraseDups := by
          rw [h.keys_scores, List.map_map]; rfl
      _ = (firstByKey id (all.map Ranked.item)).map id := hfirst.symm
      _ = entries.map fun r => id r.item := by rw [List.map_map]; rfl
  have hscores : t.scores = entries.map fun r => (id r.item, r.score) := by
    have hnodup : t.scores.keys.Nodup := by
      rw [h.keys_scores]
      exact nodup_eraseDups _
    rw [Table.eq_map_keys hnodup h.lookup_scores, hkeys, List.map_map,
      List.map_map, List.map_map]
    rfl
  -- each identifier leads back to the item that was seen first
  have hitem : ∀ r ∈ entries, t.firstSeen.lookup (id r.item) = some r.item := by
    intro r hr
    obtain ⟨item, hfirst, rfl⟩ := List.mem_map.mp hr
    rw [h.lookup_firstSeen, ← (mem_firstByKey.mp hfirst).find?_eq, List.find?_map]
    rfl
  have hranked : descending Prod.snd (entries.map fun r => (id r.item, r.score)) =
      (descending Ranked.score entries).map fun r => (id r.item, r.score) :=
    (map_descending Prod.snd (fun _ => rfl) entries).symm
  rw [Tally.best, hscores, hranked, ← map_cut, List.filterMap_map]
  refine (List.filterMap_congr fun r hr => ?_).trans List.filterMap_some
  show (t.firstSeen.lookup (id r.item)).map _ = some r
  rw [hitem r (mem_descending.mp (mem_of_mem_cut hr))]
  rfl

theorem fuse_eq (hrankings : ¬ HasWeightlessRank k rankings) :
    fuse id k topK rankings = .ok (cut topK (fused id k rankings)) := by
  obtain ⟨t, ht, hdescribes⟩ := Tally.exists_ofRankings_eq_ok id hrankings
  rw [← hdescribes.best_eq]
  exact bind_eq_ok.mpr ⟨t, ht, rfl⟩

theorem fuse_of_nonneg (hk : 0 ≤ k) :
    fuse id k topK rankings = .ok (cut topK (fused id k rankings)) :=
  fuse_eq (not_hasWeightlessRank hk)

theorem exists_of_mem_places {p : Ranked R ι} (h : p ∈ places k rankings) :
    ∃ ranking ∈ rankings, ∃ r ∈ ranking, r.item = p.item := by
  obtain ⟨ranking, hranking, hp⟩ := List.mem_flatMap.mp h
  obtain ⟨⟨r, rank⟩, hr, rfl⟩ := List.mem_map.mp hp
  exact ⟨ranking, hranking, r, List.fst_mem_of_mem_zipIdx hr, rfl⟩

theorem exists_of_mem_fused {f : Ranked R ι} (h : f ∈ fused id k rankings) :
    ∃ ranking ∈ rankings, ∃ r ∈ ranking, r.item = f.item := by
  obtain ⟨item, hitem, rfl⟩ := List.mem_map.mp (mem_descending.mp h)
  have hitem : item ∈ (places k rankings).map Ranked.item := mem_of_mem_firstByKey hitem
  obtain ⟨p, hp, rfl⟩ := List.mem_map.mp hitem
  obtain ⟨ranking, hranking, r, hr, hsame⟩ := exists_of_mem_places hp
  exact ⟨ranking, hranking, r, hr, hsame⟩

theorem nodup_id_fused : ((fused id k rankings).map fun f => id f.item).Nodup := by
  have hperm := (perm_descending Ranked.score
    ((firstByKey id ((places k rankings).map Ranked.item)).map fun item =>
      (⟨item, fusedScore id (places k rankings) (id item)⟩ : Ranked R ι))).map fun f =>
        id f.item
  rw [List.map_map] at hperm
  exact hperm.nodup_iff.mpr (nodup_map_firstByKey id _)

end CodeRetrieval.Ranking
