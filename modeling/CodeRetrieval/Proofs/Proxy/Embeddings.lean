import CodeRetrieval.Proofs.Data.Results
import CodeRetrieval.Proofs.Data.Sorting
import CodeRetrieval.Proxy.Embeddings
import Mathlib.Data.List.Perm.Basic

/-!
# Vectors in the order of their texts

The vectors that a reply holds are put in the order of their places by a stable sort. So
a reply whose items have the places of the texts gives each text its own vector in
whatever order the items come, and a reply whose items have no places gives the vectors
in the order of the items. A reply with another number of items than texts gives
nothing.
-/

namespace CodeRetrieval.Proxy.Embeddings

/-- What an item of a reply holds for a text: its place, if the item tells it, and its
vector. -/
structure Carried where
  place? : Option Int
  vector : List Float

/-- An item that tells no place counts as the first. -/
def Carried.place (c : Carried) : Int :=
  c.place?.getD 0

/-- A value is an item of a reply, and what it holds. -/
structure Carries (item : Data) (c : Carried) : Prop where
  place : match c.place? with
    | some i => ∃ index, item.get? "index" = some index ∧ integerOf index = .ok i
    | none => item.get? "index" = none
  vector : ∃ numbers, item.get? "embedding" = some (.list numbers) ∧
    List.Forall₂ (fun number x => numberOf number = .ok x) numbers c.vector

/-- A reply tells of success and lists items, none if it has no list of them. -/
def Holds (reply : Reply) (items : List Data) : Prop :=
  ∃ status headers text entries, reply = .answered status headers text ∧
    isSuccess status = true ∧
    readBody text = .ok (.table entries) ∧
      (entries.lookup "data").getD (.list []) = .list items

def inPlaces (carried : List Carried) : List Carried :=
  carried.mergeSort fun a b => decide (a.place ≤ b.place)

variable {item : Data} {c : Carried} {items : List Data} {carried others : List Carried}

/-! ## Items -/

theorem Carries.placeOf_eq (h : Carries item c) : placeOf item = .ok c.place := by
  obtain ⟨numbers, hembedding, -⟩ := h.vector
  obtain ⟨entries, rfl⟩ : ∃ entries, item = .table entries := by
    cases item with
    | table entries => exact ⟨entries, rfl⟩
    | _ => cases hembedding
  have hplace := h.place
  refine bind_eq_ok.mpr ⟨entries, rfl, ?_⟩
  unfold Carried.place
  cases hindex : c.place? with
  | none =>
      rw [hindex] at hplace
      simp only [hplace]
      rfl
  | some i =>
      rw [hindex] at hplace
      obtain ⟨index, hget, hi⟩ := hplace
      simp only [hget]
      exact hi

theorem Carries.vectorOf_eq (h : Carries item c) : vectorOf item = .ok c.vector := by
  obtain ⟨numbers, hembedding, hnumbers⟩ := h.vector
  unfold vectorOf
  rw [hembedding]
  exact mapM_eq_ok.mpr hnumbers

theorem exists_inOrder (h : List.Forall₂ Carries items carried) :
    ∃ sorted, inOrder items = .ok sorted ∧
      List.Forall₂ Carries sorted (inPlaces carried) := by
  -- each item together with what it holds
  obtain ⟨pairs, rfl, rfl, hpairs⟩ : ∃ pairs : List (Data × Carried),
      items = pairs.map Prod.fst ∧ carried = pairs.map Prod.snd ∧
        ∀ p ∈ pairs, Carries p.1 p.2 := by
    obtain ⟨hlength, hzip⟩ := List.forall₂_iff_zip.mp h
    exact ⟨items.zip carried, (List.map_fst_zip (Nat.le_of_eq hlength)).symm,
      (List.map_snd_zip (Nat.le_of_eq hlength.symm)).symm, fun p hp => hzip hp⟩
  let sorted := pairs.mergeSort fun p q => decide (p.2.place ≤ q.2.place)
  have hplaced : (pairs.map Prod.fst).mapM (fun item => do
      return ((← placeOf item), item)) =
      .ok (pairs.map fun p => (p.2.place, p.1)) := by
    rw [mapM_eq_ok, List.forall₂_map_left_iff,
      List.forall₂_map_right_iff, List.forall₂_same]
    intro p hp
    rw [(hpairs p hp).placeOf_eq]
    rfl
  have hitems : (pairs.map fun p => (p.2.place, p.1)).mergeSort (fun a b =>
      decide (a.1 ≤ b.1)) =
      sorted.map fun p => (p.2.place, p.1) :=
    (List.map_mergeSort (f := fun p : Data × Carried => (p.2.place, p.1)) fun _ _ _ _ =>
      rfl).symm
  have hcarried : inPlaces (pairs.map Prod.snd) = sorted.map Prod.snd :=
    (List.map_mergeSort (f := (Prod.snd : Data × Carried → Carried)) fun _ _ _ _ =>
      rfl).symm
  refine ⟨sorted.map Prod.fst, bind_eq_ok.mpr ⟨_, hplaced, ?_⟩, ?_⟩
  · rw [hitems, List.map_map]
    rfl
  · rw [hcarried, List.forall₂_map_left_iff, List.forall₂_map_right_iff, List.forall₂_same]
    exact fun p hp => hpairs p (List.mem_mergeSort.mp hp)

theorem inOrder_bind_vectorOf (h : List.Forall₂ Carries items carried) :
    (do (← inOrder items).mapM vectorOf) = .ok ((inPlaces carried).map Carried.vector) := by
  obtain ⟨sorted, hsorted, hcarries⟩ := exists_inOrder h
  refine bind_eq_ok.mpr ⟨sorted, hsorted, ?_⟩
  rw [mapM_eq_ok, List.forall₂_map_right_iff]
  exact hcarries.imp fun _ _ => Carries.vectorOf_eq

/-! ## Places -/

theorem inPlaces_perm (carried : List Carried) : (inPlaces carried).Perm carried :=
  List.mergeSort_perm carried _

/-- Items with equal places keep their order. -/
theorem exists_places_inPlaces (carried : List Carried) : ∃ places : List (Carried × ℕ),
    places.Perm carried.zipIdx ∧ inPlaces carried = places.map Prod.fst ∧
      places.Pairwise fun p q => p.1.place < q.1.place ∨
        p.1.place = q.1.place ∧ p.2 < q.2 := by
  obtain ⟨places, hperm, hmap, hpairwise⟩ :=
    exists_places_mergeSort (key_trans Carried.place) (key_total Carried.place) carried
  refine ⟨places, hperm, hmap, hpairwise.imp fun {p q} h => ?_⟩
  obtain ⟨hle, htie⟩ := h
  simp only [decide_eq_true_eq] at hle htie
  rcases Int.lt_or_eq_of_le hle with hlt | heq
  · exact .inl hlt
  · exact .inr ⟨heq, htie (Int.le_of_eq heq.symm)⟩

theorem inPlaces_eq_self (h : ∀ c ∈ carried, c.place? = none) :
    inPlaces carried = carried := by
  apply List.mergeSort_of_pairwise
  apply List.pairwise_of_forall_mem_list
  intro a ha b hb
  simp [Carried.place, h a ha, h b hb]

theorem inPlaces_eq_of_perm (hnodup : (carried.map Carried.place).Nodup)
    (h : carried.Perm others) :
    inPlaces carried = inPlaces others := by
  refine mergeSort_eq_of_perm (key_trans Carried.place) (key_total Carried.place)
    (fun a ha b hb hab hba => ?_) h
  simp only [decide_eq_true_eq] at hab hba
  exact List.inj_on_of_nodup_map hnodup ha hb (Int.le_antisymm hab hba)

/-- Where the places are those of the texts, sorting undoes the order in which the items
came. -/
theorem map_place_inPlaces {n : ℕ}
    (h : (carried.map Carried.place).Perm ((List.range n).map Int.ofNat)) :
    (inPlaces carried).map Carried.place = (List.range n).map Int.ofNat := by
  apply List.Perm.eq_of_pairwise (fun a b _ _ => Int.le_antisymm)
  · rw [List.pairwise_map]
    exact pairwise_mergeSort_key Carried.place carried
  · rw [List.pairwise_map]
    exact List.pairwise_lt_range.imp fun h => Int.ofNat_le.mpr (Nat.le_of_lt h)
  · exact ((inPlaces_perm carried).map Carried.place).trans h

theorem getElem?_inPlaces {n i : ℕ}
    (h : (carried.map Carried.place).Perm ((List.range n).map Int.ofNat)) (hc : c ∈ carried)
    (hi : c.place = i) : (inPlaces carried)[i]? = some c := by
  obtain ⟨j, hj, hcj⟩ := List.mem_iff_getElem.mp ((inPlaces_perm carried).mem_iff.mpr hc)
  have hplace : (inPlaces carried)[j].place = j := by
    have hlength : j < n := by
      rw [← List.length_range (n := n), ← List.length_map Int.ofNat, ← map_place_inPlaces h,
        List.length_map]
      exact hj
    have hmap := congrArg (fun places => places[j]?) (map_place_inPlaces h)
    simpa [hj, hlength] using hmap
  rw [hcj, hi] at hplace
  obtain rfl : i = j := by exact_mod_cast hplace
  rw [← hcj]
  exact List.getElem?_eq_getElem hj

/-! ## Replies -/

theorem ofReply_eq {text : String} {entries : List (String × Data)}
    (hread : readBody text = .ok (.table entries))
    (hdata : (entries.lookup "data").getD (.list []) = .list items) :
    ofReply text = (do (← inOrder items).mapM vectorOf) := by
  unfold ofReply
  rw [hread]
  show (do
    let items ← itemsOf ((entries.lookup "data").getD (.list []))
    (← inOrder items).mapM vectorOf) = _
  rw [hdata]
  rfl

theorem outcome_of_holds {reply : Reply} (hreply : Holds reply items)
    (h : List.Forall₂ Carries items carried) (model : String) (expected : ℕ) :
    outcome model expected reply =
      if items.length = expected then .ok ((inPlaces carried).map Carried.vector)
      else .error (.refused (.count expected items.length)) := by
  obtain ⟨status, headers, text, entries, rfl, hstatus, hread, hdata⟩ := hreply
  have hlength : ((inPlaces carried).map Carried.vector).length = items.length := by
    rw [List.length_map, (inPlaces_perm carried).length_eq, h.length_eq]
  have hvectors : ofReply text = .ok ((inPlaces carried).map Carried.vector) :=
    (ofReply_eq hread hdata).trans (inOrder_bind_vectorOf h)
  simp only [outcome, hstatus, hvectors, hlength]
  rfl

def requestOf (endpoint : Endpoint) (model : String) (texts : List String) : Request :=
  endpoint.request service (body model texts)

variable {endpoint : Endpoint} {transport : Transport} {model : String}
  {texts : List String}

theorem value_embed (htexts : texts ≠ []) :
    (embed endpoint transport model texts).value =
      outcome model texts.length (transport (requestOf endpoint model texts)) := by
  unfold embed
  rw [if_neg (by simpa using htexts)]
  rfl

theorem value_embed_of_holds (htexts : texts ≠ [])
    (hreply : Holds (transport (requestOf endpoint model texts)) items)
    (hitems : List.Forall₂ Carries items carried) :
    (embed endpoint transport model texts).value =
      if items.length = texts.length then .ok ((inPlaces carried).map Carried.vector)
      else .error (.refused (.count texts.length items.length)) := by
  rw [value_embed htexts, outcome_of_holds hreply hitems]

/-- The vectors that a successful reply gives to texts. Another number of items than
texts is refused. The vectors come in the order of the places that the items tell, items
of equal places in the order of the reply, and so all in the order of the reply if no
item tells a place. Where the places are those of the texts, each text gets the vector
with its place, and any other order of the same items gives the same answer. -/
theorem embed_in_places (htexts : texts ≠ [])
    (hreply : Holds (transport (requestOf endpoint model texts)) items)
    (hitems : List.Forall₂ Carries items carried) :
    (items.length ≠ texts.length → (embed endpoint transport model texts).value =
        .error (.refused (.count texts.length items.length))) ∧
      (items.length = texts.length →
        (∃ places : List (Carried × ℕ), places.Perm carried.zipIdx ∧
          (places.Pairwise fun p q => p.1.place < q.1.place ∨
            p.1.place = q.1.place ∧ p.2 < q.2) ∧
          (embed endpoint transport model texts).value =
            .ok (places.map fun p => p.1.vector)) ∧
        ((∀ c ∈ carried, c.place? = none) →
          (embed endpoint transport model texts).value = .ok (carried.map Carried.vector)) ∧
        ((carried.map Carried.place).Perm ((List.range texts.length).map Int.ofNat) →
          (∃ vectors, (embed endpoint transport model texts).value = .ok vectors ∧
            vectors.length = texts.length ∧
            ∀ c ∈ carried, ∀ i : ℕ, c.place = i → vectors[i]? = some c.vector) ∧
          ∀ (other : Transport) (items' : List Data), items'.Perm items →
            Holds (other (requestOf endpoint model texts)) items' →
            (embed endpoint other model texts).value =
              (embed endpoint transport model texts).value)) := by
  have hvalue := value_embed_of_holds htexts hreply hitems
  refine ⟨fun hcount => by rw [hvalue, if_neg hcount], fun hcount => ?_⟩
  rw [if_pos hcount] at hvalue
  rw [hvalue]
  refine ⟨?_, fun hnone => by rw [inPlaces_eq_self hnone], fun hplaces => ⟨?_, ?_⟩⟩
  · obtain ⟨places, hperm, hsorted, hordered⟩ := exists_places_inPlaces carried
    refine ⟨places, hperm, hordered, ?_⟩
    rw [hsorted, List.map_map]
    rfl
  · refine ⟨_, rfl, ?_, fun c hc i hi => ?_⟩
    · rw [List.length_map, (inPlaces_perm carried).length_eq, ← hitems.length_eq, hcount]
    · rw [List.getElem?_map, getElem?_inPlaces hplaces hc hi, Option.map_some]
  · intro other items' hperm hother
    have hnodup : (carried.map Carried.place).Nodup := by
      rw [hplaces.nodup_iff]
      exact List.nodup_range.map fun _ _ h => Int.ofNat.inj h
    -- the items come in another order, and so does what they hold
    obtain ⟨carried', hitems', hperm'⟩ := List.perm_comp_forall₂ hperm hitems
    rw [value_embed_of_holds htexts hother hitems', if_pos (hperm.length_eq.trans hcount),
      inPlaces_eq_of_perm hnodup hperm'.symm]

def sampleBody : String :=
  "\x7b\"data\": [\x7b\"index\": 1, \"embedding\": [0.0, 1.0]\x7d, \x7b\"index\": 0, \"embedding\": [1.0, 0.0]\x7d]\x7d"

def sampleTransport : Transport := fun _ =>
  .answered 200 [] sampleBody

def sampleItem (index : Int) (vector : List Float) : Data :=
  .table [("index", .int index), ("embedding", .list (vector.map .float))]

theorem carries_sampleItem (index : Int) (vector : List Float) :
    Carries (sampleItem index vector) ⟨some index, vector⟩ where
  place := ⟨.int index, rfl, rfl⟩
  vector := by
    refine ⟨vector.map .float, rfl, ?_⟩
    rw [List.forall₂_map_left_iff, List.forall₂_same]
    intro x _
    rfl

/-- The value is a table of two such items. -/
def holdsTwo (first second : List Float) : Except ReplyError Data → Bool
  | .ok (.table [("data", .list [
      .table [("index", .int 1), ("embedding", .list [.float a, .float b])],
      .table [("index", .int 0), ("embedding", .list [.float c, .float d])]])]) =>
    decide ([a, b] = first ∧ [c, d] = second)
  | _ => false

theorem readBody_sampleBody : readBody sampleBody =
    .ok (.table [("data", .list [sampleItem 1 [0.0, 1.0], sampleItem 0 [1.0, 0.0]])]) := by
  have h : holdsTwo [0.0, 1.0] [1.0, 0.0] (readBody sampleBody) = true := by decide +kernel
  unfold holdsTwo at h
  split at h
  · rename_i hread
    obtain ⟨hfirst, hsecond⟩ := of_decide_eq_true h
    obtain ⟨rfl, rfl⟩ : _ ∧ _ := by simpa using hfirst
    obtain ⟨rfl, rfl⟩ : _ ∧ _ := by simpa using hsecond
    exact hread
  · cases h

/-- The items come in the order opposite to that of their texts. -/
theorem embed_in_places_sampleBody :
    ["first", "second"] ≠ [] ∧
      (embed {} sampleTransport defaultEmbeddingModel ["first", "second"]).value =
        .ok [[1.0, 0.0], [0.0, 1.0]] := by
  have htexts : ["first", "second"] ≠ [] := by decide
  have hreply :
      Holds (sampleTransport (requestOf {} defaultEmbeddingModel ["first", "second"]))
      [sampleItem 1 [0.0, 1.0], sampleItem 0 [1.0, 0.0]] :=
    ⟨200, [], sampleBody, _, rfl, by decide, readBody_sampleBody, rfl⟩
  have hitems : List.Forall₂ Carries [sampleItem 1 [0.0, 1.0], sampleItem 0 [1.0, 0.0]]
      [⟨some 1, [0.0, 1.0]⟩, ⟨some 0, [1.0, 0.0]⟩] :=
    .cons (carries_sampleItem 1 _) (.cons (carries_sampleItem 0 _) .nil)
  obtain ⟨-, hequal⟩ := embed_in_places htexts hreply hitems
  obtain ⟨-, -, hplaces⟩ := hequal rfl
  obtain ⟨⟨vectors, hvectors, hlength, hget⟩, -⟩ := hplaces (by decide)
  obtain ⟨u, v, rfl⟩ := List.length_eq_two.mp hlength
  have hfirst := hget ⟨some 0, [1.0, 0.0]⟩ (by simp) 0 rfl
  have hsecond := hget ⟨some 1, [0.0, 1.0]⟩ (by simp) 1 rfl
  obtain rfl := Option.some.inj hfirst
  obtain rfl := Option.some.inj hsecond
  exact ⟨htexts, hvectors⟩

end CodeRetrieval.Proxy.Embeddings
