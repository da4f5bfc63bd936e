import CodeRetrieval.Proofs.Data.JsonAtom

/-!
# Blanks around JSON texts

A value does not end with a blank, so what is read from a text with blanks around it is
read from the text alone, and the blanks can only be the white space of JSON. A value
never starts with a blank either, nor with a backquote.
-/

namespace CodeRetrieval.Data.Json

open Notation Text

variable {c : Char} {s t rest : List Char} {d : Data}

/-! ## Values -/

section

variable {n : ℕ}

theorem readValue_text (n : ℕ) (s : List Char) :
    readValue (n + 1) ('\x22' :: s) = (readText s).map fun (t, rest) => (.text t, rest) :=
  readValue_succ n _

theorem readValue_list_nil {s : List Char} (h : skip s = ']' :: rest) (n : ℕ) :
    readValue (n + 1) ('[' :: s) = .ok (.list [], rest) := by
  rw [readValue_succ]
  simp only [h]

theorem readValue_list {s : List Char} (h : ∀ r, skip s ≠ ']' :: r) (n : ℕ) :
    readValue (n + 1) ('[' :: s) = (readItems n (skip s)).map fun (items, rest) =>
      (.list items, rest) := by
  rw [readValue_succ]
  -- by `h` the list is not closed at once
  simp only

theorem readValue_table_nil {s : List Char} (h : skip s = '\x7d' :: rest) (n : ℕ) :
    readValue (n + 1) ('\x7b' :: s) = .ok (.table [], rest) := by
  rw [readValue_succ]
  simp only [h]

theorem readValue_table {s : List Char} (h : ∀ r, skip s ≠ '\x7d' :: r) (n : ℕ) :
    readValue (n + 1) ('\x7b' :: s) =
      (readEntries n [] (skip s)).map fun (entries, rest) => (.table entries, rest) := by
  rw [readValue_succ]
  simp only

theorem readValue_atom {s : List Char} (htext : ∀ r, s ≠ '\x22' :: r)
    (hlist : ∀ r, s ≠ '[' :: r) (htable : ∀ r, s ≠ '\x7b' :: r) (n : ℕ) :
    readValue (n + 1) s = readAtom s := by
  rw [readValue_succ]
  split
  · exact absurd rfl (htext _)
  · exact absurd rfl (hlist _)
  · exact absurd rfl (htable _)
  · rfl

theorem start_of_readValue (h : readValue n s = .ok (d, rest)) :
    ∃ c r, s = c :: r ∧ isBlank c = false ∧ c ≠ '\x60' := by
  cases n with
  | zero => cases h
  | succ n =>
      rw [readValue_succ] at h
      split at h
      · exact ⟨_, _, rfl, by decide⟩
      · exact ⟨_, _, rfl, by decide⟩
      · exact ⟨_, _, rfl, by decide⟩
      · exact (of_readAtom h).2

theorem head_of_readValue (h : readValue n s = .ok (d, rest)) :
    ∃ c r, s = c :: r ∧ isBlank c = false := by
  obtain ⟨c, r, rfl, hc, -⟩ := start_of_readValue h
  exact ⟨c, r, rfl, hc⟩

theorem readItems_eq_ok {items : List Data} : readItems (n + 1) s = .ok (items, rest) ↔
    ∃ first after, readValue n s = .ok (first, after) ∧
      (skip after = ']' :: rest ∧ items = [first] ∨
        ∃ r others, skip after = ',' :: r ∧ readItems n (skip r) = .ok (others, rest) ∧
          items = first :: others) := by
  rw [readItems_succ, bind_eq_ok]
  constructor
  · rintro ⟨⟨first, after⟩, hfirst, h⟩
    refine ⟨first, after, hfirst, ?_⟩
    simp only at h
    split at h
    · rename_i r hclose
      obtain ⟨rfl, rfl⟩ := Prod.mk.inj (Except.ok.inj h)
      exact .inl ⟨hclose, rfl⟩
    · rename_i r hcomma
      obtain ⟨⟨others, last⟩, hothers, h⟩ := bind_eq_ok.mp h
      obtain ⟨rfl, rfl⟩ := Prod.mk.inj (Except.ok.inj h)
      exact .inr ⟨r, others, hcomma, hothers, rfl⟩
    · cases h
  · rintro ⟨first, after, hfirst, ⟨hclose, rfl⟩ | ⟨r, others, hcomma, hothers, rfl⟩⟩
    · refine ⟨_, hfirst, ?_⟩
      simp only [hclose]
      rfl
    · refine ⟨_, hfirst, ?_⟩
      simp only [hcomma]
      exact bind_eq_ok.mpr ⟨_, hothers, rfl⟩

theorem readEntries_eq_ok {before entries : List (String × Data)} :
    readEntries (n + 1) before s = .ok (entries, rest) ↔
      ∃ text key after r value behind, s = '\x22' :: text ∧
        readText text = .ok (key, after) ∧ skip after = ':' :: r ∧
        readValue n (skip r) = .ok (value, behind) ∧
        (skip behind = '\x7d' :: rest ∧ entries = Table.set key value before ∨
          ∃ r', skip behind = ',' :: r' ∧
            readEntries n (Table.set key value before) (skip r') =
            .ok (entries, rest)) := by
  constructor
  · intro h
    rw [readEntries_succ] at h
    split at h
    · rename_i text
      obtain ⟨⟨key, after⟩, hkey, h⟩ := bind_eq_ok.mp h
      simp only at h
      split at h
      · rename_i r hcolon
        obtain ⟨⟨value, behind⟩, hvalue, h⟩ := bind_eq_ok.mp h
        refine ⟨text, key, after, r, value, behind, rfl, hkey, hcolon, hvalue, ?_⟩
        simp only at h
        split at h
        · rename_i r' hclose
          obtain ⟨rfl, rfl⟩ := Prod.mk.inj (Except.ok.inj h)
          exact .inl ⟨hclose, rfl⟩
        · rename_i r' hcomma
          exact .inr ⟨r', hcomma, h⟩
        · cases h
      · cases h
    · cases h
  · rintro ⟨text, key, after, r, value, behind, rfl, hkey, hcolon, hvalue, hmore⟩
    rw [readEntries_succ]
    refine bind_eq_ok.mpr ⟨_, hkey, ?_⟩
    simp only [hcolon]
    refine bind_eq_ok.mpr ⟨_, hvalue, ?_⟩
    obtain ⟨hclose, rfl⟩ | ⟨r', hcomma, hentries⟩ := hmore
    · simp only [hclose]
      rfl
    · simp only [hcomma]
      exact hentries

theorem head_of_readItems {items : List Data} (h : readItems n s = .ok (items, rest)) :
    ∃ c r, s = c :: r ∧ isBlank c = false := by
  cases n with
  | zero => cases h
  | succ n =>
      obtain ⟨first, after, hfirst, -⟩ := readItems_eq_ok.mp h
      exact head_of_readValue hfirst

theorem head_of_readEntries {before entries : List (String × Data)}
    (h : readEntries n before s = .ok (entries, rest)) :
    ∃ c r, s = c :: r ∧ isBlank c = false := by
  cases n with
  | zero => cases h
  | succ n =>
      obtain ⟨text, key, after, r, value, behind, rfl, -⟩ := readEntries_eq_ok.mp h
      exact ⟨_, _, rfl, by decide⟩

theorem length_skip_le (s : List Char) : (skip s).length ≤ s.length :=
  (List.dropWhile_suffix isSpace).length_le

theorem skip_append (ht : ∀ c ∈ t, isBlank c = true)
    (h : ∃ c r, skip (s ++ t) = c :: r ∧ isBlank c = false) :
    skip (s ++ t) = skip s ++ t := by
  obtain ⟨c, r, hskip, hc⟩ := h
  unfold skip at hskip ⊢
  rw [List.dropWhile_append] at hskip ⊢
  split
  · rename_i hempty
    rw [if_pos hempty] at hskip
    -- a blank would be the first character that is none
    have hblank :=
      ht c ((List.dropWhile_suffix isSpace).subset (hskip ▸ List.mem_cons_self))
    rw [hc] at hblank
    cases hblank
  · rfl

theorem skip_of_append (ht : ∀ c ∈ t, isBlank c = true)
    (h : ∃ c r, skip (t ++ s) = c :: r ∧ isBlank c = false) :
    skip (t ++ s) = skip s := by
  obtain ⟨c, r, hskip, hc⟩ := h
  unfold skip at hskip ⊢
  rw [List.dropWhile_append] at hskip ⊢
  split
  · rfl
  · rename_i hleft
    rw [if_neg hleft] at hskip
    cases hdrop : t.dropWhile isSpace with
    | nil => simp [hdrop] at hleft
    | cons a left =>
        rw [hdrop] at hskip
        obtain ⟨rfl, -⟩ := List.cons.inj hskip
        rw [ht a ((List.dropWhile_suffix isSpace).subset (hdrop ▸ List.mem_cons_self))]
          at hc
        cases hc

theorem skip_eq_cons {c : Char} {r : List Char} (ht : ∀ c ∈ t, isBlank c = true)
    (h : skip (s ++ t) = c :: r) (hc : isBlank c = false) :
    ∃ left, skip s = c :: left ∧ r = left ++ t ∧ left.length < s.length := by
  have happend := skip_append ht ⟨c, r, h, hc⟩
  have hlength := length_skip_le s
  cases hskip : skip s with
  | nil =>
      rw [h, hskip, List.nil_append] at happend
      rw [ht c (happend ▸ List.mem_cons_self)] at hc
      cases hc
  | cons a left =>
      rw [h, hskip] at happend
      obtain ⟨rfl, rfl⟩ := List.cons.inj happend
      rw [hskip] at hlength
      exact ⟨left, rfl, rfl, hlength⟩

section

variable {α : Type} {inner : ℕ → Reader α}

/-- A reader that takes nothing that starts with a blank may skip white space first. -/
theorem IsLocal.skip (hinner : IsLocal inner n)
    (hhead : ∀ m {s rest a}, inner m s = .ok (a, rest) → ∃ c r, s = c :: r ∧
    isBlank c = false) :
    IsLocal (fun m s => inner m (Json.skip s)) n := by
  intro s t a rest ht hread
  simp only at hread
  rw [skip_append ht (hhead n hread)] at hread
  obtain ⟨left, rfl, hleft, hfuel⟩ := hinner ht hread
  have hlength := length_skip_le s
  exact ⟨left, rfl, by omega, fun m hm => hfuel m (by omega)⟩

/-- A list or a table, which is empty or holds what another reader takes. -/
theorem isLocal_enclosed {f : α → Data} {empty : Data} {opening closing : Char}
    (hinner : IsLocal inner n)
    (hhead : ∀ m {s rest a}, inner m s = .ok (a, rest) → ∃ c r, s = c :: r ∧
    isBlank c = false) (hclosing : isBlank closing = false) (hempty :
    ∀ m s r, skip s = closing :: r → readValue (m + 1) (opening :: s) = .ok (empty, r))
    (hfull : ∀ m s, (∀ r, skip s ≠ closing :: r) → readValue (m + 1) (opening :: s) =
    (inner m (skip s)).map fun (a, rest) => (f a, rest)) (ht :
    ∀ c ∈ t, isBlank c = true) (hread :
    readValue (n + 1) (opening :: (s ++ t)) = .ok (d, rest)) :
    ∃ left, rest = left ++ t ∧ Takes readValue (opening :: s) d left := by
  by_cases hclose : ∃ r, skip (s ++ t) = closing :: r
  · obtain ⟨r, hclose⟩ := hclose
    obtain ⟨left, hskip, rfl, hleft⟩ := skip_eq_cons ht hclose hclosing
    rw [hempty _ _ _ hclose] at hread
    obtain ⟨rfl, rfl⟩ := Prod.mk.inj (Except.ok.inj hread)
    exact ⟨left, rfl, .of_succ (Nat.lt_succ_of_lt hleft) fun m _ => hempty m s left hskip⟩
  · rw [not_exists] at hclose
    rw [hfull _ _ hclose] at hread
    obtain ⟨_, htaken, -⟩ := map_eq_ok.mp hread
    refine (hinner.skip hhead).map ht (Nat.lt_succ_self s.length)
      (fun m => hfull m s fun r hr => ?_) hread
    exact hclose (r ++ t) (by rw [skip_append ht (hhead n htaken), hr, List.cons_append])

end

/-- Within a bound, values, items and entries are read from the text in front of the
blanks alone. -/
structure ReadsLocally (n : ℕ) : Prop where
  value : IsLocal readValue n
  items : IsLocal readItems n
  entries : ∀ before, IsLocal (fun m => readEntries m before) n

namespace ReadsLocally

variable (h : ReadsLocally n)
include h

theorem value_succ : IsLocal readValue (n + 1) := by
  intro s t d rest ht hread
  obtain ⟨c, r, hhead, hc⟩ := head_of_readValue hread
  cases s with
  | nil =>
      rw [List.nil_append] at hhead
      rw [ht c (hhead ▸ List.mem_cons_self)] at hc
      cases hc
  | cons c s =>
      rw [List.cons_append] at hread
      by_cases htext : c = '\x22'
      · subst htext
        rw [readValue_text] at hread
        obtain ⟨⟨text, after⟩, htext, hpair⟩ := map_eq_ok.mp hread
        obtain ⟨rfl, rfl⟩ := Prod.mk.inj hpair
        obtain ⟨left, rfl, hleft, htext⟩ := readText_append ht htext
        refine ⟨left, rfl, .of_succ (Nat.lt_succ_of_lt hleft) fun m _ => ?_⟩
        rw [readValue_text]
        exact map_eq_ok.mpr ⟨_, htext, rfl⟩
      by_cases hlist : c = '['
      · subst hlist
        exact isLocal_enclosed h.items (fun _ => head_of_readItems) (by decide)
          (fun m _ _ h => readValue_list_nil h m)
          (fun m _ h => readValue_list h m) ht hread
      by_cases htable : c = '\x7b'
      · subst htable
        exact isLocal_enclosed (h.entries []) (fun _ => head_of_readEntries) (by decide)
          (fun m _ _ h => readValue_table_nil h m) (fun m _ h =>
            readValue_table h m) ht hread
      · rw [← List.cons_append, readValue_atom, readAtom_append ht] at hread
        · obtain ⟨⟨d, left⟩, hatom, hpair⟩ := map_eq_ok.mp hread
          obtain ⟨rfl, rfl⟩ := Prod.mk.inj hpair
          refine ⟨left, rfl, .of_succ (of_readAtom hatom).1 fun m _ => ?_⟩
          rw [readValue_atom, hatom]
          all_goals
            rintro _ ⟨⟩
            contradiction
        all_goals
          rintro _ ⟨⟩
          contradiction

theorem items_succ : IsLocal readItems (n + 1) := by
  intro s t items rest ht hread
  obtain ⟨first, after, hfirst, hmore⟩ := readItems_eq_ok.mp hread
  obtain ⟨left, rfl, hleft, hvalue⟩ := h.value ht hfirst
  obtain ⟨hclose, rfl⟩ | ⟨r, others, hcomma, hothers, rfl⟩ := hmore
  · obtain ⟨last, hskip, rfl, hlast⟩ := skip_eq_cons ht hclose (by decide)
    refine ⟨last, rfl, .of_succ (by omega) fun m hm => ?_⟩
    exact readItems_eq_ok.mpr ⟨first, left, hvalue m (by omega), .inl ⟨hskip, rfl⟩⟩
  · obtain ⟨later, hskip, rfl, hlater⟩ := skip_eq_cons ht hcomma (by decide)
    obtain ⟨last, rfl, hlast, hitems⟩ :=
      h.items.skip (fun _ => head_of_readItems) ht hothers
    refine ⟨last, rfl, .of_succ (by omega) fun m hm => ?_⟩
    exact readItems_eq_ok.mpr
      ⟨first, left, hvalue m (by omega),
       .inr ⟨later, others, hskip, hitems m (by omega), rfl⟩⟩

theorem entries_succ (before : List (String × Data)) :
    IsLocal (fun m => readEntries m before) (n + 1) := by
  intro s t entries rest ht hread
  obtain ⟨text, key, after, r, value, behind, hquote, hkey, hcolon, hread, hmore⟩ :=
    readEntries_eq_ok.mp hread
  cases s with
  | nil =>
      rw [List.nil_append] at hquote
      cases ht '\x22' (hquote ▸ List.mem_cons_self)
  | cons c s =>
      obtain ⟨rfl, rfl⟩ := List.cons.inj hquote
      obtain ⟨left, rfl, hleft, hkey⟩ := readText_append ht hkey
      obtain ⟨later, hskip, rfl, hlater⟩ := skip_eq_cons ht hcolon (by decide)
      obtain ⟨behind, rfl, hbehind, hvalue⟩ :=
        h.value.skip (fun _ => head_of_readValue) ht hread
      obtain ⟨hclose, rfl⟩ | ⟨r', hcomma, hread⟩ := hmore
      · obtain ⟨last, hskip', rfl, hlast⟩ := skip_eq_cons ht hclose (by decide)
        refine ⟨last, rfl, .of_succ (by simp only [List.length_cons]; omega) fun m hm => ?_⟩
        rw [List.length_cons] at hm
        exact readEntries_eq_ok.mpr
          ⟨s, key, left, later, value, behind, rfl, hkey, hskip,
           hvalue m (by omega), .inl ⟨hskip', rfl⟩⟩
      · obtain ⟨more, hskip', rfl, hmore⟩ := skip_eq_cons ht hcomma (by decide)
        obtain ⟨last, rfl, hlast, hentries⟩ :=
          (h.entries _).skip (fun _ => head_of_readEntries) ht hread
        refine ⟨last, rfl, .of_succ (by simp only [List.length_cons]; omega) fun m hm => ?_⟩
        rw [List.length_cons] at hm
        exact readEntries_eq_ok.mpr
          ⟨s, key, left, later, value, behind, rfl, hkey, hskip, hvalue m (by omega),
            .inr ⟨more, hskip', hentries m (by omega)⟩⟩

end ReadsLocally

end

theorem readsLocally (n : ℕ) : ReadsLocally n := by
  induction n with
  | zero =>
      constructor
      · intro s t d rest _ h
        cases h
      · intro s t items rest _ h
        cases h
      · intro before s t entries rest _ h
        cases h
  | succ n ih => exact ⟨ih.value_succ, ih.items_succ, ih.entries_succ⟩

/-! ## Whole texts -/

theorem read_eq_ok : read s = .ok d ↔
    ∃ rest, readValue (2 * s.length + 2) (skip s) = .ok (d, rest) ∧ skip rest = [] := by
  rw [read, bind_eq_ok]
  constructor
  · rintro ⟨⟨value, rest⟩, hvalue, h⟩
    simp only at h
    split at h
    · rename_i hempty
      obtain rfl := Except.ok.inj h
      exact ⟨rest, hvalue, List.isEmpty_iff.mp hempty⟩
    · cases h
  · rintro ⟨rest, hvalue, hrest⟩
    refine ⟨(d, rest), hvalue, ?_⟩
    simp only [hrest, List.isEmpty_nil, if_true]
    rfl

theorem read_of_append (ht : ∀ c ∈ t, isBlank c = true) (h : read (s ++ t) = .ok d) :
    read s = .ok d := by
  obtain ⟨rest, hvalue, hrest⟩ := read_eq_ok.mp h
  obtain ⟨left, rfl, hleft, hfuel⟩ :=
    (readsLocally _).value.skip (fun _ => head_of_readValue) ht hvalue
  refine read_eq_ok.mpr ⟨left, hfuel _ (by omega), ?_⟩
  rw [skip, List.dropWhile_eq_nil_iff] at hrest ⊢
  exact fun c hc => hrest c (List.mem_append_left t hc)

theorem read_of_append_left (ht : ∀ c ∈ t, isBlank c = true) (h : read (t ++ s) = .ok d) :
    read s = .ok d := by
  obtain ⟨rest, hvalue, hrest⟩ := read_eq_ok.mp h
  rw [skip_of_append ht (head_of_readValue hvalue)] at hvalue
  obtain ⟨left, hleft, -, hfuel⟩ :=
    (readsLocally _).value (t := []) (by simp) (by rwa [List.append_nil])
  obtain rfl := hleft.trans (List.append_nil left)
  have hlength := length_skip_le s
  exact read_eq_ok.mpr ⟨rest, hfuel _ (by omega), hrest⟩

/-- What is read from a text is read from it without the blanks around it. -/
theorem read_trim (h : read s = .ok d) : read (trim s) = .ok d := by
  obtain ⟨before, after, hs, hbefore, hafter⟩ := exists_trim s
  rw [hs, List.append_assoc] at h
  exact read_of_append hafter (read_of_append_left hbefore h)

theorem head_of_read (h : read s = .ok d) : ∀ r, s ≠ '\x60' :: r := by
  rintro r rfl
  obtain ⟨rest, hvalue, -⟩ := read_eq_ok.mp h
  obtain ⟨c, r, hhead, -, hc⟩ := start_of_readValue hvalue
  rw [skip, List.dropWhile_cons_of_neg (by decide)] at hhead
  exact hc (List.cons.inj hhead).1.symm

end CodeRetrieval.Data.Json
