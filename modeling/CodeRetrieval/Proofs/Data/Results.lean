import Mathlib.Data.List.Forall2

/-!
# Results of lists

A list of computations succeeds when each of them does, and otherwise fails as the first
of them that does not.
-/

namespace CodeRetrieval

variable {α β γ ε δ : Type}

theorem exists_eq_ok {x : Except ε α} (h : x.isOk = true) : ∃ a, x = .ok a := by
  cases x with
  | error e => cases h
  | ok a => exact ⟨a, rfl⟩

theorem bind_eq_ok {x : Except ε α} {f : α → Except ε β} {b : β} :
    (x >>= f) = .ok b ↔ ∃ a, x = .ok a ∧ f a = .ok b := by
  cases x with
  | error e => simp [bind, Except.bind]
  | ok a => simp [bind, Except.bind]

theorem bind_eq_error {x : Except ε α} {f : α → Except ε β} {e : ε} :
    (x >>= f) = .error e ↔ x = .error e ∨ ∃ a, x = .ok a ∧ f a = .error e := by
  cases x with
  | error e => simp [bind, Except.bind]
  | ok a => simp [bind, Except.bind]

theorem mapError_eq_ok {x : Except ε α} {f : ε → δ} {a : α} :
    x.mapError f = .ok a ↔ x = .ok a := by
  cases x <;> simp [Except.mapError]

theorem mapError_eq_error {x : Except ε α} {f : ε → δ} {d : δ} :
    x.mapError f = .error d ↔ ∃ e, x = .error e ∧ f e = d := by
  cases x <;> simp [Except.mapError]

theorem map_eq_ok {x : Except ε α} {f : α → β} {b : β} :
    x.map f = .ok b ↔ ∃ a, x = .ok a ∧ f a = b := by
  cases x <;> simp [Except.map]

theorem map_eq_error {x : Except ε α} {f : α → β} {e : ε} :
    x.map f = .error e ↔ x = .error e := by
  cases x <;> simp [Except.map]

theorem exists_map_eq_error {x : Except ε α} {f : α → β} :
    (∃ e, (do let a ← x; pure (f a)) = .error e) ↔ ∃ e, x = .error e := by
  cases x <;> simp [bind, Except.bind, pure, Except.pure]

theorem exists_map₂_eq_error {x : Except ε α} {y : Except ε β} {f : α → β → γ} :
    (∃ e, (do let a ← x; let b ← y; pure (f a b)) = .error e) ↔ (∃ e, x = .error e) ∨
      ∃ e, y = .error e := by
  cases x <;> cases y <;> simp [bind, Except.bind, pure, Except.pure]

theorem mapM_eq_ok {f : α → Except ε β} {xs : List α} {ys : List β} :
    xs.mapM f = .ok ys ↔ List.Forall₂ (fun x y => f x = .ok y) xs ys := by
  induction xs generalizing ys with
  | nil => simp [pure, Except.pure, eq_comm]
  | cons x xs ih =>
      rw [List.mapM_cons, bind_eq_ok]
      constructor
      · rintro ⟨y, hy, h⟩
        obtain ⟨zs, hzs, h⟩ := bind_eq_ok.mp h
        cases h
        exact .cons hy (ih.mp hzs)
      · rintro (_ | ⟨hy, hys⟩)
        exact ⟨_, hy, bind_eq_ok.mpr ⟨_, ih.mpr hys, rfl⟩⟩

theorem exists_mapM_eq_ok {f : α → Except ε β} {xs : List α}
    (h : ∀ x ∈ xs, ∃ y, f x = .ok y) :
    ∃ ys, xs.mapM f = .ok ys := by
  induction xs with
  | nil => exact ⟨[], rfl⟩
  | cons x xs ih =>
      obtain ⟨y, hy⟩ := h x List.mem_cons_self
      obtain ⟨ys, hys⟩ := ih fun z hz => h z (List.mem_cons_of_mem x hz)
      refine ⟨y :: ys, ?_⟩
      rw [List.mapM_cons, hy, hys]
      rfl

theorem filterMapM_eq_ok {f : α → Except ε (Option β)} {g : α → Option β} {xs : List α}
    (h : ∀ x ∈ xs, f x = .ok (g x)) : xs.filterMapM f = .ok (xs.filterMap g) := by
  induction xs with
  | nil => rfl
  | cons x xs ih =>
      have hxs := ih fun y hy => h y (List.mem_cons_of_mem x hy)
      rw [List.filterMapM_cons, h x List.mem_cons_self, hxs]
      cases hg : g x with
      | none => rw [List.filterMap_cons_none hg]; rfl
      | some y => rw [List.filterMap_cons_some hg]; rfl

theorem exists_of_mem_filterMapM {f : α → Except ε (Option β)} {xs : List α} {ys : List β}
    (h : xs.filterMapM f = .ok ys) {y : β} (hy : y ∈ ys) :
    ∃ x ∈ xs, f x = .ok (some y) := by
  induction xs generalizing ys with
  | nil =>
      obtain rfl := Except.ok.inj h
      cases hy
  | cons x xs ih =>
      rw [List.filterMapM_cons] at h
      obtain ⟨z?, hz, h⟩ := bind_eq_ok.mp h
      cases z? with
      | none =>
          obtain ⟨w, hw, hwy⟩ := ih h hy
          exact ⟨w, List.mem_cons_of_mem x hw, hwy⟩
      | some z =>
          obtain ⟨zs, hzs, h⟩ := bind_eq_ok.mp h
          obtain rfl := Except.ok.inj h
          rcases List.mem_cons.mp hy with rfl | hy
          · exact ⟨x, List.mem_cons_self, hz⟩
          · obtain ⟨w, hw, hwy⟩ := ih hzs hy
            exact ⟨w, List.mem_cons_of_mem x hw, hwy⟩

theorem exists_eq_ok_of_filterMapM {f : α → Except ε (Option β)} {xs : List α} {ys : List β}
    (h : xs.filterMapM f = .ok ys) {x : α} (hx : x ∈ xs) : ∃ y?, f x = .ok y? := by
  induction xs generalizing ys with
  | nil => cases hx
  | cons w xs ih =>
      rw [List.filterMapM_cons] at h
      obtain ⟨z?, hz, h⟩ := bind_eq_ok.mp h
      rcases List.mem_cons.mp hx with rfl | hx
      · exact ⟨z?, hz⟩
      · cases z? with
        | none => exact ih h hx
        | some z =>
            obtain ⟨zs, hzs, -⟩ := bind_eq_ok.mp h
            exact ih hzs hx

/-- The reason why a list fails is that of the first entry that does. -/
theorem mapM_eq_error {f : α → Except ε β} {xs : List α} {e : ε} :
    xs.mapM f = .error e ↔ ∃ before x after, xs = before ++ x :: after ∧ f x = .error e ∧
      ∀ y ∈ before, ∃ z, f y = .ok z := by
  induction xs with
  | nil => simp [pure, Except.pure]
  | cons x xs ih =>
      rw [List.mapM_cons, bind_eq_error]
      constructor
      · rintro (h | ⟨y, hy, h⟩)
        · exact ⟨[], x, xs, rfl, h, by simp⟩
        · obtain h | ⟨_, _, h⟩ := bind_eq_error.mp h
          · obtain ⟨before, z, after, rfl, hz, hbefore⟩ := ih.mp h
            exact ⟨x :: before, z, after, rfl, hz, by simpa using ⟨⟨y, hy⟩, hbefore⟩⟩
          · cases h
      · rintro ⟨before, z, after, hsplit, hz, hbefore⟩
        cases before with
        | nil =>
            obtain ⟨rfl, rfl⟩ := List.cons.inj hsplit
            exact .inl hz
        | cons w before =>
            obtain ⟨rfl, rfl⟩ := List.cons.inj hsplit
            obtain ⟨y, hy⟩ := hbefore x (by simp)
            have htail :=
              ih.mpr ⟨before, z, after, rfl, hz, fun v hv => hbefore v (by simp [hv])⟩
            exact .inr ⟨y, hy, bind_eq_error.mpr (.inl htail)⟩

theorem exists_of_mem_left {R : α → β → Prop} {xs : List α} {ys : List β}
    (h : List.Forall₂ R xs ys) {x : α} (hx : x ∈ xs) : ∃ y ∈ ys, R x y := by
  induction h with
  | nil => cases hx
  | cons hr _ ih =>
      rcases List.mem_cons.mp hx with rfl | hx
      · exact ⟨_, List.mem_cons_self, hr⟩
      · obtain ⟨y, hy, hxy⟩ := ih hx
        exact ⟨y, List.mem_cons_of_mem _ hy, hxy⟩

theorem exists_of_mem_right {R : α → β → Prop} {xs : List α} {ys : List β}
    (h : List.Forall₂ R xs ys) {y : β} (hy : y ∈ ys) : ∃ x ∈ xs, R x y :=
  exists_of_mem_left h.flip hy

/-- An entry has one that corresponds to it in its place. -/
theorem exists_of_getElem?_left {R : α → β → Prop} {xs : List α} {ys : List β}
    (h : List.Forall₂ R xs ys) {i : Nat} {x : α} (hx : xs[i]? = some x) :
    ∃ y, ys[i]? = some y ∧ R x y := by
  induction h generalizing i with
  | nil => cases hx
  | cons hr _ ih =>
      cases i with
      | zero =>
          obtain rfl := Option.some.inj hx
          exact ⟨_, rfl, hr⟩
      | succ i => exact ih hx

theorem exists_of_getElem?_right {R : α → β → Prop} {xs : List α} {ys : List β}
    (h : List.Forall₂ R xs ys) {i : Nat} {y : β} (hy : ys[i]? = some y) :
    ∃ x, xs[i]? = some x ∧ R x y :=
  exists_of_getElem?_left h.flip hy

/-- Entries that correspond through a list between correspond. -/
theorem forall₂_trans {R : α → β → Prop} {S : β → δ → Prop} {T : α → δ → Prop} {xs : List α}
    {ys : List β} {zs : List δ} (hxy : List.Forall₂ R xs ys) (hyz : List.Forall₂ S ys zs)
    (h : ∀ x y z, R x y → S y z → T x z) :
    List.Forall₂ T xs zs := by
  induction hxy generalizing zs with
  | nil =>
      cases hyz
      exact .nil
  | cons hr _ ih =>
      cases hyz with
      | cons hs hyz => exact .cons (h _ _ _ hr hs) (ih hyz)

/-- Lists whose entries correspond have the same values where entries that correspond do. -/
theorem map_eq_of_forall₂ {R : α → β → Prop} {f : α → δ} {g : β → δ} {xs : List α}
    {ys : List β} (h : List.Forall₂ R xs ys) (hfg : ∀ x y, R x y → f x = g y) :
    xs.map f = ys.map g := by
  rw [← List.forall₂_eq_eq_eq, List.forall₂_map_left_iff, List.forall₂_map_right_iff]
  exact h.imp hfg

/-- Searches that decide alike on entries that correspond find nothing, or entries that
correspond. -/
theorem find?_of_forall₂ {R : α → β → Prop} {p : α → Bool} {q : β → Bool} {xs : List α}
    {ys : List β} (h : List.Forall₂ R xs ys) (hpq : ∀ x y, R x y → p x = q y) :
    xs.find? p = none ∧ ys.find? q = none ∨ ∃ x y, xs.find? p = some x ∧
      ys.find? q = some y ∧ R x y := by
  induction h with
  | nil => exact .inl ⟨rfl, rfl⟩
  | @cons x y xs ys hr hs ih =>
      cases hx : p x with
      | true =>
          exact .inr ⟨x, y, List.find?_cons_of_pos hx,
            List.find?_cons_of_pos (hpq x y hr ▸ hx), hr⟩
      | false =>
          have hy : q y = false := hpq x y hr ▸ hx
          rw [List.find?_cons_of_neg (by simp [hx]), List.find?_cons_of_neg (by simp [hy])]
          exact ih

theorem toOption_map {x : Except ε α} (f : α → β) :
    (x.map f).toOption = x.toOption.map f := by
  cases x <;> rfl

theorem toOption_mapM {f : α → Except ε β} (xs : List α) :
    (xs.mapM f).toOption = xs.mapM fun x => (f x).toOption := by
  induction xs with
  | nil => rfl
  | cons x xs ih =>
      rw [List.mapM_cons, List.mapM_cons, ← ih]
      cases f x with
      | error e => rfl
      | ok y => cases xs.mapM f <;> rfl

/-- The lists of a list succeed together as the list that they make up does. -/
theorem mapM_flatten {f : α → Option β} (xss : List (List α)) :
    (xss.mapM (List.mapM f)).map List.flatten = xss.flatten.mapM f := by
  induction xss with
  | nil => rfl
  | cons xs xss ih =>
      rw [List.mapM_cons, List.flatten_cons, List.mapM_append, ← ih]
      cases xs.mapM f with
      | none => rfl
      | some ys => cases xss.mapM (List.mapM f) <;> rfl

theorem exists_mapM_eq_error {f : α → Except ε β} {xs : List α} :
    (∃ e, xs.mapM f = .error e) ↔ ∃ x ∈ xs, ∃ e, f x = .error e := by
  constructor
  · rintro ⟨e, h⟩
    obtain ⟨before, x, after, rfl, hx, -⟩ := mapM_eq_error.mp h
    exact ⟨x, by simp, e, hx⟩
  · rintro ⟨x, hx, e, he⟩
    cases h : xs.mapM f with
    | error e => exact ⟨e, rfl⟩
    | ok ys =>
        obtain ⟨y, -, hy⟩ := exists_of_mem_left (mapM_eq_ok.mp h) hx
        cases he.symm.trans hy

end CodeRetrieval
