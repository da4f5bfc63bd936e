import CodeRetrieval.Chunk.DocComment
import CodeRetrieval.Proofs.Text.Blank

/-!
# The block of comment rows above a unit

The scan upward takes the comment rows of the longest run of blank, attribute and
comment rows above a unit, and the row with a triple quote that stands on top of the
run. Where it looks further up it finds the same rows and perhaps some above them.
-/

namespace CodeRetrieval

namespace DocComment

/-! ## Kinds of rows -/

def stripped (row : String) : List Char :=
  Text.trim row.toList

def IsBlankRow (row : String) : Prop :=
  stripped row = []

def IsAttributeRow (row : String) : Prop :=
  "#[".toList <+: stripped row ∨ "#![".toList <+: stripped row

def IsQuoteRow (row : String) : Prop :=
  "\"\"\"".toList <+: stripped row ∨ "\x27\x27\x27".toList <+: stripped row

def IsCommentRow (row : String) : Prop :=
  "/**".toList <+: stripped row ∨ "/*".toList <+: stripped row ∨
    "*".toList <+: stripped row ∨
    "//".toList <+: stripped row ∨ "#".toList <+: stripped row ∨
      "*/".toList <:+ stripped row

/-- The row does not end the run above a unit. -/
def Continues (row : String) : Prop :=
  (IsBlankRow row ∨ IsAttributeRow row ∨ IsCommentRow row) ∧ ¬ IsQuoteRow row

/-- The row is part of the comment if it is in the block. Attributes that look like
comments are not. -/
def IsTaken (row : String) : Prop :=
  IsQuoteRow row ∨ IsCommentRow row ∧ ¬ IsAttributeRow row

instance : DecidablePred IsBlankRow :=
  fun row => inferInstanceAs (Decidable (stripped row = []))

instance : DecidablePred IsAttributeRow := fun _ => inferInstanceAs (Decidable (_ ∨ _))

instance : DecidablePred IsQuoteRow := fun _ => inferInstanceAs (Decidable (_ ∨ _))

instance : DecidablePred IsCommentRow :=
  fun _ => inferInstanceAs (Decidable (_ ∨ _ ∨ _ ∨ _ ∨ _ ∨ _))

instance : DecidablePred Continues := fun _ => inferInstanceAs (Decidable (_ ∧ _))

instance : DecidablePred IsTaken := fun _ => inferInstanceAs (Decidable (_ ∨ _))

theorem trim_withoutReturns (row : String) :
    Text.trim (Text.withoutReturns row.toList) = stripped row := by
  obtain ⟨returns, hsplit, hreturns⟩ :=
    Text.exists_eq_dropEndWhile_append (· == '\r') row.toList
  have hblank : ∀ c ∈ returns, Text.isBlank c = true := by
    intro c hc
    rw [beq_iff_eq.mp (hreturns c hc)]
    decide
  calc Text.trim (Text.withoutReturns row.toList)
      = Text.trim (Text.withoutReturns row.toList ++ returns) :=
        (Text.trim_append hblank).symm
    _ = stripped row := congrArg Text.trim hsplit.symm

theorem startsWithAny_iff {starts : List String} {s : List Char} :
    startsWithAny starts s = true ↔ ∃ p ∈ starts, p.toList <+: s := by
  simp [startsWithAny]

section

variable {row : String}

theorem passesOver_iff :
    ((stripped row).isEmpty || startsWithAny ["#[", "#!["] (stripped row)) = true ↔
      IsBlankRow row ∨ IsAttributeRow row := by
  simp [startsWithAny_iff, IsBlankRow, IsAttributeRow]

theorem startsWithQuote_iff :
    startsWithAny ["\"\"\"", "\x27\x27\x27"] (stripped row) = true ↔ IsQuoteRow row := by
  simp [startsWithAny_iff, IsQuoteRow]

theorem looksLikeComment_iff :
    (startsWithAny ["/**", "/*", "*", "//", "#"] (stripped row) ||
      "*/".toList.isSuffixOf (stripped row)) = true ↔
      IsCommentRow row := by
  simp [startsWithAny_iff, IsCommentRow, or_assoc]

theorem not_isQuoteRow_of_passedOver (h : IsBlankRow row ∨ IsAttributeRow row) :
    ¬ IsQuoteRow row := by
  unfold IsBlankRow IsAttributeRow at h
  unfold IsQuoteRow
  generalize stripped row = s at h
  cases s with
  | nil => simp
  | cons c s =>
      rcases h with h | h | h
      · cases h
      · have hc : '#' = c := (List.cons_prefix_cons.mp h).1
        subst hc
        simp
      · have hc : '#' = c := (List.cons_prefix_cons.mp h).1
        subst hc
        simp

theorem not_isCommentRow_of_isBlankRow (h : IsBlankRow row) : ¬ IsCommentRow row := by
  unfold IsCommentRow
  rw [show stripped row = [] from h]
  simp

theorem roleOf_cases (row : String) :
    let role := roleOf (Text.trim (Text.withoutReturns row.toList))
    role = .passedOver ∧ Continues row ∧ ¬ IsTaken row ∨
      role = .opening ∧ ¬ Continues row ∧ IsQuoteRow row ∨
      role = .comment ∧ Continues row ∧ IsTaken row ∨
      role = .other ∧ ¬ Continues row ∧ ¬ IsQuoteRow row := by
  intro role
  -- the tests are made in this order: passed over, quote, comment
  have hrole : role = roleOf (stripped row) := congrArg roleOf (trim_withoutReturns row)
  unfold roleOf at hrole
  by_cases hpassed : IsBlankRow row ∨ IsAttributeRow row
  · rw [if_pos (passesOver_iff.mpr hpassed)] at hrole
    have hquote := not_isQuoteRow_of_passedOver hpassed
    refine .inl ⟨hrole, ⟨or_assoc.mp (.inl hpassed), hquote⟩, ?_⟩
    rintro (h | ⟨hcomment, hattribute⟩)
    · exact hquote h
    · rcases hpassed with hblank | h
      · exact not_isCommentRow_of_isBlankRow hblank hcomment
      · exact hattribute h
  · rw [if_neg (mt passesOver_iff.mp hpassed)] at hrole
    by_cases hquote : IsQuoteRow row
    · rw [if_pos (startsWithQuote_iff.mpr hquote)] at hrole
      exact .inr (.inl ⟨hrole, fun h => h.2 hquote, hquote⟩)
    · rw [if_neg (mt startsWithQuote_iff.mp hquote)] at hrole
      by_cases hcomment : IsCommentRow row
      · rw [if_pos (looksLikeComment_iff.mpr hcomment)] at hrole
        exact .inr (.inr (.inl ⟨hrole, ⟨.inr (.inr hcomment), hquote⟩,
          .inr ⟨hcomment, fun h => hpassed (.inr h)⟩⟩))
      · rw [if_neg (mt looksLikeComment_iff.mp hcomment)] at hrole
        refine .inr (.inr (.inr ⟨hrole, ?_, hquote⟩))
        rintro ⟨h, -⟩
        rcases or_assoc.mpr h with h | h
        · exact hpassed h
        · exact hcomment h

end

/-! ## Reading upward -/

def rowText (row : String) : List Char :=
  Text.withoutReturns row.toList

/-- Of the rows above a unit, read upward, those of the run and the quote row behind it. -/
def upwardBlock (rows : List String) : List String :=
  rows.takeWhile Continues ++ ((rows.dropWhile Continues).head?.filter IsQuoteRow).toList

section

variable {row : String} {rows : List String}

theorem upwardBlock_cons_of_continues (h : Continues row) :
    upwardBlock (row :: rows) = row :: upwardBlock rows := by
  simp [upwardBlock, h]

theorem upwardBlock_cons_of_not_continues (h : ¬ Continues row) :
    upwardBlock (row :: rows) = if IsQuoteRow row then [row] else [] := by
  by_cases hquote : IsQuoteRow row
  · simp [upwardBlock, h, hquote]
  · simp [upwardBlock, h, hquote]

theorem block_map (rows : List String) :
    block (rows.map String.toList) = ((upwardBlock rows).filter IsTaken).map rowText := by
  induction rows with
  | nil => rfl
  | cons row rows ih =>
      rw [List.map_cons, block]
      rcases roleOf_cases row with
        ⟨hrole, hcontinues, htaken⟩ | ⟨hrole, hends, hquote⟩ | ⟨hrole, hcontinues,
          htaken⟩ | ⟨hrole, hends, hquote⟩
      · rw [hrole, upwardBlock_cons_of_continues hcontinues,
          List.filter_cons_of_neg (by simpa using htaken)]
        exact ih
      · have htaken : IsTaken row := .inl hquote
        rw [hrole, upwardBlock_cons_of_not_continues hends, if_pos hquote,
          List.filter_cons_of_pos (by simpa using htaken)]
        rfl
      · rw [hrole, upwardBlock_cons_of_continues hcontinues,
          List.filter_cons_of_pos (by simpa using htaken), List.map_cons, ← ih]
        rfl
      · rw [hrole, upwardBlock_cons_of_not_continues hends, if_neg hquote]
        rfl

theorem upwardBlock_isPrefix (rows : List String) : upwardBlock rows <+: rows := by
  induction rows with
  | nil => exact List.prefix_rfl
  | cons row rows ih =>
      by_cases h : Continues row
      · rw [upwardBlock_cons_of_continues h]
        exact List.cons_prefix_cons.mpr ⟨rfl, ih⟩
      · rw [upwardBlock_cons_of_not_continues h]
        split
        · exact List.cons_prefix_cons.mpr ⟨rfl, List.nil_prefix⟩
        · exact List.nil_prefix

theorem upwardBlock_isPrefix_append (rows more : List String) :
    upwardBlock rows <+: upwardBlock (rows ++ more) := by
  induction rows with
  | nil => exact List.nil_prefix
  | cons row rows ih =>
      rw [List.cons_append]
      by_cases h : Continues row
      · rw [upwardBlock_cons_of_continues h, upwardBlock_cons_of_continues h]
        exact List.cons_prefix_cons.mpr ⟨rfl, ih⟩
      · simp only [upwardBlock_cons_of_not_continues h, List.prefix_rfl]

end

/-! ## The block above a row -/

def rowsAbove (lines : List String) (first row : ℕ) : List String :=
  (lines.take row).drop first

/-- The rows from `top` on are the longest run directly above `row` that does not start
above `lowest`. -/
structure IsLongestRun (lines : List String) (lowest row top : ℕ) : Prop where
  lowest_le : lowest ≤ top
  le_row : top ≤ row
  continues : ∀ l ∈ rowsAbove lines top row, Continues l
  longest : ∀ higher, lowest ≤ higher → higher ≤ row →
    (∀ l ∈ rowsAbove lines higher row, Continues l) → top ≤ higher

/-- The row on top of a run starts with a triple quote and is not above `lowest`. -/
def HasQuoteOnTop (lines : List String) (lowest top : ℕ) : Prop :=
  lowest < top ∧ ∃ l, lines[top - 1]? = some l ∧ IsQuoteRow l

/-- The block above `row` starts at `first`, where at most `lookback` rows are looked at. -/
def IsBlockAbove (lines : List String) (row : ℕ) (lookback : ℤ) (first : ℕ) : Prop :=
  ∃ top, IsLongestRun lines (row - lookback.toNat) row top ∧
    (HasQuoteOnTop lines (row - lookback.toNat) top ∧ first + 1 = top ∨
      ¬ HasQuoteOnTop lines (row - lookback.toNat) top ∧ first = top)

def takenRows (lines : List String) (first row : ℕ) : List String :=
  ((rowsAbove lines first row).filter IsTaken).map fun l => String.ofList (rowText l)

def commentOf (rows : List String) : Option String :=
  if rows = [] then none else some (Text.unlines rows)

def upward (lines : List String) (row : ℕ) (lookback : ℤ) : List String :=
  (lines.take row).reverse.take lookback.toNat

section

variable {lines : List String} {row : ℕ} {lookback : ℤ}

theorem length_upward (hrow : row ≤ lines.length) :
    (upward lines row lookback).length = min lookback.toNat row := by
  rw [upward, List.length_take, List.length_reverse, List.length_take, Nat.min_eq_left hrow]

theorem reverse_take_upward (hrow : row ≤ lines.length) {n : ℕ} (hn : n ≤ lookback.toNat) :
    ((upward lines row lookback).take n).reverse = rowsAbove lines (row - n) row := by
  rw [upward, List.take_take, Nat.min_eq_left hn, List.reverse_take, List.reverse_reverse,
    List.length_reverse, List.length_take, Nat.min_eq_left hrow, rowsAbove]

theorem getElem?_upward (hrow : row ≤ lines.length) {n : ℕ}
    (hn : n < lookback.toNat) (hn' : n < row) :
    (upward lines row lookback)[n]? = lines[row - n - 1]? := by
  have hlength : (lines.take row).length = row := by
    rw [List.length_take, Nat.min_eq_left hrow]
  rw [upward, List.getElem?_take_of_lt hn, List.getElem?_reverse (by omega), hlength,
    List.getElem?_take_of_lt (by omega)]
  congr 1
  omega

theorem le_length_takeWhile {rows : List String} {n : ℕ} (hn : n ≤ rows.length)
    (h : ∀ l ∈ rows.take n, Continues l) : n ≤ (rows.takeWhile Continues).length := by
  have hsplit : rows.takeWhile Continues =
      rows.take n ++ (rows.drop n).takeWhile Continues := by
    calc rows.takeWhile Continues
        = (rows.take n ++ rows.drop n).takeWhile Continues := by rw [List.take_append_drop]
      _ = rows.take n ++ (rows.drop n).takeWhile Continues :=
        List.takeWhile_append_of_pos (by simpa using h)
  rw [hsplit, List.length_append, List.length_take, Nat.min_eq_left hn]
  exact Nat.le_add_right n _

theorem take_length_takeWhile (rows : List String) :
    rows.take (rows.takeWhile Continues).length = rows.takeWhile Continues :=
  (List.prefix_iff_eq_take.mp (List.takeWhile_prefix _)).symm

theorem head?_dropWhile (rows : List String) :
    (rows.dropWhile Continues).head? = rows[(rows.takeWhile Continues).length]? := by
  have hdrop : rows.drop (rows.takeWhile Continues).length = rows.dropWhile Continues := by
    calc rows.drop (rows.takeWhile Continues).length
        = (rows.takeWhile Continues ++ rows.dropWhile Continues).drop
          (rows.takeWhile Continues).length := by
          rw [List.takeWhile_append_dropWhile]
      _ = rows.dropWhile Continues := List.drop_left
  rw [← hdrop, List.head?_drop]

def runLength (lines : List String) (row : ℕ) (lookback : ℤ) : ℕ :=
  ((upward lines row lookback).takeWhile Continues).length

theorem runLength_le (hrow : row ≤ lines.length) :
    runLength lines row lookback ≤ min lookback.toNat row := by
  rw [← length_upward hrow]
  exact (List.takeWhile_prefix _).length_le

theorem isLongestRun (hrow : row ≤ lines.length) :
    IsLongestRun lines (row - lookback.toNat) row (row - runLength lines row lookback) := by
  have hle : runLength lines row lookback ≤ min lookback.toNat row := runLength_le hrow
  refine ⟨by omega, Nat.sub_le row _, ?_, ?_⟩
  · intro l hl
    have hrun : ((upward lines row lookback).take (runLength lines row lookback)).reverse =
        rowsAbove lines (row - runLength lines row lookback) row :=
      reverse_take_upward hrow (by omega)
    rw [← hrun, List.mem_reverse, runLength, take_length_takeWhile] at hl
    simpa using List.mem_takeWhile_imp hl
  · intro higher hlowest hhigher hall
    have hn : row - higher ≤ runLength lines row lookback := by
      apply le_length_takeWhile
      · rw [length_upward hrow]
        omega
      · intro l hl
        apply hall
        rw [← List.mem_reverse, reverse_take_upward hrow (by omega)] at hl
        rwa [Nat.sub_sub_self hhigher] at hl
    omega

theorem hasQuoteOnTop_iff (hrow : row ≤ lines.length) :
    HasQuoteOnTop lines (row - lookback.toNat) (row - runLength lines row lookback) ↔
      ∃ l, ((upward lines row lookback).dropWhile Continues).head? =
        some l ∧ IsQuoteRow l := by
  have hle : runLength lines row lookback ≤ min lookback.toNat row := runLength_le hrow
  rw [HasQuoteOnTop, head?_dropWhile, ← runLength]
  by_cases hwithin : runLength lines row lookback < min lookback.toNat row
  · -- a row that is looked at ended the run
    rw [getElem?_upward hrow (by omega) (by omega)]
    have hlt : row - lookback.toNat < row - runLength lines row lookback := by omega
    simp only [hlt, true_and]
  · -- the run takes all rows that are looked at
    have hnone : (upward lines row lookback)[runLength lines row lookback]? = none := by
      rw [List.getElem?_eq_none_iff, length_upward hrow]
      omega
    rw [hnone]
    constructor
    · rintro ⟨hlt, -⟩
      omega
    · rintro ⟨l, hl, -⟩
      cases hl

def blockStart (lines : List String) (row : ℕ) (lookback : ℤ) : ℕ :=
  row - (upwardBlock (upward lines row lookback)).length

theorem isBlockAbove (hrow : row ≤ lines.length) :
    IsBlockAbove lines row lookback (blockStart lines row lookback) := by
  have hle : (upwardBlock (upward lines row lookback)).length ≤ min lookback.toNat row := by
    rw [← length_upward hrow]
    exact (upwardBlock_isPrefix _).length_le
  have hlength : (upwardBlock (upward lines row lookback)).length =
      runLength lines row lookback +
      (((upward lines row lookback).dropWhile Continues).head?.filter
        IsQuoteRow).toList.length := by
    rw [upwardBlock, List.length_append]
    rfl
  refine ⟨_, isLongestRun hrow, ?_⟩
  unfold blockStart
  by_cases hquote : HasQuoteOnTop lines (row - lookback.toNat)
    (row - runLength lines row lookback)
  · refine .inl ⟨hquote, ?_⟩
    obtain ⟨l, hl, hl'⟩ := (hasQuoteOnTop_iff hrow).mp hquote
    rw [hl, Option.filter_some, if_pos (by simpa using hl')] at hlength
    simp only [Option.toList_some, List.length_singleton] at hlength
    omega
  · refine .inr ⟨hquote, ?_⟩
    have hnone : ((upward lines row lookback).dropWhile Continues).head?.filter IsQuoteRow =
        none := by
      rw [Option.filter_eq_none_iff]
      intro l hl hl'
      exact hquote ((hasQuoteOnTop_iff hrow).mpr ⟨l, hl, by simpa using hl'⟩)
    rw [hnone] at hlength
    simp only [Option.toList_none, List.length_nil, Nat.add_zero] at hlength
    rw [hlength]

/-! ## What is taken -/

theorem above?_eq (hrow : row ≤ lines.length) :
    above? lines row lookback =
      some (commentOf (takenRows lines (blockStart lines row lookback) row)) := by
  have hblock : block ((upward lines row lookback).map String.toList) =
      ((rowsAbove lines (blockStart lines row lookback) row).filter IsTaken).reverse.map
        rowText := by
    have hprefix := upwardBlock_isPrefix (upward lines row lookback)
    have hle : (upwardBlock (upward lines row lookback)).length ≤ lookback.toNat := by
      have := hprefix.length_le
      rw [length_upward hrow] at this
      omega
    rw [block_map, blockStart, ← reverse_take_upward hrow hle, ← List.prefix_iff_eq_take.mp
      hprefix, List.filter_reverse, List.reverse_reverse]
  have htaken : takenRows lines (blockStart lines row lookback) row =
      (block ((upward lines row lookback).map String.toList)).reverse.map
        String.ofList := by
    rw [hblock, takenRows, ← List.map_reverse, List.reverse_reverse, List.map_map]
    rfl
  rw [htaken, above?]
  by_cases hnothing : (row : ℤ) ≤ 0 ∨ lookback ≤ 0
  · have hnil : upward lines row lookback = [] := by
      rw [List.eq_nil_iff_length_eq_zero, length_upward hrow]
      omega
    rw [if_pos hnothing, hnil]
    rfl
  · rw [if_neg hnothing, if_neg (by omega)]
    have hrows : ((lines.take (row : ℤ).toNat).reverse.take lookback.toNat).map
        String.toList =
        (upward lines row lookback).map String.toList := rfl
    simp only [hrows]
    cases block ((upward lines row lookback).map String.toList) with
    | nil => rfl
    | cons taken rest => simp [commentOf]

theorem blockStart_anti {longer : ℤ} (h : lookback ≤ longer) :
    blockStart lines row longer ≤ blockStart lines row lookback := by
  have hprefix : upward lines row lookback <+: upward lines row longer :=
    List.take_prefix_take_left (Int.toNat_le_toNat h)
  obtain ⟨more, hmore⟩ := hprefix
  have hlength := (upwardBlock_isPrefix_append (upward lines row lookback) more).length_le
  rw [hmore] at hlength
  unfold blockStart
  omega

theorem takenRows_append {first middle : ℕ} (hfirst : first ≤ middle)
    (hmiddle : middle ≤ row) (hrow : row ≤ lines.length) :
    takenRows lines first row =
      takenRows lines first middle ++ takenRows lines middle row := by
  have hrows : rowsAbove lines first row =
      rowsAbove lines first middle ++ rowsAbove lines middle row := by
    have htake : (lines.take row).take middle = lines.take middle := by
      rw [List.take_take, Nat.min_eq_left hmiddle]
    have hlength : first ≤ (lines.take middle).length := by
      rw [List.length_take]
      omega
    calc rowsAbove lines first row
        = (lines.take middle ++ (lines.take row).drop middle).drop first := by
          rw [← htake, List.take_append_drop, rowsAbove]
      _ = rowsAbove lines first middle ++ rowsAbove lines middle row :=
        List.drop_append_of_le_length hlength
  rw [takenRows, hrows, List.filter_append, List.map_append]
  rfl

/-- The scan above any row of a text, or below its last row, does not fail. It takes the
comment and quote rows of the block above, in the order of the text, and with more rows
to look at some rows above these come first. -/
theorem above?_takes_block (hrow : row ≤ lines.length) (lookback : ℤ) :
    ∃ first, IsBlockAbove lines row lookback first ∧
      above? lines row lookback = some (commentOf (takenRows lines first row)) ∧
      ∀ longer, lookback ≤ longer → ∃ higher ≤ first, IsBlockAbove lines row longer higher ∧
        above? lines row longer =
          some (commentOf (takenRows lines higher first ++ takenRows lines first row)) := by
  refine ⟨blockStart lines row lookback, isBlockAbove hrow, above?_eq hrow, ?_⟩
  intro longer hlonger
  have hanti : blockStart lines row longer ≤ blockStart lines row lookback :=
    blockStart_anti hlonger
  refine ⟨blockStart lines row longer, hanti, isBlockAbove hrow, ?_⟩
  rw [above?_eq hrow, takenRows_append hanti (Nat.sub_le row _) hrow]

/-- A quote row, a blank row, an attribute and a comment row above a definition. -/
def quotedRows : List String :=
  ["x = 1", "\x27\x27\x27doc\r", "", "#[inline]", "# about\r", "def f():"]

theorem above?_takes_block_quotedRows :
    5 ≤ quotedRows.length ∧ above? quotedRows 5 1 = some (some "# about") ∧
      above? quotedRows 5 10 = some (some "\x27\x27\x27doc\n# about") ∧
      ∃ first, IsBlockAbove quotedRows 5 1 first ∧
        above? quotedRows 5 1 = some (commentOf (takenRows quotedRows first 5)) ∧
        ∃ higher ≤ first, IsBlockAbove quotedRows 5 10 higher ∧ above? quotedRows 5 10 =
          some (commentOf (takenRows quotedRows higher first ++
            takenRows quotedRows first 5)) := by
  have hrow : 5 ≤ quotedRows.length := by decide
  obtain ⟨first, hblock, htaken, hlonger⟩ := above?_takes_block hrow 1
  exact ⟨hrow, by decide +kernel, by decide +kernel, first, hblock, htaken,
    hlonger 10 (by decide)⟩

end

end DocComment

end CodeRetrieval
