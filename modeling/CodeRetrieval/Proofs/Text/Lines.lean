import CodeRetrieval.Chunk.Basic
import CodeRetrieval.Proofs.Text.Runs
import CodeRetrieval.Text.Lines

/-!
# Lines of a text and the texts between lines

Cutting at a character and joining again are inverse to each other, so a text is given
by its lines. A span of lines stands for the text that is on them.
-/

namespace CodeRetrieval

namespace Text

theorem splitAtChar_eq_splitOn (sep : Char) (s : List Char) :
    splitAtChar sep s = s.splitOn sep := by
  induction s with
  | nil => rfl
  | cons c s ih =>
      rw [splitAtChar_cons, ih, List.splitOn, List.splitOn,
        List.splitOnP_cons_eq_if_modifyHead]
      by_cases h : c = sep
      · simp [h]
      · obtain ⟨piece, pieces, hs⟩ :=
          List.exists_cons_of_ne_nil (List.splitOnP_ne_nil (· == sep) s)
        simp [h, hs, consHead]

theorem joinWith_splitAtChar (sep : Char) (s : List Char) :
    joinWith [sep] (splitAtChar sep s) = s := by
  rw [splitAtChar_eq_splitOn, joinWith, List.intercalate_splitOn]

theorem toList_lines (s : String) :
    (lines s).map String.toList = splitAtChar '\n' s.toList := by
  simp [lines, Function.comp_def]

@[simp] theorem unlines_lines (s : String) : unlines (lines s) = s := by
  rw [unlines, join, toList_lines]
  exact (congrArg String.ofList (joinWith_splitAtChar '\n' s.toList)).trans
    String.ofList_toList

theorem newline_not_mem_of_mem_lines {s l : String} (h : l ∈ lines s) :
    '\n' ∉ l.toList := by
  rw [lines, splitAtChar_eq_splitOn, List.splitOn] at h
  obtain ⟨piece, hpiece, rfl⟩ := List.mem_map.mp h
  intro hmem
  rw [String.toList_ofList] at hmem
  simpa using not_of_mem_splitOnP hpiece '\n' hmem

theorem splitAtChar_joinWith {sep : Char} {parts : List String} (hne : parts ≠ [])
    (h : ∀ p ∈ parts, sep ∉ p.toList) :
    splitAtChar sep (joinWith [sep] (parts.map String.toList)) =
      parts.map String.toList := by
  have hpieces : ∀ piece ∈ parts.map String.toList, sep ∉ piece := by
    intro piece hpiece
    obtain ⟨p, hp, rfl⟩ := List.mem_map.mp hpiece
    exact h p hp
  rw [splitAtChar_eq_splitOn]
  exact List.splitOn_intercalate sep hpieces (by simpa using hne)

theorem lines_unlines {ls : List String} (hne : ls ≠ []) (h : ∀ l ∈ ls, '\n' ∉ l.toList) :
    lines (unlines ls) = ls := by
  have hcut : splitAtChar '\n' (unlines ls).toList = ls.map String.toList := by
    rw [unlines, join, String.toList_ofList]
    exact splitAtChar_joinWith hne h
  rw [lines, hcut, List.map_map]
  simp [Function.comp_def]

theorem mem_joinWith {sep : List Char} {pieces : List (List Char)} {c : Char}
    (hc : c ∈ joinWith sep pieces) :
    c ∈ sep ∨ ∃ piece ∈ pieces, c ∈ piece := by
  induction pieces with
  | nil => cases hc
  | cons piece pieces ih =>
      cases pieces with
      | nil => exact .inr ⟨piece, List.mem_cons_self, by simpa [joinWith] using hc⟩
      | cons next pieces =>
          rw [joinWith, List.intercalate_cons_cons, List.mem_append, List.mem_append] at hc
          rcases hc with (hc | hc) | hc
          · exact .inr ⟨piece, List.mem_cons_self, hc⟩
          · exact .inl hc
          · rcases ih hc with hc | ⟨later, hlater, hc⟩
            · exact .inl hc
            · exact .inr ⟨later, List.mem_cons_of_mem piece hlater, hc⟩

theorem joinWith_append {sep : List Char} {xs ys : List (List Char)}
    (hxs : xs ≠ []) (hys : ys ≠ []) :
    joinWith sep (xs ++ ys) = joinWith sep xs ++ sep ++ joinWith sep ys := by
  induction xs with
  | nil => exact absurd rfl hxs
  | cons x xs ih =>
      cases xs with
      | nil =>
          obtain ⟨y, ys, rfl⟩ := List.exists_cons_of_ne_nil hys
          simp [joinWith]
      | cons x' xs =>
          have ih : joinWith sep (x' :: (xs ++ ys)) =
              joinWith sep (x' :: xs) ++ sep ++ joinWith sep ys :=
            ih (List.cons_ne_nil x' xs)
          simp only [joinWith] at ih ⊢
          rw [List.cons_append, List.cons_append, List.intercalate_cons_cons, ih,
            List.intercalate_cons_cons]
          simp only [List.append_assoc]

/-- Joining pieces group by group and then the groups is joining them all, unless a
group is empty. -/
theorem joinWith_flatten {sep : List Char} {groups : List (List (List Char))}
    (h : ∀ pieces ∈ groups, pieces ≠ []) :
    joinWith sep (groups.map (joinWith sep)) = joinWith sep groups.flatten := by
  induction groups with
  | nil => rfl
  | cons pieces groups ih =>
      have ih := ih fun ps hps => h ps (List.mem_cons_of_mem pieces hps)
      cases groups with
      | nil => simp [joinWith]
      | cons pieces' groups =>
          have hflatten : (pieces' :: groups).flatten ≠ [] := by
            rw [List.flatten_cons]
            exact List.append_ne_nil_of_left_ne_nil (h pieces' (by simp)) _
          rw [List.flatten_cons, joinWith_append (h pieces (by simp)) hflatten, ← ih]
          simp [joinWith]

/-- Texts whose lines are joined have all of their lines together. -/
theorem unlines_flatten {groups : List (List String)} (h : ∀ ls ∈ groups, ls ≠ []) :
    unlines (groups.map unlines) = unlines groups.flatten := by
  have hgroups : ∀ pieces ∈ groups.map fun ls => ls.map String.toList, pieces ≠ [] := by
    intro pieces hpieces
    obtain ⟨ls, hls, rfl⟩ := List.mem_map.mp hpieces
    simpa using h ls hls
  have hparts : (groups.map unlines).map String.toList
      = (groups.map fun ls => ls.map String.toList).map (joinWith "\n".toList) := by
    rw [List.map_map, List.map_map]
    apply List.map_congr_left
    intro ls _
    exact String.toList_ofList
  rw [unlines, join, hparts, joinWith_flatten hgroups, ← List.map_flatten]
  rfl

end Text

namespace LineSpan

def textIn (s : LineSpan) (content : String) : String :=
  Text.unlines (((Text.lines content).take s.last).drop (s.first - 1))

theorem textIn_ofCount (content : String) (h : 1 ≤ (Text.lines content).length) :
    (ofCount (Text.lines content).length h).textIn content = content := by
  simp [textIn, ofCount]

end LineSpan

end CodeRetrieval
