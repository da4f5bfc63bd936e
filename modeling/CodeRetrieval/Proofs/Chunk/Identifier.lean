import CodeRetrieval.Chunk.Basic
import Std.Data.String.ToInt

/-!
# Identifiers of chunks

An identifier is a path, a colon and a line number. The number holds no colon, so the
last colon ends the path, and the identifier gives path and line back even where the
path itself looks like an identifier.
-/

namespace CodeRetrieval

theorem colon_not_mem_repr (n : Nat) : ':' ∉ n.repr.toList := by
  intro h
  rw [Nat.toList_repr] at h
  have hdigit : ':'.isDigit = true := Nat.isDigit_of_mem_toDigits (by decide) (by decide) h
  exact absurd hdigit (by decide)

theorem colon_not_mem_toString (n : Int) : ':' ∉ (toString n).toList := by
  cases n with
  | ofNat m => exact colon_not_mem_repr m
  | negSucc m =>
      intro h
      have hrepr : toString (Int.negSucc m) = "-" ++ (m + 1).repr := rfl
      rw [hrepr, String.toList_append, List.mem_append] at h
      rcases h with h | h
      · exact absurd h (by decide)
      · exact colon_not_mem_repr (m + 1) h

/-- A list is cut in one way at the last occurrence of an element. -/
theorem append_cons_inj {α : Type} (sep : α) {a b c d : List α} (hb : sep ∉ b)
    (hd : sep ∉ d) (h : a ++ sep :: b = c ++ sep :: d) : a = c ∧ b = d := by
  rw [List.append_eq_append_iff] at h
  -- unless both are cut at one place, one of them goes on with `sep` behind the cut of
  -- the other
  rcases h with ⟨m, rfl, h⟩ | ⟨m, rfl, h⟩
  all_goals
    cases m with
    | nil => simp_all
    | cons x m => simp_all

/-- The identifier of a unit tells its file and its first line. -/
theorem chunkId_inj {p q : String} {m n : Int} :
    chunkId p m = chunkId q n ↔ p = q ∧ m = n := by
  constructor
  · intro h
    have hlist := congrArg String.toList h
    simp only [chunkId, String.toList_append] at hlist
    have := append_cons_inj ':' (colon_not_mem_toString m) (colon_not_mem_toString n)
      (by simpa using hlist)
    refine ⟨String.toList_inj.mp this.1, ?_⟩
    exact Int.repr_injective (String.toList_inj.mp this.2)
  · rintro ⟨rfl, rfl⟩
    rfl

end CodeRetrieval
