import CodeRetrieval.Data.Toml

/-!
# Hexadecimal numbers in TOML

A whole number may have any number of hexadecimal digits in TOML. This follows one such
number through the reader, in a document that lists it as the only keyword.
-/

namespace CodeRetrieval.Data.Toml

open Notation

/-! ## Digits -/

section

variable {isDigit : Char → Bool} {ds rest : List Char}

/-- Digits are read up to the first character that neither is one nor joins two. -/
theorem digitsFrom_append (hds : ∀ c ∈ ds, isDigit c = true)
    (hunderscore : isDigit '_' = false) {c : Char} (hc : isDigit c = false) (hc' : c ≠ '_')
    (afterDigit : Bool) :
    digitsFrom isDigit afterDigit (ds ++ c :: rest) = (ds, c :: rest) := by
  induction ds generalizing afterDigit with
  | nil => cases afterDigit <;> simp [digitsFrom, hc, hc']
  | cons d ds ih =>
      obtain ⟨hd, hds⟩ := List.forall_mem_cons.mp hds
      have hd' : d ≠ '_' := by
        rintro rfl
        cases hunderscore.symm.trans hd
      cases afterDigit <;> simp [digitsFrom, hd, hd', ih hds]

end

/-! ## A list of one number -/

def hexValue (ds : List Char) : Data :=
  .int (Text.valueOf 16 (ds.filterMap Text.hexDigit?))

section

variable {ds : List Char} (hne : ds ≠ []) (hds : ∀ c ∈ ds, (Text.hexDigit? c).isSome =
  true) (rest : List Char)

theorem readFixed_hex (width low high : Nat) :
    readFixed (width + 2) low high ('0' :: 'x' :: rest) = none := by
  simp [readFixed, List.take_succ_cons]

theorem skipBetween_cons {c : Char} (hspace : isSpace c = false) (hline : c ≠ '\n')
    (hcomment : c ≠ '#') (n : Nat) :
    skipBetween (n + 1) (c :: rest) = some (c :: rest) := by
  simp [skipBetween, skipComment, hspace, hline, hcomment]

include hne hds

theorem readBased_hex :
    readBased ('0' :: 'x' :: (ds ++ ']' :: rest)) = some (hexValue ds, ']' :: rest) := by
  have hbase : bases.lookup 'x' = some (16, fun c => (Text.hexDigit? c).isSome) := rfl
  have hdigits : readDigits? (fun c => (Text.hexDigit? c).isSome) (ds ++ ']' :: rest) =
      some (ds, ']' :: rest) := by
    rw [readDigits?, digitsFrom_append hds (by decide) (by decide) (by decide)]
    simp [hne]
  simp [readBased, hbase, hdigits, hexValue]

theorem readAtom_hex :
    readAtom ('0' :: 'x' :: (ds ++ ']' :: rest)) = some (hexValue ds, ']' :: rest) := by
  have hday : readDayTime ('0' :: 'x' :: (ds ++ ']' :: rest)) = none := by
    simp [readDayTime, readDay, readFixed_hex]
  have htime : readTime ('0' :: 'x' :: (ds ++ ']' :: rest)) = none := by
    simp [readTime, readFixed_hex]
  simp [readAtom, hday, htime, readBased_hex hne hds]

theorem readItems_hex (n : Nat) :
    readItems (n + 2) ('0' :: 'x' :: (ds ++ ']' :: rest)) = some ([hexValue ds], rest) := by
  have hend :=
    skipBetween_cons rest (show isSpace ']' = false by decide) (by decide) (by decide)
  have hvalue : readValue (n + 1) ('0' :: 'x' :: (ds ++ ']' :: rest)) =
      some (hexValue ds, ']' :: rest) :=
    readAtom_hex hne hds rest
  simp [readItems, hvalue, hend]

theorem readValue_hexList (n : Nat) :
    readValue (n + 3) ('[' :: '0' :: 'x' :: (ds ++ ']' :: rest)) =
      some (.list [hexValue ds], rest) := by
  have hstart :=
    skipBetween_cons ('x' :: (ds ++ ']' :: rest))
      (show isSpace '0' = false by decide) (by decide)
    (by decide)
  simp [readValue, hstart, readItems_hex hne hds]

theorem readPair_hexList (n : Nat) :
    readPair (n + 4) ("keywords = [0x".toList ++ (ds ++ ']' :: rest))
      = some ((["keywords"], .list [hexValue ds]), rest) := by
  have hpath : readPath ("keywords = [0x".toList ++ (ds ++ ']' :: rest))
      = some (["keywords"], "= [0x".toList ++ (ds ++ ']' :: rest)) := rfl
  have hafter : after? "=" ("= [0x".toList ++ (ds ++ ']' :: rest))
      = some (" [0x".toList ++ (ds ++ ']' :: rest)) := rfl
  have hskip : skip (" [0x".toList ++ (ds ++ ']' :: rest)) =
      '[' :: '0' :: 'x' :: (ds ++ ']' :: rest) := rfl
  simp only [readPair, hpath, hafter, hskip, readValue_hexList hne hds,
    Option.bind_eq_bind, Option.bind_some]
  rfl

end

/-! ## A document of one statement -/

theorem unifyLineEnds_eq_self {s : List Char} (h : '\r' ∉ s) : unifyLineEnds s = s := by
  induction s with
  | nil => rfl
  | cons c s ih =>
      have hc : c ≠ '\r' := fun hc => h (hc ▸ List.mem_cons_self)
      have ih := ih fun hs => h (List.mem_cons_of_mem c hs)
      cases s with
      | nil => simp [unifyLineEnds]
      | cons d s => simp [unifyLineEnds, hc, ih]

theorem Document.readStatement?_of_readPair {d d' : Document} {c : Char}
    {s rest : List Char} {path : Path} {value : Data} (hc : isBareKeyChar c = true)
    (hpair : readPair (2 * (c :: s).length + 2) (c :: s) = some ((path, value), rest))
    (hset : d.set? path value = some d') : d.readStatement? (c :: s) = some (d', rest) := by
  have hheader : c ≠ '[' := by
    rintro rfl
    cases hc
  simp only [List.length_cons] at hpair
  simp [Document.readStatement?, hheader, hc, hpair, hset]

def hexDocument (ds : List Char) : List Char :=
  "keywords = [0x".toList ++ (ds ++ [']'])

theorem read?_hexDocument {ds : List Char} (hne : ds ≠ [])
    (hds : ∀ c ∈ ds, (Text.hexDigit? c).isSome = true) :
    read? (hexDocument ds) = some [("keywords", .list [hexValue ds])] := by
  have hlines : unifyLineEnds (hexDocument ds) = hexDocument ds := by
    refine unifyLineEnds_eq_self fun h => ?_
    rcases List.mem_append.mp h with h | h
    · revert h
      decide
    · rcases List.mem_append.mp h with h | h
      · have hdigit := hds '\r' h
        revert hdigit
        decide
      · revert h
        decide
  have hcons : hexDocument ds = 'k' :: ("eywords = [0x".toList ++ (ds ++ [']'])) := rfl
  obtain ⟨n, hn⟩ : ∃ n, 2 * (hexDocument ds).length + 2 = n + 4 :=
    ⟨2 * (hexDocument ds).length - 2, by
    rw [hcons, List.length_cons]
    omega⟩
  have hpair : readPair (2 * (hexDocument ds).length + 2) (hexDocument ds)
      = some ((["keywords"], .list [hexValue ds]), []) := by
    rw [hn]
    exact readPair_hexList hne hds [] n
  obtain ⟨d, hd, hentries⟩ : ∃ d, Document.empty.set? ["keywords"] (.list [hexValue ds]) =
      some d ∧
      d.entries = [("keywords", .list [hexValue ds])] := ⟨_, rfl, rfl⟩
  have hstatement : Document.empty.readStatement? (hexDocument ds) = some (d, []) := by
    rw [hcons] at hpair ⊢
    exact Document.readStatement?_of_readPair (by decide) hpair hd
  have hskip : skip (hexDocument ds) = hexDocument ds := rfl
  rw [read?, hlines]
  simp only [Document.readFrom, hskip, hstatement, Option.bind_eq_bind, Option.bind_some]
  exact congrArg some hentries

end CodeRetrieval.Data.Toml
