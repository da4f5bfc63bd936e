import CodeRetrieval.Proofs.Data.JsonBlanks
import CodeRetrieval.Scoring.Answer

/-!
# Fences around answers

A text is fenced in one way only: the last line feed in front of the closing fence
belongs to the fence, and every other one to the content. So an answer is the same with
and without a fence around it, whatever blanks stand around both and whatever fences the
content holds.
-/

namespace CodeRetrieval.Scoring

open Text

variable {before after info body s : List Char} {d : Data}

/-- A word for the kind of a content, which may be empty. -/
def IsInfo (info : List Char) : Prop :=
  ∀ c ∈ info, (isWordChar c || c == '-') = true

def fenced (info content : List Char) : List Char :=
  fence ++ (info ++ '\n' :: (content ++ fence))

/-! ## What stands inside a fence -/

theorem insideFence?_fenced (hinfo : IsInfo info) (content : List Char) :
    insideFence? (fenced info content) =
      some (if content.getLast? == some '\n' then content.dropLast else content) := by
  have hrest : ((info ++ '\n' :: (content ++ fence)).dropWhile fun c =>
      isWordChar c || c == '-') =
      '\n' :: (content ++ fence) := by
    rw [List.dropWhile_append_of_pos hinfo, List.dropWhile_cons_of_neg]
    decide +kernel
  have hcontent : (content ++ fence).take ((content ++ fence).length - 3) = content :=
    List.take_left' (by simp [fence])
  have hsplit : (fenced info content).drop 3 = info ++ '\n' :: (content ++ fence) := rfl
  unfold insideFence?
  rw [if_neg, hsplit, hrest]
  · simp only
    rw [if_neg, hcontent]
    simp
  · simp [fenced]

theorem insideFence?_of_head (h : ∀ r, s ≠ '\x60' :: r) : insideFence? s = none := by
  unfold insideFence?
  rw [if_pos]
  cases s with
  | nil => rfl
  | cons c s =>
      have hc : '\x60' ≠ c := fun hc => h s (by rw [hc])
      simp [fence, List.isPrefixOf, hc]

/-! ## Blanks around a fence -/

theorem trim_fenced (info content : List Char) :
    trim (fenced info content) = fenced info content := by
  have hback : fenced info content =
      ('\x60' :: '\x60' :: '\x60' :: (info ++ '\n' :: (content ++ ['\x60', '\x60']))) ++
        ['\x60'] := by
    simp [fenced, fence]
  exact trim_eq_self rfl hback (by decide) (by decide)

theorem unfenced_append (hbefore : ∀ c ∈ before, isBlank c = true)
    (hafter : ∀ c ∈ after, isBlank c = true) (s : List Char) :
    unfenced (before ++ s ++ after) = unfenced s := by
  unfold unfenced
  rw [trim_append hafter, trim_append_left hbefore]

theorem unfenced_fenced (hinfo : IsInfo info) (content : List Char) :
    unfenced (fenced info content) =
      if content.getLast? == some '\n' then content.dropLast else content := by
  unfold unfenced
  simp only
  rw [trim_fenced, insideFence?_fenced hinfo, Option.getD_some]

/-! ## Answers with and without a fence -/

/-- What is wrong with an answer that is not read. -/
def AnswerFault.ofReadError : Data.Json.ReadError → AnswerFault
  | .malformed => .malformed
  | .tooManyDigits => .tooManyDigits

theorem readAnswer_ofList (s : List Char) :
    readAnswer (String.ofList s) = (Data.Json.read (unfenced s)).mapError .ofReadError := by
  unfold readAnswer
  rw [String.toList_ofList]
  rcases Data.Json.read (unfenced s) with (_ | _) | d <;> rfl

/-- A line feed in front of the closing fence is no part of a value. -/
theorem read_unfenced_fenced (hinfo : IsInfo info) (h : Data.Json.read body = .ok d) :
    Data.Json.read (unfenced (fenced info body)) = .ok d := by
  rw [unfenced_fenced hinfo]
  split
  · rename_i hlast
    obtain ⟨content, rfl⟩ := List.getLast?_eq_some_iff.mp (beq_iff_eq.mp hlast)
    rw [List.dropLast_concat]
    exact Data.Json.read_of_append (List.forall_mem_singleton.mpr (by decide)) h
  · exact h

theorem read_unfenced (h : Data.Json.read body = .ok d) :
    Data.Json.read (unfenced body) = .ok d := by
  have htrim := Data.Json.read_trim h
  unfold unfenced
  simp only
  rw [insideFence?_of_head (Data.Json.head_of_read htrim)]
  exact htrim

theorem answered_of_read {α : Type} (read : Data → Option α)
    (h : Data.Json.read (unfenced s) = .ok d) :
    answered read (String.ofList s) =
      match read d with
      | some x => .ok x
      | none => .error .misshapen := by
  unfold answered
  rw [readAnswer_ofList, h]
  rfl

/-- A fence around an answer is transparent. What stands between its lines is what the
reader of JSON texts gets, and if that reader accepts it, then the answer with a fence,
with a fence that closes on the last line, and without a fence are all the same answer.
-/
theorem answered_fenced (hinfo : IsInfo info) (hbefore : ∀ c ∈ before, isBlank c = true)
    (hafter : ∀ c ∈ after, isBlank c = true) (body : List Char) :
    unfenced (before ++ fenced info (body ++ ['\n']) ++ after) = body ∧
      readAnswer (String.ofList (before ++ fenced info (body ++ ['\n']) ++ after)) =
        (Data.Json.read body).mapError .ofReadError ∧
      ∀ (d : Data), Data.Json.read body = .ok d → ∀ {α : Type} (read : Data → Option α),
        ∀ reply ∈ [fenced info (body ++ ['\n']), fenced info body, body],
          answered read (String.ofList (before ++ reply ++ after)) =
            match read d with
            | some x => .ok x
            | none => .error .misshapen := by
  have hbody : unfenced (fenced info (body ++ ['\n'])) = body := by
    rw [unfenced_fenced hinfo, List.getLast?_concat, List.dropLast_concat]
    rfl
  refine ⟨?_, ?_, ?_⟩
  · rw [unfenced_append hbefore hafter, hbody]
  · rw [readAnswer_ofList, unfenced_append hbefore hafter, hbody]
  · intro d hd α read reply hreply
    refine answered_of_read read ?_
    rw [unfenced_append hbefore hafter]
    simp only [List.mem_cons, List.not_mem_nil, or_false] at hreply
    rcases hreply with rfl | rfl | rfl
    · rwa [hbody]
    · exact read_unfenced_fenced hinfo hd
    · exact read_unfenced hd

/-- An answer that ends with a line feed and whose code is a fence. -/
def fenceAnswer : List Char :=
  "\x7b\"compressed\": \"\x60\x60\x60\"\x7d\n".toList

theorem answered_fenced_fenceAnswer :
    unfenced ("\n ".toList ++ fenced "json-5".toList (fenceAnswer ++ ['\n']) ++
      "\t".toList) = fenceAnswer ∧
      ∀ reply ∈ [fenced "json-5".toList (fenceAnswer ++ ['\n']),
        fenced "json-5".toList fenceAnswer, fenceAnswer],
        readShortened (String.ofList ("\n ".toList ++ reply ++ "\t".toList)) =
          .ok "\x60\x60\x60" := by
  have hinfo : IsInfo "json-5".toList := List.all_eq_true.mp (by decide +kernel)
  have hbefore : ∀ c ∈ "\n ".toList, isBlank c = true := List.all_eq_true.mp (by decide)
  have hafter : ∀ c ∈ "\t".toList, isBlank c = true := List.all_eq_true.mp (by decide)
  have hread : (Data.Json.read fenceAnswer).toOption.bind shortenedOf? =
      some "\x60\x60\x60" := by decide +kernel
  obtain ⟨hinside, -, hreplies⟩ := answered_fenced hinfo hbefore hafter fenceAnswer
  refine ⟨hinside, fun reply hreply => ?_⟩
  cases hd : Data.Json.read fenceAnswer with
  | error e =>
      rw [hd] at hread
      cases hread
  | ok d =>
      rw [hd] at hread
      have hcode : shortenedOf? d = some "\x60\x60\x60" := hread
      unfold readShortened
      rw [hreplies d hd shortenedOf? reply hreply, hcode]

end CodeRetrieval.Scoring
