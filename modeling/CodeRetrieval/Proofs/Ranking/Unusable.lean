import CodeRetrieval.Proofs.Ranking.Judging

/-!
# Replies that cannot be used

A judge may reply anything. What it replies about one candidate never changes the
entries of the others, and a reply that fails to come costs only its own candidate. But
a reply off which no total can be read takes the answer away from all candidates.
-/

namespace CodeRetrieval.Funnel

open Ranking Scalar

variable {T E ι : Type}

/-- The judge has replied, but no total can be read off its reply. -/
def IsUnusable (amount : T → Except E Float) (answer : Except String (Verdict T)) : Prop :=
  ∃ reply e, answer = .ok reply ∧ amount reply.total = .error e

/-- The candidates about which a reply is usable or missing, as they are judged. -/
def usablyJudged (judge : Judge T ι) (amount : T → Except E Float) (query : String)
    (candidates : List (Ranked Float ι)) : List (Judged Float ι) :=
  candidates.filterMap fun c => (judgedAs amount c.item (judge query c.item).value).toOption

section

variable {judge : Judge T ι} {amount : T → Except E Float} {query : String}
  {candidates : List (Ranked Float ι)}

theorem usablyJudged_cons_of_eq_ok {c : Ranked Float ι} {j : Judged Float ι}
    (h : judgedAs amount c.item (judge query c.item).value = .ok j) :
    usablyJudged judge amount query (c :: candidates) =
      j :: usablyJudged judge amount query candidates :=
  List.filterMap_cons_some (by rw [h]; rfl)

theorem usablyJudged_cons_of_eq_error {c : Ranked Float ι} {e : E}
    (h : judgedAs amount c.item (judge query c.item).value = .error e) :
    usablyJudged judge amount query (c :: candidates) =
      usablyJudged judge amount query candidates :=
  List.filterMap_cons_none (by rw [h]; rfl)

theorem judgedAs_of_mem_usablyJudged {j : Judged Float ι}
    (h : j ∈ usablyJudged judge amount query candidates) :
    judgedAs amount j.item (judge query j.item).value = .ok j := by
  obtain ⟨c, -, hj⟩ := List.mem_filterMap.mp h
  cases hanswer : judgedAs amount c.item (judge query c.item).value with
  | error e =>
      rw [hanswer] at hj
      cases hj
  | ok j' =>
      rw [hanswer] at hj
      obtain rfl := Option.some.inj hj
      rw [item_of_judgedAs hanswer]
      exact hanswer

/-- Whichever candidates are chosen, if no reply about them is unusable then they are
all judged. -/
theorem forall₂_filter_usablyJudged {keep : ι → Bool}
    (husable : ∀ c ∈ candidates, keep c.item →
    ¬ IsUnusable amount (judge query c.item).value) :
    List.Forall₂ (fun c j => judgedAs amount c.item (judge query c.item).value = .ok j)
      (candidates.filter fun c => keep c.item)
      ((usablyJudged judge amount query candidates).filter fun j => keep j.item) := by
  induction candidates with
  | nil => exact .nil
  | cons c candidates ih =>
      have ih := ih fun d hd => husable d (List.mem_cons_of_mem c hd)
      cases hanswer : judgedAs amount c.item (judge query c.item).value with
      | ok j =>
          have hitem : j.item = c.item := item_of_judgedAs hanswer
          rw [usablyJudged_cons_of_eq_ok hanswer, List.filter_cons, List.filter_cons, hitem]
          split
          · exact .cons hanswer ih
          · exact ih
      | error e =>
          have hdropped : ¬ keep c.item := fun hkeep =>
            husable c List.mem_cons_self hkeep (exists_judgedAs_eq_error.mp ⟨e, hanswer⟩)
          rw [usablyJudged_cons_of_eq_error hanswer, List.filter_cons, if_neg hdropped]
          exact ih

end

/-- There is no ranking exactly if some reply is unusable. One ranking of all other
candidates tells what is found among any of them: those of its entries that are asked
for, in their order, whatever is said about the rest. In it a candidate about which
there is no reply has the score zero, and any other candidate the score and the
explanation of its reply. -/
theorem only_unusable_replies_stop_ranking (id : ι → String) (judge : Judge T ι)
    (amount : T → Except E Float) (query : String) (candidates : List (Ranked Float ι)) :
    (∀ size, (∃ e, (rerankByRelevance id judge amount query candidates size).value =
      .error e) ↔
      ∃ c ∈ candidates, IsUnusable amount (judge query c.item).value) ∧
    ∃ ranked : List (Judged Float ι),
      (∀ keep : ι → Bool,
        (∀ c ∈ candidates, keep c.item → ¬ IsUnusable amount (judge query c.item).value) →
          (∀ size, (rerankByRelevance id judge amount query (candidates.filter fun c =>
            keep c.item) size).value
            = .ok (cut size (ranked.filter fun j => keep j.item))) ∧
          ((ranked.filter fun j => keep j.item).map fun j => j.item).Perm
            ((candidates.filter fun c => keep c.item).map Ranked.item)) ∧
      ∀ j ∈ ranked,
        (∀ reason, (judge query j.item).value = .error reason →
          j.score = 0.0 ∧ j.explanation = "Ranking failed: " ++ reason) ∧
        ∀ reply, (judge query j.item).value = .ok reply →
          ∃ x, amount reply.total = .ok x ∧ IsNearest x j.score ∧
            j.explanation = reply.explanation := by
  let judged := usablyJudged judge amount query candidates
  refine ⟨fun size => exists_rerankByRelevance_eq_error,
    descending (fun j => j.score) judged, ?_, ?_⟩
  · intro keep husable
    have hkept := forall₂_filter_usablyJudged husable
    rw [filter_descending]
    refine ⟨fun size => rerankByRelevance_eq_ok.mpr ⟨_, hkept, rfl⟩, ?_⟩
    rw [← map_item_of_judged hkept]
    exact (perm_descending _ _).map fun j : Judged Float ι => j.item
  · intro j hj
    have hj := judgedAs_of_mem_usablyJudged (mem_descending.mp hj)
    constructor
    · intro reason hreason
      rw [hreason] at hj
      have hj := Except.ok.inj hj
      exact ⟨(congrArg (fun j => j.score) hj).symm, (congrArg Judged.explanation hj).symm⟩
    · intro reply hreply
      rw [hreply] at hj
      obtain ⟨x, hx, hj⟩ := bind_eq_ok.mp hj
      have hj := Except.ok.inj hj
      exact ⟨x, hx, congrArg (fun j => j.score) hj ▸ isNearest_clamp x,
        (congrArg Judged.explanation hj).symm⟩

/-- A judge that replies with the given total about one candidate, has no answer about
another one, and finds that all others fit somewhat. -/
def garblingJudge (total : Data) : Judge Data String := fun _ name =>
  if name == "garbled" then .silent (.ok ⟨total, ""⟩)
  else if name == "silent" then .silent (.error "no answer")
  else .silent (.ok ⟨.int 3, "fits somewhat"⟩)

def garbledCandidates : List (Ranked Float String) :=
  [⟨"garbled", 0.5⟩, ⟨"silent", 0.4⟩, ⟨"modest", 0.3⟩]

/-- Without the candidate whose reply is unusable the others are ranked: the one without
an answer gets nothing. -/
theorem garbledCandidates_without_garbled :
    (∀ c ∈ garbledCandidates, c.item != "garbled" →
      ¬ IsUnusable Data.toFloat (garblingJudge .null "query" c.item).value) ∧
      ∃ found : List (Judged Float String),
        (rerankByRelevance (fun name => name) (garblingJudge .null) Data.toFloat "query"
          (garbledCandidates.filter fun c => c.item != "garbled") 2).value = .ok found ∧
        (found.map fun j => j.item).Perm ["silent", "modest"] ∧
        ∀ j ∈ found, (j.item = "silent" → j.score = 0.0 ∧
          j.explanation = "Ranking failed: no answer") ∧
          (j.item = "modest" → j.score = 3.0) := by
  have husable : ∀ c ∈ garbledCandidates, c.item != "garbled" →
      ¬ IsUnusable Data.toFloat (garblingJudge .null "query" c.item).value := by
    have hnumbers : ∀ c ∈ garbledCandidates, c.item != "garbled" →
        ((garblingJudge .null "query" c.item).value.toOption.all fun v =>
          v.total.toFloat.isOk) = true := by
      decide +kernel
    rintro c hc hkeep ⟨reply, e, hreply, he⟩
    have hok := hnumbers c hc hkeep
    rw [hreply] at hok
    obtain ⟨x, hx⟩ := exists_eq_ok hok
    cases he.symm.trans hx
  obtain ⟨-, ranked, hranked, hscores⟩ :=
    only_unusable_replies_stop_ranking (fun name => name) (garblingJudge .null)
    Data.toFloat "query" garbledCandidates
  obtain ⟨hfound, hperm⟩ := hranked (fun name => name != "garbled") husable
  have hshort : (ranked.filter fun j => j.item != "garbled").length = 2 := by
    have hlength := hperm.length_eq
    rwa [List.length_map] at hlength
  have hall : cut 2 (ranked.filter fun j => j.item != "garbled") = ranked.filter fun j =>
      j.item != "garbled" := by
    have hall := cut_length (ranked.filter fun j => j.item != "garbled")
    rwa [hshort] at hall
  refine ⟨husable, _, hfound 2, ?_, fun j hj => ?_⟩
  · rw [hall]
    exact hperm
  · obtain ⟨hsilent, hjudged⟩ := hscores j (List.mem_of_mem_filter (mem_of_mem_cut hj))
    refine ⟨fun hitem => hsilent "no answer" (by rw [hitem]; rfl), fun hitem => ?_⟩
    obtain ⟨x, hx, hnearest, -⟩ := hjudged ⟨.int 3, "fits somewhat"⟩ (by rw [hitem]; rfl)
    have hthree : (Data.int 3).toFloat = .ok 3.0 := by decide +kernel
    obtain rfl := Except.ok.inj (hthree.symm.trans hx)
    exact hnearest.inside (by decide +kernel) (by decide +kernel)

def garbledRanking (total : Data) : Except Data.NumberError (List (Judged Float String)) :=
  (rerankByRelevance (fun name => name) (garblingJudge total) Data.toFloat "query"
    garbledCandidates 10).value

theorem exists_garbledRanking_eq_error {total : Data} {e : Data.NumberError}
    (h : total.toFloat = .error e) :
    ∃ e, garbledRanking total = .error e :=
  exists_rerankByRelevance_eq_error.mpr ⟨⟨"garbled", 0.5⟩, List.mem_cons_self,
    ⟨total, ""⟩, e, rfl, h⟩

/-- A total that is null, a text other than a number, or a list takes the answer away
from all candidates, though the judge finds that another one fits. -/
theorem garbledTotals_stop_ranking :
    (∃ e, garbledRanking .null = .error e) ∧
      (∃ e, garbledRanking (.text "n/a") = .error e) ∧
      ∃ e, garbledRanking (.list []) = .error e := by
  have hnull : Data.null.toFloat = .error .wrongType := rfl
  have htext : (Data.text "n/a").toFloat = .error .unreadable := by decide +kernel
  have hlist : (Data.list []).toFloat = .error .wrongType := rfl
  exact ⟨exists_garbledRanking_eq_error hnull, exists_garbledRanking_eq_error htext,
    exists_garbledRanking_eq_error hlist⟩

end CodeRetrieval.Funnel
