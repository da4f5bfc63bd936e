import CodeRetrieval.Engine.Basic
import CodeRetrieval.Proofs.Engine.Build
import CodeRetrieval.Proofs.Settings

/-!
# Engines over time

Calls to an engine build indexes and ask about the present one, each with collaborators
of its own. Whatever was built, failed and asked before, an engine is what a fresh one
is after the last build that succeeded.
-/

namespace CodeRetrieval.Engine

inductive Query where
  | chunks
  | chunk (id : String)
  | extracted (id : String)
  | related (id : String) (depth : Int)
  | callers (name : String)
  | definitions (name : String)
  | entryPoints (limit minCalls : Int)
  | stats
  | breakdown (query : String)

inductive Answer where
  | chunks (found : List Chunk)
  | chunk (found : Option Chunk)
  | stats (figures : IndexStats)
  | breakdown (rankings : Breakdown)

variable {E T X : Type}

def held {α : Type} (answer : α → Answer) (r : Except NotBuilt α) :
    Noted (Except (QueryError E X) Answer) :=
  .silent ((r.mapError fun _ => .notBuilt).map answer)

def ask (e : Engine) (c : Collaborators E T X) :
    Query → Noted (Except (QueryError E X) Answer)
  | .chunks => held .chunks e.chunks
  | .chunk id => held .chunk (e.chunk? id)
  | .extracted id => held .chunk (e.extracted? id)
  | .related id depth => held .chunks (e.related id depth)
  | .callers name => held .chunks (e.callers name)
  | .definitions name => held .chunks (e.definitions name)
  | .entryPoints limit minCalls => held .chunks (e.entryPoints limit minCalls)
  | .stats => held .stats e.stats
  | .breakdown query => (e.breakdown c query).map fun r => r.map .breakdown

/-- A call to an engine, with the collaborators that answer during the call. -/
inductive Call (E T X : Type) where
  | build (c : Collaborators E T X) (files : List IndexFile) (budget : Option Int)
  | query (c : Collaborators E T X) (q : Query)

def after (e : Engine) : Call E T X → Engine
  | .build c files budget => (e.build c files budget).1
  | .query _ _ => e

def afterAll (e : Engine) (calls : List (Call E T X)) : Engine :=
  calls.foldl after e

def accepts (e : Engine) : Call E T X → Bool
  | .build c files budget => (e.build c files budget).2.value.isOk
  | .query _ _ => false

def lastAccepted? (e : Engine) : List (Call E T X) → Option (Call E T X)
  | [] => none
  | call :: calls =>
    ((e.after call).lastAccepted? calls).or (if e.accepts call then some call else none)

/-! ## One call -/

theorem build_of_eq_ok {e : Engine} {c : Collaborators E T X} {files : List IndexFile}
    {budget : Option Int} {index : Index}
    (h : (Index.build e.settings e.chunker c.compressor c.source files budget).value =
    .ok index) :
    (e.build c files budget).1 = { e with index := some index } ∧
      (e.build c files budget).2.value = .ok index.stats := by
  simp [build, h, Except.map]

theorem build_of_eq_error {e : Engine} {c : Collaborators E T X} {files : List IndexFile}
    {budget : Option Int} {error : Index.BuildError E}
    (h : (Index.build e.settings e.chunker c.compressor c.source files budget).value =
    .error error) :
    (e.build c files budget).1 = e ∧ (e.build c files budget).2.value = .error error := by
  simp [build, h, Except.map]

/-- A call puts the index of a successful build in place of the present one, or changes
nothing. -/
theorem after_cases (e : Engine) (call : Call E T X) :
    (∃ c files budget index, call = .build c files budget ∧
      (Index.build e.settings e.chunker c.compressor c.source files budget).value =
        .ok index ∧
      e.accepts call = true ∧ e.after call = { e with index := some index }) ∨
    (e.accepts call = false ∧ e.after call = e) := by
  cases call with
  | query c q => exact .inr ⟨rfl, rfl⟩
  | build c files budget =>
      cases h : (Index.build e.settings e.chunker c.compressor c.source files budget).value
        with
      | ok index =>
          obtain ⟨hengine, hvalue⟩ := build_of_eq_ok h
          exact .inl ⟨c, files, budget, index, rfl,
            h, by rw [accepts, hvalue]; rfl, hengine⟩
      | error error =>
          obtain ⟨hengine, hvalue⟩ := build_of_eq_error h
          exact .inr ⟨by rw [accepts, hvalue]; rfl, hengine⟩

def Agrees (e f : Engine) : Prop :=
  e.settings = f.settings ∧ e.chunker = f.chunker

theorem agrees_after (e : Engine) (call : Call E T X) : (e.after call).Agrees e := by
  rcases e.after_cases call with ⟨c, files, budget, index, -, -, -, h⟩ | ⟨-, h⟩
  · rw [h]
    exact ⟨rfl, rfl⟩
  · rw [h]
    exact ⟨rfl, rfl⟩

theorem agrees_afterAll (e : Engine) (calls : List (Call E T X)) :
    (e.afterAll calls).Agrees e := by
  induction calls generalizing e with
  | nil => exact ⟨rfl, rfl⟩
  | cons call calls ih =>
      obtain ⟨hsettings, hchunker⟩ := ih (e.after call)
      obtain ⟨hsettings', hchunker'⟩ := e.agrees_after call
      exact ⟨hsettings.trans hsettings', hchunker.trans hchunker'⟩

/-- The index, if there is one, is assembled of its own chunks. -/
def Sound (e : Engine) : Prop :=
  ∀ index, e.index = some index → index.IsAssembled

theorem sound_make (settings : Settings) (chunker : Chunker) :
    (make settings chunker).Sound := by
  intro index h
  cases h

theorem sound_after {e : Engine} (h : e.Sound) (call : Call E T X) :
    (e.after call).Sound := by
  rcases e.after_cases call with ⟨c, files, budget, index, -, hindex, -,
    hafter⟩ | ⟨-, hafter⟩
  · rw [hafter]
    intro index' hsome
    obtain rfl := Option.some.inj hsome
    exact Index.isAssembled_of_build_eq_ok hindex
  · rw [hafter]
    exact h

theorem sound_afterAll {e : Engine} (h : e.Sound) (calls : List (Call E T X)) :
    (e.afterAll calls).Sound := by
  induction calls generalizing e with
  | nil => exact h
  | cons call calls ih => exact ih (sound_after h call)

/-- A call that is accepted leaves nothing of the index before it. -/
theorem after_of_accepts {e f : Engine} {call : Call E T X} (hagrees : e.Agrees f)
    (h : e.accepts call = true) :
    f.accepts call = true ∧ e.after call = f.after call := by
  rcases e.after_cases call with ⟨c, files, budget, index, rfl,
    hindex, -, hafter⟩ | ⟨hnot, -⟩
  · obtain ⟨hsettings, hchunker⟩ := hagrees
    have hindex' :
        (Index.build f.settings f.chunker c.compressor c.source files budget).value =
        .ok index := by
      rw [← hsettings, ← hchunker]
      exact hindex
    obtain ⟨hengine, hvalue⟩ := build_of_eq_ok hindex'
    refine ⟨by rw [accepts, hvalue]; rfl, ?_⟩
    rw [hafter, after, hengine, hsettings, hchunker]
  · cases hnot.symm.trans h

/-! ## All calls -/

/-- After any calls an engine is what it is after the last one that it accepts. -/
theorem afterAll_eq (e : Engine) (calls : List (Call E T X)) :
    e.afterAll calls = e.afterAll (e.lastAccepted? calls).toList ∧
      ∀ call, e.lastAccepted? calls = some call → e.accepts call = true := by
  induction calls generalizing e with
  | nil => exact ⟨rfl, by simp [lastAccepted?]⟩
  | cons call calls ih =>
      obtain ⟨hafter, haccepts⟩ := ih (e.after call)
      have hall : e.afterAll (call :: calls) = (e.after call).afterAll calls := rfl
      rw [hall, hafter, lastAccepted?]
      cases hlast : (e.after call).lastAccepted? calls with
      | some last =>
          -- `last` replaces the index whole, so it does the same whether or not `call`
          -- came before
          rw [hlast] at haccepts
          obtain ⟨hlast, hsame⟩ :=
            after_of_accepts (e.agrees_after call) (haccepts last rfl)
          refine ⟨hsame, fun call hcall => ?_⟩
          obtain rfl := Option.some.inj hcall
          exact hlast
      | none =>
          cases h : e.accepts call with
          | true =>
              refine ⟨rfl, fun call' hcall => ?_⟩
              obtain rfl := Option.some.inj hcall
              exact h
          | false =>
              rcases e.after_cases call with ⟨-, -, -, -, -, -, haccepted, -⟩ | ⟨-, hsame⟩
              · cases h.symm.trans haccepted
              · exact ⟨hsame, by simp⟩

theorem isBuilt_afterAll_make (settings : Settings) (chunker : Chunker)
    (calls : List (Call E T X)) :
    ((make settings chunker).afterAll calls).isBuilt =
      ((make settings chunker).lastAccepted? calls).isSome := by
  obtain ⟨hafter, haccepts⟩ := (make settings chunker).afterAll_eq calls
  rw [hafter]
  cases hlast : (make settings chunker).lastAccepted? calls with
  | none => rfl
  | some last =>
      rw [hlast] at haccepts
      rcases (make settings chunker).after_cases last with ⟨c, files, budget,
        index, -, -, -, hbuilt⟩ | ⟨hnot, -⟩
      · show ((make settings chunker).after last).isBuilt = true
        rw [hbuilt]
        rfl
      · cases hnot.symm.trans (haccepts last rfl)

/-! ## Answers -/

theorem value_held_eq_notBuilt {α : Type} {answer : α → Answer}
    {f : Index → α} {e : Engine} :
    (held (E := E) (X := X) answer (e.built.map f)).value = .error .notBuilt ↔
      e.isBuilt = false := by
  obtain ⟨settings, chunker, index⟩ := e
  cases index with
  | none => exact iff_of_true rfl rfl
  | some index => exact iff_of_false (fun h => by cases h) (fun h => by cases h)

theorem value_rank_ne_notBuilt (e : Engine) (c : Collaborators E T X) (index : Index)
    (query : String) (vector : List Float) :
    (e.rank c index query vector).value ≠ .error .notBuilt := by
  rw [rank]
  split
  · simp
  · rw [Noted.value_map]
    split <;> simp

theorem value_breakdown_eq_notBuilt {e : Engine}
    {c : Collaborators E T X} {query : String} :
    (e.breakdown c query).value = .error .notBuilt ↔ e.isBuilt = false := by
  obtain ⟨settings, chunker, index⟩ := e
  cases index with
  | none => exact iff_of_true rfl rfl
  | some index =>
      refine iff_of_false ?_ (fun h => by cases h)
      simp only [breakdown]
      split
      · simp
      · rw [Noted.value_andThen, Noted.value_andThen]
        split
        · simp
        · exact value_rank_ne_notBuilt _ _ _ _ _

theorem value_ask_eq_notBuilt (e : Engine) (c : Collaborators E T X) (q : Query) :
    (e.ask c q).value = .error .notBuilt ↔ e.isBuilt = false := by
  cases q with
  | breakdown query =>
      rw [ask, Noted.value_map, map_eq_error]
      exact value_breakdown_eq_notBuilt
  | _ => exact value_held_eq_notBuilt

/-- Builds are atomic. After any calls an engine answers every query as a fresh one that
made only the last call that was a successful build, and it finds no index exactly if
there was none. A build that fails changes nothing. It blames embedding exactly if some
batch of its chunks failed, and otherwise the build. -/
theorem builds_atomic (settings : Settings) (chunker : Chunker)
    (calls : List (Call E T X)) :
    let fresh := make settings chunker
    let e := fresh.afterAll calls
    (∀ (c : Collaborators E T X) (q : Query),
      e.ask c q = (fresh.afterAll (fresh.lastAccepted? calls).toList).ask c q ∧
      ((e.ask c q).value = .error .notBuilt ↔ fresh.lastAccepted? calls = none)) ∧
    ∀ (c : Collaborators E T X) (files : List IndexFile) (budget : Option Int)
      (error : Index.BuildError E),
      (e.build c files budget).2.value = .error error →
        (e.build c files budget).1 = e ∧
        ((∃ fault, error = .embedding fault) ∧
            Index.EmbeddingFails settings chunker c.compressor c.source files budget ∨
          (∃ fault, error = .failed fault) ∧
            ¬ Index.EmbeddingFails settings chunker c.compressor
              c.source files budget) := by
  intro fresh e
  have hagrees : e.Agrees fresh := agrees_afterAll fresh calls
  refine ⟨fun c q => ⟨?_, ?_⟩, ?_⟩
  · rw [← (fresh.afterAll_eq calls).1]
  · rw [value_ask_eq_notBuilt, isBuilt_afterAll_make, Option.isSome_eq_false_iff,
      Option.isNone_iff_eq_none]
  · intro c files budget error herror
    obtain ⟨hsettings, hchunker⟩ := hagrees
    cases h : (Index.build e.settings e.chunker c.compressor c.source files budget).value
      with
    | ok index => cases herror.symm.trans (build_of_eq_ok h).2
    | error error' =>
        obtain ⟨hengine, hvalue⟩ := build_of_eq_error h
        obtain rfl := Except.error.inj (herror.symm.trans hvalue)
        rw [hsettings, hchunker] at h
        have hembedding := Index.exists_eq_embedding_iff h
        refine ⟨hengine, ?_⟩
        cases error with
        | embedding fault => exact .inl ⟨⟨fault, rfl⟩, hembedding.mp ⟨fault, rfl⟩⟩
        | failed fault =>
            refine .inr ⟨⟨fault, rfl⟩, fun hfails => ?_⟩
            obtain ⟨_, hfault⟩ := hembedding.mpr hfails
            cases hfault

/-! ## A small engine -/

def sampleTree : Syntax.Tree :=
  ⟨"module", ⟨0, 0⟩, ⟨0, 13⟩, none, [⟨"function_definition", ⟨0, 0⟩, ⟨0, 13⟩, none, []⟩]⟩

def sampleFiles : List IndexFile :=
  [⟨"README.md", "# Demo\n"⟩, ⟨"a.py", "def f(): pass\n"⟩]

def sampleEngine : Engine :=
  make .defaults ⟨.all, fun _ _ => some sampleTree⟩

/-- All vectors are the same, and all chunks fit equally well. -/
def sampleCollaborators : Collaborators Empty Float Empty where
  source _ texts := .silent (.ok (texts.map fun _ => [1.0]))
  embedQuery _ := .silent (.ok [1.0])
  judge _ _ := .silent (.ok ⟨7.0, ""⟩)
  amount := .ok
  compressor := none

/-- A build without vectors fails and leaves the two chunks of the build before it. -/
theorem sample_builds_atomic :
    let failing := { sampleCollaborators with source := fun _ _ => .silent (.ok []) }
    let e := sampleEngine.afterAll [.build sampleCollaborators sampleFiles none]
    (∃ error, (e.build failing sampleFiles none).2.value = .error error) ∧
      (e.build failing sampleFiles none).1.stats.map IndexStats.chunkCount = .ok 2 := by
  intro failing e
  have hfails : (e.build failing sampleFiles none).2.value.isOk = false := by decide +kernel
  have hchunks : e.stats.map IndexStats.chunkCount = .ok 2 := by decide +kernel
  cases h : (e.build failing sampleFiles none).2.value with
  | ok figures =>
      rw [h] at hfails
      cases hfails
  | error error =>
      obtain ⟨-, hatomic⟩ := builds_atomic sampleEngine.settings sampleEngine.chunker
        [.build sampleCollaborators sampleFiles none]
      have hsame : (e.build failing sampleFiles none).1 = e :=
        (hatomic failing sampleFiles none error h).1
      refine ⟨⟨error, rfl⟩, ?_⟩
      rw [hsame]
      exact hchunks

end CodeRetrieval.Engine
