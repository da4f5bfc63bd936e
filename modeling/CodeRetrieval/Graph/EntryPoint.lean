import CodeRetrieval.Chunk.Words
import CodeRetrieval.Graph.CallGraph
import CodeRetrieval.Text.Case

/-!
# Entry points and flows

A piece of code is likely to start a flow if others can see it, if its path says so, or
if it calls much. Those that are called least come first, then those that call most,
then those that come first. A flow is an entry point with the chunks reached from it.
-/

namespace CodeRetrieval

namespace Chunk

/-- Whether a language's rule makes a chunk visible to others: a word before it, a
capital, or no underscore. -/
def isExported (c : Chunk) : Bool :=
  let startsWith (p : String) := p.toList.isPrefixOf (Text.trimStart c.code.toList)
  if ["javascript", "typescript", "tsx"].contains c.language then startsWith "export "
  else if c.language == "rust" then startsWith "pub "
  else if c.language == "go" then Text.startsUpper c.name.toList
  else if c.language == "python" then
    c.parentClass.isNone && !(c.name.toList.head? == some '_') &&
      !c.code.toList.head?.any Text.isBlank
  else false

end Chunk

namespace CallGraph

/-- Parts of the path of a file whose code answers to users. -/
def entryMarkers : List String :=
  ["route", "controller", "handler"]

def pathMarksEntry (path : String) : Bool :=
  entryMarkers.any fun m => containsText m.toList (Text.lower path.toList)

def qualifies (minCalls : Int) (c : Chunk) : Bool :=
  c.isExported || pathMarksEntry c.path || decide (minCalls ≤ c.calls.length)

def timesCalled (g : CallGraph) (name : String) : Nat :=
  (g.callerIdsOf name).length

def position (g : CallGraph) (c : Chunk) : Nat :=
  (g.order.lookup c.id).getD 0

/-- The first chunk may stand before the second among entry points: it is called less,
or as often and calls more, or as much and comes first. -/
def entryBefore (g : CallGraph) (a b : Chunk) : Bool :=
  if g.timesCalled a.name ≠ g.timesCalled b.name then
    decide (g.timesCalled a.name < g.timesCalled b.name)
  else if a.calls.length ≠ b.calls.length then decide (b.calls.length < a.calls.length)
  else decide (g.position a ≤ g.position b)

/-- At most `limit` entry points. Where no code qualifies, the first pieces of code
stand in. -/
def entryPoints (g : CallGraph) (limit minCalls : Int) : List Chunk :=
  let code := g.chunks.filter Chunk.isCode
  let candidates := code.filter (qualifies minCalls)
  if candidates.isEmpty then code.take limit.toNat
  else (candidates.mergeSort g.entryBefore).take limit.toNat

def defaultLimit : Int := 10

def defaultMinCalls : Int := 3

/-- An entry point with the chunks reached from it. -/
structure Flow where
  entry : Chunk
  related : List Chunk

def flows (g : CallGraph) (limit depth minCalls : Int) : List Flow :=
  (g.entryPoints limit minCalls).map fun c => ⟨c, g.related c.id depth⟩

end CallGraph

end CodeRetrieval
