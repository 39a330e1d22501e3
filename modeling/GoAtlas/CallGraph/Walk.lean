import GoAtlas.CallGraph.Graph
import GoAtlas.Glob
import GoAtlas.Resolver.Calls
import GoAtlas.Unseen

/-!
Walking calls depth first. A walk keeps a list of calls that it has still to follow, the next one
first. Following a call to a symbol that was not visited yet enters the symbol, and its own calls
take their place at the front; so each symbol is entered once, and the walk ends whatever the depth
limit.
-/

namespace GoAtlas

/-- A call that a walk has to follow. -/
structure PendingCall where
  caller : String
  target : Target
  line : Nat
  /-- The depth at which the target would be entered. -/
  depth : Nat
  deriving DecidableEq, Repr

/-- What a walk has found so far. -/
structure Walk where
  /-- The identifiers of all nodes. -/
  visited : List String
  nodes : List CallNode
  edges : List CallEdge
  stats : CallStats
  /-- How many symbols with calls were not expanded because of the depth limit. -/
  cut : Nat
  deriving DecidableEq, Repr

namespace Walk

def start : Walk := ⟨[], [], [], .zero, 0⟩

def hasVisited (walk : Walk) (id : String) : Bool :=
  walk.visited.contains id

def addNode (walk : Walk) (node : CallNode) : Walk :=
  { walk with
    visited := node.id :: walk.visited
    nodes := walk.nodes ++ [node]
    stats := { walk.stats with maxDepthReached := max walk.stats.maxDepthReached node.depth } }

/-- The edge for a call. -/
def addEdge (walk : Walk) (call : PendingCall) (isCycle : Bool) : Walk :=
  { walk with
    edges := walk.edges ++ [{
      caller := call.caller
      callee := call.target.id
      callType := call.target.callType
      line := call.line
      isAsync := call.target.isAsync
      isCycle }] }

/-- One call that leads out of the index. -/
def countUnresolved (walk : Walk) : Walk :=
  { walk with stats := { walk.stats with unresolvedCalls := walk.stats.unresolvedCalls + 1 } }

/-- A call that closes a cycle: it is recorded and not followed. -/
def addCycle (walk : Walk) (call : PendingCall) : Walk :=
  let walk := walk.addEdge call true
  { walk with stats := { walk.stats with cyclesDetected := walk.stats.cyclesDetected + 1 } }

/-- A call that closes no cycle. -/
def addCall (walk : Walk) (call : PendingCall) : Walk :=
  let walk := walk.addEdge call false
  let stats := walk.stats
  { walk with stats := { stats with
      interfaceCalls := stats.interfaceCalls + (call.target.callType == .interface).toNat
      goroutineCalls := stats.goroutineCalls + call.target.isAsync.toNat
      unresolvedCalls := stats.unresolvedCalls + (call.target.kind == .external).toNat } }

end Walk

/-- How to walk: what calls resolve to, and which symbols are not expanded. -/
structure Walker where
  resolver : Resolver
  maxDepth : Nat
  /-- Packages whose symbols are shown but not expanded. -/
  exclude : List Glob

namespace Walker

def index (walker : Walker) : Index := walker.resolver.index

def isExcluded (walker : Walker) (package : String) : Bool :=
  walker.exclude.any (·.matchesText package)

/-- The node of an indexed symbol. -/
def symbolNode (walker : Walker) (id : String) (depth : Nat) : Callable → CallNode
  | .function symbol =>
      { id, package := some symbol.package, function := symbol.name, receiver := none,
        kind := .function, file := some symbol.file, line := some symbol.line, depth }
  | .method symbol =>
      { id, package := some symbol.package, function := symbol.name,
        receiver := some symbol.receiver, kind := walker.resolver.methodKind symbol,
        file := some symbol.file, line := some symbol.line, depth }

/-- The node of a target that is never expanded. -/
def leafNode (target : Target) (depth : Nat) : CallNode :=
  { id := target.id, package := target.package, function := target.function, receiver := none,
    kind := target.kind, file := none, line := none, depth }

/-- The node of an entry point that is not indexed. -/
def unknownNode (id : String) (depth : Nat) : CallNode :=
  { id, package := none, function := id, receiver := none, kind := .external, file := none,
    line := none, depth }

/-- The calls of a symbol that resolve, in the order in which they are written. -/
def callsOf (walker : Walker) (id : String) (callable : Callable) (depth : Nat) :
    List PendingCall :=
  callable.calls.filterMap fun site =>
    (walker.resolver.resolve site (.ofCallable callable)).map fun target =>
      { caller := id, target, line := site.line, depth := depth + 1 }

/-- Enters a symbol that was not visited yet; gives its calls if they are to be followed. -/
def enter (walker : Walker) (id : String) (depth : Nat) (walk : Walk) : Walk × List PendingCall :=
  match walker.index.callable? id with
  | none => ((walk.addNode (unknownNode id depth)).countUnresolved, [])
  | some callable =>
      let walk := walk.addNode (walker.symbolNode id depth callable)
      let calls := walker.callsOf id callable depth
      if walker.isExcluded callable.package then (walk, [])
      else if depth < walker.maxDepth then (walk, calls)
      else if calls.isEmpty then (walk, [])
      else ({ walk with cut := walk.cut + 1 }, [])

/-- Follows one call; gives the calls that are to be followed next. -/
def follow (walker : Walker) (call : PendingCall) (walk : Walk) : Walk × List PendingCall :=
  if call.target.kind.isLeaf then
    let walk := walk.addCall call
    if walk.hasVisited call.target.id then (walk, [])
    else (walk.addNode (leafNode call.target call.depth), [])
  else if walk.hasVisited call.target.id then (walk.addCycle call, [])
  else walker.enter call.target.id call.depth (walk.addCall call)

/-! ### The end of a walk -/

/-- The symbols that a walk may still enter. -/
def unvisited (walker : Walker) (walk : Walk) : List String :=
  unseen (walker.index.callables.map (·.1)) walk.visited

theorem enter_progress (walker : Walker) (id : String) (depth : Nat) (walk : Walk)
    (fresh : id ∉ walk.visited) :
    (walker.unvisited (walker.enter id depth walk).1).length < (walker.unvisited walk).length ∨
      (walker.enter id depth walk).2 = [] ∧
        (walker.unvisited (walker.enter id depth walk).1).length ≤
          (walker.unvisited walk).length := by
  unfold enter
  split
  · exact .inr ⟨rfl, unseen_cons_length_le _ _ _⟩
  · rename_i callable found
    left
    have smaller := unseen_cons_length_lt (Index.mem_callables_of_callable? found) fresh
    cases callable <;> (dsimp only; repeat' split) <;> exact smaller

theorem follow_progress (walker : Walker) (call : PendingCall) (walk : Walk) :
    (walker.unvisited (walker.follow call walk).1).length < (walker.unvisited walk).length ∨
      (walker.follow call walk).2 = [] ∧
        (walker.unvisited (walker.follow call walk).1).length ≤
          (walker.unvisited walk).length := by
  unfold follow
  split
  · dsimp only
    split
    · exact .inr ⟨rfl, Nat.le_refl _⟩
    · exact .inr ⟨rfl, unseen_cons_length_le _ _ _⟩
  · split
    · exact .inr ⟨rfl, Nat.le_refl _⟩
    · rename_i fresh
      exact walker.enter_progress call.target.id call.depth (walk.addCall call)
        (by simpa [Walk.hasVisited, Walk.addCall, Walk.addEdge] using fresh)

/-- Follows calls until none is left. -/
def run (walker : Walker) (pending : List PendingCall) (walk : Walk) : Walk :=
  match pending with
  | [] => walk
  | call :: rest =>
      walker.run ((walker.follow call walk).2 ++ rest) (walker.follow call walk).1
termination_by ((walker.unvisited walk).length, pending.length)
decreasing_by
  rcases walker.follow_progress call walk with less | ⟨none, notMore⟩
  · exact Prod.Lex.left _ _ less
  · rw [none]
    rcases Nat.lt_or_eq_of_le notMore with less | same
    · exact Prod.Lex.left _ _ less
    · rw [same]
      exact Prod.Lex.right _ (Nat.lt_succ_self _)

/-- Walks from an entry point, unless it was visited before. -/
def visit (walker : Walker) (walk : Walk) (entry : String) : Walk :=
  if walk.hasVisited entry then walk
  else walker.run (walker.enter entry 0 walk).2 (walker.enter entry 0 walk).1

/-- Walks from entry points in turn. -/
def visitAll (walker : Walker) (entries : List String) : Walk :=
  entries.foldl walker.visit .start

/-! ### Results -/

/-- What is said of a walk that the depth limit cut short. -/
def warnings (walker : Walker) (walk : Walk) : List String :=
  if walk.cut = 0 then []
  else ["max depth " ++ toString walker.maxDepth ++ " reached: " ++ toString walk.cut ++
    " symbol(s) not expanded"]

end Walker

/-- The counts of a walk, with the totals filled in. -/
def Walk.finalStats (walk : Walk) : CallStats :=
  { walk.stats with totalNodes := walk.nodes.length, totalEdges := walk.edges.length }

end GoAtlas
