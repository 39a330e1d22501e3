import GoAtlas.CallGraph.Kinds

/-!
Call graphs: nodes for what is called, edges for the calls, and what is counted on the way. Sorting
puts both lists into an order that does not depend on how the graph was walked.
-/

namespace GoAtlas

structure CallNode where
  id : String
  package : Option String
  function : String
  receiver : Option String
  kind : NodeKind
  file : Option String
  line : Option Nat
  /-- How many calls lie between the entry point and the node, on the way on which it was first
  met. -/
  depth : Nat
  deriving DecidableEq, Repr

structure CallEdge where
  caller : String
  callee : String
  callType : CallType
  line : Nat
  isAsync : Bool
  /-- Does the edge lead to a symbol that had been visited before? -/
  isCycle : Bool
  deriving DecidableEq, Repr

/-- What a walk counts. Calls that close a cycle are counted as such and as nothing else. -/
structure CallStats where
  totalNodes : Nat
  totalEdges : Nat
  maxDepthReached : Nat
  interfaceCalls : Nat
  goroutineCalls : Nat
  cyclesDetected : Nat
  unresolvedCalls : Nat
  deriving DecidableEq, Repr

def CallStats.zero : CallStats := ⟨0, 0, 0, 0, 0, 0, 0⟩

/-- A call graph with one entry point, which may serve an event. -/
structure CallGraph where
  eventId : Option String
  eventName : Option String
  entryPoint : String
  nodes : List CallNode
  edges : List CallEdge
  maxDepth : Nat
  actualDepth : Nat
  stats : CallStats
  warnings : List String
  deriving DecidableEq, Repr

/-! ### Order -/

/-- The order by depth and then by identifier. -/
def CallNode.notAfter (first second : CallNode) : Bool :=
  if first.depth = second.depth then decide (first.id ≤ second.id)
  else decide (first.depth < second.depth)

/-- The order by caller, callee, line and the name of the type of call. -/
def CallEdge.notAfter (first second : CallEdge) : Bool :=
  if first.caller ≠ second.caller then decide (first.caller < second.caller)
  else if first.callee ≠ second.callee then decide (first.callee < second.callee)
  else if first.line ≠ second.line then decide (first.line < second.line)
  else decide (first.callType.label ≤ second.callType.label)

namespace CallGraph

/-- The first node of an identifier. -/
def node? (graph : CallGraph) (id : String) : Option CallNode :=
  graph.nodes.find? (·.id == id)

/-- The graph with its nodes and edges in order; equal ones keep the order in which they stood. -/
def sorted (graph : CallGraph) : CallGraph :=
  { graph with
    nodes := graph.nodes.mergeSort CallNode.notAfter
    edges := graph.edges.mergeSort CallEdge.notAfter }

end CallGraph

end GoAtlas
