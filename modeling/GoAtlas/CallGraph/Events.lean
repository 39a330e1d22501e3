import GoAtlas.CallGraph.Build
import GoAtlas.CallGraph.Written
import GoAtlas.Contexts

/-!
Call graphs for the events of processes. An event whose graph cannot be built is reported and
counted, and the others are built all the same.
-/

namespace GoAtlas

structure EventStats where
  totalEvents : Nat
  mappedEvents : Nat
  builtGraphs : Nat
  failedGraphs : Nat
  totalNodes : Nat
  totalEdges : Nat
  deriving DecidableEq, Repr

/-- Call graphs by event, of one process or of all. -/
structure EventGraphs where
  processId : Option String
  graphs : Table CallGraph
  stats : EventStats
  warnings : List String

namespace EventGraphs

def empty (processId : Option String) : EventGraphs :=
  ⟨processId, .empty, ⟨0, 0, 0, 0, 0, 0⟩, []⟩

/-- The place of a warning. -/
def placeOf (context eventId : String) : String :=
  "context " ++ Text.quoted context ++ ", event " ++ Text.quoted eventId ++ ": "

/-- Adds a graph; it takes the place of one that another context has for the same event. -/
def addGraph (set : EventGraphs) (context eventId : String) (graph : CallGraph) : EventGraphs :=
  { set with
    graphs := set.graphs.insert eventId graph
    stats := { set.stats with
      totalEvents := set.stats.totalEvents + 1
      mappedEvents := set.stats.mappedEvents + 1
      builtGraphs := set.stats.builtGraphs + 1
      totalNodes := set.stats.totalNodes + graph.stats.totalNodes
      totalEdges := set.stats.totalEdges + graph.stats.totalEdges }
    warnings :=
      if set.graphs.contains eventId then
        set.warnings ++ [placeOf context eventId ++ "replaces a graph from another context"]
      else set.warnings }

def addFailure (set : EventGraphs) (context eventId : String) (error : BuildError) : EventGraphs :=
  { set with
    stats := { set.stats with
      totalEvents := set.stats.totalEvents + 1
      failedGraphs := set.stats.failedGraphs + 1 }
    warnings := set.warnings ++ [placeOf context eventId ++ error.message] }

def addEvent (walker : Walker) (context : String) (set : EventGraphs) (event : EventMapping) :
    EventGraphs :=
  match walker.buildForEvent event.eventId event.eventName event.entryPoint.symbolId with
  | .ok graph => set.addGraph context event.eventId graph
  | .error error => set.addFailure context event.eventId error

def addContext (walker : Walker) (set : EventGraphs) (name : String) (context : ProcessContext) :
    EventGraphs :=
  context.events.foldl (addEvent walker name) set

/-- The graphs of every context. -/
def ofAll (walker : Walker) (contexts : ProcessContexts) : EventGraphs :=
  contexts.entries.foldl (fun set (name, context) => set.addContext walker name context)
    (empty none)

/-- The graphs of one context. -/
def ofContext (walker : Walker) (contexts : ProcessContexts) (name : String) :
    Except BuildError EventGraphs :=
  match contexts.get? name with
  | some context => .ok ((empty (some name)).addContext walker name context)
  | none => .error (.contextNotFound name)

/-- The set with the nodes and edges of every graph in order. -/
def sorted (set : EventGraphs) : EventGraphs :=
  { set with graphs := set.graphs.mapValues CallGraph.sorted }

end EventGraphs

/-! ### As documents -/

def EventStats.document (stats : EventStats) : Document :=
  .record
    [("total_events", .number stats.totalEvents),
      ("mapped_events", .number stats.mappedEvents),
      ("built_graphs", .number stats.builtGraphs),
      ("failed_graphs", .number stats.failedGraphs),
      ("total_nodes", .number stats.totalNodes),
      ("total_edges", .number stats.totalEdges)]

def EventGraphs.document (set : EventGraphs) : Document :=
  .record <|
    Document.optional "process_id" .text set.processId ++
    [("graphs", .record (set.graphs.entries.map fun (id, graph) => (id, graph.document))),
      ("stats", set.stats.document)] ++
    Document.whenSome "warnings" set.warnings

end GoAtlas
