import GoAtlas.CallGraph.Graph
import GoAtlas.Document

/-! Call graphs as documents. Fields that say nothing are left out. -/

namespace GoAtlas

def CallNode.document (node : CallNode) : Document :=
  .record <|
    [("id", .text node.id)] ++
    Document.optional "package" .text node.package ++
    [("function", .text node.function)] ++
    Document.optional "receiver" .text node.receiver ++
    [("type", .text node.kind.label)] ++
    Document.optional "file" .text node.file ++
    Document.optional "line" .number node.line ++
    [("depth", .number node.depth)]

def CallEdge.document (edge : CallEdge) : Document :=
  .record <|
    [("from", .text edge.caller), ("to", .text edge.callee),
      ("call_type", .text edge.callType.label), ("line", .number edge.line)] ++
    Document.whenSet "async" edge.isAsync ++
    Document.whenSet "cycle" edge.isCycle

def CallStats.document (stats : CallStats) : Document :=
  .record
    [("total_nodes", .number stats.totalNodes),
      ("total_edges", .number stats.totalEdges),
      ("max_depth_reached", .number stats.maxDepthReached),
      ("interface_calls", .number stats.interfaceCalls),
      ("goroutine_calls", .number stats.goroutineCalls),
      ("cycles_detected", .number stats.cyclesDetected),
      ("unresolved_calls", .number stats.unresolvedCalls)]

def CallGraph.document (graph : CallGraph) : Document :=
  .record <|
    Document.optional "event_id" .text graph.eventId ++
    Document.optional "event_name" .text graph.eventName ++
    [("entry_point", .text graph.entryPoint),
      ("nodes", .list (graph.nodes.map CallNode.document)),
      ("edges", .list (graph.edges.map CallEdge.document)),
      ("max_depth", .number graph.maxDepth),
      ("actual_depth", .number graph.actualDepth),
      ("stats", graph.stats.document)] ++
    Document.whenSome "warnings" graph.warnings

end GoAtlas
