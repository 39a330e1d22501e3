import GoAtlas.Proofs.CallGraph.Discovery

/-!
The statistics of a call graph are those of its nodes and edges. A walk counts while it goes, so
every step must count what the edge says that it records; that an edge leads out of the index can be
read off its target, since no identifier is external in one call and something else in another.
-/

namespace GoAtlas

/-- The statistics are those of the nodes and edges. -/
structure CallGraph.IsCounted (graph : CallGraph) : Prop where
  nodes : graph.stats.totalNodes = graph.nodes.length
  edges : graph.stats.totalEdges = graph.edges.length
  depth : graph.stats.maxDepthReached = graph.actualDepth ∧
    (graph.nodes.map (·.depth)).max? = some graph.actualDepth
  cycles : graph.stats.cyclesDetected = graph.edges.countP (·.isCycle)
  interfaces : graph.stats.interfaceCalls =
    graph.edges.countP fun edge => !edge.isCycle && edge.callType == .interface
  goroutines : graph.stats.goroutineCalls =
    graph.edges.countP fun edge => !edge.isCycle && edge.isAsync
  unresolved : graph.stats.unresolvedCalls =
    graph.edges.countP fun edge => (graph.node? edge.callee).any (·.kind == .external)

namespace Walker

variable {walker : Walker} {entries : List String} {pending : List PendingCall} {walk : Walk}
  {entry id : String} {depth : Nat} {call : PendingCall} {edge : CallEdge} {graph : CallGraph}

/-- Entering an indexed symbol counts no call. -/
theorem enter_stats (indexed : (walker.index.callable? id).isSome = true) :
    (walker.enter id depth walk).1.stats =
      { walk.stats with maxDepthReached := max walk.stats.maxDepthReached depth } := by
  obtain ⟨callable, found⟩ := Option.isSome_iff_exists.mp indexed
  unfold enter
  simp only [found]
  repeat' split
  all_goals simp [Walk.addNode]

/-- What recording an edge adds to the counts, if its target is of this kind. -/
structure Tallies (edge : CallEdge) (kind : NodeKind) (before after : CallStats) : Prop where
  cycles : after.cyclesDetected = before.cyclesDetected + edge.isCycle.toNat
  interfaces : after.interfaceCalls =
    before.interfaceCalls + (!edge.isCycle && edge.callType == .interface).toNat
  goroutines : after.goroutineCalls =
    before.goroutineCalls + (!edge.isCycle && edge.isAsync).toNat
  unresolved : after.unresolvedCalls = before.unresolvedCalls + (kind == .external).toNat

theorem follow_tallies (walk : Walk) (indexed : call.target.kind.isLeaf = false →
      (walker.index.callable? call.target.id).isSome = true) :
    Tallies (call.edge (!call.target.kind.isLeaf && walk.hasVisited call.target.id))
      call.target.kind walk.stats (walker.follow call walk).1.stats := by
  unfold follow
  dsimp only
  rw [Walk.hasVisited_addCall]
  cases leaf : call.target.kind.isLeaf with
  | true =>
      rw [if_pos rfl]
      split <;> constructor <;> simp [Walk.addCall, Walk.addEdge, Walk.addNode, PendingCall.edge]
  | false =>
      have internal : (call.target.kind == .external) = false := by
        cases kind : call.target.kind <;> simp_all [NodeKind.isLeaf]
      rw [if_neg Bool.false_ne_true]
      cases visited : walk.hasVisited call.target.id with
      | true =>
          rw [if_pos rfl]
          constructor <;> simp [Walk.addCycle, Walk.addEdge, PendingCall.edge, internal]
      | false =>
          rw [if_neg Bool.false_ne_true, enter_stats (indexed leaf)]
          constructor <;> simp [Walk.addCall, Walk.addEdge, PendingCall.edge, internal]

/-- What a walk has counted is what its edges say. -/
structure IsTallied (walker : Walker) (walk : Walk) : Prop where
  cycles : walk.stats.cyclesDetected = walk.edges.countP (·.isCycle)
  interfaces : walk.stats.interfaceCalls =
    walk.edges.countP fun edge => !edge.isCycle && edge.callType == .interface
  goroutines : walk.stats.goroutineCalls =
    walk.edges.countP fun edge => !edge.isCycle && edge.isAsync
  unresolved : walk.stats.unresolvedCalls =
    walk.edges.countP fun edge => walker.resolver.kindOf edge.callee == .external

theorem IsTallied.enter (tallied : walker.IsTallied walk)
    (indexed : (walker.index.callable? id).isSome = true) :
    walker.IsTallied (walker.enter id depth walk).1 := by
  constructor <;> rw [enter_stats indexed, enter_edges]
  · exact tallied.cycles
  · exact tallied.interfaces
  · exact tallied.goroutines
  · exact tallied.unresolved

theorem IsTallied.follow (tallied : walker.IsTallied walk)
    (sameKind : call.target.kind = walker.resolver.kindOf call.target.id) :
    walker.IsTallied (walker.follow call walk).1 := by
  have indexed : call.target.kind.isLeaf = false →
      (walker.index.callable? call.target.id).isSome = true := by
    rw [sameKind, isLeaf_kindOf]
    exact Option.isNone_eq_false_iff.mp
  have step := follow_tallies walk indexed
  constructor <;> rw [follow_edges, countP_append_singleton]
  · rw [step.cycles, tallied.cycles]
  · rw [step.interfaces, tallied.interfaces]
  · rw [step.goroutines, tallied.goroutines]
  · rw [step.unresolved, tallied.unresolved, sameKind]
    rfl

theorem Reached.isTallied (names : walker.index.NamesOnly)
    (reached : walker.Reached entries pending walk)
    (indexed : ∀ entry ∈ entries, (walker.index.callable? entry).isSome = true) :
    walker.IsTallied walk := by
  induction reached with
  | start => exact ⟨rfl, rfl, rfl, rfl⟩
  | revisited _ _ inductionHypothesis =>
      exact inductionHypothesis fun entry member => indexed entry (List.mem_append_left _ member)
  | entered _ _ _ _ inductionHypothesis =>
      have tallied := inductionHypothesis fun entry member =>
        indexed entry (List.mem_append_left _ member)
      exact tallied.enter (indexed _ (by simp))
  | repeated before _ _ _ inductionHypothesis =>
      exact (inductionHypothesis indexed).follow (before.pending_kind names)
  | followed before _ _ _ inductionHypothesis =>
      exact (inductionHypothesis indexed).follow (before.pending_kind names)

/-- Every call graph counts its own nodes and edges. -/
theorem isCounted_build (built : walker.index.Buildable)
    (isBuilt : walker.build entry = .ok graph) : graph.IsCounted := by
  obtain ⟨indexed, rfl⟩ := build_eq_ok_iff.mp isBuilt
  have names := built.namesOnly
  have reached := reached_visitAll names [entry]
  have tallied := reached.isTallied names (by simpa using indexed)
  refine ⟨rfl, rfl, ⟨rfl, ?_⟩, tallied.cycles, tallied.interfaces, tallied.goroutines, ?_⟩
  · have deepest : (walker.graphOf entry (walker.visitAll [entry])).actualDepth =
        greatestDepth (walker.visitAll [entry]).nodes := reached.coherent.deepest
    rw [deepest]
    exact max?_depths reached.head_nodes enteredNode_depth
  · refine tallied.unresolved.trans (List.countP_congr ?_)
    intro edge member
    obtain ⟨node, nodeMember, nodeId⟩ := reached.exists_callee member
    rw [← nodeId, reached.node?_graphOf nodeMember, Option.any_some,
      reached.kind_eq names indexed node nodeMember]

theorem isCounted_build_service :
    serviceWalker.index.Buildable ∧ serviceWalker.build "p.Handler.Serve" = .ok serviceGraph ∧
      serviceGraph.IsCounted :=
  ⟨buildable_service, build_service, isCounted_build buildable_service build_service⟩

end Walker

end GoAtlas
