import GoAtlas.Proofs.CallGraph.Discovery
import GoAtlas.Proofs.Resolver.Classification

/-!
Call graphs under different settings for classification. Two walks that differ in these settings go
in lock-step: their next calls have the same targets but for the classification, of which a step
asks only whether a target is a leaf. So their graphs have the same nodes and edges once the
classification is forgotten.
-/

namespace GoAtlas

/-! ### Forgetting the classification -/

def PendingCall.unclassified (call : PendingCall) : PendingCall :=
  { call with target := call.target.unclassified }

def CallNode.unclassified (node : CallNode) : CallNode :=
  { node with kind := node.kind.unclassified }

def CallEdge.unclassified (edge : CallEdge) : CallEdge :=
  { edge with callType := .direct, isAsync := false }

def CallStats.unclassified (stats : CallStats) : CallStats :=
  { stats with interfaceCalls := 0, goroutineCalls := 0 }

def Walk.unclassified (walk : Walk) : Walk :=
  { walk with
    nodes := walk.nodes.map CallNode.unclassified
    edges := walk.edges.map CallEdge.unclassified
    stats := walk.stats.unclassified }

/-- The graph without what only the classification of its calls and methods says. -/
def CallGraph.unclassified (graph : CallGraph) : CallGraph :=
  { graph with
    nodes := graph.nodes.map CallNode.unclassified
    edges := graph.edges.map CallEdge.unclassified
    stats := graph.stats.unclassified }

namespace Walk

variable (walk : Walk) (call : PendingCall)

@[simp] theorem hasVisited_unclassified (id : String) :
    walk.unclassified.hasVisited id = walk.hasVisited id := rfl

@[simp] theorem unclassified_addNode (node : CallNode) :
    (walk.addNode node).unclassified = walk.unclassified.addNode node.unclassified := by
  simp [unclassified, addNode, CallNode.unclassified, CallStats.unclassified]

@[simp] theorem unclassified_countUnresolved :
    walk.countUnresolved.unclassified = walk.unclassified.countUnresolved := rfl

@[simp] theorem unclassified_addCycle :
    (walk.addCycle call).unclassified = walk.unclassified.addCycle call.unclassified := by
  simp [unclassified, addCycle, addEdge, CallEdge.unclassified, PendingCall.unclassified,
    Target.unclassified, CallStats.unclassified]

@[simp] theorem unclassified_addCall :
    (walk.addCall call).unclassified = walk.unclassified.addCall call.unclassified := by
  have notInterface : (CallType.direct == CallType.interface) = false := rfl
  simp [unclassified, addCall, addEdge, CallEdge.unclassified, PendingCall.unclassified,
    Target.unclassified, CallStats.unclassified, notInterface]

end Walk

/-! ### Under two settings -/

def BuildOptions.reclassified (options : BuildOptions) (setting : Classification) : BuildOptions :=
  { options with resolver := options.resolver.reclassified setting }

namespace Walker

def reclassified (walker : Walker) (setting : Classification) : Walker :=
  { walker with resolver := walker.resolver.reclassified setting }

variable (walker : Walker) (setting : Classification) {walk other : Walk}
  {call otherCall : PendingCall} {pending others : List PendingCall} {id entry : String}
  {depth : Nat}

theorem unclassified_callsOf (id : String) (callable : Callable) (depth : Nat) :
    (walker.callsOf id callable depth).map PendingCall.unclassified =
      callable.calls.filterMap fun site =>
        ((walker.resolver.resolve site (.ofCallable callable)).map Target.unclassified).map
          fun target => ⟨id, target, site.line, depth + 1⟩ := by
  simp [callsOf, List.map_filterMap, Function.comp_def, PendingCall.unclassified]

theorem callsOf_reclassified (id : String) (callable : Callable) (depth : Nat) :
    ((walker.reclassified setting).callsOf id callable depth).map PendingCall.unclassified =
      (walker.callsOf id callable depth).map PendingCall.unclassified := by
  rw [unclassified_callsOf, unclassified_callsOf]
  simp only [reclassified, Resolver.resolve_reclassified]

theorem symbolNode_reclassified (callable : Callable) :
    ((walker.reclassified setting).symbolNode id depth callable).unclassified =
      (walker.symbolNode id depth callable).unclassified := by
  cases callable with
  | function symbol => rfl
  | method symbol => simp [symbolNode, CallNode.unclassified, Resolver.unclassified_methodKind]

@[simp] theorem unclassified_leafNode (target : Target) :
    (leafNode target depth).unclassified = leafNode target.unclassified depth := rfl

/-- What a step leads to, without the classification. -/
def forget (step : Walk × List PendingCall) : Walk × List PendingCall :=
  (step.1.unclassified, step.2.map PendingCall.unclassified)

theorem enter_reclassified (id : String) (depth : Nat)
    (same : walk.unclassified = other.unclassified) :
    forget (walker.enter id depth walk) =
      forget ((walker.reclassified setting).enter id depth other) := by
  have sameIndex : (walker.reclassified setting).index = walker.index := rfl
  have sameLimit : (walker.reclassified setting).maxDepth = walker.maxDepth := rfl
  unfold enter
  rw [sameIndex, sameLimit]
  cases walker.index.callable? id with
  | none => simp [forget, same]
  | some callable =>
      have sameCalls := walker.callsOf_reclassified setting id callable depth
      have sameEmpty : ((walker.reclassified setting).callsOf id callable depth).isEmpty =
          (walker.callsOf id callable depth).isEmpty := by
        simpa using congrArg List.isEmpty sameCalls
      have sameWalk : (walk.addNode (walker.symbolNode id depth callable)).unclassified =
          (other.addNode ((walker.reclassified setting).symbolNode id depth
            callable)).unclassified := by
        simp [same, symbolNode_reclassified]
      have sameExclusion : (walker.reclassified setting).isExcluded callable.package =
        walker.isExcluded callable.package := rfl
      dsimp only
      rw [sameExclusion, sameEmpty]
      split
      · simp [forget, sameWalk]
      split
      · simp [forget, sameWalk, sameCalls]
      split
      · simp [forget, sameWalk]
      · exact congrArg (fun walk => ({ walk with cut := walk.cut + 1 }, [])) sameWalk

/-- A step asks of the classification only whether a target is a leaf. -/
theorem follow_reclassified (sameCall : call.unclassified = otherCall.unclassified)
    (same : walk.unclassified = other.unclassified) :
    forget (walker.follow call walk) =
      forget ((walker.reclassified setting).follow otherCall other) := by
  have sameTarget : call.target.unclassified = otherCall.target.unclassified :=
    congrArg PendingCall.target sameCall
  have sameId : call.target.id = otherCall.target.id := congrArg (·.id) sameTarget
  have sameDepth : call.depth = otherCall.depth := congrArg (·.depth) sameCall
  have sameLeaf : call.target.kind.isLeaf = otherCall.target.kind.isLeaf := by
    simpa [Target.unclassified] using congrArg (·.kind.isLeaf) sameTarget
  have sameVisited : walk.hasVisited call.target.id = other.hasVisited call.target.id := by
    simpa using congrArg (·.hasVisited call.target.id) same
  unfold follow
  dsimp only
  rw [Walk.hasVisited_addCall, Walk.hasVisited_addCall, ← sameLeaf, ← sameId, ← sameDepth,
    ← sameVisited]
  split
  · split <;> simp [forget, same, sameCall, sameTarget, sameDepth]
  · split
    · simp [forget, same, sameCall]
    · exact walker.enter_reclassified setting _ _ (by simp [same, sameCall])

/-- Walks under two settings go in lock-step. -/
theorem run_reclassified (same : walk.unclassified = other.unclassified)
    (samePending : pending.map PendingCall.unclassified = others.map PendingCall.unclassified) :
    (walker.run pending walk).unclassified =
      ((walker.reclassified setting).run others other).unclassified := by
  induction pending, walk using Walker.run.induct walker generalizing others other with
  | case1 walk =>
      have none : others = [] := by simpa using samePending.symm
      rw [none, run, run]
      exact same
  | case2 walk call rest inductionHypothesis =>
      obtain ⟨otherCall, otherRest, rfl, sameCall, sameRest⟩ :=
        List.map_eq_cons_iff.mp samePending.symm
      have step := walker.follow_reclassified setting sameCall.symm same
      have sameNext : (walker.follow call walk).2.map PendingCall.unclassified =
          ((walker.reclassified setting).follow otherCall other).2.map PendingCall.unclassified :=
        congrArg Prod.snd step
      rw [run, run]
      apply inductionHypothesis (congrArg Prod.fst step)
      rw [List.map_append, List.map_append, sameNext, sameRest]

theorem visit_reclassified (same : walk.unclassified = other.unclassified) (entry : String) :
    (walker.visit walk entry).unclassified =
      ((walker.reclassified setting).visit other entry).unclassified := by
  have sameVisited : walk.hasVisited entry = other.hasVisited entry := by
    simpa using congrArg (·.hasVisited entry) same
  unfold visit
  rw [← sameVisited]
  split
  · exact same
  · have step := walker.enter_reclassified setting entry 0 same
    exact walker.run_reclassified setting (congrArg Prod.fst step) (congrArg Prod.snd step)

theorem unclassified_graphOf (walk : Walk) :
    (walker.graphOf entry walk).unclassified = walker.graphOf entry walk.unclassified := by
  simp [graphOf, CallGraph.unclassified, Walk.unclassified, Walk.finalStats,
    CallStats.unclassified, warnings]

theorem build_reclassified (entry : String) :
    (walker.build entry).map CallGraph.unclassified =
      ((walker.reclassified setting).build entry).map CallGraph.unclassified := by
  have sameIndex : (walker.reclassified setting).index = walker.index := rfl
  have sameWalk : (walker.visit .start entry).unclassified =
    ((walker.reclassified setting).visit .start entry).unclassified :=
      walker.visit_reclassified setting rfl entry
  unfold build
  rw [sameIndex]
  cases walker.index.callable? entry with
  | none => rfl
  | some callable =>
      change Except.ok (walker.graphOf entry _).unclassified =
        Except.ok ((walker.reclassified setting).graphOf entry _).unclassified
      rw [unclassified_graphOf, unclassified_graphOf, sameWalk]
      rfl

theorem ofOptions_reclassified (index : Index) (options : BuildOptions) :
    ofOptions index (options.reclassified setting) =
      (ofOptions index options).map (·.reclassified setting) := by
  have sameDepth : (options.reclassified setting).maxDepth = options.maxDepth := rfl
  have samePatterns : (options.reclassified setting).excludePackages =
    options.excludePackages := rfl
  unfold ofOptions
  rw [sameDepth, samePatterns]
  split
  · rfl
  split
  · rfl
  · cases readPatterns options.excludePackages <;> rfl

end Walker

/-! ### Under one setting -/

/-- The classification of calls and methods is one that the options allow. -/
structure CallGraph.Classified (options : ResolverOptions) (graph : CallGraph) : Prop where
  async : ∀ edge ∈ graph.edges, edge.isAsync = true ↔ edge.callType = .goroutine
  untracked : options.trackGoroutines = false →
    ∀ edge ∈ graph.edges, edge.isAsync = false ∧ edge.callType ≠ .goroutine
  unresolved : options.resolveInterfaces = false →
    (∀ edge ∈ graph.edges, edge.callType ≠ .interface) ∧
      ∀ node ∈ graph.nodes, node.kind ≠ .interfaceMethod

namespace Walker

variable {walker : Walker} {walk : Walk} {entry : String} {entries : List String}
  {pending : List PendingCall} {edge : CallEdge} {graph : CallGraph}

/-- An edge takes its classification from a target. -/
theorem Reached.exists_classified (reached : walker.Reached entries pending walk)
    (member : edge ∈ walk.edges) : ∃ target : Target, target.Classified walker.resolver.options ∧
      edge.callType = target.callType ∧ edge.isAsync = target.isAsync := by
  obtain ⟨node, -, call, expanded, origin⟩ := reached.edge_call edge member
  obtain ⟨callable, -, -, site, -, target, resolved, rfl⟩ :=
    mem_outgoing.mp (mem_expansion.mp expanded).2
  rw [origin]
  exact ⟨target, Resolver.classified_of_resolve resolved, rfl, rfl⟩

theorem Reached.classified (names : walker.index.NamesOnly)
    (indexed : (walker.index.callable? entry).isSome = true)
    (reached : walker.Reached [entry] [] walk) :
    (walker.graphOf entry walk).Classified walker.resolver.options where
  async := by
    intro edge member
    obtain ⟨target, classified, callType, isAsync⟩ := reached.exists_classified member
    rw [callType, isAsync]
    exact classified.async
  untracked := by
    intro untracked edge member
    obtain ⟨target, classified, callType, isAsync⟩ := reached.exists_classified member
    have notAsync := classified.untracked untracked
    rw [callType, isAsync, Ne, ← classified.async]
    simp [notAsync]
  unresolved := by
    intro unresolved
    constructor
    · intro edge member
      obtain ⟨target, classified, callType, -⟩ := reached.exists_classified member
      rw [callType]
      exact (classified.unresolved unresolved).1
    · intro node member
      rw [reached.kind_eq names indexed node member]
      exact Resolver.kindOf_ne_interfaceMethod unresolved node.id

theorem classified_build (built : walker.index.Buildable)
    (isBuilt : walker.build entry = .ok graph) : graph.Classified walker.resolver.options := by
  obtain ⟨indexed, rfl⟩ := build_eq_ok_iff.mp isBuilt
  have names := built.namesOnly
  exact (reached_visitAll names [entry]).classified names indexed

theorem resolver_of_ofOptions {index : Index} {options : BuildOptions}
    (isWalker : ofOptions index options = .ok walker) :
    walker.resolver = ⟨index, options.resolver⟩ := by
  unfold ofOptions at isWalker
  split at isWalker
  · cases isWalker
  split at isWalker
  · cases isWalker
  · cases patterns : readPatterns options.excludePackages <;> rw [patterns] at isWalker <;>
      cases isWalker
    rfl

end Walker

/-! ### Graphs of an index -/

namespace Index

variable {index : Index}

/-- The call graph of an entry point, if the options are in order. -/
def callGraph (index : Index) (options : BuildOptions) (entry : String) :
    Except BuildError CallGraph := do
  (← Walker.ofOptions index options).build entry

theorem callGraph_reclassified (index : Index) (options : BuildOptions) (setting : Classification)
    (entry : String) :
    (index.callGraph options entry).map CallGraph.unclassified =
      (index.callGraph (options.reclassified setting) entry).map CallGraph.unclassified := by
  unfold callGraph
  rw [Walker.ofOptions_reclassified]
  cases Walker.ofOptions index options with
  | error error => rfl
  | ok walker => exact walker.build_reclassified setting entry

theorem classified_callGraph (built : index.Buildable) {options : BuildOptions} {entry : String}
    {graph : CallGraph} (isBuilt : index.callGraph options entry = .ok graph) :
    graph.Classified options.resolver := by
  unfold callGraph at isBuilt
  cases isWalker : Walker.ofOptions index options with
  | error error =>
      rw [isWalker] at isBuilt
      cases isBuilt
  | ok walker =>
      rw [isWalker] at isBuilt
      have resolver := Walker.resolver_of_ofOptions isWalker
      have sameIndex : walker.index = index := congrArg Resolver.index resolver
      have classified := Walker.classified_build (sameIndex ▸ built) isBuilt
      rwa [resolver] at classified

/-- The setting for classification changes nothing but the classification, in call graphs and in
the architecture, and the classification is as the setting says. -/
theorem structure_reclassified (built : index.Buildable) (options : BuildOptions)
    (setting : Classification) (entry : String) (includeCalls : Bool) :
    (index.callGraph options entry).map CallGraph.unclassified =
        (index.callGraph (options.reclassified setting) entry).map CallGraph.unclassified ∧
      Architecture.ofIndex index ⟨includeCalls, options.resolver⟩ =
        Architecture.ofIndex index ⟨includeCalls, (options.reclassified setting).resolver⟩ ∧
      ∀ graph, index.callGraph options entry = .ok graph → graph.Classified options.resolver :=
  ⟨index.callGraph_reclassified options setting entry,
    (Architecture.ofIndex_reclassified index includeCalls options.resolver setting).symm,
    fun _ => classified_callGraph built⟩

theorem callGraph_service :
    serviceWalker.index.callGraph .standard "p.Handler.Serve" = .ok serviceGraph := by
  have isWalker : Walker.ofOptions serviceWalker.index .standard = .ok serviceWalker := by
    have filled : serviceWalker.index.isEmpty = false := by decide
    unfold Walker.ofOptions
    rw [filled]
    rfl
  unfold callGraph
  rw [isWalker]
  exact build_service

theorem structure_reclassified_service :
    serviceWalker.index.Buildable ∧
      (serviceWalker.index.callGraph (BuildOptions.standard.reclassified ⟨false, false⟩)
        "p.Handler.Serve").map CallGraph.unclassified = .ok serviceGraph.unclassified ∧
      Architecture.ofIndex serviceWalker.index .standard =
        Architecture.ofIndex serviceWalker.index
          ⟨true, ResolverOptions.standard.reclassified ⟨false, false⟩⟩ ∧
      serviceGraph.Classified .standard := by
  obtain ⟨sameGraph, sameArchitecture, classified⟩ := structure_reclassified buildable_service
    .standard ⟨false, false⟩ "p.Handler.Serve" true
  rw [callGraph_service] at sameGraph
  exact ⟨buildable_service, sameGraph.symm, sameArchitecture, classified _ callGraph_service⟩

end Index

end GoAtlas
