import GoAtlas.Proofs.CallGraph.Statistics

/-!
What the flag of an edge says. An edge is flagged when its target was visited before, so the edges
that close a cycle are flagged, but so is a second call of one symbol, even where no cycle is near.
Where the calls between symbols form a tree, nothing is flagged.
-/

namespace GoAtlas

namespace CallGraph

variable {graph : CallGraph} {first last : String} {edges : List CallEdge}

/-- Does an identifier stand for a function or a method of the graph? -/
def isInner (graph : CallGraph) (id : String) : Bool :=
  (graph.node? id).any fun node => !node.kind.isLeaf

/-- No way along edges between functions and methods leads back to where it began. -/
def InnerAcyclic (graph : CallGraph) : Prop :=
  ∀ id cycle, graph.Path id cycle id → (∀ edge ∈ cycle, graph.isInner edge.callee = true) →
    cycle = []

/-- No function or method is called by two edges. -/
def EntersOnce (graph : CallGraph) : Prop :=
  ∀ id, graph.isInner id = true → (graph.edges.filter (·.callee == id)).length ≤ 1

/-- The flags mark the edges to functions and methods that were visited before. So a flagged edge
lies on a cycle or repeats the target of another, and a tree of calls has none. -/
structure FlagsVisited (graph : CallGraph) : Prop where
  flagged : ∀ before edge after, graph.edges = before ++ edge :: after →
    (edge.isCycle = true ↔ graph.isInner edge.callee = true ∧
      (edge.callee = graph.entryPoint ∨ ∃ earlier ∈ before, earlier.callee = edge.callee))
  cycle_or_repeats : ∀ before edge after, graph.edges = before ++ edge :: after →
    edge.isCycle = true → (∃ path, graph.Path edge.callee path edge.caller) ∨
      ∃ earlier ∈ before, earlier.callee = edge.callee ∧ earlier.isCycle = false
  tree : graph.InnerAcyclic → graph.EntersOnce →
    (∀ edge ∈ graph.edges, edge.isCycle = false) ∧ graph.stats.cyclesDetected = 0

/-- Where each edge leads from a lower to a higher rank, no way comes back. -/
theorem innerAcyclic_of_rank (rank : String → Nat)
    (raises : ∀ edge ∈ graph.edges, rank edge.caller < rank edge.callee) : graph.InnerAcyclic := by
  intro id cycle path _
  have grown := path.rank_le fun edge member => raises edge (path.edges_subset member)
  exact List.length_eq_zero_iff.mp (by omega)

end CallGraph

namespace Walker

variable {walker : Walker} {walk : Walk} {entry id : String} {node : CallNode} {edge : CallEdge}
  {before after : List CallEdge} {graph : CallGraph}

theorem Reached.isInner_graphOf (reached : walker.Reached [entry] [] walk)
    (member : node ∈ walk.nodes) :
    (walker.graphOf entry walk).isInner node.id = !node.kind.isLeaf := by
  rw [CallGraph.isInner, reached.node?_graphOf member, Option.any_some]

section Indexed

variable (names : walker.index.NamesOnly) (indexed : (walker.index.callable? entry).isSome = true)
  (reached : walker.Reached [entry] [] walk)
include names indexed reached

theorem Reached.isInner_callee (member : edge ∈ walk.edges) :
    (walker.graphOf entry walk).isInner edge.callee =
      !(walker.resolver.kindOf edge.callee).isLeaf := by
  obtain ⟨node, nodeMember, nodeId⟩ := reached.exists_callee member
  rw [← nodeId, reached.isInner_graphOf nodeMember,
    reached.kind_eq names indexed node nodeMember]

/-- Along the tree, the entry point reaches every function and method. -/
theorem Reached.exists_path (depth : Nat) (member : node ∈ walk.nodes)
    (isDepth : node.depth = depth) (inner : node.kind.isLeaf = false) :
    ∃ path, (walker.graphOf entry walk).Path entry path node.id ∧
      ∀ edge ∈ path, (walker.graphOf entry walk).isInner edge.callee = true := by
  induction depth generalizing node with
  | zero =>
      have top : node.id = entry := reached.isRoot_iff.mp ⟨node, member, rfl, isDepth⟩
      rw [top]
      exact ⟨[], .nil, by simp⟩
  | succ depth inductionHypothesis =>
      have kind := reached.kind_eq names indexed node member
      obtain ⟨edge, isOnly, source, sourceMember, caller, above⟩ :=
        reached.treeEdge names member (kind ▸ inner) (by omega)
      have among := List.mem_filter.mp (isOnly ▸ List.mem_singleton.mpr rfl)
      have callee : edge.callee = node.id := by
        have tree := among.2
        simp only [Bool.and_eq_true, beq_iff_eq] at tree
        exact tree.1
      obtain ⟨parent, parentMember, parentId, parentInner, -⟩ :=
        reached.exists_caller names indexed among.1
      have same := reached.node_unique parentMember sourceMember (parentId.trans caller.symm)
      subst same
      obtain ⟨path, leads, allInner⟩ :=
        inductionHypothesis sourceMember (by omega) parentInner
      rw [caller] at leads
      refine ⟨path ++ [edge], callee ▸ .step leads among.1, ?_⟩
      intro other otherMember
      rcases List.mem_append.mp otherMember with old | new
      · exact allInner other old
      · rw [List.mem_singleton.mp new, callee, reached.isInner_graphOf member, inner]
        rfl

/-- Flagged are the edges back to the entry point, and those to a symbol that an earlier edge has
entered. -/
theorem Reached.isCycle_iff (split : walk.edges = before ++ edge :: after) :
    edge.isCycle = true ↔ (walker.graphOf entry walk).isInner edge.callee = true ∧
      (edge.callee = entry ∨ ∃ earlier ∈ before, earlier.callee = edge.callee) := by
  have member : edge ∈ walk.edges := by simp [split]
  rw [reached.flaggedByOrder names before edge after split, reached.isRoot_iff,
    reached.isInner_callee names indexed member, Bool.not_eq_true']

theorem Reached.exists_path_back (member : edge ∈ walk.edges) :
    ∃ path, (walker.graphOf entry walk).Path entry path edge.caller ∧
      ∀ other ∈ path, (walker.graphOf entry walk).isInner other.callee = true := by
  obtain ⟨source, sourceMember, caller, inner, -⟩ := reached.exists_caller names indexed member
  rw [← caller]
  exact reached.exists_path names indexed source.depth sourceMember rfl inner

theorem Reached.cycle_or_repeats (split : walk.edges = before ++ edge :: after)
    (flagged : edge.isCycle = true) :
    (∃ path, (walker.graphOf entry walk).Path edge.callee path edge.caller) ∨
      ∃ earlier ∈ before, earlier.callee = edge.callee ∧ earlier.isCycle = false := by
  have member : edge ∈ walk.edges := by simp [split]
  by_cases back : edge.callee = entry
  · obtain ⟨path, leads, -⟩ := reached.exists_path_back names indexed member
    rw [back]
    exact .inl ⟨path, leads⟩
  · obtain ⟨-, top | ⟨earlier, earlierMember, same⟩⟩ :=
      (reached.isCycle_iff names indexed split).mp flagged
    · exact absurd top back
    · have met : (before.find? (·.callee == edge.callee)).isSome = true :=
        List.find?_isSome.mpr ⟨earlier, earlierMember, by simp [same]⟩
      obtain ⟨first, found⟩ := Option.isSome_iff_exists.mp met
      have isFirst : walk.edges.find? (·.callee == edge.callee) = some first := by
        rw [split, List.find?_append, found, Option.some_or]
      obtain ⟨firstMember, callee⟩ := mem_and_callee_of_first found
      have unflagged := reached.isCycle_of_first names (mt reached.isRoot_iff.mp back) isFirst
      exact .inr ⟨first, firstMember, callee, unflagged⟩

theorem Reached.unflagged_of_acyclic (acyclic : (walker.graphOf entry walk).InnerAcyclic)
    (once : (walker.graphOf entry walk).EntersOnce) :
    ∀ edge ∈ walk.edges, edge.isCycle = false := by
  intro edge member
  obtain ⟨before, after, split⟩ := List.append_of_mem member
  rw [Bool.eq_false_iff, Ne, reached.isCycle_iff names indexed split]
  rintro ⟨inner, back | ⟨earlier, earlierMember, same⟩⟩
  · obtain ⟨path, leads, allInner⟩ := reached.exists_path_back names indexed member
    have closed : (walker.graphOf entry walk).Path entry (path ++ [edge]) edge.callee :=
      .step leads member
    rw [back] at closed
    have none := acyclic entry _ closed (by simpa [or_imp, forall_and] using ⟨allInner, inner⟩)
    simp at none
  · have entered := once edge.callee inner
    obtain ⟨far, near, rfl⟩ := List.append_of_mem earlierMember
    have edges : (walker.graphOf entry walk).edges = _ := split
    rw [edges] at entered
    simp only [List.filter_append, List.filter_cons, same, beq_self_eq_true, if_true,
      List.length_append, List.length_cons] at entered
    omega

end Indexed

/-- A flag does not promise a cycle: on the detour, the call of `C` by the entry point comes after
that by `X`, and so it is flagged although no call leads back. -/
def detourGraph : CallGraph where
  eventId := none
  eventName := none
  entryPoint := "p.A"
  nodes :=
    [⟨"p.A", some "p", "A", none, .function, some "a.go", some 2, 0⟩,
      ⟨"p.B", some "p", "B", none, .function, some "a.go", some 6, 1⟩,
      ⟨"p.X", some "p", "X", none, .function, some "a.go", some 9, 2⟩,
      ⟨"p.C", some "p", "C", none, .function, some "a.go", some 12, 3⟩,
      ⟨"p.D", some "p", "D", none, .function, some "a.go", some 15, 4⟩]
  edges :=
    [⟨"p.A", "p.B", .direct, 3, false, false⟩, ⟨"p.B", "p.X", .direct, 7, false, false⟩,
      ⟨"p.X", "p.C", .direct, 10, false, false⟩, ⟨"p.C", "p.D", .direct, 13, false, false⟩,
      ⟨"p.A", "p.C", .direct, 4, false, true⟩]
  maxDepth := 10
  actualDepth := 4
  stats := ⟨5, 5, 4, 0, 0, 1, 0⟩
  warnings := []

theorem build_detour : (detourWalker 10).build "p.A" = .ok detourGraph := by
  rw [build_eq_advanceFrom 8 (by decide) (by decide)]
  decide

def placeOnDetour (id : String) : Nat :=
  ["p.A", "p.B", "p.X", "p.C", "p.D"].idxOf id

theorem placeOnDetour_lt :
    ∀ edge ∈ detourGraph.edges, placeOnDetour edge.caller < placeOnDetour edge.callee := by
  decide

/-- A flagged edge need not lie on a cycle, and graphs without cycles can have flagged edges. -/
theorem flagged_acyclic_detour :
    (¬∀ (walker : Walker) (entry : String) (graph : CallGraph), walker.index.Buildable →
      isMaxDepth walker.maxDepth = true → walker.build entry = .ok graph →
        ∀ edge ∈ graph.edges, edge.isCycle = true →
          ∃ path, graph.Path edge.callee path edge.caller) ∧
      (detourWalker 10).build "p.A" = .ok detourGraph ∧ detourGraph.InnerAcyclic ∧
        detourGraph.stats.cyclesDetected ≠ 0 := by
  refine ⟨?_, build_detour, CallGraph.innerAcyclic_of_rank placeOnDetour placeOnDetour_lt,
    by decide⟩
  intro sound
  obtain ⟨path, back⟩ := sound (detourWalker 10) "p.A" detourGraph (buildable_detour 10) (by decide)
    build_detour ⟨"p.A", "p.C", .direct, 4, false, true⟩ (by decide) rfl
  have risen : placeOnDetour "p.C" + path.length ≤ placeOnDetour "p.A" :=
    back.rank_le fun edge member => placeOnDetour_lt edge (back.edges_subset member)
  have later : placeOnDetour "p.A" < placeOnDetour "p.C" := by decide +kernel
  omega

/-- The flags of every call graph mark what was visited before. -/
theorem flagsVisited_build (built : walker.index.Buildable)
    (isBuilt : walker.build entry = .ok graph) :
    graph.entryPoint = entry ∧ graph.FlagsVisited := by
  obtain ⟨indexed, rfl⟩ := build_eq_ok_iff.mp isBuilt
  have names := built.namesOnly
  have reached := reached_visitAll names [entry]
  have tallied := reached.isTallied names (by simpa using indexed)
  refine ⟨rfl, ?_, ?_, ?_⟩
  · exact fun before edge after split => reached.isCycle_iff names indexed split
  · exact fun before edge after split => reached.cycle_or_repeats names indexed split
  · intro acyclic once
    have unflagged := reached.unflagged_of_acyclic names indexed acyclic once
    refine ⟨unflagged, tallied.cycles.trans ?_⟩
    simpa [List.countP_eq_zero] using unflagged

theorem flagsVisited_build_service :
    serviceWalker.index.Buildable ∧ serviceWalker.build "p.Handler.Serve" = .ok serviceGraph ∧
      serviceGraph.FlagsVisited :=
  ⟨buildable_service, build_service, (flagsVisited_build buildable_service build_service).2⟩

end Walker

end GoAtlas
