import GoAtlas.Proofs.CallGraph.Origins
import GoAtlas.Proofs.Index.Tables

/-!
The discovery tree of a call graph. The edges to functions and methods that are not flagged form a
tree, which has the entry point as its root and a level for each depth. So whoever walks along edges
without meeting a flagged one never comes back.
-/

namespace GoAtlas

namespace CallGraph

variable {graph : CallGraph} {first last : String} {edges : List CallEdge}

/-- The ways along the edges of a graph, each with the edges that it takes. -/
inductive Path (graph : CallGraph) (first : String) : List CallEdge → String → Prop
  | nil : graph.Path first [] first
  | step {edges : List CallEdge} {edge : CallEdge} (before : graph.Path first edges edge.caller)
      (member : edge ∈ graph.edges) : graph.Path first (edges ++ [edge]) edge.callee

def treeEdgesTo (graph : CallGraph) (id : String) : List CallEdge :=
  graph.edges.filter fun edge => edge.callee == id && !edge.isCycle

def ComesFromAbove (graph : CallGraph) (node : CallNode) (edge : CallEdge) : Prop :=
  ∃ source, graph.node? edge.caller = some source ∧ source.depth + 1 = node.depth

/-- The edges that are not flagged discover all nodes but the entry point, and those that lead to no
leaf discover them once. -/
structure HasDiscoveryTree (graph : CallGraph) : Prop where
  entry : graph.treeEdgesTo graph.entryPoint = []
  inner : ∀ node ∈ graph.nodes, node.kind.isLeaf = false → node.id ≠ graph.entryPoint →
    ∃ edge, graph.treeEdgesTo node.id = [edge] ∧ graph.ComesFromAbove node edge
  leaf : ∀ node ∈ graph.nodes, node.kind.isLeaf = true →
    (∃ edge ∈ graph.edges, edge.callee = node.id ∧ graph.ComesFromAbove node edge) ∧
      ∀ edge ∈ graph.edges, edge.callee = node.id → edge.isCycle = false
  cycles : ∀ id cycle, graph.Path id cycle id → cycle ≠ [] → ∃ edge ∈ cycle, edge.isCycle = true

theorem Path.edges_subset (path : graph.Path first edges last) : edges ⊆ graph.edges := by
  induction path with
  | nil => exact List.nil_subset _
  | step _ member inductionHypothesis =>
      exact List.append_subset.mpr ⟨inductionHypothesis, by simpa using member⟩

/-- A rank that every edge of a path raises has grown by the length of the path at its end. -/
theorem Path.rank_le {rank : String → Nat} (path : graph.Path first edges last)
    (raises : ∀ edge ∈ edges, rank edge.caller < rank edge.callee) :
    rank first + edges.length ≤ rank last := by
  induction path with
  | nil => exact Nat.le_refl _
  | @step edges edge _ _ inductionHypothesis =>
      have before := inductionHypothesis fun other member =>
        raises other (List.mem_append_left _ member)
      have raised := raises edge (by simp)
      rw [List.length_append, List.length_singleton]
      omega

end CallGraph

namespace Walker

variable {walker : Walker} {entries : List String} {pending : List PendingCall} {walk : Walk}
  {entry id : String} {node : CallNode} {edge : CallEdge} {graph : CallGraph}

theorem Reached.node_unique (reached : walker.Reached entries pending walk) {other : CallNode}
    (member : node ∈ walk.nodes) (otherMember : other ∈ walk.nodes) (same : node.id = other.id) :
    node = other :=
  List.inj_on_of_nodup_map reached.coherent.wellFormed.distinct member otherMember same

theorem Reached.exists_callee (reached : walker.Reached entries pending walk)
    (member : edge ∈ walk.edges) : ∃ node ∈ walk.nodes, node.id = edge.callee :=
  Walk.mem_ids.mp (reached.coherent.wellFormed.ends edge member).2

theorem Reached.not_isRoot (reached : walker.Reached entries pending walk)
    (member : node ∈ walk.nodes) (below : node.depth ≠ 0) : ¬IsRoot walk.nodes node.id := by
  rintro ⟨root, rootMember, same, top⟩
  rw [reached.node_unique rootMember member same] at top
  exact below top

/-- The first edge to a node below the top is not flagged. -/
theorem Reached.isCycle_of_first (names : walker.index.NamesOnly)
    (reached : walker.Reached entries pending walk) (notRoot : ¬IsRoot walk.nodes id)
    (first : walk.edges.find? (·.callee == id) = some edge) : edge.isCycle = false := by
  obtain ⟨-, callee⟩ := mem_and_callee_of_first first
  obtain ⟨before, after, split, unmet⟩ := exists_split_of_first first
  rw [Bool.eq_false_iff, Ne, reached.flaggedByOrder names before edge after split, callee]
  rintro ⟨-, root | ⟨earlier, member, same⟩⟩
  · exact notRoot root
  · exact unmet earlier member same

/-- All further edges to a symbol are flagged. -/
theorem Reached.isCycle_of_later (names : walker.index.NamesOnly)
    (reached : walker.Reached entries pending walk) {before after : List CallEdge}
    (split : walk.edges = before ++ edge :: after)
    (inner : (walker.resolver.kindOf edge.callee).isLeaf = false) :
    ∀ later ∈ after, later.callee = edge.callee → later.isCycle = true := by
  intro later member same
  obtain ⟨between, rest, rfl⟩ := List.append_of_mem member
  have split : walk.edges = (before ++ edge :: between) ++ later :: rest := by simp [split]
  refine (reached.flaggedByOrder names _ later rest split).mpr ⟨same ▸ inner, .inr ?_⟩
  exact ⟨edge, by simp, same.symm⟩

theorem Reached.treeEdge (names : walker.index.NamesOnly)
    (reached : walker.Reached entries pending walk) (member : node ∈ walk.nodes)
    (inner : (walker.resolver.kindOf node.id).isLeaf = false) (below : node.depth ≠ 0) :
    ∃ edge, (walk.edges.filter fun other => other.callee == node.id && !other.isCycle) = [edge] ∧
      DescendsTo walk.nodes node edge := by
  obtain ⟨edge, first, descends⟩ := reached.first_edge node member below
  have unflagged := reached.isCycle_of_first names (reached.not_isRoot member below) first
  obtain ⟨-, callee⟩ := mem_and_callee_of_first first
  obtain ⟨before, after, split, unmet⟩ := exists_split_of_first first
  have later := reached.isCycle_of_later names split (callee ▸ inner)
  rw [callee] at later
  have noneBefore : (before.filter fun other => other.callee == node.id && !other.isCycle) = [] :=
    List.filter_eq_nil_iff.mpr fun other member => by simp [unmet other member]
  have noneAfter : (after.filter fun other => other.callee == node.id && !other.isCycle) = [] := by
    simpa [List.filter_eq_nil_iff] using later
  refine ⟨edge, ?_, descends⟩
  rw [split, List.filter_append, noneBefore, List.nil_append,
    List.filter_cons_of_pos (by simp [callee, unflagged]), noneAfter]

/-! ### The graph of one entry point -/

theorem Chain.eq_of_nil (chain : walker.Chain entry [] id) : id = entry := by
  generalize none : ([] : List String) = callers at chain
  cases chain with
  | start => rfl
  | call => simp at none

theorem Reached.isRoot_iff (reached : walker.Reached [entry] [] walk) :
    IsRoot walk.nodes id ↔ id = entry := by
  constructor
  · rintro ⟨node, member, rfl, top⟩
    obtain ⟨first, firstMember, callers, chain, length, -⟩ := reached.chained node member
    rw [top, List.length_eq_zero_iff] at length
    subst length
    rw [chain.eq_of_nil, List.mem_singleton.mp firstMember]
  · rintro rfl
    have head : walk.nodes.head? = some (walker.enteredNode id 0) := reached.head_nodes
    exact ⟨_, List.mem_of_head? head, enteredNode_id, enteredNode_depth⟩

theorem Reached.depth_ne_zero (reached : walker.Reached [entry] [] walk)
    (member : node ∈ walk.nodes) (other : node.id ≠ entry) : node.depth ≠ 0 :=
  fun top => other (reached.isRoot_iff.mp ⟨node, member, rfl, top⟩)

theorem Reached.find?_node (reached : walker.Reached entries pending walk)
    (member : node ∈ walk.nodes) : walk.nodes.find? (·.id == node.id) = some node :=
  find?_of_nodup_keys reached.coherent.wellFormed.distinct member

theorem Reached.node?_graphOf (reached : walker.Reached entries pending walk)
    (member : node ∈ walk.nodes) : (walker.graphOf entry walk).node? node.id = some node :=
  reached.find?_node member

theorem Reached.comesFromAbove (reached : walker.Reached entries pending walk)
    (descends : DescendsTo walk.nodes node edge) :
    (walker.graphOf entry walk).ComesFromAbove node edge := by
  obtain ⟨source, member, caller, above⟩ := descends
  exact ⟨source, caller ▸ reached.node?_graphOf member, above⟩

/-- The level of a node: its depth, and for leaves one below all others. -/
def level (walker : Walker) (nodes : List CallNode) (id : String) : Nat :=
  match nodes.find? (·.id == id) with
  | some node => if node.kind.isLeaf then walker.maxDepth + 1 else node.depth
  | none => 0

theorem Reached.level_eq (reached : walker.Reached entries pending walk)
    (member : node ∈ walk.nodes) : walker.level walk.nodes node.id =
      if node.kind.isLeaf then walker.maxDepth + 1 else node.depth := by
  simp [level, reached.find?_node member]

section Indexed

variable (names : walker.index.NamesOnly) (indexed : (walker.index.callable? entry).isSome = true)
  (reached : walker.Reached [entry] [] walk)
include names indexed reached

theorem Reached.kind_eq : ∀ node ∈ walk.nodes, node.kind = walker.resolver.kindOf node.id :=
  reached.node_kind names (by simpa using indexed)

theorem Reached.exists_caller (member : edge ∈ walk.edges) :
    ∃ source ∈ walk.nodes, source.id = edge.caller ∧ source.kind.isLeaf = false ∧
      source.depth < walker.maxDepth := by
  obtain ⟨source, sourceMember, call, expanded, origin⟩ := reached.edge_call edge member
  obtain ⟨shallow, outgoing⟩ := mem_expansion.mp expanded
  obtain ⟨callable, found, -⟩ := mem_outgoing.mp outgoing
  refine ⟨source, sourceMember, ?_, ?_, shallow⟩
  · rw [origin]
    exact (caller_of_mem_outgoing outgoing).symm
  · rw [reached.kind_eq names indexed source sourceMember, isLeaf_kindOf, found]
    rfl

/-- Whatever leads back to the entry point is flagged. -/
theorem Reached.isCycle_of_callee_entry (member : edge ∈ walk.edges) (back : edge.callee = entry) :
    edge.isCycle = true := by
  obtain ⟨before, after, split⟩ := List.append_of_mem member
  refine (reached.flaggedByOrder names before edge after split).mpr ⟨?_, .inl ?_⟩
  · rw [back, isLeaf_kindOf, Option.isNone_eq_false_iff]
    exact indexed
  · exact reached.isRoot_iff.mpr back

/-- An edge that is not flagged leads to a lower level. -/
theorem Reached.level_lt (member : edge ∈ walk.edges) (unflagged : edge.isCycle = false) :
    walker.level walk.nodes edge.caller < walker.level walk.nodes edge.callee := by
  obtain ⟨source, sourceMember, sourceId, sourceInner, shallow⟩ :=
    reached.exists_caller names indexed member
  obtain ⟨node, nodeMember, nodeId⟩ := reached.exists_callee member
  rw [← sourceId, ← nodeId, reached.level_eq sourceMember, reached.level_eq nodeMember, sourceInner]
  cases leaf : node.kind.isLeaf with
  | true =>
      simp only [Bool.false_eq_true, if_false, if_true]
      omega
  | false =>
      have kind := reached.kind_eq names indexed node nodeMember
      have other : node.id ≠ entry := by
        intro back
        have flagged := reached.isCycle_of_callee_entry names indexed member (nodeId ▸ back)
        rw [flagged] at unflagged
        cases unflagged
      obtain ⟨only, isOnly, above, aboveMember, aboveId, descends⟩ :=
        reached.treeEdge names nodeMember (kind ▸ leaf) (reached.depth_ne_zero nodeMember other)
      have among : edge ∈ walk.edges.filter fun other =>
          other.callee == node.id && !other.isCycle :=
        List.mem_filter.mpr ⟨member, by simp [nodeId, unflagged]⟩
      rw [isOnly, List.mem_singleton] at among
      subst among
      have same := reached.node_unique aboveMember sourceMember (aboveId.trans sourceId.symm)
      subst same
      simp only [Bool.false_eq_true, if_false]
      omega

theorem Reached.hasDiscoveryTree : (walker.graphOf entry walk).HasDiscoveryTree where
  entry := by
    refine List.filter_eq_nil_iff.mpr ?_
    intro edge member tree
    simp only [Bool.and_eq_true, beq_iff_eq, Bool.not_eq_true'] at tree
    have flagged := reached.isCycle_of_callee_entry names indexed member tree.1
    rw [flagged] at tree
    exact absurd tree.2 (by simp)
  inner := by
    intro node member inner other
    have kind := reached.kind_eq names indexed node member
    obtain ⟨edge, isOnly, descends⟩ :=
      reached.treeEdge names member (kind ▸ inner) (reached.depth_ne_zero member other)
    exact ⟨edge, isOnly, reached.comesFromAbove descends⟩
  leaf := by
    intro node member leaf
    have kind := reached.kind_eq names indexed node member
    have other : node.id ≠ entry := by
      rintro rfl
      rw [kind, isLeaf_kindOf, Option.isNone_iff_eq_none] at leaf
      simp [leaf] at indexed
    constructor
    · obtain ⟨edge, first, descends⟩ :=
        reached.first_edge node member (reached.depth_ne_zero member other)
      obtain ⟨edgeMember, callee⟩ := mem_and_callee_of_first first
      exact ⟨edge, edgeMember, callee, reached.comesFromAbove descends⟩
    · intro edge edgeMember callee
      obtain ⟨before, after, split⟩ := List.append_of_mem edgeMember
      rw [Bool.eq_false_iff, Ne, reached.flaggedByOrder names before edge after split, callee,
        ← kind, leaf]
      simp
  cycles := by
    intro id cycle path some
    by_contra none
    have unflagged : ∀ edge ∈ cycle, edge.isCycle = false := by simpa using none
    have grown := path.rank_le fun edge member =>
      reached.level_lt names indexed (path.edges_subset member) (unflagged edge member)
    have length : cycle.length = 0 := by omega
    exact some (List.length_eq_zero_iff.mp length)

end Indexed

/-- Every call graph has a discovery tree with its entry point as the root. -/
theorem hasDiscoveryTree_build (built : walker.index.Buildable)
    (isBuilt : walker.build entry = .ok graph) :
    graph.entryPoint = entry ∧ graph.HasDiscoveryTree := by
  obtain ⟨indexed, rfl⟩ := build_eq_ok_iff.mp isBuilt
  have names := built.namesOnly
  exact ⟨rfl, (reached_visitAll names [entry]).hasDiscoveryTree names indexed⟩

theorem hasDiscoveryTree_build_service :
    serviceWalker.index.Buildable ∧ serviceWalker.build "p.Handler.Serve" = .ok serviceGraph ∧
      serviceGraph.HasDiscoveryTree :=
  ⟨buildable_service, build_service, (hasDiscoveryTree_build buildable_service build_service).2⟩

end Walker

end GoAtlas
