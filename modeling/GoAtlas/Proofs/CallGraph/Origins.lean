import GoAtlas.Proofs.CallGraph.Reachability
import GoAtlas.Proofs.Resolver.Kinds

/-!
Where the nodes and edges of a walk come from. An edge records a call of one of the nodes, and its
flag and the kind of its target say whether the target was known by then. So the first edge to a
node below the top is the one along which the node was discovered.
-/

namespace GoAtlas.Walker

variable {walker : Walker} {entries : List String} {pending : List PendingCall} {walk : Walk}
  {id : String} {depth : Nat} {call : PendingCall} {node : CallNode} {edge : CallEdge}

/-! ### Kinds -/

theorem isLeaf_kindOf (walker : Walker) (id : String) :
    (walker.resolver.kindOf id).isLeaf = (walker.index.callable? id).isNone :=
  walker.resolver.isLeaf_kindOf id

theorem kind_of_mem_outgoing (names : walker.index.NamesOnly)
    (member : call ∈ walker.outgoing id depth) :
    call.target.kind = walker.resolver.kindOf call.target.id := by
  obtain ⟨callable, found, -, site, siteMember, target, resolved, rfl⟩ := mem_outgoing.mp member
  have recorded : site.Recorded := (names.callable found).2 site siteMember
  exact Resolver.kind_eq_kindOf names recorded resolved

theorem Reached.pending_kind (names : walker.index.NamesOnly) {rest : List PendingCall}
    (reached : walker.Reached entries (call :: rest) walk) :
    call.target.kind = walker.resolver.kindOf call.target.id := by
  obtain ⟨_, expanded⟩ := reached.pending_outgoing call List.mem_cons_self
  exact kind_of_mem_outgoing names (mem_expansion.mp expanded).2

theorem symbolNode_kind {callable : Callable} (found : walker.index.callable? id = some callable) :
    (walker.symbolNode id depth callable).kind = walker.resolver.kindOf id := by
  have found : walker.resolver.index.callable? id = some callable := found
  cases callable <;> simp [Resolver.kindOf, found, symbolNode]

theorem enteredNode_kind (indexed : (walker.index.callable? id).isSome = true) :
    (walker.enteredNode id depth).kind = walker.resolver.kindOf id := by
  obtain ⟨callable, found⟩ := Option.isSome_iff_exists.mp indexed
  unfold enteredNode
  rw [found]
  exact symbolNode_kind found

/-- A target that is entered is indexed, so a call cannot make an unknown entry point of it. -/
theorem targetNode_kind (sameKind : call.target.kind = walker.resolver.kindOf call.target.id) :
    (walker.targetNode call).kind = walker.resolver.kindOf call.target.id := by
  unfold targetNode
  split
  · exact sameKind
  · rename_i inner
    rw [sameKind, walker.isLeaf_kindOf] at inner
    have indexed : walker.index.callable? call.target.id ≠ none := by simpa using inner
    exact enteredNode_kind (Option.isSome_iff_ne_none.mpr indexed)

/-- The kind of a node is that of its identifier, and so that of every call which leads to it. -/
theorem Reached.node_kind (names : walker.index.NamesOnly)
    (reached : walker.Reached entries pending walk)
    (indexed : ∀ entry ∈ entries, (walker.index.callable? entry).isSome = true) :
    ∀ node ∈ walk.nodes, node.kind = walker.resolver.kindOf node.id := by
  induction reached with
  | start => exact fun node member => absurd member List.not_mem_nil
  | revisited _ _ inductionHypothesis =>
      exact inductionHypothesis fun entry member => indexed entry (List.mem_append_left _ member)
  | @entered entries _ entry _ _ discovers _ inductionHypothesis =>
      rw [discovers.nodes]
      intro node member
      rcases List.mem_append.mp member with old | new
      · exact inductionHypothesis
          (fun entry member => indexed entry (List.mem_append_left _ member)) node old
      · rw [List.mem_singleton.mp new, enteredNode_id]
        exact enteredNode_kind (indexed entry (by simp))
  | repeated _ _ keeps _ inductionHypothesis =>
      rw [keeps.nodes]
      exact inductionHypothesis indexed
  | followed before _ discovers _ inductionHypothesis =>
      rw [discovers.nodes]
      intro node member
      rcases List.mem_append.mp member with old | new
      · exact inductionHypothesis indexed node old
      · rw [List.mem_singleton.mp new, targetNode_id]
        exact targetNode_kind (before.pending_kind names)

/-! ### Edges -/

/-- Every edge records a call of one of the nodes. -/
theorem Reached.edge_call (reached : walker.Reached entries pending walk) :
    ∀ edge ∈ walk.edges, ∃ node ∈ walk.nodes, ∃ call ∈ walker.expansion node,
      edge = call.edge edge.isCycle := by
  induction reached with
  | start => exact fun edge member => absurd member List.not_mem_nil
  | revisited _ _ inductionHypothesis => exact inductionHypothesis
  | entered _ _ discovers edges inductionHypothesis =>
      rw [edges, discovers.nodes]
      intro edge member
      obtain ⟨node, nodeMember, origin⟩ := inductionHypothesis edge member
      exact ⟨node, List.mem_append_left _ nodeMember, origin⟩
  | @repeated _ call _ _ before _ keeps edges inductionHypothesis =>
      rw [edges, keeps.nodes]
      intro edge member
      rcases List.mem_append.mp member with old | new
      · exact inductionHypothesis edge old
      · obtain ⟨node, nodeMember, expanded⟩ := before.coherent.pending call List.mem_cons_self
        rw [List.mem_singleton.mp new]
        exact ⟨node, nodeMember, call, expanded, rfl⟩
  | @followed _ call _ _ before _ discovers edges inductionHypothesis =>
      rw [edges, discovers.nodes]
      intro edge member
      rcases List.mem_append.mp member with old | new
      · obtain ⟨node, nodeMember, origin⟩ := inductionHypothesis edge old
        exact ⟨node, List.mem_append_left _ nodeMember, origin⟩
      · obtain ⟨node, nodeMember, expanded⟩ := before.coherent.pending call List.mem_cons_self
        rw [List.mem_singleton.mp new]
        exact ⟨node, List.mem_append_left _ nodeMember, call, expanded, rfl⟩

theorem Coherent.edge_callee_ne (coherent : walker.Coherent pending walk)
    (fresh : id ∉ walk.visited) : ∀ edge ∈ walk.edges, edge.callee ≠ id := by
  rintro edge member rfl
  exact coherent.fresh fresh (coherent.wellFormed.ends edge member).2

/-! ### Discovery -/

def DescendsTo (nodes : List CallNode) (node : CallNode) (edge : CallEdge) : Prop :=
  ∃ source ∈ nodes, source.id = edge.caller ∧ source.depth + 1 = node.depth

/-- Does an identifier stand for a node at the top, where entry points are? -/
def IsRoot (nodes : List CallNode) (id : String) : Prop :=
  ∃ node ∈ nodes, node.id = id ∧ node.depth = 0

theorem mem_and_callee_of_first {edges : List CallEdge}
    (first : edges.find? (·.callee == id) = some edge) : edge ∈ edges ∧ edge.callee = id :=
  ⟨List.mem_of_find?_eq_some first, by simpa using List.find?_some first⟩

theorem exists_split_of_first {edges : List CallEdge}
    (first : edges.find? (·.callee == id) = some edge) : ∃ before after,
      edges = before ++ edge :: after ∧ ∀ earlier ∈ before, earlier.callee ≠ id := by
  obtain ⟨-, before, after, split, unmet⟩ := List.find?_eq_some_iff_append.mp first
  exact ⟨before, after, split, by simpa using unmet⟩

theorem DescendsTo.append {nodes : List CallNode} (descends : DescendsTo nodes node edge)
    (more : List CallNode) : DescendsTo (nodes ++ more) node edge := by
  obtain ⟨source, member, caller, above⟩ := descends
  exact ⟨source, List.mem_append_left _ member, caller, above⟩

/-- The first edge to a node below the top is the one along which it was discovered. -/
theorem Reached.first_edge (reached : walker.Reached entries pending walk) :
    ∀ node ∈ walk.nodes, node.depth ≠ 0 →
      ∃ edge, walk.edges.find? (·.callee == node.id) = some edge ∧
        DescendsTo walk.nodes node edge := by
  induction reached with
  | start => exact fun node member => absurd member List.not_mem_nil
  | revisited _ _ inductionHypothesis => exact inductionHypothesis
  | entered _ _ discovers edges inductionHypothesis =>
      rw [edges, discovers.nodes]
      intro node member below
      rcases List.mem_append.mp member with old | new
      · obtain ⟨edge, first, descends⟩ := inductionHypothesis node old below
        exact ⟨edge, first, descends.append _⟩
      · rw [List.mem_singleton.mp new] at below
        exact absurd enteredNode_depth below
  | repeated _ _ keeps edges inductionHypothesis =>
      rw [edges, keeps.nodes]
      intro node member below
      obtain ⟨edge, first, descends⟩ := inductionHypothesis node member below
      exact ⟨edge, by simp [List.find?_append, first], descends⟩
  | @followed _ call _ walk before fresh discovers edges inductionHypothesis =>
      rw [edges, discovers.nodes]
      intro node member below
      rcases List.mem_append.mp member with old | new
      · obtain ⟨edge, first, descends⟩ := inductionHypothesis node old below
        exact ⟨edge, by simp [List.find?_append, first], descends.append _⟩
      · obtain ⟨source, sourceMember, expanded⟩ :=
          before.coherent.pending call List.mem_cons_self
        have outgoing := (mem_expansion.mp expanded).2
        have unmet : walk.edges.find? (·.callee == call.target.id) = none := by
          simpa using before.coherent.edge_callee_ne fresh
        rw [List.mem_singleton.mp new, targetNode_id]
        refine ⟨call.edge false, ?_, source, List.mem_append_left _ sourceMember,
          (caller_of_mem_outgoing outgoing).symm, ?_⟩
        · simp [List.find?_append, unmet, PendingCall.edge]
        · rw [targetNode_depth, depth_of_mem_outgoing outgoing]

/-- What was visited are the nodes at the top and the targets of edges. -/
theorem Reached.mem_visited_iff (reached : walker.Reached entries pending walk) :
    id ∈ walk.visited ↔ IsRoot walk.nodes id ∨ ∃ edge ∈ walk.edges, edge.callee = id := by
  rw [reached.coherent.wellFormed.visited]
  constructor
  · intro member
    obtain ⟨node, nodeMember, rfl⟩ := Walk.mem_ids.mp member
    by_cases top : node.depth = 0
    · exact .inl ⟨node, nodeMember, rfl, top⟩
    · obtain ⟨edge, first, -⟩ := reached.first_edge node nodeMember top
      exact .inr ⟨edge, mem_and_callee_of_first first⟩
  · rintro (⟨node, member, rfl, -⟩ | ⟨edge, member, rfl⟩)
    · exact Walk.mem_ids.mpr ⟨node, member, rfl⟩
    · exact (reached.coherent.wellFormed.ends edge member).2

/-- An edge is flagged if its target is no leaf and stood at the top or at the end of an earlier
edge. -/
def FlaggedByOrder (walker : Walker) (nodes : List CallNode) (edges : List CallEdge) : Prop :=
  ∀ before edge after, edges = before ++ edge :: after →
    (edge.isCycle = true ↔ (walker.resolver.kindOf edge.callee).isLeaf = false ∧
      (IsRoot nodes edge.callee ∨ ∃ earlier ∈ before, earlier.callee = edge.callee))

theorem FlaggedByOrder.concat {nodes : List CallNode} {edges : List CallEdge}
    (flagged : walker.FlaggedByOrder nodes edges)
    (latest : edge.isCycle = true ↔ (walker.resolver.kindOf edge.callee).isLeaf = false ∧
      (IsRoot nodes edge.callee ∨ ∃ earlier ∈ edges, earlier.callee = edge.callee)) :
    walker.FlaggedByOrder nodes (edges ++ [edge]) := by
  intro before other after split
  rcases List.eq_nil_or_concat after with rfl | ⟨inner, last, rfl⟩
  · obtain ⟨rfl, same⟩ := List.append_inj' split rfl
    cases same
    exact latest
  · rw [List.concat_eq_append, ← List.cons_append, ← List.append_assoc] at split
    exact flagged before other inner (List.append_inj' split rfl).1

theorem FlaggedByOrder.append_node {nodes : List CallNode} {edges : List CallEdge}
    (flagged : walker.FlaggedByOrder nodes edges) (unmet : ∀ edge ∈ edges, edge.callee ≠ node.id) :
    walker.FlaggedByOrder (nodes ++ [node]) edges := by
  intro before edge after split
  have other : node.id ≠ edge.callee := (unmet edge (by simp [split])).symm
  have sameRoots : IsRoot (nodes ++ [node]) edge.callee ↔ IsRoot nodes edge.callee := by
    simp [IsRoot, or_and_right, exists_or, other]
  rw [sameRoots]
  exact flagged before edge after split

theorem Reached.flaggedByOrder (names : walker.index.NamesOnly)
    (reached : walker.Reached entries pending walk) :
    walker.FlaggedByOrder walk.nodes walk.edges := by
  induction reached with
  | start =>
      intro before edge after split
      exact absurd split (by simp [Walk.start])
  | revisited _ _ flagged => exact flagged
  | entered before fresh discovers edges flagged =>
      rw [edges, discovers.nodes]
      exact flagged.append_node (by simpa using before.coherent.edge_callee_ne fresh)
  | @repeated _ call _ _ before known keeps edges flagged =>
      have sameKind := before.pending_kind names
      rw [edges, keeps.nodes]
      apply flagged.concat
      have met := before.mem_visited_iff.mp known
      simpa [PendingCall.edge, ← sameKind] using fun _ => met
  | @followed _ call _ walk before fresh discovers edges flagged =>
      have unmet := before.coherent.edge_callee_ne fresh
      obtain ⟨_, expanded⟩ := before.pending_outgoing call List.mem_cons_self
      have below : call.depth ≠ 0 := by
        rw [depth_of_mem_outgoing (mem_expansion.mp expanded).2]
        omega
      have rootless : ¬IsRoot (walk.nodes ++ [walker.targetNode call]) call.target.id := by
        rintro ⟨node, member, same, top⟩
        rcases List.mem_append.mp member with old | new
        · exact before.coherent.node_id_ne fresh node old same
        · rw [List.mem_singleton.mp new, targetNode_depth] at top
          exact below top
      rw [edges, discovers.nodes]
      apply (flagged.append_node (by simpa using unmet)).concat
      simpa [PendingCall.edge, rootless] using fun _ => unmet

end GoAtlas.Walker
