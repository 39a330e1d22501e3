import GoAtlas.Proofs.Architecture.Integrity
import GoAtlas.Proofs.CallGraph.Classification
import GoAtlas.Proofs.CallGraph.Discovery

/-!
The calls of an architecture and of call graphs. An architecture lists them in one pass over all
bodies and drops repetitions, leaves and calls of a symbol by itself; a call graph keeps all of them
in the order of a walk with a depth limit. For the calls of one symbol both come down to the same
relation, whatever the limit, because the entry point of a walk is always expanded.
-/

namespace GoAtlas

namespace Walker

variable {walker : Walker} {entries : List String} {walk : Walk} {node : CallNode}
  {entry : String} {edge : CallEdge}

/-- The edges from a node above the depth limit lead to all that it calls, and nowhere else. -/
theorem Reached.exists_edge_iff (reached : walker.Reached entries [] walk)
    (member : node ∈ walk.nodes) (shallow : node.depth < walker.maxDepth) (callee : String) :
    (∃ edge ∈ walk.edges, edge.caller = node.id ∧ edge.callee = callee) ↔
      walker.Calls node.id callee := by
  have recorded : (∃ edge ∈ walk.edges, edge.caller = node.id ∧ edge.callee = callee) ↔
      ∃ record ∈ recordedFrom walk.edges node.id, record.callee = callee := by
    simp [recordedFrom, CallEdge.record, and_assoc]
  rw [recorded, reached.recordedFrom_eq member, calls_iff_mem_outgoing node.depth]
  simp [mem_expansion, shallow, PendingCall.record]

/-- The target of an edge is no leaf exactly if it is indexed. -/
theorem Reached.inner_callee_iff (reached : walker.Reached [entry] [] walk)
    (names : walker.index.NamesOnly) (indexed : (walker.index.callable? entry).isSome = true)
    (member : edge ∈ walk.edges) :
    (∃ node, (walker.graphOf entry walk).node? edge.callee = some node ∧
        node.kind.isLeaf = false) ↔ (walker.index.callable? edge.callee).isSome = true := by
  obtain ⟨node, nodeMember, sameId⟩ := reached.exists_callee member
  have found : (walker.graphOf entry walk).node? edge.callee = some node :=
    sameId ▸ reached.node?_graphOf nodeMember
  have kind := reached.kind_eq names indexed node nodeMember
  simp [found, kind, isLeaf_kindOf, sameId]

/-- The edges from the entry point that lead to no leaf are its calls of indexed symbols. -/
theorem Reached.exists_inner_edge_iff (reached : walker.Reached [entry] [] walk)
    (names : walker.index.NamesOnly) (indexed : (walker.index.callable? entry).isSome = true)
    (positive : 0 < walker.maxDepth) (callee : String) :
    (∃ edge ∈ walk.edges, edge.caller = entry ∧ edge.callee = callee ∧
      ∃ node, (walker.graphOf entry walk).node? callee = some node ∧ node.kind.isLeaf = false) ↔
      walker.Calls entry callee ∧ (walker.index.callable? callee).isSome = true := by
  have entered : walker.enteredNode entry 0 ∈ walk.nodes := List.mem_of_head? reached.head_nodes
  have shallow : (walker.enteredNode entry 0).depth < walker.maxDepth := by
    rw [enteredNode_depth]
    exact positive
  have edges := reached.exists_edge_iff entered shallow callee
  rw [enteredNode_id] at edges
  constructor
  · rintro ⟨edge, member, caller, rfl, inner⟩
    exact ⟨edges.mp ⟨edge, member, caller, rfl⟩,
      (reached.inner_callee_iff names indexed member).mp inner⟩
  · rintro ⟨calls, calleeIndexed⟩
    obtain ⟨edge, member, caller, rfl⟩ := edges.mpr calls
    exact ⟨edge, member, caller, rfl,
      (reached.inner_callee_iff names indexed member).mpr calleeIndexed⟩

end Walker

namespace Index

variable {index : Index} {id : String} {options : ResolverOptions} {maxDepth : Nat}

/-- The walker that excludes nothing. -/
def plainWalker (index : Index) (options : ResolverOptions) (maxDepth : Nat) : Walker :=
  ⟨⟨index, options⟩, maxDepth, []⟩

theorem callGraph_plain (indexed : (index.callable? id).isSome = true)
    (valid : isMaxDepth maxDepth = true) :
    index.callGraph ⟨maxDepth, options, []⟩ id =
      .ok ((index.plainWalker options maxDepth).graphOf id
        ((index.plainWalker options maxDepth).visitAll [id])) := by
  have isWalker : Walker.ofOptions index ⟨maxDepth, options, []⟩ =
      .ok (index.plainWalker options maxDepth) := by
    unfold Walker.ofOptions
    rw [valid, isEmpty_eq_false indexed]
    rfl
  unfold callGraph
  rw [isWalker]
  exact Walker.build_eq_ok_iff.mpr ⟨indexed, rfl⟩

/-! ### Links for calls -/

theorem kind_of_mem_containmentLinks {link : Link} (member : link ∈ index.containmentLinks) :
    link.kind = .contains := by
  rcases mem_containmentLinks_iff.mp member with
    ⟨_, _, -, rfl⟩ | ⟨_, _, -, rfl⟩ | ⟨_, _, -, rfl⟩ <;> rfl

theorem kind_of_mem_importLinks {link : Link} (member : link ∈ index.importLinks) :
    link.kind = .imports := by
  obtain ⟨_, _, -, _, -, rfl⟩ := mem_importLinks_iff.mp member
  rfl

theorem kind_of_mem_typeLinks {link : Link} (member : link ∈ index.typeLinks) :
    link.kind = .uses ∨ link.kind = .embeds := by
  obtain ⟨_, _, -, member⟩ := mem_typeLinks_iff.mp member
  obtain ⟨-, -, refers⟩ := mem_linksOfType_iff.mp member
  exact refers.imp And.left And.left

/-- Only the last pass links calls. -/
theorem hasLink_calls_iff {callee : String} :
    (Architecture.ofIndex index ⟨true, options⟩).hasLink ⟨id, callee, .calls⟩ = true ↔
      ∃ callable, (id, callable) ∈ index.callables ∧
        callee ∈ Resolver.calledSymbols ⟨index, options⟩ id callable := by
  simp only [Architecture.hasLink, Architecture.ofIndex, List.contains_iff_mem, mem_firstOfEach_id,
    List.mem_append, if_true]
  constructor
  · rintro (((contained | imported) | typed) | called)
    · cases kind_of_mem_containmentLinks contained
    · cases kind_of_mem_importLinks imported
    · rcases kind_of_mem_typeLinks typed with kind | kind <;> cases kind
    · exact (Resolver.mem_callLinks_iff.mp called).2
  · intro called
    exact .inr (Resolver.mem_callLinks_iff.mpr ⟨rfl, called⟩)

theorem calls_plainWalker_iff {callable : Callable} {callee : String}
    (found : index.callable? id = some callable) :
    (index.plainWalker options maxDepth).Calls id callee ↔ ∃ site ∈ callable.calls, ∃ target,
      Resolver.resolve ⟨index, options⟩ site (.ofCallable callable) = some target ∧
        target.id = callee := by
  constructor
  · rintro ⟨other, otherFound, -, calls⟩
    cases found.symm.trans otherFound
    exact calls
  · exact fun calls => ⟨callable, found, rfl, calls⟩

/-- Among the callees other than the symbol itself, the linked ones are those that are indexed. -/
theorem mem_calledSymbols_iff_calls (names : index.NamesOnly) {callable : Callable}
    {callee : String} (found : index.callable? id = some callable) (other : callee ≠ id) :
    callee ∈ Resolver.calledSymbols ⟨index, options⟩ id callable ↔
      (index.plainWalker options maxDepth).Calls id callee ∧
        (index.callable? callee).isSome = true := by
  rw [Resolver.mem_calledSymbols_iff, calls_plainWalker_iff found]
  constructor
  · rintro ⟨site, member, target, resolved, inner, -, rfl⟩
    exact ⟨⟨site, member, target, resolved, rfl⟩, Resolver.isSome_callable?_of_inner resolved inner⟩
  · rintro ⟨⟨site, member, target, resolved, rfl⟩, indexed⟩
    have recorded : site.Recorded := (names.callable found).2 site member
    refine ⟨site, member, target, resolved, ?_, other, rfl⟩
    rw [Resolver.kind_eq_kindOf names recorded resolved, Resolver.isLeaf_kindOf]
    exact Option.isNone_eq_false_iff.mpr indexed

theorem hasLink_calls_iff_calls (names : index.NamesOnly)
    (indexed : (index.callable? id).isSome = true)
    (single : ¬(index.functions.contains id = true ∧ index.methods.contains id = true))
    {callee : String} (other : callee ≠ id) :
    (Architecture.ofIndex index ⟨true, options⟩).hasLink ⟨id, callee, .calls⟩ = true ↔
      (index.plainWalker options maxDepth).Calls id callee ∧
        (index.callable? callee).isSome = true := by
  obtain ⟨callable, found⟩ := Option.isSome_iff_exists.mp indexed
  rw [hasLink_calls_iff, ← mem_calledSymbols_iff_calls names found other]
  constructor
  · rintro ⟨listed, member, called⟩
    cases found.symm.trans (callable?_of_mem member single)
    exact called
  · exact fun called => ⟨callable, mem_callables_of_found found, called⟩

/-- The architecture links a symbol to the others that it calls exactly as the symbol's own call
graph does, whatever the depth limit of that graph. -/
theorem hasLink_calls_iff_edge (built : index.Buildable)
    (indexed : (index.callable? id).isSome = true)
    (single : ¬(index.functions.contains id = true ∧ index.methods.contains id = true))
    (options : ResolverOptions) (valid : isMaxDepth maxDepth = true) :
    ∃ graph, index.callGraph ⟨maxDepth, options, []⟩ id = .ok graph ∧ ∀ callee, callee ≠ id →
      ((Architecture.ofIndex index ⟨true, options⟩).hasLink ⟨id, callee, .calls⟩ = true ↔
        ∃ edge ∈ graph.edges, edge.caller = id ∧ edge.callee = callee ∧
          ∃ node, graph.node? callee = some node ∧ node.kind.isLeaf = false) := by
  have names := built.namesOnly
  have positive : 0 < maxDepth := by
    simp only [isMaxDepth, Bool.and_eq_true, decide_eq_true_eq] at valid
    exact valid.1
  have reached := (index.plainWalker options maxDepth).reached_visitAll names [id]
  refine ⟨_, callGraph_plain indexed valid, ?_⟩
  intro callee other
  rw [hasLink_calls_iff_calls names indexed single other]
  exact (reached.exists_inner_edge_iff names indexed positive callee).symm

theorem hasLink_calls_iff_edge_service :
    serviceWalker.index.Buildable ∧ isMaxDepth 10 = true ∧
      (serviceWalker.index.callable? "p.Handler.Serve").isSome = true ∧
      (Architecture.ofIndex serviceWalker.index .standard).hasLink
        ⟨"p.Handler.Serve", "p.Store.Load", .calls⟩ = true ∧
      ∃ edge ∈ serviceGraph.edges, edge.caller = "p.Handler.Serve" ∧
        edge.callee = "p.Store.Load" ∧
          ∃ node, serviceGraph.node? "p.Store.Load" = some node ∧ node.kind.isLeaf = false := by
  have indexed : (serviceWalker.index.callable? "p.Handler.Serve").isSome = true := by
    decide +kernel
  have linked : (Architecture.ofIndex serviceWalker.index .standard).hasLink
      ⟨"p.Handler.Serve", "p.Store.Load", .calls⟩ = true := by
    decide +kernel
  obtain ⟨graph, isGraph, agrees⟩ := hasLink_calls_iff_edge buildable_service indexed
    (by decide +kernel) .standard (by decide : isMaxDepth 10 = true)
  cases isGraph.symm.trans callGraph_service
  exact ⟨buildable_service, by decide, indexed, linked,
    (agrees "p.Store.Load" (by decide)).mp linked⟩

end Index

end GoAtlas
