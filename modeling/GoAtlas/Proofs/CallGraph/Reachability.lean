import GoAtlas.Proofs.CallGraph.Edges

/-!
Which symbols a walk reaches. It reaches nothing but along calls, and a node above the depth limit
has all its callees among the nodes. So nodes can be missing only where the limit cut a walk short.
-/

namespace GoAtlas.Walker

variable {walker : Walker} {entries : List String} {pending : List PendingCall} {walk : Walk}
  {node : CallNode} {entry id caller callee : String} {callers : List String}

instance (walker : Walker) (caller callee : String) : Decidable (walker.Calls caller callee) :=
  decidable_of_iff (∃ call ∈ walker.outgoing caller 0, call.target.id = callee)
    (calls_iff_mem_outgoing 0).symm

/-- A chain of calls with its calling symbols, the first one first. -/
inductive Chain (walker : Walker) (entry : String) : List String → String → Prop
  | start : walker.Chain entry [] entry
  | call {callers : List String} {caller callee : String}
      (before : walker.Chain entry callers caller) (calls : walker.Calls caller callee) :
      walker.Chain entry (callers ++ [caller]) callee

/-- The least set that contains the entry points and with a symbol all its callees. -/
inductive Discoverable (walker : Walker) (entries : List String) : String → Prop
  | entry {id : String} (member : id ∈ entries) : walker.Discoverable entries id
  | call {caller callee : String} (discovered : walker.Discoverable entries caller)
      (calls : walker.Calls caller callee) : walker.Discoverable entries callee

theorem Chain.discoverable (chain : walker.Chain entry callers id) (member : entry ∈ entries) :
    walker.Discoverable entries id := by
  induction chain with
  | start => exact .entry member
  | call _ calls inductionHypothesis => exact .call inductionHypothesis calls

/-! ### Nothing is reached but along calls -/

/-- A node lies at the end of a chain that is as long as the node is deep, and the callers of the
chain are nodes above the depth limit. -/
def Chained (walker : Walker) (entries : List String) (nodes : List CallNode) (node : CallNode) :
    Prop :=
  ∃ entry ∈ entries, ∃ callers, walker.Chain entry callers node.id ∧
    callers.length = node.depth ∧
      ∀ caller ∈ callers, ∃ other ∈ nodes, other.id = caller ∧ other.depth < walker.maxDepth

theorem Chained.mono {more : List String} {nodes others : List CallNode}
    (chained : walker.Chained entries nodes node) (entriesKept : entries ⊆ more)
    (nodesKept : nodes ⊆ others) : walker.Chained more others node := by
  obtain ⟨entry, member, callers, chain, length, expanded⟩ := chained
  refine ⟨entry, entriesKept member, callers, chain, length, ?_⟩
  intro caller callerMember
  obtain ⟨other, otherMember, same, shallow⟩ := expanded caller callerMember
  exact ⟨other, nodesKept otherMember, same, shallow⟩

/-- A call prolongs the chain of its caller. -/
theorem Chained.call {nodes : List CallNode} {call : PendingCall} {target : CallNode}
    (chained : walker.Chained entries nodes node) (member : node ∈ nodes)
    (expanded : call ∈ walker.expansion node) (sameId : target.id = call.target.id)
    (sameDepth : target.depth = call.depth) : walker.Chained entries nodes target := by
  obtain ⟨entry, entryMember, callers, chain, length, above⟩ := chained
  obtain ⟨shallow, outgoing⟩ := mem_expansion.mp expanded
  have calls : walker.Calls node.id target.id :=
    (calls_iff_mem_outgoing node.depth).mpr ⟨call, outgoing, sameId.symm⟩
  refine ⟨entry, entryMember, callers ++ [node.id], .call chain calls, ?_, ?_⟩
  · rw [List.length_append, length, List.length_singleton, sameDepth,
      depth_of_mem_outgoing outgoing]
  · intro caller callerMember
    rcases List.mem_append.mp callerMember with before | last
    · exact above caller before
    · rw [List.mem_singleton.mp last]
      exact ⟨node, member, rfl, shallow⟩

theorem Reached.chained (reached : walker.Reached entries pending walk) :
    ∀ node ∈ walk.nodes, walker.Chained entries walk.nodes node := by
  induction reached with
  | start => exact fun node member => absurd member List.not_mem_nil
  | revisited _ _ inductionHypothesis =>
      intro node member
      exact (inductionHypothesis node member).mono (List.subset_append_left _ _)
        (List.Subset.refl _)
  | @entered entries walk entry _ _ discovers _ inductionHypothesis =>
      rw [discovers.nodes]
      intro node member
      rcases List.mem_append.mp member with old | new
      · exact (inductionHypothesis node old).mono (List.subset_append_left _ _)
          (List.subset_append_left _ _)
      · rw [List.mem_singleton.mp new]
        refine ⟨entry, by simp, [], ?_, by simp, by simp⟩
        rw [enteredNode_id]
        exact .start
  | repeated _ _ keeps _ inductionHypothesis =>
      rw [keeps.nodes]
      exact inductionHypothesis
  | @followed entries call rest walk before _ discovers _ inductionHypothesis =>
      rw [discovers.nodes]
      intro node member
      rcases List.mem_append.mp member with old | new
      · exact (inductionHypothesis node old).mono (List.Subset.refl _)
          (List.subset_append_left _ _)
      · rw [List.mem_singleton.mp new]
        obtain ⟨parent, parentMember, expanded⟩ :=
          before.coherent.pending call List.mem_cons_self
        have chained : walker.Chained entries walk.nodes (walker.targetNode call) :=
          (inductionHypothesis parent parentMember).call parentMember expanded targetNode_id
            targetNode_depth
        exact chained.mono (List.Subset.refl _) (List.subset_append_left _ _)

/-! ### Callees above the depth limit are reached -/

theorem Reached.entry_mem (reached : walker.Reached entries pending walk) :
    ∀ entry ∈ entries, entry ∈ walk.ids := by
  induction reached with
  | start => simp
  | @revisited entries walk entry before known inductionHypothesis =>
      intro other member
      rcases List.mem_append.mp member with old | new
      · exact inductionHypothesis other old
      · rw [List.mem_singleton.mp new]
        exact (before.coherent.wellFormed.visited entry).mp known
  | entered _ _ discovers _ inductionHypothesis =>
      intro other member
      rw [discovers.ids, enteredNode_id]
      rcases List.mem_append.mp member with old | new
      · exact List.mem_append_left _ (inductionHypothesis other old)
      · exact List.mem_append_right _ new
  | repeated _ _ keeps _ inductionHypothesis =>
      rw [keeps.ids]
      exact inductionHypothesis
  | followed _ _ discovers _ inductionHypothesis =>
      intro other member
      rw [discovers.ids]
      exact List.mem_append_left _ (inductionHypothesis other member)

/-- Once nothing is pending, the callees of a node above the depth limit are nodes. -/
theorem Reached.callee_mem (reached : walker.Reached entries [] walk) (member : node ∈ walk.nodes)
    (shallow : node.depth < walker.maxDepth) (calls : walker.Calls node.id callee) :
    callee ∈ walk.ids := by
  obtain ⟨call, outgoing, rfl⟩ := (calls_iff_mem_outgoing node.depth).mp calls
  have expanded : call.record ∈ (walker.expansion node).map (·.record) :=
    List.mem_map_of_mem (mem_expansion.mpr ⟨shallow, outgoing⟩)
  rw [← reached.accounted node member] at expanded
  have drained : pendingFrom [] node.id = [] := rfl
  rw [drained, List.append_nil] at expanded
  obtain ⟨edge, recorded, same⟩ := List.mem_map.mp expanded
  have callee : edge.callee = call.target.id := congrArg CallRecord.callee same
  rw [← callee]
  exact (reached.coherent.wellFormed.ends edge (List.mem_of_mem_filter recorded)).2

/-- A chain ends at a node unless one of its callers lies at the depth limit. -/
theorem Reached.chain_mem (reached : walker.Reached entries [] walk)
    (chain : walker.Chain entry callers id) (member : entry ∈ entries) :
    id ∈ walk.ids ∨ ∃ node ∈ walk.nodes, node.id ∈ callers ∧ node.depth = walker.maxDepth ∧
      ∃ callee, walker.Calls node.id callee := by
  induction chain with
  | start => exact .inl (reached.entry_mem entry member)
  | @call callers caller callee _ calls inductionHypothesis =>
      rcases inductionHypothesis with found | ⟨node, nodeMember, onChain, atLimit⟩
      · obtain ⟨node, nodeMember, rfl⟩ := Walk.mem_ids.mp found
        rcases Nat.lt_or_eq_of_le (reached.coherent.wellFormed.shallow node nodeMember) with
          shallow | atLimit
        · exact .inl (reached.callee_mem nodeMember shallow calls)
        · exact .inr ⟨node, nodeMember, by simp, atLimit, callee, calls⟩
      · exact .inr ⟨node, nodeMember, List.mem_append_left _ onChain, atLimit⟩

end GoAtlas.Walker
