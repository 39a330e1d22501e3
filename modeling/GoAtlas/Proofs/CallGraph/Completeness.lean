import GoAtlas.Proofs.CallGraph.Reachability

/-!
When a call graph is complete. A walk warns of the nodes at the depth limit whose calls it did not
follow, and counts them exactly; a walk that does not warn has found everything there is to find.

A depth limit does not promise all symbols within that many calls. The walk is depth first and
enters each symbol once, at the depth at which it meets it first, so a symbol that is met at the
limit on a detour stays unexpanded even where a shorter chain leads to it.
-/

namespace GoAtlas.Walker

variable {walker : Walker} {entries : List String} {pending : List PendingCall} {walk : Walk}
  {node : CallNode} {entry : String}

/-- Is a node an indexed symbol at the depth limit, of a package that is not excluded, with a call
in its body that resolves? -/
def isFrontier (walker : Walker) (node : CallNode) : Bool :=
  node.depth == walker.maxDepth && (walker.index.callable? node.id).any fun callable =>
    !walker.isExcluded callable.package && callable.calls.any fun site =>
      (walker.resolver.resolve site (.ofCallable callable)).isSome

theorem isFrontier_iff :
    walker.isFrontier node = true ↔
      node.depth = walker.maxDepth ∧ ∃ callee, walker.Calls node.id callee := by
  simp only [isFrontier, Calls, Bool.and_eq_true, beq_iff_eq, Option.any_eq_true, List.any_eq_true,
    Bool.not_eq_true', Option.isSome_iff_exists]
  constructor
  · rintro ⟨atLimit, callable, found, included, site, member, target, resolved⟩
    exact ⟨atLimit, target.id, callable, found, included, site, member, target, resolved, rfl⟩
  · rintro ⟨atLimit, callee, callable, found, included, site, member, target, resolved, -⟩
    exact ⟨atLimit, callable, found, included, site, member, target, resolved⟩

theorem isCut_iff :
    walker.isCut node = true ↔
      walker.maxDepth ≤ node.depth ∧ ∃ callee, walker.Calls node.id callee := by
  simp only [isCut, Bool.and_eq_true, decide_eq_true_eq, Bool.not_eq_true',
    List.isEmpty_eq_false_iff, calls_iff_mem_outgoing node.depth]
  apply and_congr_right
  intro _
  constructor
  · intro some
    obtain ⟨call, member⟩ := List.exists_mem_of_ne_nil _ some
    exact ⟨call.target.id, call, member, rfl⟩
  · rintro ⟨-, call, member, -⟩
    exact List.ne_nil_of_mem member

/-- Within the depth limit, the nodes that are cut are those of the frontier. -/
theorem isCut_eq_isFrontier (within : node.depth ≤ walker.maxDepth) :
    walker.isCut node = walker.isFrontier node := by
  rw [Bool.eq_iff_iff, isCut_iff, isFrontier_iff]
  apply and_congr_left
  intro _
  omega

theorem Reached.cut (reached : walker.Reached entries pending walk) :
    walk.cut = walk.nodes.countP walker.isCut := by
  induction reached with
  | start => rfl
  | revisited _ _ inductionHypothesis => exact inductionHypothesis
  | entered _ _ discovers _ inductionHypothesis =>
      rw [discovers.cut, discovers.nodes, countP_append_singleton, inductionHypothesis]
  | repeated _ _ keeps _ inductionHypothesis =>
      rw [keeps.cut, keeps.nodes]
      exact inductionHypothesis
  | followed _ _ discovers _ inductionHypothesis =>
      rw [discovers.cut, discovers.nodes, countP_append_singleton, inductionHypothesis]

theorem Reached.cut_eq_frontier (reached : walker.Reached entries pending walk) :
    walk.cut = walk.nodes.countP walker.isFrontier := by
  rw [reached.cut]
  apply List.countP_congr
  intro node member
  rw [isCut_eq_isFrontier (reached.coherent.wellFormed.shallow node member)]

theorem warnings_eq_nil : walker.warnings walk = [] ↔ walk.cut = 0 := by
  unfold warnings
  split
  · rename_i uncut
    simp [uncut]
  · rename_i cut
    simp [cut]

theorem Reached.warnings_ne_nil (reached : walker.Reached entries pending walk) :
    walker.warnings walk ≠ [] ↔ ∃ node ∈ walk.nodes, walker.isFrontier node = true := by
  rw [Ne, warnings_eq_nil, reached.cut_eq_frontier, List.countP_eq_zero]
  simp

/-- A walk that nothing cuts short finds all that can be discovered, and nothing else. -/
theorem Reached.mem_ids_iff (reached : walker.Reached entries [] walk)
    (uncut : walker.warnings walk = []) (id : String) :
    id ∈ walk.ids ↔ walker.Discoverable entries id := by
  constructor
  · intro found
    obtain ⟨node, member, rfl⟩ := Walk.mem_ids.mp found
    obtain ⟨entry, entryMember, callers, chain, -, -⟩ := reached.chained node member
    exact chain.discoverable entryMember
  · intro discoverable
    induction discoverable with
    | entry member => exact reached.entry_mem _ member
    | @call caller callee _ calls inductionHypothesis =>
        obtain ⟨node, member, rfl⟩ := Walk.mem_ids.mp inductionHypothesis
        have above : node.depth ≠ walker.maxDepth := by
          intro atLimit
          have frontier := isFrontier_iff.mpr ⟨atLimit, callee, calls⟩
          exact reached.warnings_ne_nil.mpr ⟨node, member, frontier⟩ uncut
        have within := reached.coherent.wellFormed.shallow node member
        exact reached.callee_mem member (by omega) calls

/-- A walk warns exactly if it has a frontier, and says how large that is; a walk that does not warn
has discovered exactly what can be. -/
theorem warnings_visitAll (built : walker.index.Buildable) (entries : List String) :
    (walker.warnings (walker.visitAll entries) ≠ [] ↔
        ∃ node ∈ (walker.visitAll entries).nodes, walker.isFrontier node = true) ∧
      (∀ warning ∈ walker.warnings (walker.visitAll entries),
        warning = "max depth " ++ toString walker.maxDepth ++ " reached: " ++
          toString ((walker.visitAll entries).nodes.countP walker.isFrontier) ++
            " symbol(s) not expanded") ∧
      (walker.warnings (walker.visitAll entries) = [] →
        ∀ id, id ∈ (walker.visitAll entries).ids ↔ walker.Discoverable entries id) := by
  have reached := reached_visitAll built.namesOnly entries
  refine ⟨reached.warnings_ne_nil, ?_, reached.mem_ids_iff⟩
  intro warning member
  rw [← reached.cut_eq_frontier]
  unfold warnings at member
  split at member
  · cases member
  · exact List.mem_singleton.mp member

theorem warnings_visitAll_detour :
    (detourWalker 4).warnings ((detourWalker 4).visitAll ["p.A"]) = [] ∧
      (detourWalker 4).Discoverable ["p.A"] "p.D" ∧
      ¬(detourWalker 4).Discoverable ["p.A"] "p.E" := by
  have ended : (detourWalker 4).visitAll ["p.A"] = ((detourWalker 4).advanceFrom 8 "p.A").2 :=
    visitAll_eq_advanceFrom 8 (by decide +kernel)
  have uncut : (detourWalker 4).warnings ((detourWalker 4).visitAll ["p.A"]) = [] := by
    rw [ended]
    decide +kernel
  have ids : ((detourWalker 4).visitAll ["p.A"]).ids = ["p.A", "p.B", "p.X", "p.C", "p.D"] := by
    rw [ended]
    decide +kernel
  obtain ⟨-, -, complete⟩ := warnings_visitAll (buildable_detour 4) ["p.A"]
  refine ⟨uncut, (complete uncut "p.D").mp ?_, ?_⟩
  · rw [ids]
    decide
  · intro discoverable
    have found := (complete uncut "p.E").mpr discoverable
    rw [ids] at found
    exact absurd found (by decide)

/-! ### Below the depth limit -/

theorem chain_detour : (detourWalker 3).Chain "p.A" ["p.A", "p.C"] "p.D" := by
  have first : (detourWalker 3).Calls "p.A" "p.C" := by decide
  have second : (detourWalker 3).Calls "p.C" "p.D" := by decide
  exact .call (.call .start first) second

/-- A chain within the depth limit does not put its end into the graph, and raising the limit can
take a node away. -/
theorem incomplete_build_detour :
    (¬∀ (walker : Walker) (entry : String) (callers : List String) (id : String),
      walker.index.Buildable → isMaxDepth walker.maxDepth = true →
        (walker.index.callable? entry).isSome = true → walker.Chain entry callers id →
          callers.length ≤ walker.maxDepth →
            ∃ graph, walker.build entry = .ok graph ∧ id ∈ graph.nodes.map (·.id)) ∧
      ∃ shallow deep, (detourWalker 2).build "p.A" = .ok shallow ∧
        (detourWalker 3).build "p.A" = .ok deep ∧
        "p.D" ∈ shallow.nodes.map (·.id) ∧ "p.D" ∉ deep.nodes.map (·.id) := by
  have indexed (maxDepth : Nat) :
      ((detourWalker maxDepth).index.callable? "p.A").isSome = true := by
    have found : ((detourWalker 0).index.callable? "p.A").isSome = true := by decide +kernel
    exact found
  obtain ⟨shallow, shallowBuilt, shallowNodes, -⟩ := exists_build (indexed 2)
  obtain ⟨deep, deepBuilt, deepNodes, -⟩ := exists_build (indexed 3)
  have found : "p.D" ∈ shallow.nodes.map (·.id) := by
    rw [shallowNodes, visitAll_eq_advanceFrom 8 (by decide +kernel)]
    decide +kernel
  have missed : "p.D" ∉ deep.nodes.map (·.id) := by
    rw [deepNodes, visitAll_eq_advanceFrom 8 (by decide +kernel)]
    decide +kernel
  refine ⟨?_, shallow, deep, shallowBuilt, deepBuilt, found, missed⟩
  intro complete
  obtain ⟨graph, graphBuilt, member⟩ := complete (detourWalker 3) "p.A" ["p.A", "p.C"] "p.D"
    (buildable_detour 3) (by decide) (indexed 3) chain_detour (by decide)
  rw [deepBuilt] at graphBuilt
  cases graphBuilt
  exact missed member

/-- The graph of an indexed entry point holds everything at the end of a chain of calls, unless a
caller of the chain was first met at the depth limit; then the graph warns. All that it holds lies
at the end of a chain within the limit, along nodes above it. -/
theorem complete_build (built : walker.index.Buildable)
    (indexed : (walker.index.callable? entry).isSome = true) :
    ∃ graph, walker.build entry = .ok graph ∧
      (∀ callers id, walker.Chain entry callers id →
        (∃ node ∈ graph.nodes, node.id = id) ∨
          graph.warnings ≠ [] ∧
            ∃ node ∈ graph.nodes, node.id ∈ callers ∧ node.depth = walker.maxDepth) ∧
      ∀ node ∈ graph.nodes, node.depth ≤ walker.maxDepth ∧
        ∃ callers, walker.Chain entry callers node.id ∧ callers.length = node.depth ∧
          ∀ caller ∈ callers, ∃ other ∈ graph.nodes,
            other.id = caller ∧ other.depth < walker.maxDepth := by
  obtain ⟨graph, isBuilt, nodes, -, -, warnings⟩ := exists_build indexed
  have reached := reached_visitAll built.namesOnly [entry]
  refine ⟨graph, isBuilt, ?_, ?_⟩
  · intro callers id chain
    rw [nodes, warnings]
    rcases reached.chain_mem chain List.mem_cons_self with found | ⟨node, member, onChain, cut⟩
    · exact .inl (Walk.mem_ids.mp found)
    · have frontier := isFrontier_iff.mpr cut
      exact .inr ⟨reached.warnings_ne_nil.mpr ⟨node, member, frontier⟩, node, member, onChain,
        cut.1⟩
  · rw [nodes]
    intro node member
    obtain ⟨first, firstMember, callers, chain, length, above⟩ := reached.chained node member
    cases List.mem_singleton.mp firstMember
    exact ⟨reached.coherent.wellFormed.shallow node member, callers, chain, length, above⟩

theorem complete_build_detour :
    ∃ graph, (detourWalker 3).build "p.A" = .ok graph ∧
      ((∃ node ∈ graph.nodes, node.id = "p.D") ∨
        graph.warnings ≠ [] ∧
          ∃ node ∈ graph.nodes, node.id ∈ ["p.A", "p.C"] ∧ node.depth = 3) := by
  have indexed : ((detourWalker 3).index.callable? "p.A").isSome = true := by decide +kernel
  obtain ⟨graph, isBuilt, complete, -⟩ := complete_build (buildable_detour 3) indexed
  exact ⟨graph, isBuilt, complete ["p.A", "p.C"] "p.D" chain_detour⟩

end GoAtlas.Walker
