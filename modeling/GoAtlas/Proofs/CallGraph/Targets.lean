import GoAtlas.Proofs.CallGraph.Origins
import GoAtlas.Proofs.Resolver.Accuracy

/-!
Targets and the nodes that a walk has for them. The resolver and the walk look a symbol up on their
own, one where a call is resolved and the other where the symbol is entered; what they say of it is
the same.
-/

namespace GoAtlas.Walker

variable {walker : Walker} {entries : List String} {pending : List PendingCall} {walk : Walk}
  {site : CallSite} {caller : Caller} {target : Target} {callable : Callable} {depth : Nat}

theorem symbolNode_eq_node (accurate : walker.resolver.Accurate target)
    (found : walker.index.callable? target.id = some callable) :
    walker.symbolNode target.id depth callable = target.node depth := by
  unfold Index.callable? at found
  cases function : walker.index.functions.get? target.id with
  | some symbol =>
      rw [function] at found
      cases found
      exact (accurate.function symbol function depth).symm
  | none =>
      rw [function] at found
      obtain ⟨symbol, method, rfl⟩ := Option.map_eq_some_iff.mp found
      rw [(accurate.method symbol function method).1 depth, symbolNode,
        accurate.kind_eq_methodKind function method]

theorem Reached.node_eq_enteredNode (names : walker.index.NamesOnly)
    (reached : walker.Reached entries pending walk) :
    ∀ node ∈ walk.nodes, (walker.index.callable? node.id).isSome = true →
      node = walker.enteredNode node.id node.depth := by
  induction reached with
  | start => exact fun node member => absurd member List.not_mem_nil
  | revisited _ _ inductionHypothesis => exact inductionHypothesis
  | entered _ _ discovers _ inductionHypothesis =>
      rw [discovers.nodes]
      intro node member indexed
      rcases List.mem_append.mp member with old | new
      · exact inductionHypothesis node old indexed
      · rw [List.mem_singleton.mp new, enteredNode_id, enteredNode_depth]
  | repeated _ _ keeps _ inductionHypothesis =>
      rw [keeps.nodes]
      exact inductionHypothesis
  | @followed _ call _ _ before _ discovers _ inductionHypothesis =>
      rw [discovers.nodes]
      intro node member indexed
      rcases List.mem_append.mp member with old | new
      · exact inductionHypothesis node old indexed
      · rw [List.mem_singleton.mp new, targetNode_id] at indexed
        obtain ⟨_, expanded⟩ := before.pending_outgoing call List.mem_cons_self
        have inner : ¬call.target.kind.isLeaf = true := by
          intro leaf
          rw [callable?_eq_none_of_mem_outgoing names (mem_expansion.mp expanded).2 leaf] at indexed
          cases indexed
        rw [List.mem_singleton.mp new, targetNode_id, targetNode_depth, targetNode, if_neg inner]

/-- A recorded call has an accurate target, unless it is of something predeclared or of a method
that is named so and not found. An identifier decides of which kind its targets are, and every walk
shows a symbol as the targets that lead to it do. -/
theorem accurate_resolve (built : walker.index.Buildable) (recorded : site.Recorded)
    (caller : Caller) :
    (walker.resolver.resolve site caller = none ↔ site.isClosure = false ∧
      (site.NamesPredeclared ∨
        site.isMethod = true ∧ Go.isBuiltinFunction site.selector = true ∧
          walker.resolver.resolveSymbol site caller = none)) ∧
      ∀ target, walker.resolver.resolve site caller = some target →
        walker.resolver.Accurate target ∧ target.kind = walker.resolver.kindOf target.id ∧
        (target.kind.isLeaf = false → ∃ callable,
          walker.index.callable? target.id = some callable ∧
          (∀ depth, walker.symbolNode target.id depth callable = target.node depth) ∧
          ∀ entries, ∀ node ∈ (walker.visitAll entries).nodes, node.id = target.id →
            node = target.node node.depth) := by
  have names := built.namesOnly
  refine ⟨Resolver.resolve_eq_none_iff recorded, ?_⟩
  intro target found
  have accurate := Resolver.accurate_of_resolve names recorded found
  refine ⟨accurate, Resolver.kind_eq_kindOf names recorded found, ?_⟩
  intro inner
  obtain ⟨callable, isCallable⟩ :=
    Option.isSome_iff_exists.mp (Resolver.isSome_callable?_of_inner found inner)
  have sameNode : ∀ depth, walker.symbolNode target.id depth callable = target.node depth :=
    fun depth => symbolNode_eq_node accurate isCallable
  refine ⟨callable, isCallable, sameNode, ?_⟩
  intro entries node member same
  have indexed : (walker.index.callable? node.id).isSome = true := by
    rw [same]
    exact Resolver.isSome_callable?_of_inner found inner
  have entered := (reached_visitAll names entries).node_eq_enteredNode names node member indexed
  have isCallable : walker.index.callable? target.id = some callable := isCallable
  rw [same, enteredNode, isCallable] at entered
  exact entered.trans (sameNode node.depth)

theorem accurate_resolve_service :
    serviceWalker.index.Buildable ∧ (CallSite.method "h.store" "Load" 9).Recorded ∧
      ∃ target, serviceWalker.resolver.resolve (.method "h.store" "Load" 9)
          ⟨"p", some "Handler", some "h"⟩ = some target ∧
        target.kind = .interfaceMethod ∧ target.callType = .interface ∧
        serviceWalker.resolver.Accurate target ∧
        ∀ node ∈ (serviceWalker.visitAll ["p.Handler.Serve"]).nodes, node.id = target.id →
          node = target.node node.depth := by
  have recorded : (CallSite.method "h.store" "Load" 9).Recorded :=
    .method (@ReceiverText.path "h" "store" (by decide +kernel) (by decide +kernel))
      (by decide +kernel)
  have found : serviceWalker.resolver.resolve (.method "h.store" "Load" 9)
      ⟨"p", some "Handler", some "h"⟩ = some ⟨"p.Store.Load", .interfaceMethod, .interface, false,
        some "p", "Load", some "Store", some "a.go", some 3⟩ := by
    decide +kernel
  obtain ⟨accurate, -, shown⟩ :=
    (accurate_resolve buildable_service recorded ⟨"p", some "Handler", some "h"⟩).2 _ found
  obtain ⟨callable, -, -, nodes⟩ := shown rfl
  exact ⟨buildable_service, recorded, _, found, rfl, rfl, accurate, nodes ["p.Handler.Serve"]⟩

end GoAtlas.Walker
