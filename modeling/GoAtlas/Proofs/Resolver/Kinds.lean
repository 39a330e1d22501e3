import GoAtlas.Proofs.Resolver.Targets

/-!
The kind of a target depends on its identifier alone. What is indexed is a function or a method;
of what is not, the function literals are those whose identifier ends like one, and no external
call is written that way.
-/

namespace GoAtlas.Resolver

variable {resolver : Resolver} {site : CallSite} {caller : Caller} {target : Target} {id : String}

/-- The kind of what an identifier stands for. -/
def kindOf (resolver : Resolver) (id : String) : NodeKind :=
  match resolver.index.callable? id with
  | some (.function _) => .function
  | some (.method symbol) => resolver.methodKind symbol
  | none => if Text.lastPiece "." id = GoAtlas.closureTarget then .closure else .external

theorem kindOf_of_unindexed (absent : resolver.index.callable? id = none) :
    resolver.kindOf id =
      if Text.lastPiece "." id = GoAtlas.closureTarget then .closure else .external := by
  simp [kindOf, absent]

theorem kindOf_of_function {symbol : FunctionSymbol}
    (indexed : resolver.index.functions.get? id = some symbol) :
    resolver.kindOf id = .function := by
  simp [kindOf, Index.callable?, indexed]

theorem isLeaf_methodKind (symbol : MethodSymbol) :
    (resolver.methodKind symbol).isLeaf = false := by
  unfold methodKind
  split <;> rfl

theorem isLeaf_kindOf (resolver : Resolver) (id : String) :
    (resolver.kindOf id).isLeaf = (resolver.index.callable? id).isNone := by
  unfold kindOf
  split
  · rename_i found
    simp [found, NodeKind.isLeaf]
  · rename_i symbol found
    simp [found, isLeaf_methodKind symbol]
  · rename_i absent
    rw [absent]
    split <;> rfl

theorem kindOf_of_internalTarget (found : resolver.internalTarget site id = some target) :
    target.kind = resolver.kindOf id := by
  unfold internalTarget at found
  unfold kindOf
  dsimp only at found
  split at found
  · cases found
  · rename_i callable
    cases found
    simp [callable]
  · rename_i callable
    cases found
    simp [callable]

theorem lastPiece_closureTarget (resolver : Resolver) (site : CallSite) (caller : Caller) :
    Text.lastPiece "." (resolver.closureTarget site caller).id = GoAtlas.closureTarget :=
  lastPiece_memberId caller.package (by decide)

/-- No function literal is called by a name that Go admits. -/
theorem lastPiece_memberId_ne_closureTarget (owner : String) {name : String}
    (spelled : Go.isName name = true) :
    Text.lastPiece "." (memberId owner name) ≠ GoAtlas.closureTarget := by
  intro same
  rw [lastPiece_memberId owner (Go.isName.not_mem spelled Go.continuesName_dot)] at same
  exact Go.isName.not_mem spelled Go.continuesName_angle (by rw [same]; decide)

theorem kindOf_memberId_of_unindexed {owner name : String} (spelled : Go.isName name = true)
    (absent : resolver.index.callable? (memberId owner name) = none) :
    resolver.kindOf (memberId owner name) = .external := by
  rw [kindOf_of_unindexed absent, if_neg (lastPiece_memberId_ne_closureTarget owner spelled)]

/-- The identifier of an external target ends in what is selected, which is a name that Go
admits. -/
theorem externalTarget_id (resolver : Resolver) (caller : Caller) (recorded : site.Recorded)
    (notClosure : site.isClosure = false) :
    ∃ name, Go.isName name = true ∧ site.selector = name ∧
      (resolver.externalTarget site caller).id =
        memberId (site.receiver.getD caller.package) name := by
  cases recorded with
  | @function name line isGoroutine isDeferred spelled =>
      have plain := Go.isName.not_mem spelled Go.continuesName_dot
      have undotted := Text.contains_dot_eq_false plain
      refine ⟨name, spelled, ?_, ?_⟩
      · simp [CallSite.selector, CallSite.function, Text.lastPiece_of_plain plain]
      · simp [externalTarget, CallSite.function, undotted]
  | closure => simp [CallSite.isClosure, CallSite.closure, CallSite.function] at notClosure
  | @method receiver selector line importPath isGoroutine isDeferred _ spelled =>
      have plain := Go.isName.not_mem spelled Go.continuesName_dot
      refine ⟨selector, spelled, ?_, ?_⟩
      · simp [CallSite.selector, CallSite.method, CallSite.function, lastPiece_memberId _ plain]
      · simp [externalTarget, CallSite.method, CallSite.function, contains_dot_memberId]

theorem lastPiece_externalTarget_ne (recorded : site.Recorded)
    (notClosure : site.isClosure = false) :
    Text.lastPiece "." (resolver.externalTarget site caller).id ≠ GoAtlas.closureTarget := by
  obtain ⟨name, spelled, -, own⟩ := externalTarget_id resolver caller recorded notClosure
  rw [own]
  exact lastPiece_memberId_ne_closureTarget _ spelled

/-- What a recorded call resolves to is of the kind that its identifier stands for. -/
theorem kind_eq_kindOf (names : resolver.index.NamesOnly) (recorded : site.Recorded)
    (found : resolver.resolve site caller = some target) :
    target.kind = resolver.kindOf target.id := by
  rcases resolve_cases found with rfl | ⟨id, -, isTarget, rfl, -⟩ | ⟨notClosure, missed, rfl⟩
  · have unindexed : resolver.index.callable? (resolver.closureTarget site caller).id = none :=
      names.closure_not_callable caller.package
    rw [kindOf_of_unindexed unindexed, if_pos (lastPiece_closureTarget resolver site caller)]
    rfl
  · exact kindOf_of_internalTarget isTarget
  · have unindexed := callable?_externalTarget_eq_none recorded notClosure missed
    rw [kindOf_of_unindexed unindexed, if_neg (lastPiece_externalTarget_ne recorded notClosure)]
    rfl

end GoAtlas.Resolver
