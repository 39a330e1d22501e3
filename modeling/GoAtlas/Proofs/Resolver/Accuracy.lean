import GoAtlas.CallGraph.Graph
import GoAtlas.Proofs.Index.Registration
import GoAtlas.Proofs.Resolver.Classification

/-!
What a resolved target says. A target that is no leaf says what the index says of the symbol under
its identifier, a leaf has an identifier under which nothing is indexed, and a call without a target
is one of something predeclared.
-/

namespace GoAtlas

theorem Go.isName.ne_empty {text : String} (name : Go.isName text = true) : text ≠ "" := by
  rintro rfl
  revert name
  decide

namespace CallSite

variable {site : CallSite}

/-- The call of a predeclared function, or the conversion to a predeclared type, by a bare name. -/
def NamesPredeclared (site : CallSite) : Prop :=
  site.receiver = none ∧
    (site.target ∈ Go.builtinFunctions ∨ site.target ∈ Go.primitiveTypes)

theorem Recorded.target_ne_empty (recorded : site.Recorded) : site.target ≠ "" := by
  cases recorded with
  | function spelled => exact Go.isName.ne_empty spelled
  | closure => simp [CallSite.closure, CallSite.function, closureTarget]
  | @method receiver selector _ _ _ _ _ _ =>
      intro empty
      have dotted := dot_mem_memberId receiver selector
      have none : memberId receiver selector = "" := empty
      simp [none] at dotted

theorem Recorded.isPredeclared_iff (recorded : site.Recorded) :
    Resolver.isPredeclared site = true ↔ site.NamesPredeclared := by
  cases recorded with
  | @function name line isGoroutine isDeferred spelled =>
      have plain := Go.isName.not_mem spelled Go.continuesName_dot
      have undotted : Text.contains name "." = false := Text.contains_dot_eq_false plain
      simp [Resolver.isPredeclared, NamesPredeclared, CallSite.function, selector,
        undotted, Text.lastPiece_of_plain plain, Go.isBuiltinFunction, Go.isPrimitiveType]
  | closure =>
      have unlisted : closureTarget ∉ Go.builtinFunctions ∧ closureTarget ∉ Go.primitiveTypes := by
        decide
      have plain : '.' ∉ closureTarget.toList := by decide
      simp [Resolver.isPredeclared, NamesPredeclared, CallSite.closure, CallSite.function, selector,
        Text.lastPiece_of_plain plain, Go.isBuiltinFunction, Go.isPrimitiveType, unlisted]
  | @method receiver selector line importPath isGoroutine isDeferred _ _ =>
      simp [Resolver.isPredeclared, NamesPredeclared, CallSite.method, CallSite.function,
        contains_dot_memberId]

end CallSite

/-- The node that says what a target says. -/
def Target.node (target : Target) (depth : Nat) : CallNode where
  id := target.id
  package := target.package
  function := target.function
  receiver := target.receiver
  kind := target.kind
  file := target.file
  line := target.line
  depth := depth

namespace Resolver

variable {resolver : Resolver} {site : CallSite} {caller : Caller} {target : Target} {id : String}

/-- Is the method declared by an indexed interface, and are such methods told apart? -/
def Dispatches (resolver : Resolver) (symbol : MethodSymbol) : Prop :=
  resolver.options.resolveInterfaces = true ∧
    ∃ type, resolver.index.types.get? symbol.receiverTypeId = some type ∧ type.kind = .interface

theorem methodKind_eq_interfaceMethod_iff (symbol : MethodSymbol) :
    resolver.methodKind symbol = .interfaceMethod ↔ resolver.Dispatches symbol := by
  unfold methodKind Dispatches
  cases resolver.index.types.get? symbol.receiverTypeId with
  | none => simp
  | some type => simp [TypeSymbol.isInterface]

theorem methodKind_eq_or (resolver : Resolver) (symbol : MethodSymbol) :
    resolver.methodKind symbol = .method ∨ resolver.methodKind symbol = .interfaceMethod := by
  unfold methodKind
  split
  · exact .inr rfl
  · exact .inl rfl

/-- The target says what the index says of its identifier, where functions come before methods. -/
structure Accurate (resolver : Resolver) (target : Target) : Prop where
  function : ∀ symbol, resolver.index.functions.get? target.id = some symbol → ∀ depth,
    target.node depth = ⟨target.id, some symbol.package, symbol.name, none, .function,
      some symbol.file, some symbol.line, depth⟩
  method : ∀ symbol, resolver.index.functions.get? target.id = none →
    resolver.index.methods.get? target.id = some symbol →
      (∀ depth, target.node depth = ⟨target.id, some symbol.package, symbol.name,
        some symbol.receiver, target.kind, some symbol.file, some symbol.line, depth⟩) ∧
      (target.kind = .method ∨ target.kind = .interfaceMethod) ∧
      (target.kind = .interfaceMethod ↔ resolver.Dispatches symbol)
  leaf : target.kind.isLeaf = true ↔ resolver.index.callable? target.id = none
  dispatched : target.kind = .interfaceMethod → target.callType ≠ .direct
  interface : target.callType = .interface → target.kind = .interfaceMethod

theorem Accurate.kind_eq_methodKind (accurate : resolver.Accurate target) {symbol : MethodSymbol}
    (noFunction : resolver.index.functions.get? target.id = none)
    (indexed : resolver.index.methods.get? target.id = some symbol) :
    target.kind = resolver.methodKind symbol := by
  obtain ⟨-, kinds, dispatches⟩ := accurate.method symbol noFunction indexed
  have agree := dispatches.trans (methodKind_eq_interfaceMethod_iff symbol).symm
  rcases kinds with plain | dispatched
  · rcases resolver.methodKind_eq_or symbol with own | own
    · rw [plain, own]
    · rw [agree.mpr own, own]
  · rw [dispatched, agree.mp dispatched]

theorem accurate_of_leaf (leaf : target.kind.isLeaf = true)
    (unindexed : resolver.index.callable? target.id = none)
    (callType : target.callType = (resolver.classify site).1) : resolver.Accurate target := by
  obtain ⟨noFunction, noMethod⟩ := Index.callable?_eq_none_iff.mp unindexed
  refine ⟨?_, ?_, by simp [leaf, unindexed], ?_, ?_⟩
  · intro symbol found
    simp [noFunction] at found
  · intro symbol _ found
    simp [noMethod] at found
  · intro dispatched
    simp [dispatched, NodeKind.isLeaf] at leaf
  · intro interface
    exact absurd (callType.symm.trans interface) classify_ne_interface

theorem accurate_of_function {symbol : FunctionSymbol}
    (indexed : resolver.index.functions.get? id = some symbol)
    (found : resolver.internalTarget site id = some target) : resolver.Accurate target := by
  have callable : resolver.index.callable? id = some (.function symbol) := by
    simp [Index.callable?, indexed]
  simp only [internalTarget, callable, Option.some.injEq] at found
  subst found
  refine ⟨?_, ?_, by simp [callable, NodeKind.isLeaf], by simp, ?_⟩
  · intro other otherFound depth
    rw [indexed] at otherFound
    cases otherFound
    rfl
  · intro other noFunction
    simp [indexed] at noFunction
  · exact fun interface => absurd interface classify_ne_interface

theorem accurate_of_method {symbol : MethodSymbol}
    (noFunction : resolver.index.functions.get? id = none)
    (indexed : resolver.index.methods.get? id = some symbol)
    (found : resolver.internalTarget site id = some target) : resolver.Accurate target := by
  have callable : resolver.index.callable? id = some (.method symbol) := by
    simp [Index.callable?, noFunction, indexed]
  simp only [internalTarget, callable, Option.some.injEq] at found
  subst found
  refine ⟨?_, ?_, by simp [callable, isLeaf_methodKind], ?_, ?_⟩
  · intro other otherFound
    simp [noFunction] at otherFound
  · intro other _ otherFound
    rw [indexed] at otherFound
    cases otherFound
    exact ⟨fun _ => rfl, resolver.methodKind_eq_or symbol, methodKind_eq_interfaceMethod_iff symbol⟩
  · -- A direct call of such a method has become a call of its interface.
    intro (dispatched : resolver.methodKind symbol = .interfaceMethod)
    by_cases direct : (resolver.classify site).1 = .direct <;> simp [dispatched, direct]
  · intro interface
    by_contra other
    exact classify_ne_interface (by simpa [other] using interface)

theorem accurate_of_internalTarget (found : resolver.internalTarget site id = some target) :
    resolver.Accurate target := by
  cases function : resolver.index.functions.get? id with
  | some symbol => exact accurate_of_function function found
  | none =>
      cases method : resolver.index.methods.get? id with
      | some symbol => exact accurate_of_method function method found
      | none =>
          have unindexed := Index.callable?_eq_none_iff.mpr ⟨function, method⟩
          simp [internalTarget, unindexed] at found

/-- Whatever a recorded call resolves to says what the index says. -/
theorem accurate_of_resolve (names : resolver.index.NamesOnly) (recorded : site.Recorded)
    (found : resolver.resolve site caller = some target) : resolver.Accurate target := by
  rcases resolve_cases found with rfl | ⟨id, -, isTarget, -, -⟩ | ⟨notClosure, missed, rfl⟩
  · exact accurate_of_leaf rfl (names.closure_not_callable caller.package) rfl
  · exact accurate_of_internalTarget isTarget
  · exact accurate_of_leaf rfl (callable?_externalTarget_eq_none recorded notClosure missed) rfl

/-- Past the filters a call has the target that the chain finds for it, or else an external one,
unless it is named like a predeclared function. -/
theorem resolve_of_unfiltered (recorded : site.Recorded) (notClosure : site.isClosure = false)
    (other : ¬site.NamesPredeclared) :
    resolver.resolve site caller =
      ((resolver.resolveSymbol site caller).bind (resolver.internalTarget site)).or
        (if Go.isBuiltinFunction site.selector then none
          else some (resolver.externalTarget site caller)) := by
  have predeclared : isPredeclared site = false := by
    simpa using mt recorded.isPredeclared_iff.mp other
  unfold resolve
  rw [if_neg (by simpa using recorded.target_ne_empty), notClosure, predeclared]
  simp only [Bool.false_eq_true, if_false, Option.bind_eq_bind]
  generalize (resolver.resolveSymbol site caller).bind (resolver.internalTarget site) = internal
  cases internal <;> rfl

/-- A recorded call has no target only if it is predeclared, or is named like a predeclared function
and no step finds a method of that name. -/
theorem resolve_eq_none_iff (recorded : site.Recorded) :
    resolver.resolve site caller = none ↔ site.isClosure = false ∧
      (site.NamesPredeclared ∨
        site.isMethod = true ∧ Go.isBuiltinFunction site.selector = true ∧
          resolver.resolveSymbol site caller = none) := by
  unfold resolve
  rw [if_neg (by simpa using recorded.target_ne_empty)]
  cases closure : site.isClosure with
  | true => simp
  | false =>
      simp only [Bool.false_eq_true, if_false, true_and, ← recorded.isPredeclared_iff]
      cases predeclared : isPredeclared site with
      | true => simp
      | false =>
          cases resolved : resolver.resolveSymbol site caller with
          | some id =>
              obtain ⟨target, isTarget, -⟩ :=
                exists_internalTarget site (isSome_callable?_of_resolveSymbol resolved)
              simp [isTarget]
          | none =>
              cases builtin : Go.isBuiltinFunction site.selector with
              | false => simp
              | true =>
                  -- A bare name of this kind is predeclared.
                  have selected : site.isMethod = true := by
                    simp only [isPredeclared, builtin, Bool.true_and, Bool.or_eq_false_iff]
                      at predeclared
                    simpa using predeclared.1
                  simp [selected]

end Resolver

end GoAtlas
