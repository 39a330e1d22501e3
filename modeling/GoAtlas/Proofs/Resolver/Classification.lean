import GoAtlas.Architecture
import GoAtlas.Proofs.Resolver.Kinds

/-!
What the options for classification change. They tell calls by `go` and calls of interfaces from
others, and have no part in what a call resolves to. So the targets of a call are alike under every
setting once the classification is forgotten, and an architecture, which shows none of it, is the
same.
-/

namespace GoAtlas

/-- A setting of the options for classification. -/
structure Classification where
  resolveInterfaces : Bool
  trackGoroutines : Bool
  deriving DecidableEq, Repr

def ResolverOptions.reclassified (options : ResolverOptions) (setting : Classification) :
    ResolverOptions :=
  { options with
    resolveInterfaces := setting.resolveInterfaces
    trackGoroutines := setting.trackGoroutines }

/-- The kind, with methods of interfaces taken for methods. -/
def NodeKind.unclassified : NodeKind → NodeKind
  | interfaceMethod => method
  | kind => kind

@[simp] theorem NodeKind.isLeaf_unclassified (kind : NodeKind) :
    kind.unclassified.isLeaf = kind.isLeaf := by
  cases kind <;> rfl

@[simp] theorem NodeKind.unclassified_beq_external (kind : NodeKind) :
    (kind.unclassified == external) = (kind == external) := by
  cases kind <;> rfl

namespace Target

/-- The target of a call, however it is called. -/
def unclassified (target : Target) : Target :=
  { target with kind := target.kind.unclassified, callType := .direct, isAsync := false }

/-- The classification of a target is one that the options allow. -/
structure Classified (options : ResolverOptions) (target : Target) : Prop where
  async : target.isAsync = true ↔ target.callType = .goroutine
  untracked : options.trackGoroutines = false → target.isAsync = false
  unresolved : options.resolveInterfaces = false →
    target.callType ≠ .interface ∧ target.kind ≠ .interfaceMethod

end Target

namespace Resolver

def reclassified (resolver : Resolver) (setting : Classification) : Resolver :=
  { resolver with options := resolver.options.reclassified setting }

/-! ### Under two settings -/

section

variable (resolver : Resolver) (setting : Classification) (site : CallSite) (caller : Caller)
  (id : String)

theorem unclassified_methodKind (symbol : MethodSymbol) :
    (resolver.methodKind symbol).unclassified = .method := by
  unfold methodKind
  split <;> rfl

theorem internalTarget_reclassified :
    ((resolver.reclassified setting).internalTarget site id).map Target.unclassified =
      (resolver.internalTarget site id).map Target.unclassified := by
  have sameIndex : (resolver.reclassified setting).index = resolver.index := rfl
  unfold internalTarget
  rw [sameIndex]
  cases resolver.index.callable? id with
  | none => rfl
  | some callable => cases callable <;> simp [Target.unclassified, unclassified_methodKind]

/-- No setting changes what is called. -/
theorem resolve_reclassified :
    ((resolver.reclassified setting).resolve site caller).map Target.unclassified =
      (resolver.resolve site caller).map Target.unclassified := by
  have sameSymbol : (resolver.reclassified setting).resolveSymbol site caller =
    resolver.resolveSymbol site caller := rfl
  unfold resolve
  rw [sameSymbol]
  by_cases nameless : site.target == ""
  · simp [nameless]
  by_cases closure : site.isClosure
  · simp [nameless, closure, closureTarget, Target.unclassified]
  by_cases predeclared : isPredeclared site
  · simp [nameless, closure, predeclared]
  simp only [nameless, closure, predeclared, if_false, Bool.false_eq_true]
  cases resolved : resolver.resolveSymbol site caller with
  | none =>
      simp only [Option.bind_eq_bind, Option.bind_none]
      split <;> rfl
  | some id =>
      have indexed := isSome_callable?_of_resolveSymbol resolved
      have otherIndexed : ((resolver.reclassified setting).index.callable? id).isSome = true :=
        indexed
      obtain ⟨target, isTarget, -⟩ := exists_internalTarget site indexed
      obtain ⟨other, isOther, -⟩ := exists_internalTarget site otherIndexed
      have same := resolver.internalTarget_reclassified setting site id
      simpa [isTarget, isOther] using same

/-- The symbol to which a target links another one. -/
def linkedSymbol (target : Target) : Option String :=
  if target.kind.isLeaf || target.id == id then none else some target.id

theorem calledSymbols_eq (callable : Callable) :
    resolver.calledSymbols id callable = callable.calls.filterMap fun site =>
      ((resolver.resolve site (.ofCallable callable)).map Target.unclassified).bind
        (linkedSymbol id) := by
  unfold calledSymbols
  congr 1
  funext site
  cases resolver.resolve site (.ofCallable callable) with
  | none => rfl
  | some target => simp [linkedSymbol, Target.unclassified]

theorem callLinks_reclassified :
    (resolver.reclassified setting).callLinks = resolver.callLinks := by
  have sameIndex : (resolver.reclassified setting).index = resolver.index := rfl
  unfold callLinks
  simp only [calledSymbols_eq, resolve_reclassified, sameIndex]

end

/-! ### Under one setting -/

variable {resolver : Resolver} {site : CallSite} {caller : Caller} {target : Target} {id : String}

theorem async_classify :
    (resolver.classify site).2 = true ↔ (resolver.classify site).1 = .goroutine := by
  unfold classify
  repeat' split
  all_goals simp

theorem classify_ne_interface : (resolver.classify site).1 ≠ .interface := by
  unfold classify
  repeat' split
  all_goals simp

theorem classify_of_untracked (untracked : resolver.options.trackGoroutines = false) :
    (resolver.classify site).2 = false := by
  unfold classify
  simp only [untracked, Bool.and_false, Bool.false_eq_true, if_false]
  repeat' split
  all_goals rfl

theorem methodKind_of_unresolved (unresolved : resolver.options.resolveInterfaces = false)
    (symbol : MethodSymbol) : resolver.methodKind symbol = .method := by
  simp [methodKind, unresolved]

theorem kindOf_ne_interfaceMethod (unresolved : resolver.options.resolveInterfaces = false)
    (id : String) : resolver.kindOf id ≠ .interfaceMethod := by
  unfold kindOf
  split
  · simp
  · simp [methodKind_of_unresolved unresolved]
  · split <;> simp

/-- A target that takes over what is said of its site. -/
theorem classified_of_site (callType : target.callType = (resolver.classify site).1)
    (isAsync : target.isAsync = (resolver.classify site).2)
    (kind : target.kind ≠ .interfaceMethod) : target.Classified resolver.options where
  async := by
    rw [callType, isAsync]
    exact async_classify
  untracked := by
    rw [isAsync]
    exact classify_of_untracked
  unresolved _ := ⟨callType ▸ classify_ne_interface, kind⟩

theorem classified_of_internalTarget (found : resolver.internalTarget site id = some target) :
    target.Classified resolver.options := by
  unfold internalTarget at found
  dsimp only at found
  split at found
  · cases found
  · cases found
    exact classified_of_site rfl rfl (by simp)
  · rename_i symbol _
    cases found
    cases kind : resolver.methodKind symbol == .interfaceMethod with
    | false => exact classified_of_site rfl rfl (by simpa using kind)
    | true =>
        have isInterface : resolver.methodKind symbol = .interfaceMethod := by simpa using kind
        refine ⟨?_, classify_of_untracked, fun unresolved => ?_⟩
        · -- Only direct calls become calls of the interface, and these are not asynchronous.
          change (resolver.classify site).2 = true ↔ _
          rw [async_classify]
          by_cases direct : (resolver.classify site).1 = .direct <;> simp [direct]
        · rw [methodKind_of_unresolved unresolved] at isInterface
          cases isInterface

theorem classified_of_resolve (found : resolver.resolve site caller = some target) :
    target.Classified resolver.options := by
  rcases resolve_cases found with rfl | ⟨id, -, isTarget, -⟩ | ⟨-, -, rfl⟩
  · exact classified_of_site rfl rfl (by simp [closureTarget])
  · exact classified_of_internalTarget isTarget
  · exact classified_of_site rfl rfl (by simp [externalTarget])

end Resolver

theorem Architecture.ofIndex_reclassified (index : Index) (includeCalls : Bool)
    (options : ResolverOptions) (setting : Classification) :
    ofIndex index ⟨includeCalls, options.reclassified setting⟩ =
      ofIndex index ⟨includeCalls, options⟩ := by
  have sameLinks : Resolver.callLinks ⟨index, options.reclassified setting⟩ =
    Resolver.callLinks ⟨index, options⟩ := Resolver.callLinks_reclassified ⟨index, options⟩ setting
  simp only [ofIndex, sameLinks]

end GoAtlas
