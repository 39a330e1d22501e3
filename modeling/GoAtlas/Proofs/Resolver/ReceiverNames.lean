import GoAtlas.Proofs.Resolver.Targets

/-!
The step that compares receivers with names of types. The identifier of a method ends in the names
of its receiver and of itself, so what this step finds for a receiver `x` is the target as a name of
the caller's package, which an earlier step has tried. A receiver `x.y` can be found only in a
package whose own identifier ends in `.x`.
-/

namespace GoAtlas

def ResolverOptions.withFallback (options : ResolverOptions) (fallback : Bool) : ResolverOptions :=
  { options with receiverNameFallback := fallback }

/-- The receiver is `x.y`, and the identifier of the package ends in `.x`. -/
def CallSite.OverlapsPackage (site : CallSite) (package : String) : Prop :=
  ∃ first second, Go.isName first = true ∧ Go.isName second = true ∧
    site.receiver = some (memberId first second) ∧ Text.endsWith package ("." ++ first) = true

namespace Resolver

def withFallback (resolver : Resolver) (fallback : Bool) : Resolver :=
  { resolver with options := resolver.options.withFallback fallback }

variable {resolver : Resolver} {site : CallSite} {caller : Caller} {package id : String}

theorem matchInPackage_of_indexed (slashless : '/' ∉ site.target.toList)
    (indexed : (resolver.index.callable? (memberId package site.target)).isSome = true) :
    resolver.matchInPackage site package = some (memberId package site.target) := by
  simp [matchInPackage, matchCallable, Text.contains_slash_eq_false slashless, indexed]

/-- Whatever is found by the name of a receiver was found in the package before, unless the receiver
repeats the end of the package's identifier. -/
theorem matchInPackage_of_matchReceiverName (names : resolver.index.NamesOnly)
    (recorded : site.Recorded) (found : resolver.matchReceiverName site package = some id) :
    resolver.matchInPackage site package = some id ∨ site.OverlapsPackage package := by
  obtain ⟨receiver, symbol, isReceiver, method, rfl, ends⟩ :=
    exists_method_of_matchReceiverName found
  obtain ⟨rfl, symbolNames⟩ := names.methods method
  cases recorded with
  | function => cases isReceiver
  | closure => cases isReceiver
  | @method receiver selector line importPath isGoroutine isDeferred receiverSpelled spelled =>
      cases isReceiver
      have plain := Go.isName.not_mem spelled Go.continuesName_dot
      have symbolPlain := Go.isName.not_mem symbolNames.name Go.continuesName_dot
      have ownPlain := Go.isName.not_mem symbolNames.receiver Go.continuesName_dot
      have selected : Text.lastPiece "." (memberId receiver selector) = selector :=
        lastPiece_memberId receiver plain
      simp only [CallSite.method, CallSite.selector, CallSite.function, selected] at ends
      obtain ⟨sameName, beginning, sameOwner⟩ :=
        exists_of_endsWith_memberId symbolPlain plain ends
      cases receiverSpelled with
      | @name _ receiverSpelled =>
          -- The receiver is the type, so the identifier is the target in the method's package.
          left
          have receiverPlain := Go.isName.not_mem receiverSpelled Go.continuesName_dot
          obtain ⟨-, sameReceiver⟩ := memberId_inj ownPlain receiverPlain sameOwner
          have isTarget : symbol.id = memberId symbol.package (memberId receiver selector) := by
            rw [MethodSymbol.id, MethodSymbol.receiverTypeId, sameName, sameReceiver,
              memberId_memberId]
          have slashless : '/' ∉ (memberId receiver selector).toList := by
            simp [toList_memberId, Go.isName.not_mem receiverSpelled Go.continuesName_slash,
              Go.isName.not_mem spelled Go.continuesName_slash]
          have indexed := isSome_callable?_of_matchReceiverName found
          rw [isTarget] at indexed ⊢
          exact matchInPackage_of_indexed slashless indexed
      | @path first second firstSpelled secondSpelled =>
          right
          have secondPlain := Go.isName.not_mem secondSpelled Go.continuesName_dot
          rw [memberId_memberId] at sameOwner
          obtain ⟨samePackage, -⟩ := memberId_inj ownPlain secondPlain sameOwner
          refine ⟨first, second, firstSpelled, secondSpelled, rfl, ?_⟩
          rw [samePackage, Text.endsWith_iff]
          exact ⟨beginning, by simp [memberId, String.append_assoc]⟩

/-! ### With the step and without it -/

/-- No later step counts once the target is found in the caller's package. -/
theorem resolveSymbol_of_matchInPackage
    (found : resolver.matchInPackage site caller.package = some id) :
    resolver.resolveSymbol site caller = (resolver.matchCallable site.target).or (some id) := by
  unfold resolveSymbol
  rw [found]
  cases resolver.matchCallable site.target <;> simp

theorem resolveSymbol_withFallback (names : resolver.index.NamesOnly) (recorded : site.Recorded) :
    (resolver.withFallback true).resolveSymbol site caller =
        (resolver.withFallback false).resolveSymbol site caller ∨
      site.OverlapsPackage caller.package := by
  cases named : resolver.matchReceiverName site caller.package with
  | none =>
      left
      have same : (resolver.withFallback true).matchReceiverName site caller.package = none := named
      unfold resolveSymbol
      rw [same]
      rfl
  | some id =>
      refine (matchInPackage_of_matchReceiverName names recorded named).imp_left ?_
      intro earlier
      have tried (fallback : Bool) :
          (resolver.withFallback fallback).matchInPackage site caller.package = some id := earlier
      rw [resolveSymbol_of_matchInPackage (tried true),
        resolveSymbol_of_matchInPackage (tried false)]
      rfl

/-- The step changes nothing, except perhaps where a receiver `x.y` repeats the end of the caller's
package. -/
theorem resolve_withFallback (resolver : Resolver) (names : resolver.index.NamesOnly)
    (recorded : site.Recorded) :
    (resolver.withFallback true).resolve site caller =
        (resolver.withFallback false).resolve site caller ∨
      site.OverlapsPackage caller.package := by
  refine (resolveSymbol_withFallback names recorded).imp_left ?_
  intro same
  unfold resolve
  rw [same]
  rfl

/-- Such a receiver can make a difference. -/
example :
    let unit : Go.SourceUnit := ⟨"x", [], [], [], [⟨"m", "y", none, "a.x", "a.go", 2, []⟩]⟩
    let found (fallback : Bool) :=
      resolveSymbol ⟨Index.empty.addUnit "a.x" "a.x" unit, .withFallback .standard fallback⟩
        (.method "x.y" "m" 3) (.inPackage "a.x")
    found true = some "a.x.y.m" ∧ found false = none := by
  decide

end Resolver

end GoAtlas
