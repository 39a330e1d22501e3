import GoAtlas.Proofs.Resolver.Imports

/-!
What bare names call. The steps that need a receiver or an import have nothing to go by, so a bare
name stands for what can be called under it in the caller's package. Whether that is indexed decides
between a symbol and an external target, both under the same identifier. Names that are predeclared
are never looked up, and types not at all.
-/

namespace GoAtlas

namespace CallSite

variable {site : CallSite} {name : String}

/-- A recorded call of something by the mere name of it. -/
structure IsBareCall (site : CallSite) (name : String) : Prop where
  recorded : site.Recorded
  bare : site.receiver = none
  named : site.target = name

theorem IsBareCall.importPath_eq_none (call : site.IsBareCall name) : site.importPath = none := by
  cases call.recorded with
  | function => rfl
  | closure => rfl
  | method => cases call.bare

/-- Function literals are not called by names that Go admits. -/
theorem IsBareCall.isClosure_eq_false (call : site.IsBareCall name)
    (spelled : Go.isName name = true) : site.isClosure = false := by
  refine beq_eq_false_iff_ne.mpr fun (same : site.target = closureTarget) => ?_
  have plain := Go.isName.not_mem spelled Go.continuesName_angle
  rw [← call.named, same] at plain
  exact plain (by decide)

end CallSite

/-- The identifiers of callables are dotted. -/
theorem Index.NamesOnly.callable?_of_undotted {index : Index} (names : index.NamesOnly)
    {text : String} (plain : '.' ∉ text.toList) : index.callable? text = none := by
  rw [Option.eq_none_iff_forall_ne_some]
  rintro callable found
  obtain ⟨⟨owner, name, -, rfl⟩, -⟩ := names.callable found
  exact plain (dot_mem_memberId owner name)

namespace Resolver

variable {resolver : Resolver} {site : CallSite} {caller : Caller} {target : Target} {name : String}

/-! ### Bare names -/

theorem matchCallable_of_some {text id : String} (found : resolver.matchCallable text = some id) :
    id = text := by
  unfold matchCallable at found
  split at found
  · exact (Option.some.inj found).symm
  · cases found

/-- Only one step of the chain finds something for a bare name. -/
theorem resolveSymbol_of_bare (names : resolver.index.NamesOnly) (call : site.IsBareCall name)
    (spelled : Go.isName name = true) :
    resolver.resolveSymbol site caller = resolver.matchCallable (memberId caller.package name) := by
  have plain := Go.isName.not_mem spelled Go.continuesName_dot
  have slashless := Text.contains_slash_eq_false (Go.isName.not_mem spelled Go.continuesName_slash)
  -- The target as it is written has no dot; the last three steps need an import or a receiver.
  have whole : resolver.matchCallable site.target = none := by
    simp [matchCallable, call.named, names.callable?_of_undotted plain]
  have inPackage : resolver.matchInPackage site caller.package =
      resolver.matchCallable (memberId caller.package name) := by
    simp [matchInPackage, call.named, slashless]
  have imported : resolver.matchImport site = none := by
    simp [matchImport, call.importPath_eq_none]
  have named : resolver.matchReceiverName site caller.package = none := by
    simp [matchReceiverName, call.bare]
  have bound : resolver.matchReceiverBinding site caller = none := by
    simp [matchReceiverBinding, call.bare]
  unfold resolveSymbol
  rw [whole, inPackage, imported, named, bound]
  simp

theorem resolve_of_predeclared (call : site.IsBareCall name) (spelled : Go.isName name = true)
    (predeclared : site.NamesPredeclared) : resolver.resolve site caller = none :=
  (resolve_eq_none_iff call.recorded).mpr ⟨call.isClosure_eq_false spelled, .inl predeclared⟩

/-- Among bare names, all that are called like predeclared functions are filtered. -/
theorem resolve_of_other (call : site.IsBareCall name) (spelled : Go.isName name = true)
    (other : ¬site.NamesPredeclared) :
    resolver.resolve site caller =
      ((resolver.resolveSymbol site caller).bind (resolver.internalTarget site)).or
        (some (resolver.externalTarget site caller)) := by
  have plain := Go.isName.not_mem spelled Go.continuesName_dot
  have unlisted : name ∉ Go.builtinFunctions := fun listed =>
    other ⟨call.bare, .inl (call.named ▸ listed)⟩
  have ordinary : Go.isBuiltinFunction site.selector = false := by
    rw [CallSite.selector, call.named, Text.lastPiece_of_plain plain, Go.isBuiltinFunction]
    simpa using unlisted
  rw [resolve_of_unfiltered call.recorded (call.isClosure_eq_false spelled) other, ordinary,
    if_neg Bool.false_ne_true]

/-- A bare name that is not predeclared has a target under its identifier in the caller's package,
whether something is indexed there or not. -/
theorem exists_target_of_bare (names : resolver.index.NamesOnly) (call : site.IsBareCall name)
    (spelled : Go.isName name = true) (other : ¬site.NamesPredeclared) (caller : Caller) :
    ∃ target, resolver.resolve site caller = some target ∧
      target.id = memberId caller.package name ∧ target.kind = resolver.kindOf target.id ∧
      resolver.Accurate target := by
  suffices ∃ target, resolver.resolve site caller = some target ∧
      target.id = memberId caller.package name by
    obtain ⟨target, resolved, own⟩ := this
    exact ⟨target, resolved, own, kind_eq_kindOf names call.recorded resolved,
      accurate_of_resolve names call.recorded resolved⟩
  rw [resolve_of_other call spelled other, resolveSymbol_of_bare names call spelled]
  cases found : resolver.matchCallable (memberId caller.package name) with
  | some id =>
      obtain ⟨target, isTarget, own, -⟩ :=
        exists_internalTarget site (isSome_callable?_of_matchCallable found)
      exact ⟨target, by simp [isTarget], own.trans (matchCallable_of_some found)⟩
  | none =>
      have undotted := Text.contains_dot_eq_false (Go.isName.not_mem spelled Go.continuesName_dot)
      exact ⟨_, rfl, by simp [externalTarget, call.named, undotted]⟩

end Resolver

/-! ### Calls that are written like types -/

/-- The call is written like the identifier of a type. In the type's own package its name is
enough. -/
def CallSite.NamesType (site : CallSite) (package : String) (type : TypeSymbol) : Prop :=
  site.receiver.getD package = type.package ∧ site.selector = type.name

namespace Resolver

variable {resolver : Resolver} {site : CallSite} {caller : Caller} {target : Target}

theorem cases_of_external (found : resolver.resolve site caller = some target)
    (external : target.kind = .external) :
    site.isClosure = false ∧ resolver.resolveSymbol site caller = none ∧
      target = resolver.externalTarget site caller := by
  rcases resolve_cases found with rfl | ⟨id, -, -, -, inner⟩ | missed
  · cases external
  · rw [external] at inner
    cases inner
  · exact missed

/-- An external target is under the identifier of a type exactly if the call is written like it. -/
theorem id_eq_iff_namesType (names : resolver.index.NamesOnly) (recorded : site.Recorded)
    (found : resolver.resolve site caller = some target) (external : target.kind = .external)
    {typeId : String} {type : TypeSymbol}
    (indexed : resolver.index.types.get? typeId = some type) :
    target.id = typeId ↔ site.NamesType caller.package type := by
  obtain ⟨notClosure, -, rfl⟩ := cases_of_external found external
  obtain ⟨rfl, typeNames⟩ := names.types indexed
  obtain ⟨name, spelled, selects, own⟩ :=
    externalTarget_id resolver caller recorded notClosure
  rw [own, CallSite.NamesType, selects]
  constructor
  · exact memberId_inj (Go.isName.not_mem spelled Go.continuesName_dot)
      (Go.isName.not_mem typeNames.name Go.continuesName_dot)
  · rintro ⟨samePackage, sameName⟩
    rw [samePackage, sameName]
    rfl

end Resolver

end GoAtlas
