import GoAtlas.Proofs.Index.Callables
import GoAtlas.Resolver.Calls

/-!
What resolved targets are. A target that is no leaf is a callable of the index; a leaf never is,
since the chain of steps would have found it and no callable is named like a function literal.
-/

namespace GoAtlas.Resolver

variable {resolver : Resolver} {site : CallSite} {caller : Caller} {target : Target} {id : String}

theorem isSome_callable?_of_function (found : (resolver.index.functions.contains id) = true) :
    (resolver.index.callable? id).isSome = true :=
  Index.isSome_callable?_iff.mpr (.inl found)

theorem isSome_callable?_of_method (found : (resolver.index.methods.contains id) = true) :
    (resolver.index.callable? id).isSome = true :=
  Index.isSome_callable?_iff.mpr (.inr found)

theorem isSome_callable?_of_methodOf {typeId selector : String}
    (found : resolver.methodOf typeId selector = some id) :
    (resolver.index.callable? id).isSome = true := by
  unfold methodOf at found
  dsimp only at found
  split at found
  · rename_i contained
    cases found
    exact isSome_callable?_of_method contained
  · cases found

theorem isSome_callable?_of_matchCallable {text : String}
    (found : resolver.matchCallable text = some id) :
    (resolver.index.callable? id).isSome = true := by
  unfold matchCallable at found
  split at found
  · rename_i callable
    cases found
    exact callable
  · cases found

theorem isSome_callable?_of_matchImport (found : resolver.matchImport site = some id) :
    (resolver.index.callable? id).isSome = true := by
  simp only [matchImport, Option.bind_eq_bind, Option.bind_eq_some_iff] at found
  obtain ⟨path, -, package, -, found⟩ := found
  split at found
  · rename_i contained
    cases found
    exact isSome_callable?_of_function contained
  · cases found

theorem exists_method_of_matchReceiverName {package : String}
    (found : resolver.matchReceiverName site package = some id) :
    ∃ receiver symbol, site.receiver = some receiver ∧
      resolver.index.methods.get? id = some symbol ∧ symbol.package = package ∧
      Text.endsWith id ("." ++ memberId receiver site.selector) = true := by
  unfold matchReceiverName at found
  split at found
  · simp only [Option.bind_eq_bind, Option.bind_eq_some_iff] at found
    obtain ⟨receiver, given, ⟨key, symbol⟩, entry, same⟩ := found
    cases same
    have passes := List.find?_some entry
    simp only [Bool.and_eq_true, beq_iff_eq] at passes
    exact ⟨receiver, symbol, given, Table.get?_eq_some_iff.mpr (List.mem_of_find?_eq_some entry),
      passes⟩
  · cases found

theorem isSome_callable?_of_matchReceiverName {package : String}
    (found : resolver.matchReceiverName site package = some id) :
    (resolver.index.callable? id).isSome = true := by
  obtain ⟨_, symbol, -, method, -⟩ := exists_method_of_matchReceiverName found
  exact isSome_callable?_of_method (Table.contains_iff.mpr ⟨symbol, method⟩)

theorem isSome_callable?_of_matchReceiverBinding
    (found : resolver.matchReceiverBinding site caller = some id) :
    (resolver.index.callable? id).isSome = true := by
  simp only [matchReceiverBinding, Option.bind_eq_bind, Option.bind_eq_some_iff] at found
  obtain ⟨receiverVar, -, receiverType, -, receiver, -, found⟩ := found
  split at found
  · rcases Option.or_eq_some_iff.mp found with own | ⟨-, embedded⟩
    · exact isSome_callable?_of_methodOf own
    · simp only [matchEmbedded, Option.bind_eq_bind, Option.bind_eq_some_iff] at embedded
      obtain ⟨owner, -, embedded⟩ := embedded
      obtain ⟨embed, -, promoted⟩ := List.exists_of_findSome?_eq_some embedded
      obtain ⟨type, -, promoted⟩ := Option.bind_eq_some_iff.mp promoted
      exact isSome_callable?_of_methodOf promoted
  · simp only [matchField, Option.bind_eq_bind, Option.bind_eq_some_iff] at found
    obtain ⟨rest, -, fieldName, -, owner, -, field, -, type, -, promoted⟩ := found
    exact isSome_callable?_of_methodOf promoted

theorem isSome_callable?_of_matchInPackage {package : String}
    (found : resolver.matchInPackage site package = some id) :
    (resolver.index.callable? id).isSome = true := by
  unfold matchInPackage at found
  split at found
  · cases found
  · exact isSome_callable?_of_matchCallable found

/-- Whatever step finds a symbol, it is a callable of the index. -/
theorem isSome_callable?_of_resolveSymbol (found : resolver.resolveSymbol site caller = some id) :
    (resolver.index.callable? id).isSome = true := by
  simp only [resolveSymbol, Option.or_eq_some_iff] at found
  rcases found with (((whole | ⟨-, inPackage⟩) | ⟨-, imported⟩) | ⟨-, named⟩) | ⟨-, bound⟩
  · exact isSome_callable?_of_matchCallable whole
  · exact isSome_callable?_of_matchInPackage inPackage
  · exact isSome_callable?_of_matchImport imported
  · split at named
    · exact isSome_callable?_of_matchReceiverName named
    · cases named
  · exact isSome_callable?_of_matchReceiverBinding bound

/-- A callable becomes a target of its own identifier, which is no leaf. -/
theorem exists_internalTarget (site : CallSite)
    (callable : (resolver.index.callable? id).isSome = true) :
    ∃ target, resolver.internalTarget site id = some target ∧ target.id = id ∧
      target.kind.isLeaf = false := by
  unfold internalTarget
  dsimp only
  split
  · rename_i absent
    simp [absent] at callable
  · exact ⟨_, rfl, rfl, rfl⟩
  · rename_i symbol _
    refine ⟨_, rfl, rfl, ?_⟩
    unfold methodKind
    dsimp only
    split <;> rfl

/-- The four ways in which a call resolves. -/
theorem resolve_cases (found : resolver.resolve site caller = some target) :
    target = resolver.closureTarget site caller ∨
      (∃ id, resolver.resolveSymbol site caller = some id ∧
        resolver.internalTarget site id = some target ∧ target.id = id ∧
          target.kind.isLeaf = false) ∨
      (site.isClosure = false ∧ resolver.resolveSymbol site caller = none ∧
        target = resolver.externalTarget site caller) := by
  unfold resolve at found
  split at found
  · cases found
  split at found
  · cases found
    exact .inl rfl
  rename_i notClosure
  split at found
  · cases found
  cases resolved : resolver.resolveSymbol site caller with
  | none =>
      simp only [resolved, Option.bind_eq_bind, Option.bind_none] at found
      split at found
      · cases found
      · cases found
        exact .inr (.inr ⟨by simpa using notClosure, rfl, rfl⟩)
  | some id =>
      obtain ⟨internal, isTarget, own, inner⟩ :=
        exists_internalTarget site (isSome_callable?_of_resolveSymbol resolved)
      simp only [resolved, Option.bind_eq_bind, Option.bind_some, isTarget] at found
      cases found
      exact .inr (.inl ⟨id, rfl, isTarget, own, inner⟩)

/-- A target that is no leaf is what the chain of steps finds. -/
theorem resolveSymbol_of_inner (found : resolver.resolve site caller = some target)
    (inner : target.kind.isLeaf = false) :
    resolver.resolveSymbol site caller = some target.id := by
  rcases resolve_cases found with rfl | ⟨id, resolved, -, rfl, -⟩ | ⟨-, -, rfl⟩
  · cases inner
  · exact resolved
  · cases inner

/-- A target that is no leaf is a callable of the index. -/
theorem isSome_callable?_of_inner (found : resolver.resolve site caller = some target)
    (inner : target.kind.isLeaf = false) : (resolver.index.callable? target.id).isSome = true :=
  isSome_callable?_of_resolveSymbol (resolveSymbol_of_inner found inner)

theorem callable?_eq_none_of_matchCallable {text : String}
    (missed : resolver.matchCallable text = none) : resolver.index.callable? text = none := by
  unfold matchCallable at missed
  split at missed
  · cases missed
  · rename_i absent
    simpa using absent

/-- What no step finds is under no identifier that an external target could have. -/
theorem callable?_externalTarget_eq_none (recorded : site.Recorded)
    (notClosure : site.isClosure = false) (missed : resolver.resolveSymbol site caller = none) :
    resolver.index.callable? (resolver.externalTarget site caller).id = none := by
  simp only [resolveSymbol, Option.or_eq_none_iff] at missed
  obtain ⟨⟨⟨⟨whole, inPackage⟩, -⟩, -⟩, -⟩ := missed
  simp only [externalTarget]
  split
  · exact callable?_eq_none_of_matchCallable whole
  · rename_i undotted
    -- A target without a dot is a mere name, so it was tried in the caller's package.
    have slashless : Text.contains site.target "/" = false := by
      apply Text.contains_slash_eq_false
      cases recorded with
      | function spelled => exact Go.isName.not_mem spelled Go.continuesName_slash
      | closure => simp [CallSite.isClosure, CallSite.closure, CallSite.function] at notClosure
      | method receiverSpelled selectorSpelled =>
          exact absurd (contains_dot_memberId _ _) undotted
    simp only [matchInPackage, slashless] at inPackage
    exact callable?_eq_none_of_matchCallable inPackage

/-- A leaf is never a callable of the index. -/
theorem callable?_eq_none_of_leaf (names : resolver.index.NamesOnly) (recorded : site.Recorded)
    (found : resolver.resolve site caller = some target) (leaf : target.kind.isLeaf = true) :
    resolver.index.callable? target.id = none := by
  rcases resolve_cases found with rfl | ⟨id, -, -, -, inner⟩ | ⟨notClosure, missed, rfl⟩
  · exact names.closure_not_callable caller.package
  · simp [inner] at leaf
  · exact callable?_externalTarget_eq_none recorded notClosure missed

end GoAtlas.Resolver
