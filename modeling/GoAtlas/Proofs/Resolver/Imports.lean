import GoAtlas.Proofs.Index.History
import GoAtlas.Proofs.Resolver.Accuracy

/-!
Calls through a selector, and the steps that compare texts. Such a call is matched as it is written
and as a name of the caller's package, and only then through the import that its receiver names. So
it goes to the imported package unless one of the two spellings is indexed itself.
-/

namespace GoAtlas

/-! ### Calls through a selector -/

namespace CallSite

variable {site : CallSite}

theorem Recorded.slashless (recorded : site.Recorded) : '/' ∉ site.target.toList := by
  cases recorded with
  | function spelled => exact Go.isName.not_mem spelled Go.continuesName_slash
  | closure =>
      have plain : '/' ∉ closureTarget.toList := by decide
      exact plain
  | method receiverSpelled spelled =>
      have selectorSlashless := Go.isName.not_mem spelled Go.continuesName_slash
      cases receiverSpelled with
      | name receiverSpelled =>
          simp [CallSite.method, CallSite.function, toList_memberId, selectorSlashless,
            Go.isName.not_mem receiverSpelled Go.continuesName_slash]
      | path firstSpelled secondSpelled =>
          simp [CallSite.method, CallSite.function, toList_memberId, selectorSlashless,
            Go.isName.not_mem firstSpelled Go.continuesName_slash,
            Go.isName.not_mem secondSpelled Go.continuesName_slash]

theorem Recorded.isMethod_of_importPath (recorded : site.Recorded) {path : String}
    (imported : site.importPath = some path) : site.isMethod = true := by
  cases recorded with
  | function => cases imported
  | closure => cases imported
  | method => rfl

theorem Recorded.isClosure_eq_false (recorded : site.Recorded) (isMethod : site.isMethod = true) :
    site.isClosure = false := by
  cases recorded with
  | function => cases isMethod
  | closure => cases isMethod
  | @method receiver selector =>
      have dotted := dot_mem_memberId receiver selector
      refine beq_eq_false_iff_ne.mpr fun (same : memberId receiver selector = closureTarget) => ?_
      rw [same] at dotted
      revert dotted
      decide

theorem Recorded.not_namesPredeclared (recorded : site.Recorded) (isMethod : site.isMethod = true) :
    ¬site.NamesPredeclared := by
  rintro ⟨noReceiver, -⟩
  obtain ⟨receiver, given⟩ := recorded.isMethod_iff.mp isMethod
  rw [noReceiver] at given
  cases given

end CallSite

namespace Resolver

variable {resolver : Resolver} {site : CallSite} {caller : Caller} {package id : String}

/-- What the chain finds for a call through a selector is its target. -/
theorem exists_target_of_resolveSymbol (recorded : site.Recorded) (isMethod : site.isMethod = true)
    (found : resolver.resolveSymbol site caller = some id) :
    ∃ target, resolver.resolve site caller = some target ∧ target.id = id ∧
      target.kind.isLeaf = false ∧ resolver.Accurate target := by
  obtain ⟨target, isTarget, own, inner⟩ :=
    exists_internalTarget site (isSome_callable?_of_resolveSymbol found)
  refine ⟨target, ?_, own, inner, accurate_of_internalTarget isTarget⟩
  rw [resolve_of_unfiltered recorded (recorded.isClosure_eq_false isMethod)
    (recorded.not_namesPredeclared isMethod), found, Option.bind_some, isTarget, Option.some_or]

/-! ### The steps that compare texts -/

/-- A callable under the target as it is written, or as a name of a package. -/
def matchWritten (resolver : Resolver) (site : CallSite) (package : String) : Option String :=
  (resolver.matchCallable site.target).or (resolver.matchInPackage site package)

theorem resolveSymbol_of_matchWritten
    (found : resolver.matchWritten site caller.package = some id) :
    resolver.resolveSymbol site caller = some id := by
  have first : (resolver.matchCallable site.target).or
      (resolver.matchInPackage site caller.package) = some id := found
  unfold resolveSymbol
  rw [first]
  rfl

theorem resolveSymbol_of_matchImport
    (unwritten : resolver.matchWritten site caller.package = none)
    (found : resolver.matchImport site = some id) :
    resolver.resolveSymbol site caller = some id := by
  have first : (resolver.matchCallable site.target).or
      (resolver.matchInPackage site caller.package) = none := unwritten
  unfold resolveSymbol
  rw [first, found]
  rfl

theorem matchWritten_eq (recorded : site.Recorded) :
    resolver.matchWritten site package =
      if (resolver.index.callable? site.target).isSome then some site.target
      else if (resolver.index.callable? (memberId package site.target)).isSome then
        some (memberId package site.target)
      else none := by
  have slashless := Text.contains_slash_eq_false recorded.slashless
  unfold matchWritten matchInPackage matchCallable
  rw [slashless]
  split <;> simp

theorem matchImport_of_function {path : String} (imported : site.importPath = some path)
    (leads : resolver.index.packageOfImport? path = some package)
    (indexed : resolver.index.functions.contains (memberId package site.selector) = true) :
    resolver.matchImport site = some (memberId package site.selector) := by
  simp [matchImport, imported, leads, indexed]

/-- A call through an import goes to the function of the package to which the import leads, unless
the call as it is written, or with the caller's package before it, is itself the identifier of
something indexed, which then is called. -/
theorem resolve_imported (resolver : Resolver) (caller : Caller) (recorded : site.Recorded)
    {path : String} (imported : site.importPath = some path)
    (leads : resolver.index.packageOfImport? path = some package)
    (indexed : resolver.index.functions.contains (memberId package site.selector) = true) :
    ∃ target, resolver.resolve site caller = some target ∧
      target.kind.isLeaf = false ∧ resolver.Accurate target ∧
      target.id =
        if (resolver.index.callable? site.target).isSome then site.target
        else if (resolver.index.callable? (memberId caller.package site.target)).isSome then
          memberId caller.package site.target
        else memberId package site.selector := by
  have function := matchImport_of_function imported leads indexed
  obtain ⟨id, found, same⟩ : ∃ id, resolver.resolveSymbol site caller = some id ∧
      id = (resolver.matchWritten site caller.package).getD (memberId package site.selector) := by
    cases written : resolver.matchWritten site caller.package with
    | some id => exact ⟨id, resolveSymbol_of_matchWritten written, rfl⟩
    | none => exact ⟨_, resolveSymbol_of_matchImport written function, rfl⟩
  obtain ⟨target, resolved, own, inner, accurate⟩ :=
    exists_target_of_resolveSymbol recorded (recorded.isMethod_of_importPath imported) found
  refine ⟨target, resolved, inner, accurate, ?_⟩
  rw [own, same, matchWritten_eq recorded]
  split
  · rfl
  · split <;> rfl

/-! ### Two packages of one name -/

/-- Two packages called `store`, of which a third one imports the second. -/
def shops : List Source :=
  [{ directory := "store", file := "a.go"
     content := "package store\nfunc Open() \x7b\n\x7d\n".toUTF8.toList },
    { directory := "app/store", file := "b.go"
      content :=
        ("package store\nfunc Open() \x7b\n\x7d\n" ++
          "func Close() \x7b\n\x7d\n").toUTF8.toList },
    { directory := "main", file := "c.go"
      content :=
        ("package main\nimport \"example.com/app/store\"\n" ++
          "func Run() \x7b\nstore.Open()\nstore.Close()\n\x7d\n").toUTF8.toList }]

/-- A call of the imported `store`. -/
def shopCall (name : String) (line : Nat) : CallSite :=
  { CallSite.method "store" name line with importPath := some "example.com/app/store" }

def shopRun : FunctionSymbol :=
  ⟨"Run", "main", "c.go", 3, [shopCall "Open" 4, shopCall "Close" 5]⟩

def shopUnits : List EnteredUnit :=
  [⟨"store", "store", ⟨"store", [], [], [⟨"Open", "store", "a.go", 2, []⟩], []⟩⟩,
    ⟨"app/store", "app/store",
      ⟨"store", [], [],
        [⟨"Open", "app/store", "b.go", 2, []⟩, ⟨"Close", "app/store", "b.go", 4, []⟩], []⟩⟩,
    ⟨"main", "main", ⟨"main", [⟨none, "example.com/app/store"⟩], [], [shopRun], []⟩⟩]

def shopIndex : Index := .ofUnits shopUnits

/-- What the shops hold, and what is called where both packages have a function of one name. -/
theorem symbols_shops :
    shopIndex.callable? "main.Run" = some (.function shopRun) ∧
      shopIndex.packageOfImport? "example.com/app/store" = some "app/store" ∧
      (shopIndex.functions.contains "app/store.Open" = true ∧
        shopIndex.functions.contains "app/store.Close" = true) ∧
      (shopIndex.callable? "store.Close" = none ∧
        shopIndex.callable? "main.store.Close" = none) ∧
      (resolve ⟨shopIndex, .standard⟩ (shopCall "Open" 4)
        (.ofCallable (.function shopRun))).map Target.id = some "store.Open" ∧
      Go.isName "store" = true ∧ Go.isName "Close" = true := by
  decide

theorem enteredBy_shops : enteredBy .standard shops = shopUnits := by
  decide +kernel

theorem buildable_shops : shopIndex.Buildable :=
  Index.buildable_ofUnits enteredBy_shops

/-- The function that only the imported package has is called there. -/
theorem resolve_imported_close :
    shopIndex.Buildable ∧ shopCall "Close" 5 ∈ shopRun.calls ∧
      (shopCall "Close" 5).Recorded ∧
      shopIndex.packageOfImport? "example.com/app/store" = some "app/store" ∧
      shopIndex.functions.contains "app/store.Close" = true ∧
      ∃ target, resolve ⟨shopIndex, .standard⟩ (shopCall "Close" 5) (.inPackage "main") =
          some target ∧ target.id = "app/store.Close" := by
  obtain ⟨-, leads, ⟨-, indexed⟩, ⟨notWhole, notInPackage⟩, -, receiver, selector⟩ := symbols_shops
  have recorded : (shopCall "Close" 5).Recorded := .method (.name receiver) selector
  obtain ⟨target, resolved, -, -, own⟩ :=
    resolve_imported ⟨shopIndex, .standard⟩ (.inPackage "main") recorded rfl leads indexed
  have whole : shopIndex.callable? (shopCall "Close" 5).target = none := notWhole
  have inPackage : shopIndex.callable? (memberId "main" (shopCall "Close" 5).target) = none :=
    notInPackage
  rw [if_neg (by simp [whole]), if_neg (by simp [Caller.inPackage, inPackage])] at own
  exact ⟨buildable_shops, by simp [shopRun], recorded, leads, indexed, target, resolved, own⟩

/-- The function that both packages have is not called in the imported one, but in the one whose
identifier is the name of both. -/
theorem not_resolve_imported :
    ¬∀ (index : Index) (options : ResolverOptions) (callerId : String) (callable : Callable)
        (site : CallSite) (path package : String),
      index.Buildable → index.callable? callerId = some callable → site ∈ callable.calls →
      site.importPath = some path → index.packageOfImport? path = some package →
      index.functions.contains (memberId package site.selector) = true →
      ∃ target, resolve ⟨index, options⟩ site (.ofCallable callable) = some target ∧
        target.id = memberId package site.selector := by
  intro law
  obtain ⟨caller, leads, ⟨indexed, -⟩, -, found, -⟩ := symbols_shops
  obtain ⟨target, resolved, own⟩ :=
    law shopIndex .standard "main.Run" (.function shopRun) (shopCall "Open" 4)
      "example.com/app/store" "app/store" buildable_shops caller
      (by simp [Callable.calls, shopRun]) rfl leads indexed
  rw [resolved, Option.map_some, own, Option.some.injEq] at found
  have apart : memberId "app/store" (shopCall "Open" 4).selector ≠ "store.Open" := by decide
  exact apart found

end Resolver

end GoAtlas
