import GoAtlas.Proofs.Resolver.Imports
import GoAtlas.Proofs.Resolver.MethodSets
import GoAtlas.Proofs.Resolver.ReceiverNames

/-!
Calls of methods through the receiver of the calling method. The steps that compare texts come
first. What they leave is looked up in the receiver's type and in the types that it embeds, so that
the call goes to a method of its name, and it does go to one when the receiver's type has it by
itself or gets it from a type that it embeds.
-/

namespace GoAtlas

/-- A type embeds another one. -/
def Index.Embeds (index : Index) (outer inner : String) : Prop :=
  ∃ type, index.types.get? outer = some type ∧
    ∃ embed ∈ type.embeds, index.typeOfEmbed? embed type.package = some inner

theorem Index.embeds_of_getsFrom {index : Index} {outer inner : String}
    (gets : index.GetsFrom outer inner) : index.Embeds outer inner := by
  obtain ⟨type, found, source⟩ := gets
  exact ⟨type, found, (mem_methodSources_iff.mp source).1⟩

namespace Resolver

variable {resolver : Resolver} {site : CallSite} {caller : Caller} {package id : String}

/-! ### Methods of a type -/

theorem methodOf_eq_some_iff {typeId selector : String} :
    resolver.methodOf typeId selector = some id ↔
      id = memberId typeId selector ∧ resolver.index.methods.contains id = true := by
  unfold methodOf
  dsimp only
  constructor
  · intro found
    split at found
    · rename_i indexed
      cases found
      exact ⟨rfl, indexed⟩
    · cases found
  · rintro ⟨rfl, indexed⟩
    rw [if_pos indexed]

/-- The method of a type that an identifier stands for, when no function has it. -/
def IsMethodOf (resolver : Resolver) (typeId name id : String) : Prop :=
  ∃ symbol, resolver.index.methods.get? id = some symbol ∧ symbol.id = id ∧
    symbol.name = name ∧ symbol.receiverTypeId = typeId

theorem isMethodOf_of_methodOf (names : resolver.index.NamesOnly) {typeId selector : String}
    (plain : '.' ∉ selector.toList) (found : resolver.methodOf typeId selector = some id) :
    resolver.IsMethodOf typeId selector id := by
  obtain ⟨rfl, indexed⟩ := methodOf_eq_some_iff.mp found
  obtain ⟨symbol, stored⟩ := Table.contains_iff.mp indexed
  obtain ⟨own, symbolNames⟩ := names.methods stored
  have symbolPlain := Go.isName.not_mem symbolNames.name Go.continuesName_dot
  obtain ⟨sameType, sameName⟩ := memberId_inj symbolPlain plain own
  exact ⟨symbol, stored, own, sameName, sameType⟩

theorem exists_embeds_of_matchEmbedded {typeId selector : String}
    (found : resolver.matchEmbedded typeId selector = some id) :
    ∃ inner, resolver.index.Embeds typeId inner ∧ resolver.methodOf inner selector = some id := by
  simp only [matchEmbedded, Option.bind_eq_bind, Option.bind_eq_some_iff] at found
  obtain ⟨owner, ownerFound, found⟩ := found
  obtain ⟨embed, member, found⟩ := List.exists_of_findSome?_eq_some found
  obtain ⟨inner, embedded, isMethod⟩ := Option.bind_eq_some_iff.mp found
  exact ⟨inner, ⟨owner, ownerFound, embed, member, embedded⟩, isMethod⟩

theorem isSome_matchEmbedded {typeId selector inner : String}
    (embeds : resolver.index.Embeds typeId inner)
    (isMethod : (resolver.methodOf inner selector).isSome = true) :
    (resolver.matchEmbedded typeId selector).isSome = true := by
  obtain ⟨type, found, embed, member, embedded⟩ := embeds
  simp only [matchEmbedded, found, Option.bind_eq_bind, Option.bind_some, List.findSome?_isSome_iff]
  exact ⟨embed, member, by simpa [embedded] using isMethod⟩

/-! ### Calls through the receiver -/

/-- What the steps find that compare texts: the target as it is written, as a name of a package, or
through an import. -/
def matchText (resolver : Resolver) (site : CallSite) (package : String) : Option String :=
  (resolver.matchWritten site package).or (resolver.matchImport site)

theorem resolveSymbol_of_matchText (found : resolver.matchText site caller.package = some id) :
    resolver.resolveSymbol site caller = some id := by
  unfold matchText at found
  cases written : resolver.matchWritten site caller.package with
  | some first =>
      rw [written, Option.some_or] at found
      rw [resolveSymbol_of_matchWritten written, found]
  | none =>
      rw [written, Option.none_or] at found
      exact resolveSymbol_of_matchImport written found

/-- What no comparison of texts finds is looked up through the caller's receiver. The step that
compares receivers with names of types finds nothing more for a receiver that is a name. -/
theorem resolveSymbol_of_matchText_eq_none (names : resolver.index.NamesOnly)
    (recorded : site.Recorded) (apart : ¬site.OverlapsPackage caller.package)
    (missed : resolver.matchText site caller.package = none) :
    resolver.resolveSymbol site caller = resolver.matchReceiverBinding site caller := by
  simp only [matchText, matchWritten, Option.or_eq_none_iff] at missed
  obtain ⟨⟨whole, inPackage⟩, imported⟩ := missed
  have unnamed : resolver.matchReceiverName site caller.package = none := by
    rw [Option.eq_none_iff_forall_ne_some]
    intro id named
    rcases matchInPackage_of_matchReceiverName names recorded named with earlier | overlaps
    · rw [inPackage] at earlier
      cases earlier
    · exact apart overlaps
  unfold resolveSymbol
  rw [whole, inPackage, imported, unnamed]
  simp

/-- A receiver that is a name says nothing of a package. -/
theorem not_overlapsPackage {receiver : String} (isReceiver : site.receiver = some receiver)
    (spelled : Go.isName receiver = true) : ¬site.OverlapsPackage package := by
  rintro ⟨first, second, -, -, same, -⟩
  rw [isReceiver, Option.some.injEq] at same
  have plain := Go.isName.not_mem spelled Go.continuesName_dot
  rw [same] at plain
  exact plain (dot_mem_memberId first second)

theorem matchReceiverBinding_of_receiver {method : MethodSymbol} {receiverVar : String}
    (bound : method.receiverVar = some receiverVar)
    (isReceiver : site.receiver = some receiverVar) :
    resolver.matchReceiverBinding site (.ofCallable (.method method)) =
      (resolver.methodOf method.receiverTypeId site.selector).or
        (resolver.matchEmbedded method.receiverTypeId site.selector) := by
  simp [matchReceiverBinding, Caller.ofCallable, bound, isReceiver, MethodSymbol.receiverTypeId]

/-- What is found through the receiver is a method of its type, or of one that this embeds. -/
theorem exists_inner_of_matchReceiverBinding (names : resolver.index.NamesOnly)
    {method : MethodSymbol} {receiverVar : String} (bound : method.receiverVar = some receiverVar)
    (isReceiver : site.receiver = some receiverVar) (plain : '.' ∉ site.selector.toList)
    (found : resolver.matchReceiverBinding site (.ofCallable (.method method)) = some id) :
    ∃ inner, Relation.ReflGen resolver.index.Embeds method.receiverTypeId inner ∧
      resolver.IsMethodOf inner site.selector id := by
  rw [matchReceiverBinding_of_receiver bound isReceiver] at found
  rcases Option.or_eq_some_iff.mp found with own | ⟨-, promoted⟩
  · exact ⟨_, .refl, isMethodOf_of_methodOf names plain own⟩
  · obtain ⟨inner, embeds, isMethod⟩ := exists_embeds_of_matchEmbedded promoted
    exact ⟨inner, .single embeds, isMethodOf_of_methodOf names plain isMethod⟩

/-- Something is found through the receiver for a method that its type has by itself, or gets from a
type that it embeds. -/
theorem isSome_matchReceiverBinding (built : resolver.index.Buildable) {method : MethodSymbol}
    {receiverVar inner : String} (bound : method.receiverVar = some receiverVar)
    (isReceiver : site.receiver = some receiverVar)
    (near : Relation.ReflGen resolver.index.GetsFrom method.receiverTypeId inner)
    (own : resolver.index.HasOwn inner site.selector) :
    (resolver.matchReceiverBinding site (.ofCallable (.method method))).isSome = true := by
  have isMethod : resolver.methodOf inner site.selector =
      some (memberId inner site.selector) :=
    methodOf_eq_some_iff.mpr ⟨rfl, built.contains_of_hasOwn own⟩
  rw [matchReceiverBinding_of_receiver bound isReceiver, Option.isSome_or, Bool.or_eq_true]
  cases near with
  | refl => exact .inl (by rw [isMethod]; rfl)
  | single gets =>
      exact .inr (isSome_matchEmbedded (Index.embeds_of_getsFrom gets) (by rw [isMethod]; rfl))

/-- How a method calls another one of its receiver's method set. The steps that compare texts come
first, and what they find is called. What they leave goes to a method of that name, which belongs to
the receiver's type or to one that is embedded in it, and it does go to one when the type has the
method by itself or gets it from a type that it embeds. -/
theorem resolve_through_receiver {index : Index} (built : index.Buildable)
    (options : ResolverOptions) {callerId receiverVar name : String} {method : MethodSymbol}
    (indexed : index.methods.get? callerId = some method)
    (bound : method.receiverVar = some receiverVar)
    (inSet : name ∈ index.methodSet method.receiverTypeId)
    (line : Nat) (importPath : Option String) (isGoroutine isDeferred : Bool) :
    let resolver : Resolver := ⟨index, options⟩
    let site : CallSite :=
      { CallSite.method receiverVar name line with importPath, isGoroutine, isDeferred }
    let resolved := resolver.resolve site (.ofCallable (.method method))
    (∀ id, resolver.matchText site method.package = some id →
      ∃ target, resolved = some target ∧ target.id = id ∧ target.kind.isLeaf = false ∧
        resolver.Accurate target) ∧
    (resolver.matchText site method.package = none →
      (∀ target, resolved = some target → target.kind.isLeaf = false →
        resolver.Accurate target ∧
          ∃ inner, Relation.ReflTransGen index.Embeds method.receiverTypeId inner ∧
            resolver.IsMethodOf inner name target.id) ∧
      ((∃ inner, Relation.ReflGen index.GetsFrom method.receiverTypeId inner ∧
          index.HasOwn inner name) →
        ∃ target, resolved = some target ∧ target.kind.isLeaf = false)) := by
  intro resolver site resolved
  have spelled : Go.isName name = true := built.isName_of_mem_methodSet inSet
  have receiverSpelled := built.namesMembers.receivers indexed receiverVar bound
  have recorded : site.Recorded := .method (.name receiverSpelled) spelled
  have plain := Go.isName.not_mem spelled Go.continuesName_dot
  have selector : site.selector = name := lastPiece_memberId receiverVar plain
  have isReceiver : site.receiver = some receiverVar := rfl
  refine ⟨fun id found => ?_, fun missed => ?_⟩
  · exact exists_target_of_resolveSymbol recorded rfl (resolveSymbol_of_matchText found)
  have looksUp : resolver.resolveSymbol site (.ofCallable (.method method)) =
      resolver.matchReceiverBinding site (.ofCallable (.method method)) :=
    resolveSymbol_of_matchText_eq_none built.namesOnly recorded
      (not_overlapsPackage isReceiver receiverSpelled) missed
  constructor
  · intro target isTarget inside
    have found := resolveSymbol_of_inner isTarget inside
    rw [looksUp] at found
    obtain ⟨inner, near, isMethod⟩ := exists_inner_of_matchReceiverBinding built.namesOnly bound
      isReceiver (by rwa [selector]) found
    rw [selector] at isMethod
    exact ⟨accurate_of_resolve built.namesOnly recorded isTarget, inner, near.to_reflTransGen,
      isMethod⟩
  · rintro ⟨inner, near, own⟩
    rw [← selector] at own
    have isFound : (resolver.matchReceiverBinding site (.ofCallable (.method method))).isSome =
        true := isSome_matchReceiverBinding built bound isReceiver near own
    obtain ⟨id, found⟩ := Option.isSome_iff_exists.mp isFound
    obtain ⟨target, isTarget, -, inside, -⟩ :=
      exists_target_of_resolveSymbol recorded rfl (looksUp.trans found)
    exact ⟨target, isTarget, inside⟩

/-! ### A method that is embedded once and twice -/

/-- An interface that is embedded in the middle, and the middle in an outer structure. A package is
called like the receiver of the middle. -/
def ladder : List Source :=
  [{ directory := "p", file := "a.go"
     content :=
       ("package p\ntype Base interface \x7b\nClose()\n\x7d\n" ++
         "type Middle struct \x7b\nBase\n\x7d\n" ++
         "func (m Middle) Run() \x7b\nm.Close()\n\x7d\n").toUTF8.toList },
    { directory := "p", file := "b.go"
      content :=
        ("package p\ntype Outer struct \x7b\nMiddle\n\x7d\n" ++
          "func (o Outer) Stop() \x7b\no.Run()\no.Close()\n\x7d\n").toUTF8.toList },
    { directory := "m", file := "c.go"
      content := "package m\nfunc Close() \x7b\n\x7d\n".toUTF8.toList }]

def ladderBase : TypeSymbol := ⟨"Base", "p", .interface, "a.go", 2, [], [], ["Close"]⟩

def ladderMiddle : TypeSymbol := ⟨"Middle", "p", .struct, "a.go", 5, [], ["Base"], []⟩

def ladderOuter : TypeSymbol := ⟨"Outer", "p", .struct, "b.go", 2, [], ["Middle"], []⟩

def middleRun : MethodSymbol :=
  ⟨"Run", "Middle", some "m", "p", "a.go", 8, [.method "m" "Close" 9]⟩

def outerStop : MethodSymbol :=
  ⟨"Stop", "Outer", some "o", "p", "b.go", 5, [.method "o" "Run" 6, .method "o" "Close" 7]⟩

def ladderUnits : List EnteredUnit :=
  [⟨"p", "p", ⟨"p", [], [ladderBase, ladderMiddle], [],
      [⟨"Close", "Base", none, "p", "a.go", 3, []⟩, middleRun]⟩⟩,
    ⟨"p", "p", ⟨"p", [], [ladderOuter], [], [outerStop]⟩⟩,
    ⟨"m", "m", ⟨"m", [], [], [⟨"Close", "m", "c.go", 2, []⟩], []⟩⟩]

def ladderIndex : Index := .ofUnits ladderUnits

/-- What the ladder holds, which rung passes methods on to which, and what the calls of `Close` on
the receivers lead to. -/
theorem symbols_ladder :
    (ladderIndex.types.get? "p.Base" = some ladderBase ∧
      ladderIndex.types.get? "p.Middle" = some ladderMiddle ∧
      ladderIndex.types.get? "p.Outer" = some ladderOuter) ∧
    (ladderIndex.methods.get? "p.Middle.Run" = some middleRun ∧
      ladderIndex.methods.get? "p.Outer.Stop" = some outerStop) ∧
    "p.Base" ∈ ladderIndex.methodSources ladderMiddle ∧
    "p.Middle" ∈ ladderIndex.methodSources ladderOuter ∧
    "Run" ∈ ladderIndex.ownMethods ladderMiddle ∧
    matchText ⟨ladderIndex, .standard⟩ (.method "o" "Run" 6) "p" = none ∧
    (resolve ⟨ladderIndex, .standard⟩ (.method "m" "Close" 9)
        (.ofCallable (.method middleRun))).map (fun target => (target.id, target.kind)) =
      some ("m.Close", .function) ∧
    (resolve ⟨ladderIndex, .standard⟩ (.method "o" "Close" 7)
        (.ofCallable (.method outerStop))).map (fun target => (target.id, target.kind)) =
      some ("o.Close", .external) := by
  decide

theorem middle_getsFrom_base : ladderIndex.GetsFrom "p.Middle" "p.Base" :=
  ⟨ladderMiddle, symbols_ladder.1.2.1, symbols_ladder.2.2.1⟩

theorem outer_getsFrom_middle : ladderIndex.GetsFrom "p.Outer" "p.Middle" :=
  ⟨ladderOuter, symbols_ladder.1.2.2, symbols_ladder.2.2.2.1⟩

theorem base_hasOwn_close : ladderIndex.HasOwn "p.Base" "Close" :=
  ⟨ladderBase, symbols_ladder.1.1, List.mem_singleton.mpr rfl⟩

theorem middle_hasOwn_run : ladderIndex.HasOwn "p.Middle" "Run" :=
  ⟨ladderMiddle, symbols_ladder.1.2.1, symbols_ladder.2.2.2.2.1⟩

theorem mem_methodSet_ladder :
    "Close" ∈ ladderIndex.methodSet "p.Middle" ∧ "Close" ∈ ladderIndex.methodSet "p.Outer" ∧
      "Run" ∈ ladderIndex.methodSet "p.Outer" := by
  obtain ⟨⟨-, middle, outer⟩, -⟩ := symbols_ladder
  rw [Index.mem_methodSet_iff (by rw [middle]; rfl), Index.mem_methodSet_iff (by rw [outer]; rfl),
    Index.mem_methodSet_iff (by rw [outer]; rfl)]
  exact ⟨⟨"p.Base", .single middle_getsFrom_base, base_hasOwn_close⟩,
    ⟨"p.Base", .head outer_getsFrom_middle (.single middle_getsFrom_base), base_hasOwn_close⟩,
    ⟨"p.Middle", .single outer_getsFrom_middle, middle_hasOwn_run⟩⟩

theorem enteredBy_ladder : enteredBy .standard ladder = ladderUnits := by
  decide +kernel

theorem buildable_ladder : ladderIndex.Buildable :=
  Index.buildable_ofUnits enteredBy_ladder

/-- A method of the embedded structure is called. -/
theorem resolve_through_outer :
    ladderIndex.Buildable ∧ ladderIndex.methods.get? "p.Outer.Stop" = some outerStop ∧
      "Run" ∈ ladderIndex.methodSet "p.Outer" ∧
      matchText ⟨ladderIndex, .standard⟩ (.method "o" "Run" 6) "p" = none ∧
      ∃ target inner, resolve ⟨ladderIndex, .standard⟩ (.method "o" "Run" 6)
          (.ofCallable (.method outerStop)) = some target ∧
        target.kind.isLeaf = false ∧
        Relation.ReflTransGen ladderIndex.Embeds "p.Outer" inner ∧
        IsMethodOf ⟨ladderIndex, .standard⟩ inner "Run" target.id := by
  obtain ⟨-, ⟨-, indexed⟩, -, -, -, missed, -⟩ := symbols_ladder
  have inSet := mem_methodSet_ladder.2.2
  obtain ⟨-, lookedUp⟩ :=
    resolve_through_receiver buildable_ladder .standard indexed rfl inSet 6 none false false
  obtain ⟨describes, finds⟩ := lookedUp missed
  obtain ⟨target, resolved, inside⟩ :=
    finds ⟨"p.Middle", .single outer_getsFrom_middle, middle_hasOwn_run⟩
  obtain ⟨-, inner, embedded, isMethod⟩ := describes target resolved inside
  exact ⟨buildable_ladder, indexed, inSet, missed, target, inner, resolved, inside, embedded,
    isMethod⟩

/-- What the method set promises is not always called. The receiver may be called like a package,
whose function comes first; and a method that is embedded twice is not found. -/
theorem not_resolve_through_receiver :
    ladderIndex.Buildable ∧ Go.isBuiltinFunction "Close" = false ∧
      (ladderIndex.methods.get? "p.Middle.Run" = some middleRun ∧
        ladderIndex.types.get? "p.Middle" = some ladderMiddle ∧
        "Close" ∈ ladderIndex.methodSet "p.Middle" ∧
        (resolve ⟨ladderIndex, .standard⟩ (.method "m" "Close" 9)
            (.ofCallable (.method middleRun))).map (fun target => (target.id, target.kind)) =
          some ("m.Close", .function)) ∧
      (ladderIndex.methods.get? "p.Outer.Stop" = some outerStop ∧
        ladderIndex.types.get? "p.Outer" = some ladderOuter ∧
        "Close" ∈ ladderIndex.methodSet "p.Outer" ∧
        (resolve ⟨ladderIndex, .standard⟩ (.method "o" "Close" 7)
            (.ofCallable (.method outerStop))).map (fun target => (target.id, target.kind)) =
          some ("o.Close", .external)) := by
  obtain ⟨⟨-, middle, outer⟩, ⟨run, stop⟩, -, -, -, -, captured, tooDeep⟩ := symbols_ladder
  obtain ⟨inMiddle, inOuter, -⟩ := mem_methodSet_ladder
  exact ⟨buildable_ladder, by decide, ⟨run, middle, inMiddle, captured⟩, stop, outer, inOuter,
    tooDeep⟩

end Resolver

end GoAtlas
