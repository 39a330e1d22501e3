import GoAtlas.CallGraph.Kinds
import GoAtlas.Resolver.TypeNames

/-!
What a call site calls. Nothing is type-checked: the site is matched against the tables by a fixed
chain of steps, of which the first that hits counts. What no step finds is external, unless it is
predeclared.
-/

namespace GoAtlas

structure ResolverOptions where
  /-- Tell methods of interfaces from others, and calls of them from direct calls. -/
  resolveInterfaces : Bool
  /-- Tell calls launched by `go` from others. -/
  trackGoroutines : Bool
  /-- Match `recv.Method` against every `<package>.recv.Method` of the caller's package, whatever
  the type of `recv`. -/
  receiverNameFallback : Bool
  deriving DecidableEq, Repr

def ResolverOptions.standard : ResolverOptions := ⟨true, true, true⟩

/-- What is known of the symbol in whose body a site stands. -/
structure Caller where
  package : String
  receiverType : Option String
  receiverVar : Option String
  deriving DecidableEq, Repr

namespace Caller

/-- A plain function. -/
def inPackage (package : String) : Caller := ⟨package, none, none⟩

def ofCallable : Callable → Caller
  | .function symbol => inPackage symbol.package
  | .method symbol => ⟨symbol.package, some symbol.receiver, symbol.receiverVar⟩

end Caller

/-- What a call resolves to. -/
structure Target where
  /-- The identifier of a symbol, or the text of an external call, which for a bare name is
  qualified by the caller's package. -/
  id : String
  kind : NodeKind
  callType : CallType
  isAsync : Bool
  package : Option String
  function : String
  receiver : Option String
  file : Option String
  line : Option Nat
  deriving DecidableEq, Repr

structure Resolver where
  index : Index
  options : ResolverOptions

namespace Resolver

/-! ### Classification -/

/-- How a site calls, apart from what it calls, and whether it is asynchronous. -/
def classify (resolver : Resolver) (site : CallSite) : CallType × Bool :=
  if site.isGoroutine && resolver.options.trackGoroutines then (.goroutine, true)
  else if site.isDeferred then (.deferred, false)
  else if site.isClosure then (.closure, false)
  else (.direct, false)

/-- A method is one of an interface when its receiver's type is an indexed interface. -/
def methodKind (resolver : Resolver) (method : MethodSymbol) : NodeKind :=
  if resolver.options.resolveInterfaces &&
      (resolver.index.types.get? method.receiverTypeId).any (·.isInterface) then
    .interfaceMethod
  else .method

/-! ### The steps of the chain -/

/-- A call through an import that refers to an indexed package. -/
def matchImport (resolver : Resolver) (site : CallSite) : Option String := do
  let package ← resolver.index.packageOfImport? (← site.importPath)
  let id := memberId package site.selector
  if resolver.index.functions.contains id then some id else none

/-- For a call through a selector, the first method of the caller's package whose identifier ends in
the receiver and the selector, as they are written. -/
def matchReceiverName (resolver : Resolver) (site : CallSite) (package : String) :
    Option String :=
  if site.isMethod then do
    let ending := "." ++ memberId (← site.receiver) site.selector
    let (id, _) ← resolver.index.methods.find? fun id method =>
      method.package == package && Text.endsWith id ending
    return id
  else none

/-- A method of a type of this identifier. -/
def methodOf (resolver : Resolver) (typeId selector : String) : Option String :=
  let id := memberId typeId selector
  if resolver.index.methods.contains id then some id else none

/-- A method of one of the types that a type embeds, the first one that has it. -/
def matchEmbedded (resolver : Resolver) (typeId selector : String) : Option String := do
  let owner ← resolver.index.types.get? typeId
  owner.embeds.findSome? fun embed => do
    resolver.methodOf (← resolver.index.typeOfEmbed? embed owner.package) selector

/-- A method of the type of one of the receiver's fields. -/
def matchField (resolver : Resolver) (typeId fieldName selector : String) : Option String := do
  let owner ← resolver.index.types.get? typeId
  let field ← owner.fields.find? (·.name == fieldName)
  resolver.methodOf (← resolver.index.typeOfField? field owner.package) selector

/-- A call through the caller's own receiver, or through one of its fields. -/
def matchReceiverBinding (resolver : Resolver) (site : CallSite) (caller : Caller) :
    Option String := do
  let receiverVar ← caller.receiverVar
  let typeId := memberId caller.package (← caller.receiverType)
  let receiver ← site.receiver
  if receiver == receiverVar then
    (resolver.methodOf typeId site.selector).or (resolver.matchEmbedded typeId site.selector)
  else
    let fieldName ← Text.without? "." (← Text.without? receiverVar receiver)
    resolver.matchField typeId fieldName site.selector

/-- A callable of exactly this identifier. -/
def matchCallable (resolver : Resolver) (id : String) : Option String :=
  if (resolver.index.callable? id).isSome then some id else none

/-- The target as a name of the caller's package. -/
def matchInPackage (resolver : Resolver) (site : CallSite) (package : String) : Option String :=
  if Text.contains site.target "/" then none
  else resolver.matchCallable (memberId package site.target)

/-- The identifier of the symbol that a site calls, by the first step that finds one. -/
def resolveSymbol (resolver : Resolver) (site : CallSite) (caller : Caller) : Option String :=
  resolver.matchCallable site.target
    |>.or (resolver.matchInPackage site caller.package)
    |>.or (resolver.matchImport site)
    |>.or (if resolver.options.receiverNameFallback then
        resolver.matchReceiverName site caller.package else none)
    |>.or (resolver.matchReceiverBinding site caller)

/-! ### Targets -/

/-- The target that is an indexed symbol. A direct call of an interface's method is an interface
call. -/
def internalTarget (resolver : Resolver) (site : CallSite) (id : String) : Option Target :=
  let (callType, isAsync) := resolver.classify site
  match resolver.index.callable? id with
  | none => none
  | some (.function symbol) =>
      some { id, kind := .function, callType, isAsync, package := some symbol.package,
             function := symbol.name, receiver := none, file := some symbol.file,
             line := some symbol.line }
  | some (.method symbol) =>
      let kind := resolver.methodKind symbol
      let callType :=
        if kind == .interfaceMethod && callType == .direct then CallType.interface else callType
      some { id, kind, callType, isAsync, package := some symbol.package, function := symbol.name,
             receiver := some symbol.receiver, file := some symbol.file, line := some symbol.line }

/-- The target of a function literal. -/
def closureTarget (resolver : Resolver) (site : CallSite) (caller : Caller) : Target :=
  let (callType, isAsync) := resolver.classify site
  { id := memberId caller.package GoAtlas.closureTarget, kind := .closure, callType, isAsync,
    package := some caller.package, function := GoAtlas.closureTarget, receiver := none,
    file := none, line := none }

/-- The target of a call of something that is not indexed. -/
def externalTarget (resolver : Resolver) (site : CallSite) (caller : Caller) : Target :=
  let (callType, isAsync) := resolver.classify site
  { id := if Text.contains site.target "." then site.target
          else memberId caller.package site.target
    kind := .external, callType, isAsync, package := none, function := site.target,
    receiver := none, file := none, line := none }

/-- A call of a predeclared function, or a conversion to a predeclared type, by its bare name. -/
def isPredeclared (site : CallSite) : Bool :=
  (Go.isBuiltinFunction site.selector && !site.isMethod) ||
    (!Text.contains site.target "." && Go.isPrimitiveType site.target)

/-- What a site calls; nothing if the call never becomes part of a graph. A selector named like a
predeclared function may still be a method, but never something external. -/
def resolve (resolver : Resolver) (site : CallSite) (caller : Caller) : Option Target :=
  if site.target == "" then none
  else if site.isClosure then some (resolver.closureTarget site caller)
  else if isPredeclared site then none
  else
    match resolver.resolveSymbol site caller >>= resolver.internalTarget site with
    | some target => some target
    | none =>
        if Go.isBuiltinFunction site.selector then none
        else some (resolver.externalTarget site caller)

end Resolver

end GoAtlas
