import GoAtlas.Proofs.CallGraph.ReceiverNames
import GoAtlas.Proofs.CallGraph.Statistics
import GoAtlas.Proofs.Resolver.BareNames

/-!
Bare names in call graphs. A function of the caller's own package is never lost, unless it is called
like something predeclared. A type of that package is not known where calls are resolved: its
conversions are drawn as calls of something external under the type's identifier, and counted as
unresolved.
-/

namespace GoAtlas

namespace Walker

variable {walker : Walker} {entry callerId : String} {graph : CallGraph} {callable : Callable}
  {site : CallSite} {target : Target} {edge : CallEdge}

/-! ### Calls in expanded symbols -/

/-- The graph has a node for this symbol, and the calls in its body are followed. -/
def Expands (walker : Walker) (graph : CallGraph) (id : String) (callable : Callable) : Prop :=
  walker.index.callable? id = some callable ∧
    ∃ node ∈ graph.nodes, node.id = id ∧ walker.IsExpanded node

/-- No call in an expanded symbol is left out. -/
theorem exists_edge_of_expands (names : walker.index.NamesOnly)
    (isBuilt : walker.build entry = .ok graph) (expands : walker.Expands graph callerId callable)
    (member : site ∈ callable.calls)
    (resolved : walker.resolver.resolve site (.ofCallable callable) = some target) :
    ∃ edge ∈ graph.edges, edge.caller = callerId ∧ edge.callee = target.id ∧
      edge.line = site.line := by
  obtain ⟨-, rfl⟩ := build_eq_ok_iff.mp isBuilt
  obtain ⟨found, node, emitted, rfl, other, otherFound, included, shallow⟩ := expands
  cases found.symm.trans otherFound
  have recorded : ⟨target.id, target.callType, target.isAsync, site.line⟩ ∈
      recordedFrom (walker.visitAll [entry]).edges node.id := by
    rw [(reached_visitAll names [entry]).recordedFrom_eq emitted,
      expansion_records found included shallow, recordsOf, List.mem_filterMap]
    exact ⟨site, member, by rw [resolved]; rfl⟩
  obtain ⟨edge, edgeMember, caller, same⟩ := mem_recordedFrom_iff.mp recorded
  obtain ⟨callee, -, -, line⟩ := (CallRecord.mk.injEq ..).mp same
  exact ⟨edge, edgeMember, caller, callee, line⟩

/-- What is external is drawn as such, and counted. -/
theorem unresolved_of_external (names : walker.index.NamesOnly)
    (isBuilt : walker.build entry = .ok graph) (member : edge ∈ graph.edges)
    (external : walker.resolver.kindOf edge.callee = .external) :
    (∃ node, graph.node? edge.callee = some node ∧ node.kind = .external) ∧
      0 < graph.stats.unresolvedCalls := by
  obtain ⟨indexed, rfl⟩ := build_eq_ok_iff.mp isBuilt
  have reached := reached_visitAll names [entry]
  obtain ⟨node, emitted, own⟩ := reached.exists_callee member
  have kind := reached.kind_eq names indexed node emitted
  rw [own, external] at kind
  refine ⟨⟨node, own ▸ reached.node?_graphOf emitted, kind⟩, ?_⟩
  have tallied := (reached.isTallied names (by simpa using indexed)).unresolved
  change 0 < (walker.visitAll [entry]).stats.unresolvedCalls
  rw [tallied, List.countP_pos_iff]
  exact ⟨edge, member, by simp [external]⟩

/-! ### Bare names -/

/-- Where a call leads from all callers of a package, in the resolver and in every call graph. -/
structure LeadsTo (walker : Walker) (package : String) (site : CallSite) (id : String)
    (kind : NodeKind) : Prop where
  target : ∀ caller, caller.package = package →
    ∃ target, walker.resolver.resolve site caller = some target ∧ target.id = id ∧
      target.kind = kind ∧ walker.resolver.Accurate target
  edge : ∀ {entry graph callerId callable}, walker.build entry = .ok graph →
    walker.Expands graph callerId callable → callable.package = package →
    site ∈ callable.calls →
      ∃ edge ∈ graph.edges, edge.caller = callerId ∧ edge.callee = id ∧ edge.line = site.line

theorem leadsTo_of_bare (names : walker.index.NamesOnly) {name : String}
    (call : site.IsBareCall name) (spelled : Go.isName name = true)
    (other : ¬site.NamesPredeclared) (package : String) :
    walker.LeadsTo package site (memberId package name)
      (walker.resolver.kindOf (memberId package name)) where
  target := by
    rintro caller rfl
    obtain ⟨target, resolved, own, kind, accurate⟩ :=
      Resolver.exists_target_of_bare names call spelled other caller
    exact ⟨target, resolved, own, own ▸ kind, accurate⟩
  edge := by
    rintro entry graph callerId callable isBuilt expands rfl member
    obtain ⟨target, resolved, own, -⟩ :=
      Resolver.exists_target_of_bare names call spelled other (.ofCallable callable)
    rw [Caller.package_ofCallable] at own
    exact own ▸ exists_edge_of_expands names isBuilt expands member resolved

end Walker

/-! ### Measures -/

/-- A function that calls another one, one named like a predeclared function, and a conversion. -/
def measures : Source where
  directory := "p"
  file := "a.go"
  content :=
    ("package p\ntype Celsius float64\n" ++ writtenFunction "max" [] ++
      writtenFunction "most" [] ++
      "func Run() \x7b\nmax()\nmost()\nCelsius(20)\n\x7d\n").toUTF8.toList

def celsius : TypeSymbol := ⟨"Celsius", "p", .other, "a.go", 2, [], [], []⟩

def measuresMax : FunctionSymbol := ⟨"max", "p", "a.go", 3, []⟩

def measuresMost : FunctionSymbol := ⟨"most", "p", "a.go", 5, []⟩

def measuresRun : FunctionSymbol :=
  ⟨"Run", "p", "a.go", 7, [.function "max" 8, .function "most" 9, .function "Celsius" 10]⟩

def measuresUnit : Go.SourceUnit where
  packageName := "p"
  imports := []
  types := [celsius]
  functions := [measuresMax, measuresMost, measuresRun]
  methods := []

/-- The standard walker over the index of the measures. -/
def measuresWalker : Walker where
  resolver := ⟨Index.empty.addUnit "p" measures.directory measuresUnit, .standard⟩
  maxDepth := 10
  exclude := []

theorem buildable_measures : measuresWalker.index.Buildable := by
  have kept : IndexOptions.standard.packageIds.packageId measures.directory = "p" := by
    decide +kernel
  have read : Go.SourceUnit.read measures.content "p" measures.file = .ok measuresUnit := by
    decide +kernel
  exact Index.buildable_of_read kept read

theorem symbols_measures :
    measuresWalker.index.callable? "p.Run" = some (.function measuresRun) ∧
      measuresWalker.index.functions.get? "p.max" = some measuresMax ∧
      measuresWalker.index.functions.get? "p.most" = some measuresMost ∧
      measuresWalker.index.types.get? "p.Celsius" = some celsius ∧
      measuresWalker.index.callable? "p.Celsius" = none := by
  decide

def measuresGraph : CallGraph where
  eventId := none
  eventName := none
  entryPoint := "p.Run"
  nodes :=
    [⟨"p.Run", some "p", "Run", none, .function, some "a.go", some 7, 0⟩,
      ⟨"p.most", some "p", "most", none, .function, some "a.go", some 5, 1⟩,
      ⟨"p.Celsius", none, "Celsius", none, .external, none, none, 1⟩]
  edges :=
    [⟨"p.Run", "p.most", .direct, 9, false, false⟩,
      ⟨"p.Run", "p.Celsius", .direct, 10, false, false⟩]
  maxDepth := 10
  actualDepth := 1
  stats := ⟨3, 2, 1, 0, 0, 0, 1⟩
  warnings := []

theorem build_measures : measuresWalker.build "p.Run" = .ok measuresGraph := by
  rw [Walker.build_eq_advanceFrom 3 (by decide) (by decide)]
  decide

theorem isBareCall_measures {name : String} {line : Nat} (spelled : Go.isName name = true) :
    (CallSite.function name line).IsBareCall name :=
  ⟨.function spelled, rfl, rfl⟩

theorem expands_measures :
    measuresWalker.Expands measuresGraph "p.Run" (.function measuresRun) := by
  obtain ⟨run, -⟩ := symbols_measures
  exact ⟨run, _, List.mem_cons_self, rfl, _, run, rfl, by decide⟩

namespace Walker

variable {walker : Walker} {site : CallSite}

/-! ### Functions of the caller's package -/

/-- The bare name of a function leads to it from everywhere in its package. Only a name that is
predeclared leads nowhere. -/
theorem leadsTo_function (built : walker.index.Buildable) {id : String} {symbol : FunctionSymbol}
    (indexed : walker.index.functions.get? id = some symbol)
    (call : site.IsBareCall symbol.name) :
    (¬site.NamesPredeclared → walker.LeadsTo symbol.package site id .function) ∧
      (site.NamesPredeclared → ∀ caller, walker.resolver.resolve site caller = none) := by
  have names := built.namesOnly
  have kind : walker.resolver.kindOf id = .function := Resolver.kindOf_of_function indexed
  obtain ⟨rfl, symbolNames⟩ := names.functions indexed
  constructor
  · intro other
    have leads := leadsTo_of_bare names call symbolNames.name other symbol.package
    exact kind ▸ leads
  · intro predeclared caller
    exact Resolver.resolve_of_predeclared call symbolNames.name predeclared

theorem leadsTo_function_most :
    measuresWalker.index.Buildable ∧
      measuresWalker.index.functions.get? "p.most" = some measuresMost ∧
      (CallSite.function "most" 9).IsBareCall "most" ∧
      (∃ target, measuresWalker.resolver.resolve (.function "most" 9) (.inPackage "p") =
        some target ∧ target.id = "p.most" ∧ target.kind = .function) ∧
      measuresWalker.build "p.Run" = .ok measuresGraph ∧
      ∃ edge ∈ measuresGraph.edges, edge.caller = "p.Run" ∧ edge.callee = "p.most" := by
  obtain ⟨-, -, indexed, -⟩ := symbols_measures
  have call : (CallSite.function "most" 9).IsBareCall measuresMost.name :=
    isBareCall_measures (by decide +kernel)
  have other : ¬(CallSite.function "most" 9).NamesPredeclared := by
    simp only [CallSite.NamesPredeclared]
    decide +kernel
  have leads := (leadsTo_function buildable_measures indexed call).1 other
  obtain ⟨target, resolved, own, kind, -⟩ := leads.target (.inPackage "p") rfl
  obtain ⟨edge, member, caller, callee, -⟩ :=
    leads.edge build_measures expands_measures rfl (by decide)
  exact ⟨buildable_measures, indexed, call, ⟨target, resolved, own, kind⟩, build_measures,
    edge, member, caller, callee⟩

/-- A function that is named like a predeclared one is not called by its bare name. -/
theorem not_leadsTo_function_max :
    ¬∀ (index : Index) (options : ResolverOptions) (id callerId : String)
        (symbol : FunctionSymbol) (callable : Callable) (site : CallSite),
      index.Buildable → index.functions.get? id = some symbol →
      index.callable? callerId = some callable → callable.package = symbol.package →
      site ∈ callable.calls → site.IsBareCall symbol.name →
      ∃ target, Resolver.resolve ⟨index, options⟩ site (.ofCallable callable) = some target ∧
        target.id = id := by
  intro law
  obtain ⟨run, indexed, -⟩ := symbols_measures
  have call : (CallSite.function "max" 8).IsBareCall measuresMax.name :=
    isBareCall_measures (by decide +kernel)
  obtain ⟨target, resolved, -⟩ := law measuresWalker.index .standard "p.max" "p.Run" measuresMax
    (.function measuresRun) (.function "max" 8) buildable_measures indexed run rfl (by decide) call
  have predeclared : Resolver.resolve measuresWalker.resolver (.function "max" 8)
      (.inPackage "p") = none := by
    decide +kernel
  cases predeclared.symm.trans resolved

/-! ### Types of the caller's package -/

/-- The bare name of a type leads out of the index from everywhere in its package. -/
theorem leadsTo_type (names : walker.index.NamesOnly) {typeId : String} {type : TypeSymbol}
    (indexed : walker.index.types.get? typeId = some type)
    (uncallable : walker.index.callable? typeId = none) (call : site.IsBareCall type.name)
    (other : ¬site.NamesPredeclared) :
    walker.resolver.kindOf typeId = .external ∧
      walker.LeadsTo type.package site typeId .external := by
  obtain ⟨rfl, typeNames⟩ := names.types indexed
  have external : walker.resolver.kindOf type.id = .external :=
    Resolver.kindOf_memberId_of_unindexed typeNames.name uncallable
  have leads := leadsTo_of_bare names call typeNames.name other type.package
  exact ⟨external, external ▸ leads⟩

/-- What is external is under no identifier of a function or method. It is under the identifier of a
type exactly if the call is written like it. So a conversion to a type of the caller's package is an
unresolved call, unless the name is predeclared or can be called itself. -/
theorem external_beside_types (built : walker.index.Buildable) (recorded : site.Recorded) :
    (∀ caller target, walker.resolver.resolve site caller = some target →
      target.kind = .external → walker.index.callable? target.id = none ∧
        ∀ typeId type, walker.index.types.get? typeId = some type →
          (target.id = typeId ↔ site.NamesType caller.package type)) ∧
      ∀ typeId type, walker.index.types.get? typeId = some type →
        walker.index.callable? typeId = none → site.IsBareCall type.name →
        ¬site.NamesPredeclared →
          walker.LeadsTo type.package site typeId .external ∧
            ∀ entry graph callerId callable, walker.build entry = .ok graph →
              walker.Expands graph callerId callable → callable.package = type.package →
              site ∈ callable.calls →
                (∃ node, graph.node? typeId = some node ∧ node.kind = .external) ∧
                  0 < graph.stats.unresolvedCalls := by
  have names := built.namesOnly
  constructor
  · intro caller target resolved external
    have leaf : target.kind.isLeaf = true := external ▸ rfl
    exact ⟨Resolver.callable?_eq_none_of_leaf names recorded resolved leaf,
      fun typeId type => Resolver.id_eq_iff_namesType names recorded resolved external⟩
  · intro typeId type indexed uncallable call other
    obtain ⟨external, leads⟩ := leadsTo_type names indexed uncallable call other
    refine ⟨leads, ?_⟩
    intro entry graph callerId callable isBuilt expands samePackage member
    obtain ⟨edge, edgeMember, -, rfl, -⟩ := leads.edge isBuilt expands samePackage member
    exact unresolved_of_external names isBuilt edgeMember external

theorem external_beside_celsius :
    measuresWalker.index.Buildable ∧ (CallSite.function "Celsius" 10).Recorded ∧
      measuresWalker.index.types.get? "p.Celsius" = some celsius ∧
      measuresWalker.LeadsTo "p" (.function "Celsius" 10) "p.Celsius" .external ∧
      measuresWalker.build "p.Run" = .ok measuresGraph ∧
      (∃ node, measuresGraph.node? "p.Celsius" = some node ∧ node.kind = .external) ∧
      0 < measuresGraph.stats.unresolvedCalls := by
  obtain ⟨-, -, -, indexed, uncallable⟩ := symbols_measures
  have call : (CallSite.function "Celsius" 10).IsBareCall celsius.name :=
    isBareCall_measures (by decide +kernel)
  have other : ¬(CallSite.function "Celsius" 10).NamesPredeclared := by
    simp only [CallSite.NamesPredeclared]
    decide +kernel
  obtain ⟨leads, drawn⟩ := (external_beside_types buildable_measures call.recorded).2
    "p.Celsius" celsius indexed uncallable call other
  exact ⟨buildable_measures, call.recorded, indexed, leads, build_measures,
    drawn "p.Run" measuresGraph "p.Run" _ build_measures expands_measures rfl (by decide)⟩

/-- An external target may be under the identifier of a type. -/
theorem not_apart_from_types_celsius :
    ¬∀ (index : Index) (options : ResolverOptions) (callerId : String) (callable : Callable)
        (site : CallSite) (target : Target),
      index.Buildable → index.callable? callerId = some callable → site ∈ callable.calls →
      Resolver.resolve ⟨index, options⟩ site (.ofCallable callable) = some target →
      target.kind = .external → index.types.get? target.id = none := by
  intro law
  obtain ⟨run, -, -, indexed, -⟩ := symbols_measures
  have resolved : Resolver.resolve measuresWalker.resolver (.function "Celsius" 10)
      (.ofCallable (.function measuresRun)) =
        some ⟨"p.Celsius", .external, .direct, false, none, "Celsius", none, none, none⟩ := by
    decide +kernel
  have apart := law measuresWalker.index .standard "p.Run" _ _ _ buildable_measures run (by decide)
    resolved rfl
  cases indexed.symm.trans apart

end Walker

end GoAtlas
