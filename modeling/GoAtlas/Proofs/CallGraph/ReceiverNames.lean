import GoAtlas.Proofs.CallGraph.Agreement
import GoAtlas.Proofs.Index.Registration
import GoAtlas.Proofs.Resolver.ReceiverNames

/-!
Graphs with and without the step that compares receivers with names of types. Where no package
identifier ends in a dot and a name, the step has nothing to add to any call of an indexed symbol,
and the two resolvers draw the same graphs.
-/

namespace GoAtlas

def BuildOptions.withFallback (options : BuildOptions) (fallback : Bool) : BuildOptions :=
  { options with resolver := options.resolver.withFallback fallback }

theorem Caller.package_ofCallable (callable : Callable) :
    (Caller.ofCallable callable).package = callable.package := by
  cases callable <;> rfl

/-! ### Resolvers that agree -/

/-- Two resolvers of one index that tell the same of every indexed symbol and its calls. -/
structure Resolver.Agree (resolver other : Resolver) : Prop where
  index : other.index = resolver.index
  methodKind : other.methodKind = resolver.methodKind
  resolve : ∀ {id callable}, (id, callable) ∈ resolver.index.callables →
    ∀ site ∈ callable.calls,
      other.resolve site (.ofCallable callable) = resolver.resolve site (.ofCallable callable)

namespace Resolver.Agree

variable {resolver other : Resolver} {id : String} {callable : Callable}

theorem alike (agree : resolver.Agree other) : resolver.Alike other where
  functions := congrArg Index.functions agree.index
  methods := congrArg Index.methods agree.index
  methodKind := agree.methodKind
  resolve := agree.resolve

theorem calledSymbols (agree : resolver.Agree other)
    (member : (id, callable) ∈ resolver.index.callables) :
    other.calledSymbols id callable = resolver.calledSymbols id callable := by
  unfold Resolver.calledSymbols
  apply List.filterMap_congr
  intro site siteMember
  rw [agree.resolve member site siteMember]

theorem callLinks (agree : resolver.Agree other) : other.callLinks = resolver.callLinks := by
  unfold Resolver.callLinks
  rw [agree.index]
  apply List.flatMap_congr
  rintro ⟨id, callable⟩ member
  dsimp only
  rw [agree.calledSymbols member]

end Resolver.Agree

namespace Index

variable {index : Index} {options : ResolverOptions}

/-- The call graph of the entry point of an event, if the options are in order. -/
def eventCallGraph (index : Index) (options : BuildOptions) (eventId eventName entry : String) :
    Except BuildError CallGraph := do
  (← Walker.ofOptions index options).buildForEvent eventId eventName entry

theorem eventCallGraph_eq_map (index : Index) (options : BuildOptions)
    (eventId eventName entry : String) :
    index.eventCallGraph options eventId eventName entry =
      (index.callGraph options entry).map fun graph =>
        { graph with
          eventId := some eventId
          eventName := if eventName == "" then none else some eventName } := by
  unfold eventCallGraph callGraph
  cases Walker.ofOptions index options <;> rfl

/-- No identifier of a package ends in a dot and a name. -/
def PackagesEndPlainly (index : Index) : Prop :=
  ∀ package, index.packages.contains package = true →
    ∀ name, Go.isName name = true → Text.endsWith package ("." ++ name) = false

theorem PackagesEndPlainly.not_overlaps (plain : index.PackagesEndPlainly) {package : String}
    (known : index.packages.contains package = true) (site : CallSite) :
    ¬site.OverlapsPackage package := by
  rintro ⟨first, second, firstSpelled, -, -, ends⟩
  rw [plain package known first firstSpelled] at ends
  cases ends

theorem packagesEndPlainly_of_undotted
    (undotted : ∀ package, index.packages.contains package = true → '.' ∉ package.toList) :
    index.PackagesEndPlainly := by
  intro package known name _
  rw [Bool.eq_false_iff, Ne, Text.endsWith_iff]
  rintro ⟨beginning, rfl⟩
  exact undotted _ known (by simp)

theorem agree_withFallback (names : index.NamesOnly) (registered : index.Registered)
    (plain : index.PackagesEndPlainly) (options : ResolverOptions) :
    Resolver.Agree ⟨index, options.withFallback false⟩ ⟨index, options.withFallback true⟩ where
  index := rfl
  methodKind := rfl
  resolve := by
    intro id callable member site siteMember
    have recorded : site.Recorded := names.recorded member site siteMember
    have known := registered.package member
    rw [← Caller.package_ofCallable] at known
    rcases Resolver.resolve_withFallback ⟨index, options⟩ names recorded with same | overlaps
    · exact same
    · exact absurd overlaps (plain.not_overlaps known site)

/-- The step changes what a recorded call resolves to only where a receiver `x.y` repeats the end of
the caller's package. Where no package ends in a dot and a name, no graph shows it. -/
theorem graphs_withFallback (built : index.Buildable) :
    (∀ (options : ResolverOptions) (site : CallSite) (caller : Caller), site.Recorded →
      Resolver.resolve ⟨index, options.withFallback true⟩ site caller =
          Resolver.resolve ⟨index, options.withFallback false⟩ site caller ∨
        site.OverlapsPackage caller.package) ∧
      (index.PackagesEndPlainly → ∀ (options : BuildOptions) (entry : String),
        index.callGraph (options.withFallback true) entry =
            index.callGraph (options.withFallback false) entry ∧
          (∀ eventId eventName,
            index.eventCallGraph (options.withFallback true) eventId eventName entry =
              index.eventCallGraph (options.withFallback false) eventId eventName entry) ∧
          ∀ includeCalls,
            Architecture.ofIndex index ⟨includeCalls, options.resolver.withFallback true⟩ =
              Architecture.ofIndex index ⟨includeCalls, options.resolver.withFallback false⟩) := by
  have names := built.namesOnly
  constructor
  · intro options site caller recorded
    exact Resolver.resolve_withFallback ⟨index, options⟩ names recorded
  · intro plain options entry
    have agree := agree_withFallback names built.registered plain options.resolver
    have sameGraph : index.callGraph (options.withFallback true) entry =
        index.callGraph (options.withFallback false) entry :=
      callGraph_of_alike (options.withFallback false) agree.alike entry
    refine ⟨sameGraph, ?_, ?_⟩
    · intro eventId eventName
      rw [eventCallGraph_eq_map, eventCallGraph_eq_map, sameGraph]
    · intro includeCalls
      simp only [Architecture.ofIndex, agree.callLinks]

theorem graphs_withFallback_service :
    serviceWalker.index.Buildable ∧ serviceWalker.index.PackagesEndPlainly ∧
      (CallSite.method "Handler" "Serve" 9).Recorded ∧
      serviceWalker.resolver.matchReceiverName (.method "Handler" "Serve" 9) "p" =
        some "p.Handler.Serve" ∧
      Resolver.resolve ⟨serviceWalker.index, ResolverOptions.standard.withFallback true⟩
          (.method "Handler" "Serve" 9) (.inPackage "p") =
        Resolver.resolve ⟨serviceWalker.index, ResolverOptions.standard.withFallback false⟩
          (.method "Handler" "Serve" 9) (.inPackage "p") ∧
      serviceWalker.index.callGraph (BuildOptions.standard.withFallback true) "p.Handler.Serve" =
        serviceWalker.index.callGraph (BuildOptions.standard.withFallback false)
          "p.Handler.Serve" := by
  have onlyPackage : serviceWalker.index.packages.keys = ["p"] := by decide +kernel
  have plain : serviceWalker.index.PackagesEndPlainly := by
    apply packagesEndPlainly_of_undotted
    intro package known
    rw [← Table.mem_keys_iff, onlyPackage, List.mem_singleton] at known
    rw [known]
    decide
  have recorded : (CallSite.method "Handler" "Serve" 9).Recorded :=
    .method (.name (by decide +kernel)) (by decide +kernel)
  obtain ⟨sameTarget, sameGraphs⟩ := graphs_withFallback buildable_service
  refine ⟨buildable_service, plain, recorded, by decide +kernel, ?_,
    (sameGraphs plain .standard "p.Handler.Serve").1⟩
  exact (sameTarget .standard _ (.inPackage "p") recorded).resolve_right
    (plain.not_overlaps (by decide +kernel) _)

end Index

end GoAtlas
