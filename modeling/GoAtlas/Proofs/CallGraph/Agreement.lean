import GoAtlas.Proofs.CallGraph.Classification
import GoAtlas.Proofs.Index.Callables

/-!
When two graphs are the same. A walk reads its resolver only through the symbols that can be called,
the kinds of methods and what the calls of indexed symbols resolve to, so resolvers that are alike
in these draw the same graphs, even of different indexes.
-/

namespace GoAtlas

/-- Two resolvers tell the same of everything that can be called and of its calls. -/
structure Resolver.Alike (resolver other : Resolver) : Prop where
  functions : other.index.functions = resolver.index.functions
  methods : other.index.methods = resolver.index.methods
  methodKind : other.methodKind = resolver.methodKind
  resolve : ∀ {id callable}, (id, callable) ∈ resolver.index.callables →
    ∀ site ∈ callable.calls,
      other.resolve site (.ofCallable callable) = resolver.resolve site (.ofCallable callable)

namespace Resolver.Alike

variable {resolver other : Resolver}

theorem callable? (alike : resolver.Alike other) (id : String) :
    other.index.callable? id = resolver.index.callable? id := by
  unfold Index.callable?
  rw [alike.functions, alike.methods]

theorem isEmpty (alike : resolver.Alike other) : other.index.isEmpty = resolver.index.isEmpty := by
  unfold Index.isEmpty
  rw [alike.functions, alike.methods]

end Resolver.Alike

namespace Walker

def withResolver (walker : Walker) (other : Resolver) : Walker :=
  { walker with resolver := other }

variable {walker : Walker} {other : Resolver} {id entry : String} {callable : Callable}
  {depth : Nat} {call : PendingCall} {pending : List PendingCall} {walk : Walk}

section

variable (alike : walker.resolver.Alike other)
include alike

theorem callable?_withResolver (id : String) :
    (walker.withResolver other).index.callable? id = walker.index.callable? id :=
  alike.callable? id

theorem callsOf_withResolver (found : walker.index.callable? id = some callable) :
    (walker.withResolver other).callsOf id callable depth = walker.callsOf id callable depth := by
  unfold callsOf
  apply List.filterMap_congr
  intro site member
  have same := alike.resolve (Index.mem_callables_of_found found) site member
  rw [withResolver, same]

theorem symbolNode_withResolver :
    (walker.withResolver other).symbolNode id depth callable =
      walker.symbolNode id depth callable := by
  cases callable with
  | function symbol => rfl
  | method symbol => simp [symbolNode, withResolver, alike.methodKind]

theorem enter_withResolver (walk : Walk) :
    (walker.withResolver other).enter id depth walk = walker.enter id depth walk := by
  unfold enter
  rw [callable?_withResolver alike]
  cases found : walker.index.callable? id with
  | none => rfl
  | some callable =>
      simp only [callsOf_withResolver alike found, symbolNode_withResolver alike]
      rfl

theorem follow_withResolver :
    (walker.withResolver other).follow call walk = walker.follow call walk := by
  unfold follow
  simp only [enter_withResolver alike]

theorem run_withResolver :
    (walker.withResolver other).run pending walk = walker.run pending walk := by
  induction pending, walk using Walker.run.induct walker with
  | case1 walk => rw [run, run]
  | case2 walk call rest inductionHypothesis =>
      rw [run, run, follow_withResolver alike]
      exact inductionHypothesis

theorem visit_withResolver :
    (walker.withResolver other).visit walk entry = walker.visit walk entry := by
  unfold visit
  rw [enter_withResolver alike, run_withResolver alike]

theorem build_withResolver (entry : String) :
    (walker.withResolver other).build entry = walker.build entry := by
  unfold build
  rw [callable?_withResolver alike, visit_withResolver alike]
  rfl

end

theorem ofOptions_withResolver {index : Index} (sameEmpty : other.index.isEmpty = index.isEmpty)
    (options : BuildOptions) :
    ofOptions other.index { options with resolver := other.options } =
      (ofOptions index options).map (·.withResolver other) := by
  unfold ofOptions
  rw [sameEmpty]
  dsimp only
  split
  · rfl
  split
  · rfl
  · cases readPatterns options.excludePackages <;> rfl

end Walker

theorem Index.callGraph_of_alike {index : Index} (options : BuildOptions) {other : Resolver}
    (alike : Resolver.Alike ⟨index, options.resolver⟩ other) (entry : String) :
    other.index.callGraph { options with resolver := other.options } entry =
      index.callGraph options entry := by
  unfold callGraph
  rw [Walker.ofOptions_withResolver alike.isEmpty]
  cases isWalker : Walker.ofOptions index options with
  | error error => rfl
  | ok walker =>
      have own := Walker.resolver_of_ofOptions isWalker
      exact Walker.build_withResolver (own ▸ alike) entry

end GoAtlas
