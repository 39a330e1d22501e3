import GoAtlas.Proofs.CallGraph.Steps

/-!
Evaluating a walk. A walk is defined by recursion on what is left to visit, which does not compute
inside proofs; a bounded number of its steps does.
-/

namespace GoAtlas

namespace Walker

variable {walker : Walker}

/-- At most so many steps of a walk, with the calls that are pending after them. -/
def advance (walker : Walker) : Nat → List PendingCall → Walk → List PendingCall × Walk
  | 0, pending, walk => (pending, walk)
  | _ + 1, [], walk => ([], walk)
  | steps + 1, call :: rest, walk =>
      walker.advance steps ((walker.follow call walk).2 ++ rest) (walker.follow call walk).1

/-- Advancing does not change where a walk ends. -/
theorem run_advance (steps : Nat) (pending : List PendingCall) (walk : Walk) :
    walker.run (walker.advance steps pending walk).1 (walker.advance steps pending walk).2 =
      walker.run pending walk := by
  induction steps generalizing pending walk with
  | zero => rfl
  | succ steps inductionHypothesis =>
      cases pending with
      | nil => rfl
      | cons call rest =>
          rw [advance, inductionHypothesis]
          conv_rhs => rw [run]

/-- The walk from an entry point, as far as some steps lead. -/
def advanceFrom (walker : Walker) (steps : Nat) (entry : String) : List PendingCall × Walk :=
  walker.advance steps (walker.enter entry 0 .start).2 (walker.enter entry 0 .start).1

/-- A walk after which nothing is pending is complete. -/
theorem visitAll_eq_advanceFrom {entry : String} (steps : Nat)
    (done : (walker.advanceFrom steps entry).1 = []) :
    walker.visitAll [entry] = (walker.advanceFrom steps entry).2 := by
  have ended := walker.run_advance steps (walker.enter entry 0 .start).2
    (walker.enter entry 0 .start).1
  have drained : (walker.advance steps (walker.enter entry 0 .start).2
    (walker.enter entry 0 .start).1).1 = [] := done
  rw [drained, run] at ended
  exact ended.symm

/-- The graph that a walk from an entry point has drawn. -/
def graphOf (walker : Walker) (entry : String) (walk : Walk) : CallGraph where
  eventId := none
  eventName := none
  entryPoint := entry
  nodes := walk.nodes
  edges := walk.edges
  maxDepth := walker.maxDepth
  actualDepth := walk.stats.maxDepthReached
  stats := walk.finalStats
  warnings := walker.warnings walk

theorem build_eq_ok_iff {entry : String} {graph : CallGraph} : walker.build entry = .ok graph ↔
    (walker.index.callable? entry).isSome = true ∧
      graph = walker.graphOf entry (walker.visitAll [entry]) := by
  unfold build
  cases walker.index.callable? entry with
  | none => simp
  | some callable =>
      simp only [Except.ok.injEq, Option.isSome_some, true_and]
      exact eq_comm

/-- The graph of an entry point, once enough steps of its walk are known. -/
theorem build_eq_advanceFrom {entry : String} (steps : Nat)
    (indexed : (walker.index.callable? entry).isSome = true)
    (done : (walker.advanceFrom steps entry).1 = []) :
    walker.build entry = .ok (walker.graphOf entry (walker.advanceFrom steps entry).2) := by
  rw [build_eq_ok_iff, visitAll_eq_advanceFrom steps done]
  exact ⟨indexed, rfl⟩

end Walker

/-! ### A detour -/

/-- A function without parameters that calls others in turn. -/
def writtenFunction (name : String) (callees : List String) : String :=
  "func " ++ name ++ "() \x7b\n" ++ String.join (callees.map fun callee => callee ++ "()\n") ++
    "\x7d\n"

/-- `C` is called by the entry point `A` itself, but it is met first on a detour through `B` and
`X`. -/
def detour : Source where
  directory := "p"
  file := "a.go"
  content :=
    ("package p\n" ++ writtenFunction "A" ["B", "C"] ++ writtenFunction "B" ["X"] ++
      writtenFunction "X" ["C"] ++ writtenFunction "C" ["D"] ++
      writtenFunction "D" []).toUTF8.toList

def detourUnit : Go.SourceUnit where
  packageName := "p"
  imports := []
  types := []
  functions :=
    [⟨"A", "p", "a.go", 2, [.function "B" 3, .function "C" 4]⟩,
      ⟨"B", "p", "a.go", 6, [.function "X" 7]⟩, ⟨"X", "p", "a.go", 9, [.function "C" 10]⟩,
      ⟨"C", "p", "a.go", 12, [.function "D" 13]⟩, ⟨"D", "p", "a.go", 15, []⟩]
  methods := []

theorem read_detour : Go.SourceUnit.read detour.content "p" detour.file = .ok detourUnit := by
  decide +kernel

/-- A walker over the index of the detour. -/
def detourWalker (maxDepth : Nat) : Walker where
  resolver := ⟨Index.empty.addUnit "p" detour.directory detourUnit, .standard⟩
  maxDepth := maxDepth
  exclude := []

theorem buildable_detour (maxDepth : Nat) : (detourWalker maxDepth).index.Buildable := by
  have kept : IndexOptions.standard.packageIds.packageId detour.directory = "p" := by
    decide
  exact Index.buildable_of_read kept read_detour

/-! ### A service -/

/-- A method that calls itself, a method of an interface, a package that is not indexed, and a
function literal. -/
def service : Source where
  directory := "p"
  file := "a.go"
  content :=
    ("package p\ntype Store interface \x7b\nLoad()\n\x7d\n" ++
      "type Handler struct \x7b\nstore Store\n\x7d\n" ++
      "func (h Handler) Serve() \x7b\nh.store.Load()\ngo h.store.Load()\n" ++
      "go fmt.Print()\nh.Serve()\nfunc() \x7b\n\x7d()\n\x7d\n").toUTF8.toList

def serviceUnit : Go.SourceUnit where
  packageName := "p"
  imports := []
  types :=
    [⟨"Store", "p", .interface, "a.go", 2, [], [], ["Load"]⟩,
      ⟨"Handler", "p", .struct, "a.go", 5, [⟨"store", "Store", none⟩], [], []⟩]
  functions := []
  methods :=
    [⟨"Load", "Store", none, "p", "a.go", 3, []⟩,
      ⟨"Serve", "Handler", some "h", "p", "a.go", 8,
        [.method "h.store" "Load" 9,
          { CallSite.method "h.store" "Load" 10 with isGoroutine := true },
          { CallSite.method "fmt" "Print" 11 with isGoroutine := true }, .method "h" "Serve" 12,
          .closure 13]⟩]

theorem read_service : Go.SourceUnit.read service.content "p" service.file = .ok serviceUnit := by
  decide +kernel

/-- The standard walker over the index of the service. -/
def serviceWalker : Walker where
  resolver := ⟨Index.empty.addUnit "p" service.directory serviceUnit, .standard⟩
  maxDepth := 10
  exclude := []

theorem buildable_service : serviceWalker.index.Buildable := by
  have kept : IndexOptions.standard.packageIds.packageId service.directory = "p" := by
    decide
  exact Index.buildable_of_read kept read_service

def serviceGraph : CallGraph where
  eventId := none
  eventName := none
  entryPoint := "p.Handler.Serve"
  nodes :=
    [⟨"p.Handler.Serve", some "p", "Serve", some "Handler", .method, some "a.go", some 8, 0⟩,
      ⟨"p.Store.Load", some "p", "Load", some "Store", .interfaceMethod, some "a.go", some 3, 1⟩,
      ⟨"fmt.Print", none, "fmt.Print", none, .external, none, none, 1⟩,
      ⟨"p.<closure>", some "p", "<closure>", none, .closure, none, none, 1⟩]
  edges :=
    [⟨"p.Handler.Serve", "p.Store.Load", .interface, 9, false, false⟩,
      ⟨"p.Handler.Serve", "p.Store.Load", .goroutine, 10, true, true⟩,
      ⟨"p.Handler.Serve", "fmt.Print", .goroutine, 11, true, false⟩,
      ⟨"p.Handler.Serve", "p.Handler.Serve", .direct, 12, false, true⟩,
      ⟨"p.Handler.Serve", "p.<closure>", .closure, 13, false, false⟩]
  maxDepth := 10
  actualDepth := 1
  stats := ⟨4, 5, 1, 1, 1, 2, 1⟩
  warnings := []

theorem build_service : serviceWalker.build "p.Handler.Serve" = .ok serviceGraph := by
  rw [Walker.build_eq_advanceFrom 6 (by decide) (by decide)]
  decide

end GoAtlas
