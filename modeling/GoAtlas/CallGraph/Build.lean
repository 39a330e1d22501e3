import GoAtlas.CallGraph.Walk
import GoAtlas.Text.Quoted

/-! Building the call graph of an entry point, under options that are checked once. -/

namespace GoAtlas

structure BuildOptions where
  maxDepth : Nat
  resolver : ResolverOptions
  /-- Patterns for the packages whose symbols appear in a graph but are not expanded. -/
  excludePackages : List String
  deriving DecidableEq, Repr

def BuildOptions.standard : BuildOptions := ⟨10, .standard, []⟩

def leastMaxDepth : Nat := 1

def greatestMaxDepth : Nat := 50

def isMaxDepth (depth : Nat) : Bool :=
  leastMaxDepth ≤ depth && depth ≤ greatestMaxDepth

inductive BuildError where
  | invalidMaxDepth (depth : Nat)
  | emptyIndex
  | entryPointNotFound (id : String)
  | invalidExcludePattern (pattern : String) (cause : GlobError)
  | contextNotFound (name : String)
  deriving DecidableEq, Repr

namespace BuildError

def message : BuildError → String
  | invalidMaxDepth depth =>
      "max depth must be between " ++ toString leastMaxDepth ++ " and " ++
        toString greatestMaxDepth ++ ", got " ++ toString depth
  | emptyIndex => "symbol index is empty; index a source tree first"
  | entryPointNotFound id => "entry point not found in code: " ++ id
  | invalidExcludePattern pattern cause => "invalid exclude pattern: " ++ cause.message pattern
  | contextNotFound name => "context not found: " ++ Text.quoted name

/-- What lies behind the error. -/
def causes : BuildError → List String
  | invalidExcludePattern pattern cause => [cause.message pattern]
  | _ => []

end BuildError

/-- Reads patterns up to the first that is none. -/
def readPatterns : List String → Except BuildError (List Glob)
  | [] => .ok []
  | pattern :: rest =>
      match Glob.read pattern with
      | .error cause => .error (.invalidExcludePattern pattern cause)
      | .ok glob => (readPatterns rest).map (glob :: ·)

/-- A walker over an index for options that are in order. -/
def Walker.ofOptions (index : Index) (options : BuildOptions) : Except BuildError Walker :=
  if !isMaxDepth options.maxDepth then .error (.invalidMaxDepth options.maxDepth)
  else if index.isEmpty then .error .emptyIndex
  else (readPatterns options.excludePackages).map fun exclude =>
    { resolver := ⟨index, options.resolver⟩, maxDepth := options.maxDepth, exclude }

namespace Walker

/-- The call graph of an entry point. -/
def build (walker : Walker) (entry : String) : Except BuildError CallGraph :=
  match walker.index.callable? entry with
  | none => .error (.entryPointNotFound entry)
  | some _ =>
      let walk := walker.visit .start entry
      .ok { eventId := none, eventName := none, entryPoint := entry, nodes := walk.nodes,
            edges := walk.edges, maxDepth := walker.maxDepth,
            actualDepth := walk.stats.maxDepthReached, stats := walk.finalStats,
            warnings := walker.warnings walk }

/-- The call graph of the entry point of an event; an empty name is none. -/
def buildForEvent (walker : Walker) (eventId eventName entry : String) :
    Except BuildError CallGraph :=
  (walker.build entry).map fun graph =>
    { graph with
      eventId := some eventId
      eventName := if eventName == "" then none else some eventName }

end Walker

end GoAtlas
