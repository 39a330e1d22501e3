import GoAtlas.Symbol
import GoAtlas.Table

/-!
The index: the tables of packages, types, functions and methods, each keyed by identifier, and the
look-ups that ask more than one table or more than one key.
-/

namespace GoAtlas

structure Index where
  packages : Table Package
  types : Table TypeSymbol
  functions : Table FunctionSymbol
  methods : Table MethodSymbol
  /-- How many sources have been read. -/
  units : Nat

structure IndexSummary where
  packages : Nat
  types : Nat
  functions : Nat
  methods : Nat
  units : Nat
  deriving DecidableEq, Repr

namespace Index

def empty : Index where
  packages := .empty
  types := .empty
  functions := .empty
  methods := .empty
  units := 0

instance : Inhabited Index := ⟨empty⟩

/-- A function, or else a method, of this identifier. -/
def callable? (index : Index) (id : String) : Option Callable :=
  match index.functions.get? id with
  | some symbol => some (.function symbol)
  | none => (index.methods.get? id).map .method

/-- Is there nothing that can be called? -/
def isEmpty (index : Index) : Bool :=
  index.functions.isEmpty && index.methods.isEmpty

def summary (index : Index) : IndexSummary where
  packages := index.packages.size
  types := index.types.size
  functions := index.functions.size
  methods := index.methods.size
  units := index.units

/-- All functions and then all methods, each in the order of their identifiers. -/
def callables (index : Index) : List (String × Callable) :=
  (index.functions.entries.map fun entry => (entry.1, Callable.function entry.2)) ++
    index.methods.entries.map fun entry => (entry.1, Callable.method entry.2)

theorem mem_callables_of_callable? {index : Index} {id : String} {callable : Callable}
    (found : index.callable? id = some callable) : id ∈ index.callables.map (·.1) := by
  simp only [callables, List.map_append, List.map_map, List.mem_append]
  unfold callable? at found
  split at found
  · rename_i symbol function
    exact .inl (Table.mem_keys_of_get? function)
  · obtain ⟨symbol, method, _⟩ := Option.map_eq_some_iff.mp found
    exact .inr (Table.mem_keys_of_get? method)

/-! ### Packages by import path -/

/-- How many elements two lists share from their start. -/
def commonPrefixLength {Element : Type} [DecidableEq Element] :
    List Element → List Element → Nat
  | x :: xs, y :: ys => if x = y then commonPrefixLength xs ys + 1 else 0
  | _, _ => 0

/-- How many segments two paths share from their end. -/
def sharedTrailingSegments (path other : String) : Nat :=
  commonPrefixLength (Text.split '/' path).reverse (Text.split '/' other).reverse

/-- The better of the best match so far and a further identifier; a tie keeps the earlier one. -/
def betterMatch (path : String) (best : Option (String × Nat)) (id : String) :
    Option (String × Nat) :=
  let shared := sharedTrailingSegments path id
  match best with
  | none => if 0 < shared then some (id, shared) else none
  | some (_, most) => if most < shared then some (id, shared) else best

/-- The package to which an import path refers. Identifiers are directories and never module
paths, so they are compared from the end: the one that shares most segments wins. -/
def packageOfImport? (index : Index) (path : String) : Option String :=
  if index.packages.contains path then some path
  else (index.packages.keys.foldl (betterMatch path) none).map (·.1)

end Index

end GoAtlas
