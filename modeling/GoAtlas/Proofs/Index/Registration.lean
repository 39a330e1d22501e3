import GoAtlas.Proofs.Index.Callables

/-!
Which packages an index knows. All symbols of a source belong to the package of its directory, and
that package is entered together with them, so no symbol of an index is without its package.
-/

namespace GoAtlas

namespace Go.SourceUnit

variable {package file : String} {imports : ImportNames} {declaration spec : Node}

structure DeclaredIn (unit : SourceUnit) (package : String) : Prop where
  types : ∀ symbol ∈ unit.types, symbol.package = package
  functions : ∀ symbol ∈ unit.functions, symbol.package = package
  methods : ∀ symbol ∈ unit.methods, symbol.package = package

theorem package_of_typeSymbol? {symbol : TypeSymbol}
    (found : typeSymbol? package file spec = some symbol) : symbol.package = package := by
  simp only [typeSymbol?, Option.bind_eq_bind, Option.bind_eq_some_iff] at found
  obtain ⟨name, -, found⟩ := found
  split at found
  · cases found
    rfl
  · split at found <;> cases found <;> rfl

theorem package_of_functionSymbol? {symbol : FunctionSymbol}
    (found : functionSymbol? package file imports declaration = some symbol) :
    symbol.package = package := by
  simp only [functionSymbol?, Option.bind_eq_bind, Option.bind_eq_some_iff] at found
  obtain ⟨name, -, same⟩ := found
  cases same
  rfl

theorem package_of_methodSymbol? {symbol : MethodSymbol}
    (found : methodSymbol? package file imports declaration = some symbol) :
    symbol.package = package := by
  simp only [methodSymbol?, Option.bind_eq_bind, Option.bind_eq_some_iff] at found
  obtain ⟨name, -, same⟩ := found
  cases same
  rfl

theorem package_of_mem_interfaceMethods {symbol : MethodSymbol}
    (member : symbol ∈ interfaceMethods package file spec) : symbol.package = package := by
  unfold interfaceMethods at member
  split at member
  · split at member
    · obtain ⟨element, -, found⟩ := List.mem_filterMap.mp member
      obtain ⟨name, -, rfl⟩ := Option.map_eq_some_iff.mp found
      rfl
    · cases member
  · cases member

theorem package_of_mem_typesOf {symbol : TypeSymbol}
    (member : symbol ∈ typesOf package file declaration) : symbol.package = package := by
  unfold typesOf at member
  split at member
  · obtain ⟨spec, -, found⟩ := List.mem_filterMap.mp member
    exact package_of_typeSymbol? found
  · cases member

theorem package_of_mem_functionsOf {symbol : FunctionSymbol}
    (member : symbol ∈ functionsOf package file imports declaration) :
    symbol.package = package := by
  unfold functionsOf at member
  split at member
  · exact package_of_functionSymbol? (by simpa using member)
  · cases member

theorem package_of_mem_methodsOf {symbol : MethodSymbol}
    (member : symbol ∈ methodsOf package file imports declaration) : symbol.package = package := by
  unfold methodsOf at member
  split at member
  · obtain ⟨spec, -, member⟩ := List.mem_flatMap.mp member
    exact package_of_mem_interfaceMethods member
  · exact package_of_methodSymbol? (by simpa using member)
  · cases member

theorem declaredIn_ofTree (root : Node) : (ofTree package file root).DeclaredIn package := by
  refine ⟨?_, ?_, ?_⟩ <;> intro symbol member <;>
    obtain ⟨declaration, -, member⟩ := List.mem_flatMap.mp member
  · exact package_of_mem_typesOf member
  · exact package_of_mem_functionsOf member
  · exact package_of_mem_methodsOf member

theorem declaredIn_of_read {source : List UInt8} {unit : SourceUnit}
    (found : read source package file = .ok unit) : unit.DeclaredIn package := by
  obtain ⟨root, -, rfl⟩ := exists_root_of_read found
  exact declaredIn_ofTree root

end Go.SourceUnit

namespace Index

variable {index : Index} {id : String} {callable : Callable}

/-- The package of every symbol is indexed. -/
structure Registered (index : Index) : Prop where
  types : ∀ {id symbol}, index.types.get? id = some symbol →
    index.packages.contains symbol.package = true
  functions : ∀ {id symbol}, index.functions.get? id = some symbol →
    index.packages.contains symbol.package = true
  methods : ∀ {id symbol}, index.methods.get? id = some symbol →
    index.packages.contains symbol.package = true

theorem registered_empty : empty.Registered := by
  constructor <;> intro id symbol found <;> cases found

theorem Registered.addUnit (registered : index.Registered) {packageId directory : String}
    {unit : Go.SourceUnit} (declared : unit.DeclaredIn packageId) :
    (index.addUnit packageId directory unit).Registered := by
  have kept : ∀ {package : String}, index.packages.contains package = true →
      (index.addUnit packageId directory unit).packages.contains package = true := by
    intro package known
    simp [Index.addUnit, known]
  have entered : (index.addUnit packageId directory unit).packages.contains packageId = true := by
    simp [Index.addUnit]
  constructor
  · exact get?_insertAll (fun found => kept (registered.types found))
      fun symbol member => declared.types symbol member ▸ entered
  · exact get?_insertAll (fun found => kept (registered.functions found))
      fun symbol member => declared.functions symbol member ▸ entered
  · exact get?_insertAll (fun found => kept (registered.methods found))
      fun symbol member => declared.methods symbol member ▸ entered

theorem Registered.package (registered : index.Registered)
    (member : (id, callable) ∈ index.callables) :
    index.packages.contains callable.package = true := by
  rcases mem_callables_iff.mp member with ⟨symbol, found, rfl⟩ | ⟨symbol, found, rfl⟩
  · exact registered.functions found
  · exact registered.methods found

theorem Buildable.registered (built : index.Buildable) : index.Registered := by
  obtain ⟨options, sources, rfl⟩ := built
  exact ofSources_induction options registered_empty
    (fun read registered => registered.addUnit (Go.SourceUnit.declaredIn_of_read read)) sources

end Index

end GoAtlas
