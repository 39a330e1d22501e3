import GoAtlas.Proofs.Names.Index

/-!
Names beside those of symbols: what methods call their receivers, and the methods that interfaces
declare. Whatever sources are read, Go admits these names, too.
-/

namespace GoAtlas

open Go (isName)

namespace Go

open Named (namesOnly)

/-- What a body calls its receiver is a name. -/
theorem isName_receiverVar {parameters : Node} (names : namesOnly parameters)
    {variableName : String} (bound : (receiverOf parameters).2 = some variableName) :
    isName variableName = true := by
  unfold receiverOf at bound
  split at bound
  · cases bound
  · rename_i parameter found
    have parameterNames := Node.namesOnly_children names parameter (List.mem_of_find?_eq_some found)
    obtain ⟨named, -⟩ := Option.filter_eq_some_iff.mp bound
    obtain ⟨name, nameFound, rfl⟩ := Option.map_eq_some_iff.mp named
    exact Node.isName_child? parameterNames nameFound rfl

namespace SourceUnit

variable {package file : String} {imports : ImportNames} {declaration spec : Node}

theorem isName_receiverVar_of_methodSymbol? (names : namesOnly declaration) {symbol : MethodSymbol}
    (found : methodSymbol? package file imports declaration = some symbol) {variableName : String}
    (bound : symbol.receiverVar = some variableName) : isName variableName = true := by
  simp only [methodSymbol?, Option.bind_eq_bind, Option.bind_eq_some_iff] at found
  obtain ⟨name, -, found⟩ := found
  cases given : declaration.child? .receiver with
  | none =>
      simp only [given] at found
      cases found
      cases bound
  | some parameters =>
      simp only [given] at found
      cases found
      exact isName_receiverVar (Node.namesOnly_of_child? names given) bound

/-- Only methods with a body of their own name a receiver. -/
theorem isName_receiverVar_of_mem_methodsOf (names : namesOnly declaration) {symbol : MethodSymbol}
    (member : symbol ∈ methodsOf package file imports declaration) {variableName : String}
    (bound : symbol.receiverVar = some variableName) : isName variableName = true := by
  unfold methodsOf at member
  split at member
  · obtain ⟨spec, -, member⟩ := List.mem_flatMap.mp member
    unfold interfaceMethods at member
    split at member
    · split at member
      · obtain ⟨element, -, found⟩ := List.mem_filterMap.mp member
        obtain ⟨name, -, rfl⟩ := Option.map_eq_some_iff.mp found
        cases bound
      · cases member
    · cases member
  · exact isName_receiverVar_of_methodSymbol? names (by simpa using member) bound
  · cases member

theorem isName_of_mem_methodNames {type : Node} (names : namesOnly type) {name : String}
    (member : name ∈ methodNames type) : isName name = true := by
  obtain ⟨element, isElement, named⟩ := List.mem_filterMap.mp member
  obtain ⟨node, found, rfl⟩ := Option.map_eq_some_iff.mp named
  have elementNames := Node.namesOnly_children names element (List.mem_of_mem_filter isElement)
  exact Node.isName_child? elementNames found rfl

theorem isName_of_mem_methods_of_typeSymbol? (names : namesOnly spec) {symbol : TypeSymbol}
    (found : typeSymbol? package file spec = some symbol) {name : String}
    (member : name ∈ symbol.methods) : isName name = true := by
  simp only [typeSymbol?, Option.bind_eq_bind, Option.bind_eq_some_iff] at found
  obtain ⟨owner, -, found⟩ := found
  split at found
  · cases found
    cases member
  · rename_i type typeFound
    split at found <;> cases found
    · cases member
    · exact isName_of_mem_methodNames (Node.namesOnly_of_child? names typeFound) member
    · cases member

theorem isName_of_mem_methods_of_mem_typesOf (names : namesOnly declaration) {symbol : TypeSymbol}
    (declared : symbol ∈ typesOf package file declaration) {name : String}
    (member : name ∈ symbol.methods) : isName name = true := by
  unfold typesOf at declared
  split at declared
  · obtain ⟨spec, isSpec, found⟩ := List.mem_filterMap.mp declared
    exact isName_of_mem_methods_of_typeSymbol? (namesOnly_of_mem_typeSpecs names isSpec) found
      member
  · cases declared

/-- The receivers of methods and the methods of interfaces in a unit have names. -/
structure NamesMembers (unit : SourceUnit) : Prop where
  receivers : ∀ symbol ∈ unit.methods, ∀ variableName,
    symbol.receiverVar = some variableName → isName variableName = true
  declared : ∀ symbol ∈ unit.types, ∀ name ∈ symbol.methods, isName name = true

theorem namesMembers_of_read {source : List UInt8} {unit : SourceUnit}
    (found : read source package file = .ok unit) : unit.NamesMembers := by
  obtain ⟨root, names, rfl⟩ := exists_root_of_read found
  have children := Node.namesOnly_children names
  constructor
  · intro symbol member variableName bound
    obtain ⟨declaration, inRoot, member⟩ := List.mem_flatMap.mp member
    exact isName_receiverVar_of_mem_methodsOf (children declaration inRoot) member bound
  · intro symbol member name declared
    obtain ⟨declaration, inRoot, member⟩ := List.mem_flatMap.mp member
    exact isName_of_mem_methods_of_mem_typesOf (children declaration inRoot) member declared

end SourceUnit

end Go

namespace Index

/-- The receivers of methods and the methods of interfaces in an index have names. -/
structure NamesMembers (index : Index) : Prop where
  receivers : ∀ {id symbol}, index.methods.get? id = some symbol → ∀ variableName,
    symbol.receiverVar = some variableName → isName variableName = true
  declared : ∀ {id symbol}, index.types.get? id = some symbol →
    ∀ name ∈ symbol.methods, isName name = true

theorem namesMembers_empty : empty.NamesMembers := by
  constructor <;> intro id symbol found <;> cases found

theorem NamesMembers.addUnit {index : Index} (names : index.NamesMembers)
    {packageId directory : String} {unit : Go.SourceUnit} (unitNames : unit.NamesMembers) :
    (index.addUnit packageId directory unit).NamesMembers where
  receivers := get?_insertAll names.receivers unitNames.receivers
  declared := get?_insertAll names.declared unitNames.declared

theorem Buildable.namesMembers {index : Index} (built : index.Buildable) :
    index.NamesMembers := by
  obtain ⟨options, sources, rfl⟩ := built
  exact ofSources_induction options namesMembers_empty
    (fun read names => names.addUnit (Go.SourceUnit.namesMembers_of_read read)) sources

end Index

end GoAtlas
