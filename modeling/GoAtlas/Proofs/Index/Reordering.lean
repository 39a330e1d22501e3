import GoAtlas.Proofs.Index.History

/-!
Sources in another order. Where no identifier is declared twice, the order decides only what a
package is called, which directory it is given and in which order its imports stand.
-/

namespace GoAtlas

/-- No type, no function and no method is declared twice. -/
structure DeclaresOnce (units : List EnteredUnit) : Prop where
  types : ((units.flatMap (·.unit.types)).map TypeSymbol.id).Nodup
  functions : ((units.flatMap (·.unit.functions)).map FunctionSymbol.id).Nodup
  methods : ((units.flatMap (·.unit.methods)).map MethodSymbol.id).Nodup

theorem declaredPackage?_isSome_iff {id : String} {units : List EnteredUnit} :
    (declaredPackage? id units).isSome = true ↔ ∃ entered ∈ units, entered.packageId = id := by
  simp [declaredPackage?]

theorem mem_imports_iff {id : String} {units : List EnteredUnit} {package : Package}
    (found : declaredPackage? id units = some package) {path : String} :
    path ∈ package.imports ↔
      ∃ entered ∈ units, entered.packageId = id ∧ path ∈ externalPaths entered.unit.imports := by
  obtain ⟨first, -, rfl⟩ := Option.map_eq_some_iff.mp found
  simp [and_assoc]

namespace Index

variable {index other : Index} {units others : List EnteredUnit}

/-- The indexes have the same symbols and the same packages, up to what the order of the sources
decides. -/
structure Interchangeable (index other : Index) : Prop where
  symbols : index.SameSymbols other
  packages : other.packages.keys = index.packages.keys
  imports : ∀ {id package otherPackage}, index.packages.get? id = some package →
    other.packages.get? id = some otherPackage →
      ∀ path, path ∈ otherPackage.imports ↔ path ∈ package.imports

theorem Holds.interchangeable (holds : index.Holds units) (otherHolds : other.Holds others)
    (permuted : units.Perm others) (once : DeclaresOnce units) : index.Interchangeable other where
  symbols := by
    apply holds.sameSymbols otherHolds <;> intro id
    · exact lastWith?_of_perm (permuted.flatMap_right _) once.types
    · exact lastWith?_of_perm (permuted.flatMap_right _) once.functions
    · exact lastWith?_of_perm (permuted.flatMap_right _) once.methods
  packages := by
    apply Table.keys_eq_of_contains
    intro id
    rw [Bool.eq_iff_iff, Table.contains, Table.contains, otherHolds.packages, holds.packages]
    simp only [declaredPackage?_isSome_iff, permuted.mem_iff]
  imports := by
    intro id package otherPackage found otherFound path
    rw [holds.packages] at found
    rw [otherHolds.packages] at otherFound
    simp only [mem_imports_iff found, mem_imports_iff otherFound, permuted.mem_iff]

theorem interchangeable_of_perm {options : IndexOptions} {sources others : List Source}
    (permuted : sources.Perm others) (once : DeclaresOnce (enteredBy options sources)) :
    (ofSources options sources).Interchangeable (ofSources options others) :=
  (holds_ofSources options sources).interchangeable (holds_ofSources options others)
    (permuted.filterMap _) once

end Index

end GoAtlas
