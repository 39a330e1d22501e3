import GoAtlas.Proofs.Architecture.Integrity
import GoAtlas.Proofs.Index.History

/-!
Which identifiers are borne twice. An identifier does not tell where the part of its package ends,
and nothing keeps a package from bearing the identifier of a type, or a type from being called like
a function of its package. There are no other ways: where no package continues another by dotted
names and no type is called like a function beside it, every identifier stands for one thing.
-/

namespace GoAtlas

/-! ### Components by identifier -/

theorem filter_firstOfEach {Element Key : Type} [DecidableEq Key] (key : Element → Key)
    (elements : List Element) (value : Key) :
    (firstOfEach key elements).filter (key · == value) =
      (elements.find? (key · == value)).toList := by
  induction elements using List.reverseRecOn with
  | nil => rfl
  | append_singleton elements last inductionHypothesis =>
      rw [firstOfEach_concat, appendFresh, List.find?_append]
      by_cases own : key last = value
      · subst own
        cases found : elements.find? (key · == key last) with
        | none =>
            have fresh : ¬∃ other ∈ firstOfEach key elements, key other = key last := by
              simpa [found] using inductionHypothesis
            simp [fresh, inductionHypothesis, found]
        | some first =>
            have kept : first ∈ (firstOfEach key elements).filter (key · == key last) := by
              simp [inductionHypothesis, found]
            have known : ∃ other ∈ firstOfEach key elements, key other = key last :=
              ⟨first, by simpa using kept⟩
            simp [known, inductionHypothesis, found]
      · split <;> simp [inductionHypothesis, own]

theorem Table.find?_map_entries {Value : Type} (table : Table Value) (id : String)
    (component : String × Value → Component) (own : ∀ entry, (component entry).id = entry.1) :
    (table.entries.map component).find? (·.id == id) =
      (table.get? id).map fun value => component (id, value) := by
  unfold get?
  induction table.entries with
  | nil => rfl
  | cons first rest inductionHypothesis =>
      obtain ⟨key, value⟩ := first
      by_cases same : key = id
      · simp [lookupValue?, own, same]
      · simpa [lookupValue?, own, same] using inductionHypothesis

namespace Index

variable {index : Index} {id : String} {component : Component}

/-- The component of the first table in which the identifier stands. -/
def componentOf? (index : Index) (id : String) : Option Component :=
  ((index.packages.get? id).map fun package => ⟨id, package.name, .package⟩)
    |>.or ((index.types.get? id).map fun type => ⟨id, type.name, .ofTypeKind type.kind⟩)
    |>.or ((index.functions.get? id).map fun symbol => ⟨id, symbol.name, .function⟩)
    |>.or ((index.methods.get? id).map fun symbol => ⟨id, symbol.name, .method⟩)

theorem find?_symbolComponents (index : Index) (id : String) :
    index.symbolComponents.find? (·.id == id) = index.componentOf? id := by
  simp only [symbolComponents, componentOf?, List.find?_append]
  rw [Table.find?_map_entries _ _ _ fun _ => rfl, Table.find?_map_entries _ _ _ fun _ => rfl,
    Table.find?_map_entries _ _ _ fun _ => rfl, Table.find?_map_entries _ _ _ fun _ => rfl]

theorem filter_components (options : ArchitectureOptions)
    (found : index.componentOf? id = some component) :
    (Architecture.ofIndex index options).components.filter (·.id == id) = [component] := by
  have kept := filter_firstOfEach (·.id) (index.symbolComponents ++ index.externalComponents) id
  rw [List.find?_append, find?_symbolComponents, found] at kept
  exact kept

/-! ### Identifiers that stand for one thing -/

/-- No identifier stands in two tables, so that no method is hidden behind a function and everything
that is indexed has a component of its own. -/
structure Unambiguous (index : Index) : Prop where
  apart : [index.packages.keys, index.types.keys, index.functions.keys,
    index.methods.keys].Pairwise List.Disjoint
  callable : ∀ {id method}, index.methods.get? id = some method →
    index.callable? id = some (.method method)
  components : ∀ (options : ArchitectureOptions), ∀ component ∈ index.symbolComponents,
    component ∈ (Architecture.ofIndex index options).components

theorem callable?_eq_method_iff {method : MethodSymbol} :
    index.callable? id = some (.method method) ↔
      index.methods.get? id = some method ∧ index.functions.contains id = false := by
  unfold callable? Table.contains
  cases index.functions.get? id <;> simp

theorem map_id_symbolComponents (index : Index) :
    index.symbolComponents.map (·.id) = [index.packages.keys, index.types.keys,
      index.functions.keys, index.methods.keys].flatten := by
  simp [symbolComponents, Table.keys, Function.comp_def]

/-- The rest follows once the tables are apart. -/
theorem unambiguous_of_apart (apart : [index.packages.keys, index.types.keys, index.functions.keys,
    index.methods.keys].Pairwise List.Disjoint) : index.Unambiguous where
  apart := apart
  callable := by
    intro id method found
    have functionsApart : index.functions.keys.Disjoint index.methods.keys := by
      simp only [List.pairwise_cons] at apart
      obtain ⟨-, -, functions, -⟩ := apart
      exact functions _ List.mem_cons_self
    refine callable?_eq_method_iff.mpr ⟨found, ?_⟩
    rw [Bool.eq_false_iff, Ne, ← Table.mem_keys_iff]
    exact fun function => functionsApart function (Table.mem_keys_of_get? found)
  components := by
    intro options component member
    have distinct : (index.symbolComponents.map (·.id)).Nodup := by
      rw [map_id_symbolComponents, List.nodup_flatten]
      exact ⟨by simp [Table.nodup_keys], apart⟩
    have firstFound := find?_of_nodup_keys distinct member
    rw [find?_symbolComponents] at firstFound
    have kept := filter_components options firstFound
    have inFilter : component ∈ (Architecture.ofIndex index options).components.filter
        (·.id == component.id) := by
      rw [kept]
      exact List.mem_singleton_self component
    exact List.mem_of_mem_filter inFilter

/-! ### Identifiers that are shared -/

/-- The identifier of an indexed package, followed by one dotted name or by two. -/
def IsNested (index : Index) (id : String) : Prop :=
  ∃ package, index.packages.contains package = true ∧ ∃ name, Go.isName name = true ∧
    (id = memberId package name ∨
      ∃ method, Go.isName method = true ∧ id = memberId (memberId package name) method)

/-- The ways in which two tables can share an identifier. -/
structure SharedIds (index : Index) : Prop where
  package : ∀ {id}, index.packages.contains id = true →
    index.types.contains id = true ∨ index.functions.contains id = true ∨
      index.methods.contains id = true → index.IsNested id
  typeAndFunction : ∀ {id type function}, index.types.get? id = some type →
    index.functions.get? id = some function →
      type.package = function.package ∧ type.name = function.name
  typeAndMethod : ∀ {id type method}, index.types.get? id = some type →
    index.methods.get? id = some method →
      type.package = memberId method.package method.receiver ∧ type.name = method.name
  functionAndMethod : ∀ {id function method}, index.functions.get? id = some function →
    index.methods.get? id = some method →
      function.package = memberId method.package method.receiver ∧ function.name = method.name

/-- No package continues another one by dotted names, and no type is called like a function of its
package. -/
structure Separated (index : Index) : Prop where
  packages : ∀ {id}, index.packages.contains id = true → ¬index.IsNested id
  names : ∀ {typeId functionId type function}, index.types.get? typeId = some type →
    index.functions.get? functionId = some function → type.package = function.package →
      type.name ≠ function.name

theorem isNested_of_symbol (names : index.NamesOnly) (registered : index.Registered)
    (symbol : index.types.contains id = true ∨ index.functions.contains id = true ∨
      index.methods.contains id = true) : index.IsNested id := by
  simp only [Table.contains_iff] at symbol
  rcases symbol with ⟨type, found⟩ | ⟨function, found⟩ | ⟨method, found⟩
  · obtain ⟨rfl, spelled⟩ := names.types found
    exact ⟨type.package, registered.types found, type.name, spelled.name, .inl rfl⟩
  · obtain ⟨rfl, spelled⟩ := names.functions found
    exact ⟨function.package, registered.functions found, function.name, spelled.name, .inl rfl⟩
  · obtain ⟨rfl, spelled⟩ := names.methods found
    exact ⟨method.package, registered.methods found, method.receiver, spelled.receiver,
      .inr ⟨method.name, spelled.name, rfl⟩⟩

theorem memberId_inj_of_isName {owner other name otherName : String}
    (spelled : Go.isName name = true) (otherSpelled : Go.isName otherName = true)
    (same : memberId owner name = memberId other otherName) : owner = other ∧ name = otherName :=
  memberId_inj (Go.isName.not_mem spelled Go.continuesName_dot)
    (Go.isName.not_mem otherSpelled Go.continuesName_dot) same

theorem sharedIds (names : index.NamesOnly) (registered : index.Registered) : index.SharedIds where
  package := fun _ => isNested_of_symbol names registered
  typeAndFunction := by
    intro id type function typeFound functionFound
    obtain ⟨rfl, spelled⟩ := names.types typeFound
    obtain ⟨same, otherSpelled⟩ := names.functions functionFound
    exact memberId_inj_of_isName spelled.name otherSpelled.name same.symm
  typeAndMethod := by
    intro id type method typeFound methodFound
    obtain ⟨rfl, spelled⟩ := names.types typeFound
    obtain ⟨same, otherSpelled⟩ := names.methods methodFound
    exact memberId_inj_of_isName spelled.name otherSpelled.name same.symm
  functionAndMethod := by
    intro id function method functionFound methodFound
    obtain ⟨rfl, spelled⟩ := names.functions functionFound
    obtain ⟨same, otherSpelled⟩ := names.methods methodFound
    exact memberId_inj_of_isName spelled.name otherSpelled.name same.symm

theorem isNested_of_owner (names : index.NamesOnly) (registered : index.Registered)
    {method : MethodSymbol} (found : index.methods.get? id = some method) :
    index.IsNested (memberId method.package method.receiver) :=
  ⟨method.package, registered.methods found, method.receiver, (names.methods found).2.receiver,
    .inl rfl⟩

theorem Separated.unambiguous (separated : index.Separated) (names : index.NamesOnly)
    (registered : index.Registered) : index.Unambiguous := by
  have shared := sharedIds names registered
  have packages : ∀ {id}, id ∈ index.packages.keys → id ∈ index.types.keys ∨
      id ∈ index.functions.keys ∨ id ∈ index.methods.keys → False := by
    simp only [Table.mem_keys_iff]
    exact fun known symbol => separated.packages known (shared.package known symbol)
  have packageTypes : index.packages.keys.Disjoint index.types.keys :=
    fun _ package type => packages package (.inl type)
  have packageFunctions : index.packages.keys.Disjoint index.functions.keys :=
    fun _ package function => packages package (.inr (.inl function))
  have packageMethods : index.packages.keys.Disjoint index.methods.keys :=
    fun _ package method => packages package (.inr (.inr method))
  have typeFunctions : index.types.keys.Disjoint index.functions.keys := Table.disjoint_keys
    fun type function => separated.names type function (shared.typeAndFunction type function).1
      (shared.typeAndFunction type function).2
  -- a type or a function can only be taken for a method if its package continues the method's
  have continued : ∀ {id method}, index.methods.get? id = some method →
      index.packages.contains (memberId method.package method.receiver) = true → False :=
    fun method known => separated.packages known (isNested_of_owner names registered method)
  have typeMethods : index.types.keys.Disjoint index.methods.keys := Table.disjoint_keys
    fun type method => continued method
      ((shared.typeAndMethod type method).1 ▸ registered.types type)
  have functionMethods : index.functions.keys.Disjoint index.methods.keys := Table.disjoint_keys
    fun function method => continued method
      ((shared.functionAndMethod function method).1 ▸ registered.functions function)
  apply unambiguous_of_apart
  simp [packageTypes, packageFunctions, packageMethods, typeFunctions, typeMethods,
    functionMethods]

/-- Identifiers are shared in these ways only; a method is hidden only by a function, a component
is the one of the first table, and what is separated by its names is never shared. -/
theorem identifiers_of_buildable (built : index.Buildable) :
    index.SharedIds ∧
      (∀ id method, index.callable? id = some (.method method) ↔
        index.methods.get? id = some method ∧ index.functions.contains id = false) ∧
      (∀ (options : ArchitectureOptions) (id : String) (component : Component),
        index.componentOf? id = some component →
          (Architecture.ofIndex index options).components.filter (·.id == id) = [component]) ∧
      (index.Separated → index.Unambiguous) :=
  ⟨sharedIds built.namesOnly built.registered, fun _ _ => callable?_eq_method_iff,
    fun options _ _ found => filter_components options found,
    fun separated => separated.unambiguous built.namesOnly built.registered⟩

end Index

/-! ### Overloaded identifiers -/

/-- A method of a type whose identifier is also a package's, and a function that is called like a
type. -/
def overloads : List Source :=
  [{ directory := "p", file := "a.go"
     content := ("package p\ntype B struct \x7b\n\x7d\nfunc (b B) C() \x7b\n\x7d\n" ++
       "func D() \x7b\n\x7d\n").toUTF8.toList },
    { directory := "p", file := "b.go"
      content := "package p\ntype D struct \x7b\n\x7d\n".toUTF8.toList },
    { directory := "p.B", file := "c.go"
      content := "package b\nfunc C() \x7b\n\x7d\n".toUTF8.toList }]

def overloadUnits : List EnteredUnit :=
  [⟨"p", "p", ⟨"p", [], [⟨"B", "p", .struct, "a.go", 2, [], [], []⟩], [⟨"D", "p", "a.go", 6, []⟩],
      [⟨"C", "B", some "b", "p", "a.go", 4, []⟩]⟩⟩,
    ⟨"p", "p", ⟨"p", [], [⟨"D", "p", .struct, "b.go", 2, [], [], []⟩], [], []⟩⟩,
    ⟨"p.B", "p.B", ⟨"b", [], [], [⟨"C", "p.B", "c.go", 2, []⟩], []⟩⟩]

theorem enteredBy_overloads : enteredBy .standard overloads = overloadUnits := by
  decide +kernel

theorem ofSources_overloads :
    Index.ofSources .standard overloads = Index.ofUnits overloadUnits := by
  rw [Index.ofSources_eq_ofUnits, enteredBy_overloads]

/-- The method is hidden, and neither the type nor the method has a component of its own. -/
theorem Index.not_unambiguous_overloads :
    (ofSources .standard overloads).Buildable ∧
      ¬(ofSources .standard overloads).Unambiguous ∧
      (ofSources .standard overloads).methods.get? "p.B.C" =
        some ⟨"C", "B", some "b", "p", "a.go", 4, []⟩ ∧
      (ofSources .standard overloads).callable? "p.B.C" =
        some (.function ⟨"C", "p.B", "c.go", 2, []⟩) ∧
      (Architecture.ofIndex (ofSources .standard overloads) .standard).components =
        [⟨"p", "p", .package⟩, ⟨"p.B", "b", .package⟩, ⟨"p.D", "D", .struct⟩,
          ⟨"p.B.C", "C", .function⟩] := by
  have method : (ofSources .standard overloads).methods.get? "p.B.C" =
      some ⟨"C", "B", some "b", "p", "a.go", 4, []⟩ := by
    rw [ofSources_overloads]
    decide +kernel
  have callable : (ofSources .standard overloads).callable? "p.B.C" =
      some (.function ⟨"C", "p.B", "c.go", 2, []⟩) := by
    rw [ofSources_overloads]
    decide +kernel
  refine ⟨⟨.standard, overloads, rfl⟩, ?_, method, callable, ?_⟩
  · intro unambiguous
    have hidden := unambiguous.callable method
    rw [callable] at hidden
    cases hidden
  · rw [ofSources_overloads]
    decide +kernel

theorem separated_linkage : linkageIndex.Separated where
  packages := by
    rintro id known ⟨package, -, name, -, nested⟩
    have onlyPackage : linkageIndex.packages.keys = ["p"] := by decide
    rw [← Table.mem_keys_iff, onlyPackage, List.mem_singleton] at known
    subst known
    have plain : '.' ∉ "p".toList := by decide
    rcases nested with same | ⟨method, -, same⟩ <;>
    · rw [same] at plain
      exact plain (dot_mem_memberId _ _)
  names := by
    intro typeId functionId type function _ found
    have noFunctions : linkageIndex.functions = .empty := rfl
    rw [noFunctions] at found
    cases found

theorem Index.identifiers_of_buildable_linkage :
    linkageIndex.Buildable ∧ linkageIndex.Separated ∧ linkageIndex.Unambiguous ∧
      (ofSources .standard overloads).SharedIds ∧
      (Architecture.ofIndex (ofSources .standard overloads) .standard).components.filter
        (·.id == "p.B") = [⟨"p.B", "b", .package⟩] := by
  obtain ⟨-, -, -, distinguished⟩ := identifiers_of_buildable buildable_linkage
  obtain ⟨shared, -, component, -⟩ := identifiers_of_buildable ⟨.standard, overloads, rfl⟩
  refine ⟨buildable_linkage, separated_linkage, distinguished separated_linkage, shared,
    component .standard "p.B" _ ?_⟩
  rw [ofSources_overloads]
  decide +kernel

end GoAtlas
