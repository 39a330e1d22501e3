import GoAtlas.Proofs.Architecture.Calls
import GoAtlas.Proofs.Architecture.Identifiers
import GoAtlas.Proofs.Architecture.SelfLinks
import GoAtlas.Proofs.Resolver.Accuracy
import Mathlib.Logic.Relation

/-!
Containment is a hierarchy. What is contained in something has its identifier, a dot and more, so
containment never comes back to where it began; and each symbol is below the package that declares
it, by way of the type of its receiver where that type is indexed. An identifier has one last name,
so the type under the identifier of a receiver belongs to the package of the method.
-/

namespace GoAtlas

namespace Index

variable {index : Index} {outer inner package id : String}

/-- What contains a symbol: the package of a type or a function, and the type of a method's receiver
or, where that type is not indexed, the method's package. -/
inductive Owns (index : Index) : String → String → Prop
  | type {id : String} {type : TypeSymbol} (found : index.types.get? id = some type) :
      index.Owns type.package id
  | function {id : String} {symbol : FunctionSymbol}
      (found : index.functions.get? id = some symbol) : index.Owns symbol.package id
  | methodOfType {id : String} {method : MethodSymbol}
      (found : index.methods.get? id = some method)
      (known : index.types.contains method.receiverTypeId = true) :
      index.Owns method.receiverTypeId id
  | methodOfPackage {id : String} {method : MethodSymbol}
      (found : index.methods.get? id = some method)
      (unknown : index.types.contains method.receiverTypeId = false) :
      index.Owns method.package id

/-- The packages that declare what has an identifier. -/
inductive DeclaredIn (index : Index) : String → String → Prop
  | type {id : String} {type : TypeSymbol} (found : index.types.get? id = some type) :
      index.DeclaredIn type.package id
  | function {id : String} {symbol : FunctionSymbol}
      (found : index.functions.get? id = some symbol) : index.DeclaredIn symbol.package id
  | method {id : String} {method : MethodSymbol}
      (found : index.methods.get? id = some method) : index.DeclaredIn method.package id

theorem mem_containmentLinks_iff_owns :
    ⟨outer, inner, .contains⟩ ∈ index.containmentLinks ↔ index.Owns outer inner := by
  rw [mem_containmentLinks_iff]
  constructor
  · rintro (⟨id, type, found, same⟩ | ⟨id, symbol, found, same⟩ | ⟨id, method, found, same⟩) <;>
      obtain ⟨rfl, rfl, -⟩ := (Link.mk.injEq ..).mp same
    · exact .type found
    · exact .function found
    · unfold ownerOf
      split
      · rename_i known
        exact .methodOfType found known
      · rename_i unknown
        exact .methodOfPackage found (Bool.eq_false_iff.mpr unknown)
  · rintro (found | found | ⟨found, known⟩ | ⟨found, unknown⟩)
    · exact .inl ⟨_, _, found, rfl⟩
    · exact .inr (.inl ⟨_, _, found, rfl⟩)
    · exact .inr (.inr ⟨_, _, found, by rw [ownerOf, if_pos known]⟩)
    · exact .inr (.inr ⟨_, _, found, by simp [ownerOf, unknown]⟩)

/-- What is owned continues the identifier of its owner. -/
theorem Owns.continues (owns : index.Owns outer inner) (names : index.NamesOnly) :
    ∃ rest, rest ≠ "" ∧ inner = memberId outer rest := by
  cases owns with
  | type found =>
      obtain ⟨rfl, spelled⟩ := names.types found
      exact ⟨_, Go.isName.ne_empty spelled.name, rfl⟩
  | function found =>
      obtain ⟨rfl, spelled⟩ := names.functions found
      exact ⟨_, Go.isName.ne_empty spelled.name, rfl⟩
  | methodOfType found known =>
      obtain ⟨rfl, spelled⟩ := names.methods found
      exact ⟨_, Go.isName.ne_empty spelled.name, rfl⟩
  | @methodOfPackage _ method found unknown =>
      obtain ⟨rfl, -⟩ := names.methods found
      refine ⟨memberId method.receiver method.name, ?_, (memberId_memberId _ _ _).symm⟩
      intro empty
      have dotted := dot_mem_memberId method.receiver method.name
      rw [empty] at dotted
      cases dotted

/-- The type of a receiver belongs to the package of the method. -/
theorem NamesOnly.package_of_receiverType (names : index.NamesOnly) {method : MethodSymbol}
    {type : TypeSymbol} (found : index.methods.get? id = some method)
    (receiver : index.types.get? method.receiverTypeId = some type) :
    type.package = method.package := by
  obtain ⟨same, spelled⟩ := names.types receiver
  exact (memberId_inj_of_isName spelled.name (names.methods found).2.receiver same).1

theorem DeclaredIn.transGen_owns (declared : index.DeclaredIn package id)
    (names : index.NamesOnly) : Relation.TransGen index.Owns package id := by
  cases declared with
  | type found => exact .single (.type found)
  | function found => exact .single (.function found)
  | @method _ method found =>
      cases known : index.types.contains method.receiverTypeId with
      | false => exact .single (.methodOfPackage found known)
      | true =>
          obtain ⟨type, receiver⟩ := Table.contains_iff.mp known
          have inPackage : index.Owns method.package method.receiverTypeId :=
            names.package_of_receiverType found receiver ▸ .type receiver
          exact .tail (.single inPackage) (.methodOfType found known)

theorem DeclaredIn.contains_package (declared : index.DeclaredIn package id)
    (registered : index.Registered) : index.packages.contains package = true := by
  cases declared with
  | type found => exact registered.types found
  | function found => exact registered.functions found
  | method found => exact registered.methods found

end Index

namespace Architecture

variable {index : Index} {options : ArchitectureOptions} {outer inner : String}

def Contains (architecture : Architecture) (outer inner : String) : Prop :=
  ⟨outer, inner, .contains⟩ ∈ architecture.links

/-- Containment leads from packages down to all symbols of an index, to nothing else, and never
back. -/
structure IsHierarchy (architecture : Architecture) (index : Index) : Prop where
  continues : ∀ {outer inner}, architecture.Contains outer inner →
    outer.length < inner.length ∧ ∃ rest, rest ≠ "" ∧ inner = outer ++ "." ++ rest
  acyclic : ∀ id, ¬Relation.TransGen architecture.Contains id id
  wellFounded : WellFounded architecture.Contains
  links : ∀ {outer inner}, architecture.Contains outer inner ↔ index.Owns outer inner
  declared : ∀ {package id}, index.DeclaredIn package id →
    (∃ name, architecture.components.filter (·.id == package) = [⟨package, name, .package⟩]) ∧
      Relation.TransGen architecture.Contains package id

theorem contains_iff_owns : (ofIndex index options).Contains outer inner ↔
    index.Owns outer inner := by
  rw [← Index.mem_containmentLinks_iff_owns]
  simp only [Contains, ofIndex, mem_firstOfEach_id, List.mem_append]
  constructor
  · rintro (((contained | imported) | typed) | called)
    · exact contained
    · cases Index.kind_of_mem_importLinks imported
    · rcases Index.kind_of_mem_typeLinks typed with kind | kind <;> cases kind
    · split at called
      · cases (Resolver.mem_callLinks_iff.mp called).1
      · cases called
  · exact fun contained => .inl (.inl (.inl contained))

theorem length_lt_of_transGen {contains : String → String → Prop}
    (grows : ∀ {outer inner}, contains outer inner → outer.length < inner.length)
    (path : Relation.TransGen contains outer inner) : outer.length < inner.length := by
  induction path with
  | single step => exact grows step
  | tail _ step shorter => exact Nat.lt_trans shorter (grows step)

/-- Whatever is indexed, containment is a hierarchy of packages, types and their members. -/
theorem isHierarchy_ofIndex (built : index.Buildable) (options : ArchitectureOptions) :
    (ofIndex index options).IsHierarchy index := by
  have continued : ∀ {outer inner}, (ofIndex index options).Contains outer inner →
      outer.length < inner.length ∧ ∃ rest, rest ≠ "" ∧ inner = outer ++ "." ++ rest := by
    intro outer inner contained
    obtain ⟨rest, filled, rfl⟩ := (contains_iff_owns.mp contained).continues built.namesOnly
    exact ⟨length_lt_memberId outer rest, rest, filled, rfl⟩
  refine ⟨continued, ?_, ?_, contains_iff_owns, ?_⟩
  · intro id cycle
    exact Nat.lt_irrefl _ (length_lt_of_transGen (fun contained => (continued contained).1) cycle)
  · exact Subrelation.wf (fun contained => (continued contained).1)
      (InvImage.wf String.length Nat.lt_wfRel.wf)
  · intro package id declared
    obtain ⟨symbol, found⟩ :=
      Table.contains_iff.mp (declared.contains_package built.registered)
    have component : index.componentOf? package = some ⟨package, symbol.name, .package⟩ := by
      simp [Index.componentOf?, found]
    refine ⟨⟨symbol.name, Index.filter_components options component⟩, ?_⟩
    exact Relation.TransGen.mono (fun _ _ => contains_iff_owns.mpr) _ _
      (declared.transGen_owns built.namesOnly)

/-- A method and a function that share their identifier are both below their packages. -/
theorem isHierarchy_overloads :
    (Index.ofSources .standard overloads).Buildable ∧
      Relation.TransGen
        (ofIndex (Index.ofSources .standard overloads) .standard).Contains "p" "p.B.C" ∧
      Relation.TransGen
        (ofIndex (Index.ofSources .standard overloads) .standard).Contains "p.B" "p.B.C" := by
  have built : (Index.ofSources .standard overloads).Buildable := ⟨.standard, overloads, rfl⟩
  have hierarchy := isHierarchy_ofIndex built .standard
  have method : (Index.ofSources .standard overloads).methods.get? "p.B.C" =
      some ⟨"C", "B", some "b", "p", "a.go", 4, []⟩ := by
    rw [ofSources_overloads]
    decide
  have function : (Index.ofSources .standard overloads).functions.get? "p.B.C" =
      some ⟨"C", "p.B", "c.go", 2, []⟩ := by
    rw [ofSources_overloads]
    decide
  exact ⟨built, (hierarchy.declared (.method method)).2,
    (hierarchy.declared (.function function)).2⟩

end Architecture

end GoAtlas
