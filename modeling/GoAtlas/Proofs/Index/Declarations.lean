import GoAtlas.Proofs.Names.Units
import GoAtlas.Proofs.Text.Separators
import GoAtlas.Resolver.TypeNames

/-!
What the declarations of one unit satisfy, whatever source it was read from. A type has only what
its kind can have, the package of a field's type is the one its name is qualified by, and each
method that an interface declares is declared as a method with the interface as its receiver.
-/

namespace GoAtlas

theorem splitQualified_plain {name : String} (plain : '.' ∉ name.toList) :
    splitQualified name = (none, name) := by
  have dot : ".".toList = ['.'] := by decide
  simp [splitQualified, Text.splitAtLast?, dot, Text.splitLast?_eq_none plain]

theorem splitQualified_memberId (package : String) {name : String} (plain : '.' ∉ name.toList) :
    splitQualified (memberId package name) = (some package, name) := by
  have dot : ".".toList = ['.'] := by decide
  have cut := Text.splitLast?_singleton_append package.toList plain
  simp [splitQualified, Text.splitAtLast?, dot, toList_memberId, cut]

structure TypeSymbol.WellFormed (symbol : TypeSymbol) : Prop where
  fields : symbol.kind ≠ .struct → symbol.fields = []
  methods : symbol.kind ≠ .interface → symbol.methods = []
  embeds : symbol.kind = .other → symbol.embeds = []
  references : ∀ field ∈ symbol.fields, field.typePackage = (splitQualified field.typeName).1

namespace Go

open Named (namesOnly)

/-! ### References of written types -/

def TypeReference.IsQualified (reference : TypeReference) : Prop :=
  reference.package = (splitQualified reference.name).1

namespace TypeReference

theorem isQualified_of_plain {name : String} (plain : '.' ∉ name.toList) :
    IsQualified ⟨name, Option.none⟩ := by
  simp [IsQualified, splitQualified_plain plain]

theorem isQualified_none : IsQualified .none :=
  isQualified_of_plain (by decide)

end TypeReference

open TypeReference (IsQualified isQualified_of_plain isQualified_none)

variable {children types : List Node}

theorem isQualified_qualifiedReference (names : namesOnly children) :
    (qualifiedReference children).IsQualified := by
  unfold qualifiedReference
  dsimp only
  split
  · rename_i package name _ nameText
    obtain ⟨child, found, rfl⟩ := Option.map_eq_some_iff.mp nameText
    have inRole : child.role = some .name := by simpa using List.find?_some found
    have spelled : isName child.text = true :=
      Node.isName_text (names child (List.mem_of_find?_eq_some found))
        (by simp [Node.spellsName, inRole, Role.spellsName])
    simp [IsQualified, splitQualified_memberId _ (isName.not_mem spelled continuesName_dot)]
  · exact isQualified_none

theorem isQualified_firstReference (each : ∀ type ∈ types, (typeReference type).IsQualified) :
    (firstReference types).IsQualified := by
  cases types with
  | nil => exact isQualified_none
  | cons type rest => exact each type List.mem_cons_self

theorem isQualified_referenceIn {role : Role}
    (each : ∀ type ∈ types, (typeReference type).IsQualified) :
    (referenceIn role types).IsQualified := by
  induction types with
  | nil => exact isQualified_none
  | cons type rest inductionHypothesis =>
      unfold referenceIn
      split
      · exact each type List.mem_cons_self
      · exact inductionHypothesis fun other member => each other (List.mem_cons_of_mem _ member)

theorem isQualified_typeReference {type : Node} (names : namesOnly type) :
    (typeReference type).IsQualified := by
  induction names with
  | intro own inner inductionHypothesis =>
      unfold typeReference
      split
      · exact isQualified_of_plain (isName.not_mem (own rfl) continuesName_dot)
      · exact isQualified_qualifiedReference inner
      · exact isQualified_firstReference inductionHypothesis
      · exact isQualified_firstReference inductionHypothesis
      · exact isQualified_referenceIn inductionHypothesis
      · exact isQualified_referenceIn inductionHypothesis
      · exact isQualified_referenceIn inductionHypothesis
      · exact isQualified_referenceIn inductionHypothesis
      · exact isQualified_referenceIn inductionHypothesis
      · exact isQualified_of_plain (by decide)
      · exact isQualified_of_plain (by decide)
      · exact isQualified_of_plain (by decide)
      · exact isQualified_none

namespace SourceUnit

variable {package file : String} {imports : ImportNames} {declaration spec structType : Node}

/-! ### Declared types -/

theorem qualified_of_mem_fieldsOf (names : namesOnly declaration) {field : Field}
    (member : field ∈ fieldsOf declaration) :
    field.typePackage = (splitQualified field.typeName).1 := by
  unfold fieldsOf at member
  split at member
  · cases member
  · rename_i type found
    obtain ⟨name, -, rfl⟩ := List.mem_map.mp member
    exact isQualified_typeReference (Node.namesOnly_of_child? names found)

theorem namesOnly_of_mem_fieldDeclarations (names : namesOnly structType)
    (member : declaration ∈ fieldDeclarations structType) : namesOnly declaration := by
  unfold fieldDeclarations at member
  split at member
  · cases member
  · rename_i list found
    have listNames := Node.namesOnly_children names list (List.mem_of_find?_eq_some found)
    exact Node.namesOnly_children listNames declaration (List.mem_of_mem_filter member)

theorem wellFormed_of_typeSymbol? (names : namesOnly spec) {symbol : TypeSymbol}
    (found : typeSymbol? package file spec = some symbol) : symbol.WellFormed := by
  simp only [typeSymbol?, Option.bind_eq_bind, Option.bind_eq_some_iff] at found
  obtain ⟨name, -, found⟩ := found
  split at found
  · cases found
    exact ⟨fun _ => rfl, fun _ => rfl, fun _ => rfl, by simp⟩
  · rename_i type typeFound
    split at found
    · cases found
      refine ⟨fun other => absurd rfl other, fun _ => rfl, by simp, ?_⟩
      intro field member
      obtain ⟨declaration, declared, member⟩ := List.mem_flatMap.mp member
      exact qualified_of_mem_fieldsOf (namesOnly_of_mem_fieldDeclarations
        (Node.namesOnly_of_child? names typeFound) declared) member
    · cases found
      exact ⟨fun _ => rfl, fun other => absurd rfl other, by simp, by simp⟩
    · cases found
      exact ⟨fun _ => rfl, fun _ => rfl, fun _ => rfl, by simp⟩

/-! ### Methods of interfaces -/

theorem exists_method_of_typeSymbol? {symbol : TypeSymbol}
    (found : typeSymbol? package file spec = some symbol) {name : String}
    (declares : name ∈ symbol.methods) :
    ∃ method ∈ interfaceMethods package file spec, method.id = memberId symbol.id name := by
  simp only [typeSymbol?, Option.bind_eq_bind, Option.bind_eq_some_iff] at found
  obtain ⟨owner, ownerFound, found⟩ := found
  split at found
  · cases found
    cases declares
  · rename_i type typeFound
    split at found
    · cases found
      cases declares
    · rename_i isInterface
      cases found
      obtain ⟨element, elementMember, named⟩ := List.mem_filterMap.mp declares
      obtain ⟨child, childFound, rfl⟩ := Option.map_eq_some_iff.mp named
      refine ⟨⟨child.text, owner.text, none, package, file, element.line, []⟩, ?_, rfl⟩
      simp only [interfaceMethods, ownerFound, typeFound, isInterface, beq_self_eq_true, if_true]
      exact List.mem_filterMap.mpr ⟨element, elementMember, by rw [childFound]; rfl⟩
    · cases found
      cases declares

/-- What holds of the declarations of a unit. -/
structure Coherent (unit : SourceUnit) : Prop where
  types : ∀ symbol ∈ unit.types, symbol.WellFormed
  dispatch : ∀ symbol ∈ unit.types, ∀ name ∈ symbol.methods,
    ∃ method ∈ unit.methods, method.id = memberId symbol.id name

theorem exists_spec_of_mem_typesOf (imports : ImportNames) {symbol : TypeSymbol}
    (member : symbol ∈ typesOf package file declaration) :
    ∃ spec ∈ typeSpecs declaration, typeSymbol? package file spec = some symbol ∧
      ∀ method ∈ interfaceMethods package file spec,
        method ∈ methodsOf package file imports declaration := by
  unfold typesOf at member
  split at member
  · rename_i isType
    obtain ⟨spec, specMember, found⟩ := List.mem_filterMap.mp member
    refine ⟨spec, specMember, found, ?_⟩
    intro method methodMember
    simp only [methodsOf, beq_iff_eq.mp isType]
    exact List.mem_flatMap.mpr ⟨spec, specMember, methodMember⟩
  · cases member

theorem coherent_ofTree {root : Node} (names : namesOnly root) :
    (ofTree package file root).Coherent := by
  constructor <;> intro symbol member <;>
    obtain ⟨declaration, inRoot, member⟩ := List.mem_flatMap.mp member <;>
    obtain ⟨spec, specMember, found, methodMember⟩ :=
      exists_spec_of_mem_typesOf (importNames (importsOf root)) member
  · have declarationNames := Node.namesOnly_children names declaration inRoot
    exact wellFormed_of_typeSymbol? (namesOnly_of_mem_typeSpecs declarationNames specMember) found
  · intro name declares
    obtain ⟨method, declared, sameId⟩ := exists_method_of_typeSymbol? found declares
    exact ⟨method, List.mem_flatMap.mpr ⟨declaration, inRoot, methodMember method declared⟩, sameId⟩

theorem coherent_of_read {source : List UInt8} {unit : SourceUnit}
    (found : read source package file = .ok unit) : unit.Coherent := by
  obtain ⟨root, names, rfl⟩ := exists_root_of_read found
  exact coherent_ofTree names

end SourceUnit

end Go

end GoAtlas
