import GoAtlas.Go.SourceUnit
import GoAtlas.Proofs.Names.Calls
import GoAtlas.Proofs.Names.Grammar.Files

/-!
The symbols of a source unit: whatever source is read, types, functions, methods and receivers have
names that Go admits, and every call site in their bodies has a recorded shape.
-/

namespace GoAtlas

open Go (isName)

structure TypeSymbol.NamesOnly (symbol : TypeSymbol) : Prop where
  name : isName symbol.name = true

structure FunctionSymbol.NamesOnly (symbol : FunctionSymbol) : Prop where
  name : isName symbol.name = true
  calls : ∀ site ∈ symbol.calls, site.Recorded

structure MethodSymbol.NamesOnly (symbol : MethodSymbol) : Prop where
  name : isName symbol.name = true
  receiver : isName symbol.receiver = true
  calls : ∀ site ∈ symbol.calls, site.Recorded

namespace Go

open Named (namesOnly)

theorem isName_unknownReceiver : isName unknownReceiver = true := by decide

theorem isName_firstReceiverTypeName {types : List Node}
    (each : ∀ type ∈ types, isName (receiverTypeName type) = true) :
    isName (firstReceiverTypeName types) = true := by
  cases types with
  | nil => exact isName_unknownReceiver
  | cons type rest => exact each type List.mem_cons_self

theorem isName_receiverTypeNameIn {types : List Node}
    (each : ∀ type ∈ types, isName (receiverTypeName type) = true) :
    isName (receiverTypeNameIn types) = true := by
  induction types with
  | nil => exact isName_unknownReceiver
  | cons type rest inductionHypothesis =>
      unfold receiverTypeNameIn
      split
      · exact each type List.mem_cons_self
      · exact inductionHypothesis fun other member => each other (List.mem_cons_of_mem _ member)

theorem isName_receiverTypeName {type : Node} (names : type.NamesOnly) :
    isName (receiverTypeName type) = true := by
  induction names with
  | intro own inner inductionHypothesis =>
      unfold receiverTypeName
      split
      · exact own rfl
      · exact isName_firstReceiverTypeName inductionHypothesis
      · exact isName_firstReceiverTypeName inductionHypothesis
      · exact isName_receiverTypeNameIn inductionHypothesis
      · exact isName_unknownReceiver

theorem isName_receiverOf {parameters : Node} (names : namesOnly parameters) :
    isName (receiverOf parameters).1 = true := by
  unfold receiverOf
  split
  · exact isName_unknownReceiver
  · rename_i parameter found
    have parameterNames := Node.namesOnly_children names parameter (List.mem_of_find?_eq_some found)
    cases typed : parameter.child? .type with
    | none => exact isName_unknownReceiver
    | some type => exact isName_receiverTypeName (Node.namesOnly_of_child? parameterNames typed)

namespace SourceUnit

/-- Everything that a unit declares is well named. -/
structure NamesOnly (unit : SourceUnit) : Prop where
  types : ∀ symbol ∈ unit.types, symbol.NamesOnly
  functions : ∀ symbol ∈ unit.functions, symbol.NamesOnly
  methods : ∀ symbol ∈ unit.methods, symbol.NamesOnly

variable {package file : String} {imports : ImportNames} {declaration spec : Node}

theorem recorded_of_mem_bodyCalls (names : namesOnly declaration) {site : CallSite}
    (member : site ∈ bodyCalls imports declaration) : site.Recorded := by
  unfold bodyCalls at member
  split at member
  · cases member
  · rename_i body found
    exact recorded_of_mem_callSites (Node.namesOnly_of_child? names found) member

theorem namesOnly_of_typeSymbol? (names : namesOnly spec) {symbol : TypeSymbol}
    (found : typeSymbol? package file spec = some symbol) : symbol.NamesOnly := by
  simp only [typeSymbol?, Option.bind_eq_bind, Option.bind_eq_some_iff] at found
  obtain ⟨name, nameFound, found⟩ := found
  have spelled : isName name.text = true := Node.isName_child? names nameFound rfl
  split at found
  · cases found
    exact ⟨spelled⟩
  · split at found <;> cases found <;> exact ⟨spelled⟩

theorem namesOnly_of_functionSymbol? (names : namesOnly declaration) {symbol : FunctionSymbol}
    (found : functionSymbol? package file imports declaration = some symbol) :
    symbol.NamesOnly := by
  simp only [functionSymbol?, Option.bind_eq_bind, Option.bind_eq_some_iff] at found
  obtain ⟨name, nameFound, same⟩ := found
  cases same
  exact ⟨Node.isName_child? names nameFound rfl, fun site => recorded_of_mem_bodyCalls names⟩

theorem namesOnly_of_methodSymbol? (names : namesOnly declaration) {symbol : MethodSymbol}
    (found : methodSymbol? package file imports declaration = some symbol) :
    symbol.NamesOnly := by
  simp only [methodSymbol?, Option.bind_eq_bind, Option.bind_eq_some_iff] at found
  obtain ⟨name, nameFound, found⟩ := found
  have spelled : isName name.text = true := Node.isName_child? names nameFound rfl
  have calls : ∀ site ∈ bodyCalls imports declaration, site.Recorded :=
    fun site => recorded_of_mem_bodyCalls names
  cases given : declaration.child? .receiver with
  | none =>
      simp only [given] at found
      cases found
      exact ⟨spelled, isName_unknownReceiver, calls⟩
  | some parameters =>
      simp only [given] at found
      cases found
      exact ⟨spelled, isName_receiverOf (Node.namesOnly_of_child? names given), calls⟩

theorem namesOnly_of_mem_interfaceMethods (names : namesOnly spec) {symbol : MethodSymbol}
    (member : symbol ∈ interfaceMethods package file spec) : symbol.NamesOnly := by
  unfold interfaceMethods at member
  split at member
  · rename_i owner type ownerFound typeFound
    split at member
    · obtain ⟨element, elementMember, found⟩ := List.mem_filterMap.mp member
      obtain ⟨name, nameFound, rfl⟩ := Option.map_eq_some_iff.mp found
      have elementNames := Node.namesOnly_children (Node.namesOnly_of_child? names typeFound)
        element (List.mem_of_mem_filter elementMember)
      refine ⟨Node.isName_child? elementNames nameFound rfl,
        Node.isName_child? names ownerFound rfl, ?_⟩
      intro site siteMember
      cases siteMember
    · cases member
  · cases member

theorem namesOnly_of_mem_typeSpecs (names : namesOnly declaration)
    (member : spec ∈ typeSpecs declaration) : namesOnly spec :=
  Node.namesOnly_children names spec (List.mem_of_mem_filter member)

theorem namesOnly_of_mem_typesOf (names : namesOnly declaration) {symbol : TypeSymbol}
    (member : symbol ∈ typesOf package file declaration) : symbol.NamesOnly := by
  unfold typesOf at member
  split at member
  · obtain ⟨spec, specMember, found⟩ := List.mem_filterMap.mp member
    exact namesOnly_of_typeSymbol? (namesOnly_of_mem_typeSpecs names specMember) found
  · cases member

theorem namesOnly_of_mem_functionsOf (names : namesOnly declaration) {symbol : FunctionSymbol}
    (member : symbol ∈ functionsOf package file imports declaration) : symbol.NamesOnly := by
  unfold functionsOf at member
  split at member
  · exact namesOnly_of_functionSymbol? names (by simpa using member)
  · cases member

theorem namesOnly_of_mem_methodsOf (names : namesOnly declaration) {symbol : MethodSymbol}
    (member : symbol ∈ methodsOf package file imports declaration) : symbol.NamesOnly := by
  unfold methodsOf at member
  split at member
  · obtain ⟨spec, specMember, member⟩ := List.mem_flatMap.mp member
    exact namesOnly_of_mem_interfaceMethods (namesOnly_of_mem_typeSpecs names specMember) member
  · exact namesOnly_of_methodSymbol? names (by simpa using member)
  · cases member

theorem namesOnly_ofTree {root : Node} (names : namesOnly root) :
    (ofTree package file root).NamesOnly := by
  have children := Node.namesOnly_children names
  refine ⟨?_, ?_, ?_⟩ <;> intro symbol member <;>
    obtain ⟨declaration, inRoot, member⟩ := List.mem_flatMap.mp member
  · exact namesOnly_of_mem_typesOf (children declaration inRoot) member
  · exact namesOnly_of_mem_functionsOf (children declaration inRoot) member
  · exact namesOnly_of_mem_methodsOf (children declaration inRoot) member

theorem read_eq_ok_iff {source : List UInt8} {unit : SourceUnit} :
    read source package file = .ok unit ↔
      ∃ root, parse source = .ok root ∧ ofTree package file root = unit := by
  unfold read
  cases parse source <;> simp [Except.map]

theorem exists_root_of_read {source : List UInt8} {unit : SourceUnit}
    (found : read source package file = .ok unit) :
    ∃ root, namesOnly root ∧ ofTree package file root = unit := by
  obtain ⟨root, parsed, same⟩ := read_eq_ok_iff.mp found
  exact ⟨root, namesOnly_of_parse parsed, same⟩

/-- Whatever source is read, what it declares is well named. -/
theorem namesOnly_of_read {source : List UInt8} {unit : SourceUnit}
    (found : read source package file = .ok unit) : unit.NamesOnly := by
  obtain ⟨root, names, rfl⟩ := exists_root_of_read found
  exact namesOnly_ofTree names

end SourceUnit

end Go

end GoAtlas
