import GoAtlas.Go.SourceUnit
import GoAtlas.Proofs.Comments.Calls

/-!
Source units with comments put in. What a unit declares is the same, up to the lines on which it
stands.
-/

namespace GoAtlas

namespace Go

variable {reading : Reading} {readingOf : Option Role → Reading} {keepsFirst : Bool}
  {node other : Node} {children others : List Node}

/-! ### Types -/

theorem firstReference_eq (nodes : List Node) :
    firstReference nodes = (nodes.head?.map typeReference).getD .none := by
  cases nodes <;> rfl

theorem referenceIn_eq (role : Role) (nodes : List Node) : referenceIn role nodes =
    ((nodes.find? fun node => node.role == some role).map typeReference).getD .none := by
  induction nodes with
  | nil => rfl
  | cons node rest inductionHypothesis =>
      rw [referenceIn, List.find?_cons]
      cases node.role == some role
      · exact inductionHypothesis
      · rfl

theorem firstReceiverTypeName_eq (nodes : List Node) :
    firstReceiverTypeName nodes = (nodes.head?.map receiverTypeName).getD unknownReceiver := by
  cases nodes <;> rfl

theorem receiverTypeNameIn_eq (nodes : List Node) : receiverTypeNameIn nodes =
    ((nodes.find? fun node => node.role == some .type).map receiverTypeName).getD
      unknownReceiver := by
  induction nodes with
  | nil => rfl
  | cons node rest inductionHypothesis =>
      rw [receiverTypeNameIn, List.find?_cons]
      cases node.role == some .type
      · exact inductionHypothesis
      · rfl

theorem CommentedIn.qualifiedReference (inside : CommentedIn readingOf keepsFirst children others) :
    Go.qualifiedReference others = Go.qualifiedReference children := by
  have texts (role : Role) : (others.find? fun other => other.role == some role).map (·.text) =
      (children.find? fun child => child.role == some role).map (·.text) :=
    map_eq_of_rel (inside.find? (fun _ childRole => childRole == some role) rfl
      fun _ _ _ _ related => related.text)
  unfold Go.qualifiedReference
  simp only [texts]

namespace Commented

/-- A type that is looked through refers to what it refers to without the comments. -/
theorem typeReference (commented : Commented reading node other) (opened : reading.opened = true) :
    Go.typeReference other = Go.typeReference node := by
  induction node using Node.inductionOnChildren generalizing reading other with
  | step node inductionHypothesis =>
      obtain @⟨_, kind, role, line, otherLine, text, children, others, inside⟩ := commented
      have first (wraps : kind.wraps = true) (passes : ∀ role, kind.passes role = true) :
          firstReference others = firstReference children := by
        rw [opened, wraps] at inside
        rw [firstReference_eq, firstReference_eq, map_eq_of_rel (inside.head? ?_)]
        intro child member other related
        exact inductionHypothesis child member related (Reading.opened_child opened (passes _))
      have inRole (role : Role) (passes : kind.passes (some role) = true) :
          referenceIn role others = referenceIn role children := by
        rw [referenceIn_eq, referenceIn_eq,
          map_eq_of_rel (inside.find? (fun _ childRole => childRole == some role) rfl ?_)]
        intro child member isRole other related
        rw [beq_iff_eq] at isRole
        exact inductionHypothesis child member related
          (Reading.opened_child opened (isRole ▸ passes))
      cases kind with
      | qualifiedType => exact inside.qualifiedReference
      | pointerType | parenthesizedType => exact first rfl fun _ => rfl
      | genericType => exact inRole .type rfl
      | sliceType | arrayType => exact inRole .element rfl
      | mapType | channelType => exact inRole .value rfl
      | _ => rfl

theorem receiverTypeName (commented : Commented reading node other)
    (opened : reading.opened = true) : Go.receiverTypeName other = Go.receiverTypeName node := by
  induction node using Node.inductionOnChildren generalizing reading other with
  | step node inductionHypothesis =>
      obtain @⟨_, kind, role, line, otherLine, text, children, others, inside⟩ := commented
      have first (wraps : kind.wraps = true) (passes : ∀ role, kind.passes role = true) :
          firstReceiverTypeName others = firstReceiverTypeName children := by
        rw [opened, wraps] at inside
        rw [firstReceiverTypeName_eq, firstReceiverTypeName_eq, map_eq_of_rel (inside.head? ?_)]
        intro child member other related
        exact inductionHypothesis child member related (Reading.opened_child opened (passes _))
      cases kind with
      | pointerType | parenthesizedType => exact first rfl fun _ => rfl
      | genericType =>
          change receiverTypeNameIn others = receiverTypeNameIn children
          rw [receiverTypeNameIn_eq, receiverTypeNameIn_eq,
            map_eq_of_rel (inside.find? (fun _ childRole => childRole == some .type) rfl ?_)]
          intro child member isRole other related
          rw [beq_iff_eq] at isRole
          exact inductionHypothesis child member related
            (Reading.opened_child opened (isRole ▸ rfl))
      | _ => rfl

end Commented

end Go

/-! ### Symbols -/

/-- What a symbol says, wherever it stands. -/
def TypeSymbol.withoutLine (symbol : TypeSymbol) : TypeSymbol :=
  { symbol with line := 0 }

def FunctionSymbol.withoutLines (symbol : FunctionSymbol) : FunctionSymbol :=
  { symbol with line := 0, calls := symbol.calls.map (·.withoutLine) }

def MethodSymbol.withoutLines (symbol : MethodSymbol) : MethodSymbol :=
  { symbol with line := 0, calls := symbol.calls.map (·.withoutLine) }

namespace Go

/-- What a unit declares, wherever it stands in the source. -/
def SourceUnit.withoutLines (unit : SourceUnit) : SourceUnit :=
  { unit with
    types := unit.types.map (·.withoutLine)
    functions := unit.functions.map (·.withoutLines)
    methods := unit.methods.map (·.withoutLines) }

/-- The first node is a declaration of the kind, and the second one is it with comments put in. -/
def DeclaresAlike (kind : Kind) (node other : Node) : Prop :=
  node.kind = kind ∧ ∃ reading : Reading, reading.declared = true ∧ Commented reading node other

variable {reading : Reading} {readingOf : Option Role → Reading} {keepsFirst : Bool}
  {node other : Node} {children others : List Node} {package file : String} {imports : ImportNames}

theorem CommentedIn.declarations (wanted : Kind) (notComment : (.comment == wanted) = false)
    (inside : CommentedIn readingOf keepsFirst children others)
    (declared : ∀ role, (readingOf role).declared = true) :
    List.Forall₂ (DeclaresAlike wanted) (children.filter (·.kind == wanted))
      (others.filter (·.kind == wanted)) := by
  refine (inside.filter (fun kind _ => kind == wanted) notComment).imp ?_
  rintro child other ⟨isWanted, related⟩
  exact ⟨beq_iff_eq.mp isWanted, _, declared _, related⟩

namespace DeclaresAlike

theorem texts (alike : DeclaresAlike .fieldDeclaration node other) (role : Role) :
    (other.childrenIn role).map (·.text) = (node.childrenIn role).map (·.text) := by
  obtain ⟨-, reading, -, commented⟩ := alike
  have both := commented.inside.filter (fun _ childRole => childRole == some role) rfl
  rw [List.map_eq_flatMap, List.map_eq_flatMap]
  refine flatMap_eq_of_forall₂ both ?_
  rintro child otherChild ⟨-, related⟩
  rw [related.text]

theorem type (alike : DeclaresAlike .fieldDeclaration node other) :
    (other.child? .type).map typeReference = (node.child? .type).map typeReference := by
  obtain ⟨isField, reading, declared, commented⟩ := alike
  exact map_eq_of_rel (commented.child? .type fun _ _ related => related.typeReference
    (Reading.opened_of_refers declared (isField ▸ rfl)))

theorem fieldsOf (alike : DeclaresAlike .fieldDeclaration node other) :
    SourceUnit.fieldsOf other = SourceUnit.fieldsOf node := by
  have by_reference (declaration : Node) : SourceUnit.fieldsOf declaration =
      ((declaration.child? .type).map typeReference).elim [] fun reference =>
        ((declaration.childrenIn .name).map (·.text)).map fun name =>
          { name, typeName := reference.name, typePackage := reference.package } := by
    unfold SourceUnit.fieldsOf
    cases declaration.child? .type <;> simp
  rw [by_reference, by_reference, alike.type, alike.texts]

theorem embeddedIn? (alike : DeclaresAlike .fieldDeclaration node other) :
    SourceUnit.embeddedIn? other = SourceUnit.embeddedIn? node := by
  have by_reference (declaration : Node) : SourceUnit.embeddedIn? declaration =
      ((declaration.child? .type).map typeReference).bind fun reference =>
        if ((declaration.childrenIn .name).map (·.text)).isEmpty then
          SourceUnit.nonempty reference.name
        else none := by
    unfold SourceUnit.embeddedIn?
    cases declaration.child? .type <;> simp
  rw [by_reference, by_reference, alike.type, alike.texts]

theorem elementTypes (alike : DeclaresAlike .typeElement node other) :
    SourceUnit.elementTypes other = SourceUnit.elementTypes node := by
  obtain ⟨isElement, reading, declared, commented⟩ := alike
  unfold SourceUnit.elementTypes
  rw [List.filterMap_eq_flatMap_toList, List.filterMap_eq_flatMap_toList]
  refine commented.inside.flatMap (fun _ _ => rfl) fun type _ otherType related => ?_
  rw [related.typeReference (Reading.opened_of_refers declared (isElement ▸ rfl))]

theorem fieldDeclarations (alike : DeclaresAlike .structType node other) :
    List.Forall₂ (DeclaresAlike .fieldDeclaration) (SourceUnit.fieldDeclarations node)
      (SourceUnit.fieldDeclarations other) := by
  obtain ⟨isStruct, reading, declared, commented⟩ := alike
  have lists : Option.Rel (DeclaresAlike .fieldDeclarationList)
      (node.children.find? (·.kind == .fieldDeclarationList))
      (other.children.find? (·.kind == .fieldDeclarationList)) := by
    refine commented.inside.find? (fun kind _ => kind == .fieldDeclarationList) rfl ?_
    intro list _ isList otherList related
    exact ⟨beq_iff_eq.mp isList, _, Reading.declared_child declared (isStruct ▸ rfl), related⟩
  unfold SourceUnit.fieldDeclarations
  generalize node.children.find? _ = list, other.children.find? _ = otherList at lists ⊢
  cases lists with
  | none => exact .nil
  | some lists =>
      obtain ⟨isList, listReading, listDeclared, related⟩ := lists
      exact related.inside.declarations .fieldDeclaration rfl
        fun _ => Reading.declared_child listDeclared (isList ▸ rfl)

end DeclaresAlike

namespace Commented

theorem methodElements (commented : Commented reading node other) :
    List.Forall₂ (fun element otherElement => ∃ inner, Commented inner element otherElement)
      (SourceUnit.methodElements node) (SourceUnit.methodElements other) :=
  (commented.inside.filter (fun kind _ => kind == .methodElement) rfl).imp
    fun _ _ both => ⟨_, both.2⟩

theorem methodNames (commented : Commented reading node other) :
    SourceUnit.methodNames other = SourceUnit.methodNames node := by
  unfold SourceUnit.methodNames
  rw [List.filterMap_eq_flatMap_toList, List.filterMap_eq_flatMap_toList]
  refine flatMap_eq_of_forall₂ commented.methodElements ?_
  rintro element otherElement ⟨inner, related⟩
  rw [related.childText]

/-- A specification declares the same type. -/
theorem typeSymbol? (commented : Commented reading node other) (declared : reading.declared = true)
    (isSpec : node.kind = .typeSpec ∨ node.kind = .typeAlias) :
    (SourceUnit.typeSymbol? package file other).map (·.withoutLine) =
      (SourceUnit.typeSymbol? package file node).map (·.withoutLine) := by
  have typeDeclared : (reading.child node.kind (some .type)).declared = true := by
    refine Reading.declared_child declared ?_
    rcases isSpec with isSpec | isSpec <;> rw [isSpec] <;> rfl
  have names := commented.child? .name fun _ _ related => related.text
  have types := commented.child? .type fun _ _ related => related
  unfold SourceUnit.typeSymbol?
  generalize node.child? .name = name, other.child? .name = otherName at names ⊢
  generalize node.child? .type = type, other.child? .type = otherType at types ⊢
  cases names with
  | none => rfl
  | some sameName =>
      cases types with
      | none => simp [TypeSymbol.withoutLine, sameName]
      | @some type otherType related =>
          simp only [Option.bind_eq_bind, Option.bind_some, sameName, related.kind]
          split
          · rename_i isStruct
            have declarations : List.Forall₂ (DeclaresAlike .fieldDeclaration)
                (SourceUnit.fieldDeclarations type) (SourceUnit.fieldDeclarations otherType) :=
              DeclaresAlike.fieldDeclarations ⟨isStruct, _, typeDeclared, related⟩
            have fields := flatMap_eq_of_forall₂ declarations fun _ _ alike => alike.fieldsOf
            have embeds := flatMap_eq_of_forall₂ declarations fun _ _ alike =>
              congrArg Option.toList alike.embeddedIn?
            simp [TypeSymbol.withoutLine, List.filterMap_eq_flatMap_toList, fields, embeds]
          · rename_i isInterface
            have elements := related.inside.declarations .typeElement rfl
              fun _ => Reading.declared_child typeDeclared (isInterface ▸ rfl)
            have embeds := flatMap_eq_of_forall₂ elements fun _ _ alike => alike.elementTypes
            simp [TypeSymbol.withoutLine, embeds, related.methodNames]
          · rfl

theorem interfaceMethods (commented : Commented reading node other) :
    (SourceUnit.interfaceMethods package file other).map (·.withoutLines) =
      (SourceUnit.interfaceMethods package file node).map (·.withoutLines) := by
  have names := commented.child? .name fun _ _ related => related.text
  have types := commented.child? .type fun _ _ related => related
  unfold SourceUnit.interfaceMethods
  generalize node.child? .name = name, other.child? .name = otherName at names ⊢
  generalize node.child? .type = type, other.child? .type = otherType at types ⊢
  cases names with
  | none => rfl
  | some sameName =>
      cases types with
      | none => rfl
      | some related =>
          simp only [related.kind, sameName]
          split
          · rw [List.map_filterMap, List.map_filterMap, List.filterMap_eq_flatMap_toList,
              List.filterMap_eq_flatMap_toList]
            refine flatMap_eq_of_forall₂ related.methodElements ?_
            rintro element otherElement ⟨inner, elementRelated⟩
            simp only [Option.map_map, Function.comp_def, MethodSymbol.withoutLines]
            refine congrArg Option.toList (map_eq_of_rel (elementRelated.child? .name ?_))
            intro name otherName nameRelated
            rw [nameRelated.text]
          · rfl

/-- The receiver of a method has the same type and the same name. -/
theorem receiverOf (commented : Commented reading node other) (listed : reading.listed = true) :
    Go.receiverOf other = Go.receiverOf node := by
  have parameters : Option.Rel (DeclaresAlike .parameterDeclaration)
      (node.children.find? (·.kind == .parameterDeclaration))
      (other.children.find? (·.kind == .parameterDeclaration)) := by
    refine commented.inside.find? (fun kind _ => kind == .parameterDeclaration) rfl ?_
    intro parameter _ isParameter otherParameter related
    exact ⟨beq_iff_eq.mp isParameter, _, Reading.declared_of_listed listed, related⟩
  unfold Go.receiverOf
  generalize node.children.find? _ = parameter, other.children.find? _ = otherParameter
    at parameters ⊢
  cases parameters with
  | none => rfl
  | some alike =>
      obtain ⟨isParameter, inner, declared, related⟩ := alike
      have type := map_eq_of_rel (related.child? .type fun _ _ typeRelated =>
        typeRelated.receiverTypeName (Reading.opened_of_refers declared (isParameter ▸ rfl)))
      simp only [related.childText, type]

/-- The calls in the body of a function or a method are the same. -/
theorem bodyCalls (imports : ImportNames) (commented : Commented reading node other)
    (declared : reading.declared = true)
    (hasBody : node.kind = .functionDeclaration ∨ node.kind = .methodDeclaration) :
    (SourceUnit.bodyCalls imports other).map (·.withoutLine) =
      (SourceUnit.bodyCalls imports node).map (·.withoutLine) := by
  have searched : (reading.child node.kind (some .body)).searched = true := by
    rcases hasBody with hasBody | hasBody <;> simp [Reading.child, declared, hasBody]
  have bodies := commented.child? .body fun _ _ related => related.callSites imports searched
  unfold SourceUnit.bodyCalls
  generalize node.child? .body = body, other.child? .body = otherBody at bodies ⊢
  cases bodies with
  | none => rfl
  | some same => exact same

theorem functionSymbol? (commented : Commented reading node other)
    (declared : reading.declared = true) (isFunction : node.kind = .functionDeclaration) :
    (SourceUnit.functionSymbol? package file imports other).map (·.withoutLines) =
      (SourceUnit.functionSymbol? package file imports node).map (·.withoutLines) := by
  have calls := commented.bodyCalls imports declared (.inl isFunction)
  have names := commented.child? .name fun _ _ related => related.text
  unfold SourceUnit.functionSymbol?
  generalize node.child? .name = name, other.child? .name = otherName at names ⊢
  cases names with
  | none => rfl
  | some sameName => simp [FunctionSymbol.withoutLines, sameName, calls]

theorem methodSymbol? (commented : Commented reading node other)
    (declared : reading.declared = true) (isMethod : node.kind = .methodDeclaration) :
    (SourceUnit.methodSymbol? package file imports other).map (·.withoutLines) =
      (SourceUnit.methodSymbol? package file imports node).map (·.withoutLines) := by
  have listed : (reading.child node.kind (some .receiver)).listed = true := by
    simp [Reading.child, declared, isMethod]
  have calls := commented.bodyCalls imports declared (.inr isMethod)
  have names := commented.child? .name fun _ _ related => related.text
  have receivers := commented.child? .receiver fun _ _ related => related.receiverOf listed
  unfold SourceUnit.methodSymbol?
  generalize node.child? .name = name, other.child? .name = otherName at names ⊢
  generalize node.child? .receiver = receiver, other.child? .receiver = otherReceiver
    at receivers ⊢
  cases names with
  | none => rfl
  | some sameName =>
      cases receivers with
      | none => simp [MethodSymbol.withoutLines, sameName, calls]
      | some sameReceiver => simp [MethodSymbol.withoutLines, sameName, sameReceiver, calls]

theorem typesOf (commented : Commented reading node other) (declared : reading.declared = true) :
    (SourceUnit.typesOf package file other).map (·.withoutLine) =
      (SourceUnit.typesOf package file node).map (·.withoutLine) := by
  unfold SourceUnit.typesOf
  rw [commented.kind]
  split
  · rename_i isDeclaration
    rw [List.map_filterMap, List.map_filterMap, List.filterMap_eq_flatMap_toList,
      List.filterMap_eq_flatMap_toList]
    have specs := commented.inside.filter
      (fun kind _ => kind == .typeSpec || kind == .typeAlias) rfl
    refine flatMap_eq_of_forall₂ specs ?_
    rintro spec otherSpec ⟨isSpec, related⟩
    rw [beq_iff_eq] at isDeclaration
    rw [related.typeSymbol? (Reading.declared_child declared (isDeclaration ▸ rfl))]
    simpa using isSpec
  · rfl

theorem functionsOf (commented : Commented reading node other)
    (declared : reading.declared = true) :
    (SourceUnit.functionsOf package file imports other).map (·.withoutLines) =
      (SourceUnit.functionsOf package file imports node).map (·.withoutLines) := by
  unfold SourceUnit.functionsOf
  rw [commented.kind]
  split
  · rename_i isFunction
    rw [← Option.toList_map, ← Option.toList_map,
      commented.functionSymbol? declared (beq_iff_eq.mp isFunction)]
  · rfl

theorem methodsOf (commented : Commented reading node other) (declared : reading.declared = true) :
    (SourceUnit.methodsOf package file imports other).map (·.withoutLines) =
      (SourceUnit.methodsOf package file imports node).map (·.withoutLines) := by
  unfold SourceUnit.methodsOf
  rw [commented.kind]
  split
  · rw [List.map_flatMap, List.map_flatMap]
    have specs := commented.inside.filter
      (fun kind _ => kind == .typeSpec || kind == .typeAlias) rfl
    refine flatMap_eq_of_forall₂ specs ?_
    rintro spec otherSpec ⟨-, related⟩
    exact related.interfaceMethods
  · rename_i isMethod
    rw [← Option.toList_map, ← Option.toList_map, commented.methodSymbol? declared isMethod]
  · rfl

theorem importOf? (commented : Commented reading node other) :
    SourceUnit.importOf? other = SourceUnit.importOf? node := by
  have paths := commented.child? .path fun _ _ related => related.text
  unfold SourceUnit.importOf?
  rw [commented.childText]
  generalize node.child? .path = path, other.child? .path = otherPath at paths ⊢
  cases paths with
  | none => rfl
  | some samePath => simp only [Option.bind_eq_bind, Option.bind_some, samePath]

theorem importsOf (commented : Commented reading node other) :
    SourceUnit.importsOf other = SourceUnit.importsOf node := by
  refine flatMap_eq_of_forall₂
    (commented.inside.filter (fun kind _ => kind == .importDeclaration) rfl) ?_
  rintro declaration otherDeclaration ⟨-, related⟩
  rw [List.filterMap_eq_flatMap_toList, List.filterMap_eq_flatMap_toList]
  refine flatMap_eq_of_forall₂
    (related.inside.filter (fun kind _ => kind == .importSpec) rfl) ?_
  rintro spec otherSpec ⟨-, specRelated⟩
  rw [specRelated.importOf?]

theorem packageNameOf (commented : Commented reading node other) :
    SourceUnit.packageNameOf other = SourceUnit.packageNameOf node := by
  have names : (other.children.filter (·.kind == .packageClause)).flatMap (fun clause =>
        ((clause.children.find? (·.kind == .packageIdentifier)).map (·.text)).toList) =
      (node.children.filter (·.kind == .packageClause)).flatMap fun clause =>
        ((clause.children.find? (·.kind == .packageIdentifier)).map (·.text)).toList := by
    refine flatMap_eq_of_forall₂
      (commented.inside.filter (fun kind _ => kind == .packageClause) rfl) ?_
    rintro clause otherClause ⟨-, related⟩
    rw [map_eq_of_rel (related.inside.find? (fun kind _ => kind == .packageIdentifier) rfl
      fun _ _ _ _ nameRelated => nameRelated.text)]
  simp only [SourceUnit.packageNameOf, List.filterMap_eq_flatMap_toList, names]

end Commented

/-- Wherever the comments stand, but at the beginning of what is looked through, the unit declares
the same. -/
theorem withoutLines_ofTree (commented : Commented .file node other) :
    (SourceUnit.ofTree package file other).withoutLines =
      (SourceUnit.ofTree package file node).withoutLines := by
  have declared {role : Option Role} : (Reading.file.child node.kind role).declared = true :=
    Reading.declared_of_listed rfl
  unfold SourceUnit.ofTree SourceUnit.withoutLines
  simp only [commented.packageNameOf, commented.importsOf, List.map_flatMap]
  congr 1
  · exact commented.inside.flatMap (fun _ _ => rfl) fun _ _ _ related => related.typesOf declared
  · exact commented.inside.flatMap (fun _ _ => rfl) fun _ _ _ related =>
      related.functionsOf declared
  · exact commented.inside.flatMap (fun _ _ => rfl) fun _ _ _ related => related.methodsOf declared

end Go

end GoAtlas
