import GoAtlas.Go.Tree
import GoAtlas.Symbol

/-! The one named type that a written type refers to, and the receiver of a method. -/

namespace GoAtlas.Go

structure TypeReference where
  /-- `Name` or `pkg.Name`; empty when the written type refers to none. -/
  name : String
  package : Option String
  deriving DecidableEq, Repr

def TypeReference.none : TypeReference := ⟨"", Option.none⟩

/-- The reference of a type qualified by a package. -/
def qualifiedReference (children : List Node) : TypeReference :=
  let textOf (role : Role) := (children.find? (·.role == some role)).map (·.text)
  match textOf .package, textOf .name with
  | some package, some name => ⟨memberId package name, some package⟩
  | _, _ => .none

mutual

/-- Containers refer to what their elements refer to; functions, interfaces and structures without
a name refer to a placeholder. -/
def typeReference : Node → TypeReference
  | .mk .typeIdentifier _ _ text _ => ⟨text, none⟩
  | .mk .qualifiedType _ _ _ children => qualifiedReference children
  | .mk .pointerType _ _ _ children => firstReference children
  | .mk .parenthesizedType _ _ _ children => firstReference children
  | .mk .genericType _ _ _ children => referenceIn .type children
  | .mk .sliceType _ _ _ children => referenceIn .element children
  | .mk .arrayType _ _ _ children => referenceIn .element children
  | .mk .mapType _ _ _ children => referenceIn .value children
  | .mk .channelType _ _ _ children => referenceIn .value children
  | .mk .functionType _ _ _ _ => ⟨"func", none⟩
  | .mk .interfaceType _ _ _ _ => ⟨"interface{}", none⟩
  | .mk .structType _ _ _ _ => ⟨"struct{}", none⟩
  | _ => .none

def firstReference : List Node → TypeReference
  | [] => .none
  | first :: _ => typeReference first

def referenceIn (role : Role) : List Node → TypeReference
  | [] => .none
  | child :: rest =>
      if child.role == some role then typeReference child else referenceIn role rest

end

/-- The receiver of a method when its type has no name. -/
def unknownReceiver : String := "Unknown"

mutual

/-- The name of a receiver's type, through pointers, parentheses and type arguments. -/
def receiverTypeName : Node → String
  | .mk .typeIdentifier _ _ text _ => text
  | .mk .pointerType _ _ _ children => firstReceiverTypeName children
  | .mk .parenthesizedType _ _ _ children => firstReceiverTypeName children
  | .mk .genericType _ _ _ children => receiverTypeNameIn children
  | _ => unknownReceiver

def firstReceiverTypeName : List Node → String
  | [] => unknownReceiver
  | first :: _ => receiverTypeName first

/-- The generic type that has been given arguments. -/
def receiverTypeNameIn : List Node → String
  | [] => unknownReceiver
  | child :: rest =>
      if child.role == some .type then receiverTypeName child else receiverTypeNameIn rest

end

/-- The type and the variable of a receiver: those of the first plain parameter. -/
def receiverOf (parameters : Node) : String × Option String :=
  match parameters.children.find? (·.kind == .parameterDeclaration) with
  | none => (unknownReceiver, none)
  | some parameter =>
      (((parameter.child? .type).map receiverTypeName).getD unknownReceiver,
        ((parameter.child? .name).map (·.text)).filter (· != "_"))

end GoAtlas.Go
