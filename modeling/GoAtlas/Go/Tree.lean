/-!
Syntax trees of Go source. A tree has a node for each construct and each named token; brackets,
operators and keywords leave none. Comments are nodes like any other and stand among the children
of the construct in which they are written, so that "the first child" of a construct may be one.
-/

namespace GoAtlas.Go

inductive Kind where
  | comment
  -- files and declarations
  | sourceFile | packageClause | importDeclaration | importSpec
  | constDeclaration | constSpec | varDeclaration | varSpec
  | typeDeclaration | typeSpec | typeAlias | typeParameters | typeParameter
  | functionDeclaration | methodDeclaration
  | parameterList | parameterDeclaration | variadicParameter
  -- types
  | typeIdentifier | qualifiedType | genericType | typeArguments | typeElement
  | pointerType | parenthesizedType | negatedType
  | arrayType | implicitLengthArrayType | sliceType | mapType | channelType | functionType
  | structType | fieldDeclarationList | fieldDeclaration | interfaceType | methodElement
  -- names and literals
  | identifier | fieldIdentifier | packageIdentifier | labelName | predeclared | basicLiteral
  -- expressions
  | unaryExpression | binaryExpression | parenthesizedExpression | selectorExpression
  | indexExpression | sliceExpression | typeAssertion | typeInstantiation | typeConversion
  | callExpression | argumentList | variadicArgument
  | compositeLiteral | literalValue | literalElement | keyedElement | funcLiteral
  -- statements
  | block | statementList | emptyStatement | labeledStatement | expressionStatement | sendStatement
  | receiveStatement | stepStatement | assignmentStatement | shortVarDeclaration | expressionList
  | returnStatement | goStatement | deferStatement | branchStatement
  | ifStatement | forStatement | forClause | rangeClause
  | switchStatement | typeSwitchStatement | selectStatement | caseClause
  deriving DecidableEq, Inhabited, Repr

/-- What a child is to its parent, where that is told apart. -/
inductive Role where
  | name | givenName | path | type | package | receiver | body | function | operand | field
  | element | value
  deriving DecidableEq, Repr

inductive Node where
  | mk (kind : Kind) (role : Option Role) (line : Nat) (text : String) (children : List Node)
  deriving Inhabited, Repr

namespace Node

def kind : Node → Kind
  | mk kind _ _ _ _ => kind

def role : Node → Option Role
  | mk _ role _ _ _ => role

/-- The line on which the node begins. -/
def line : Node → Nat
  | mk _ _ line _ _ => line

/-- What a node without children spells, as far as it is read. -/
def text : Node → String
  | mk _ _ _ text _ => text

def children : Node → List Node
  | mk _ _ _ _ children => children

def leaf (kind : Kind) (line : Nat) (text : String := "") : Node :=
  mk kind none line text []

def withRole (node : Node) (role : Role) : Node :=
  mk node.kind (some role) node.line node.text node.children

/-- The first child in a role. -/
def child? (node : Node) (role : Role) : Option Node :=
  node.children.find? fun child => child.role == some role

/-- The children in a role, in order. -/
def childrenIn (node : Node) (role : Role) : List Node :=
  node.children.filter fun child => child.role == some role

@[simp] theorem kind_mk (kind role line text children) :
    (mk kind role line text children).kind = kind := rfl

@[simp] theorem line_mk (kind role line text children) :
    (mk kind role line text children).line = line := rfl

@[simp] theorem text_mk (kind role line text children) :
    (mk kind role line text children).text = text := rfl

@[simp] theorem children_mk (kind role line text children) :
    (mk kind role line text children).children = children := rfl

@[simp] theorem kind_withRole (node : Node) (role : Role) :
    (node.withRole role).kind = node.kind := rfl

@[simp] theorem role_withRole (node : Node) (role : Role) :
    (node.withRole role).role = some role := rfl

end Node

end GoAtlas.Go
