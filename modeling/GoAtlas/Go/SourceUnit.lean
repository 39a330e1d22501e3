import GoAtlas.Go.Calls
import GoAtlas.Go.Grammar.Files
import GoAtlas.Go.Names
import GoAtlas.Go.TypeReference

/-!
What one source file declares: its package, imports, types, functions and methods, each in source
order. The methods that an interface declares are methods without calls.
-/

namespace GoAtlas.Go

structure Import where
  /-- The name given in the source, `_` and `.` included. -/
  givenName : Option String
  path : String
  deriving DecidableEq, Repr

structure SourceUnit where
  packageName : String
  imports : List Import
  types : List TypeSymbol
  functions : List FunctionSymbol
  methods : List MethodSymbol
  deriving DecidableEq, Repr

/-- The name by which calls of the file refer to an import, if they can. -/
def Import.name? (imported : Import) : Option String :=
  match imported.givenName with
  | none => some (defaultImportName imported.path)
  | some "_" => none
  | some "." => none
  | some name => some name

def importNames (imports : List Import) : ImportNames :=
  imports.filterMap fun imported => imported.name?.map fun name => (name, imported.path)

namespace SourceUnit

def isQuote (character : Char) : Bool :=
  character == '"' || character == '`'

/-- The literal without quotes at either end. -/
def unquote (literal : String) : String :=
  String.ofList
    ((literal.toList.dropWhile isQuote).reverse.dropWhile isQuote).reverse

def importOf? (spec : Node) : Option Import := do
  let path := unquote (← spec.child? .path).text
  if path == "" then none
  else return { givenName := (spec.child? .givenName).map (·.text), path }

def importsOf (root : Node) : List Import :=
  (root.children.filter (·.kind == .importDeclaration)).flatMap fun declaration =>
    (declaration.children.filter (·.kind == .importSpec)).filterMap importOf?

/-- The name in the last package clause. -/
def packageNameOf (root : Node) : String :=
  let names := (root.children.filter (·.kind == .packageClause)).filterMap fun clause =>
    (clause.children.find? (·.kind == .packageIdentifier)).map (·.text)
  names.getLast?.getD ""

/-- The names a field declaration gives to fields of its type; none for an embedded type. -/
def fieldsOf (declaration : Node) : List Field :=
  match declaration.child? .type with
  | none => []
  | some type =>
      let reference := typeReference type
      (declaration.childrenIn .name).map fun name =>
        { name := name.text, typeName := reference.name, typePackage := reference.package }

def nonempty (name : String) : Option String :=
  if name == "" then none else some name

def embeddedIn? (declaration : Node) : Option String := do
  let type ← declaration.child? .type
  if (declaration.childrenIn .name).isEmpty then nonempty (typeReference type).name else none

def fieldDeclarations (structType : Node) : List Node :=
  match structType.children.find? (·.kind == .fieldDeclarationList) with
  | none => []
  | some list => list.children.filter (·.kind == .fieldDeclaration)

/-- The types that an element of an interface embeds. -/
def elementTypes (element : Node) : List String :=
  element.children.filterMap fun type => nonempty (typeReference type).name

def methodElements (interfaceType : Node) : List Node :=
  interfaceType.children.filter (·.kind == .methodElement)

def methodNames (interfaceType : Node) : List String :=
  (methodElements interfaceType).filterMap fun element => (element.child? .name).map (·.text)

def typeSpecs (declaration : Node) : List Node :=
  declaration.children.filter fun spec => spec.kind == .typeSpec || spec.kind == .typeAlias

/-- The type that a specification declares in a package and a file. -/
def typeSymbol? (package file : String) (spec : Node) : Option TypeSymbol := do
  let name := (← spec.child? .name).text
  let symbol : TypeSymbol :=
    { name, package, kind := .other, file, line := spec.line, fields := [], embeds := [],
      methods := [] }
  match spec.child? .type with
  | none => return symbol
  | some type =>
      match type.kind with
      | .structType =>
          let declarations := fieldDeclarations type
          return { symbol with
            kind := .struct
            fields := declarations.flatMap fieldsOf
            embeds := declarations.filterMap embeddedIn? }
      | .interfaceType =>
          return { symbol with
            kind := .interface
            embeds := (type.children.filter (·.kind == .typeElement)).flatMap elementTypes
            methods := methodNames type }
      | _ => return symbol

/-- The methods that a specification declares, if it is one of an interface. -/
def interfaceMethods (package file : String) (spec : Node) : List MethodSymbol :=
  match spec.child? .name, spec.child? .type with
  | some owner, some type =>
      if type.kind == .interfaceType then
        (methodElements type).filterMap fun element =>
          (element.child? .name).map fun name =>
            { name := name.text, receiver := owner.text, receiverVar := none, package, file,
              line := element.line, calls := [] }
      else []
  | _, _ => []

def bodyCalls (imports : ImportNames) (declaration : Node) : List CallSite :=
  match declaration.child? .body with
  | none => []
  | some body => callSites imports body

def functionSymbol? (package file : String) (imports : ImportNames) (declaration : Node) :
    Option FunctionSymbol := do
  let name := (← declaration.child? .name).text
  return { name, package, file, line := declaration.line, calls := bodyCalls imports declaration }

def methodSymbol? (package file : String) (imports : ImportNames) (declaration : Node) :
    Option MethodSymbol := do
  let name := (← declaration.child? .name).text
  let (receiver, receiverVar) :=
    match declaration.child? .receiver with
    | none => (unknownReceiver, none)
    | some parameters => receiverOf parameters
  return { name, receiver, receiverVar, package, file, line := declaration.line,
           calls := bodyCalls imports declaration }

def typesOf (package file : String) (declaration : Node) : List TypeSymbol :=
  if declaration.kind == .typeDeclaration then
    (typeSpecs declaration).filterMap (typeSymbol? package file)
  else []

def functionsOf (package file : String) (imports : ImportNames) (declaration : Node) :
    List FunctionSymbol :=
  if declaration.kind == .functionDeclaration then
    (functionSymbol? package file imports declaration).toList
  else []

def methodsOf (package file : String) (imports : ImportNames) (declaration : Node) :
    List MethodSymbol :=
  match declaration.kind with
  | .typeDeclaration => (typeSpecs declaration).flatMap (interfaceMethods package file)
  | .methodDeclaration => (methodSymbol? package file imports declaration).toList
  | _ => []

/-- Reads the declarations off a syntax tree; every symbol belongs to `package` and `file`. -/
def ofTree (package file : String) (root : Node) : SourceUnit :=
  let imports := importsOf root
  let names := importNames imports
  { packageName := packageNameOf root
    imports
    types := root.children.flatMap (typesOf package file)
    functions := root.children.flatMap (functionsOf package file names)
    methods := root.children.flatMap (methodsOf package file names) }

/-- Reads a source, or gives the line of its first syntax error. -/
def read (source : List UInt8) (package file : String) : Except Nat SourceUnit :=
  (parse source).map (ofTree package file)

end SourceUnit

end GoAtlas.Go
