import GoAtlas.Document
import GoAtlas.Resolver.Calls

/-!
The structure of a whole program: its packages, types, functions and methods, the packages from
outside that it imports, and the links between them. Components and links are listed once, in a
fixed order that starts with the packages.
-/

namespace GoAtlas

inductive EntityKind where
  | package | struct | interface | type | function | method | external
  deriving DecidableEq, Repr

namespace EntityKind

def label : EntityKind → String
  | package => "package"
  | struct => "struct"
  | interface => "interface"
  | type => "type"
  | function => "function"
  | method => "method"
  | external => "external"

def ofTypeKind : TypeKind → EntityKind
  | .struct => struct
  | .interface => interface
  | .other => type

end EntityKind

inductive LinkKind where
  | contains | imports | uses | embeds | calls
  deriving DecidableEq, Repr

namespace LinkKind

def all : List LinkKind := [contains, imports, uses, embeds, calls]

def label : LinkKind → String
  | contains => "contains"
  | imports => "import"
  | uses => "uses"
  | embeds => "embeds"
  | calls => "calls"

end LinkKind

structure Component where
  id : String
  title : String
  entity : EntityKind
  deriving DecidableEq, Repr

structure Link where
  source : String
  target : String
  kind : LinkKind
  deriving DecidableEq, Repr

structure Architecture where
  components : List Component
  links : List Link
  deriving DecidableEq, Repr

structure ArchitectureOptions where
  /-- Are there links for calls? -/
  includeCalls : Bool
  resolver : ResolverOptions
  deriving DecidableEq, Repr

def ArchitectureOptions.standard : ArchitectureOptions := ⟨true, .standard⟩

/-- Appends an element unless one of the same key is there. -/
def appendFresh {Element Key : Type} [DecidableEq Key] (key : Element → Key)
    (kept : List Element) (element : Element) : List Element :=
  if kept.any fun other => key other = key element then kept else kept ++ [element]

/-- The first element of each key, in order. -/
def firstOfEach {Element Key : Type} [DecidableEq Key] (key : Element → Key)
    (elements : List Element) : List Element :=
  elements.foldl (appendFresh key) []

namespace Index

/-! ### Components -/

/-- The components for what the index holds. -/
def symbolComponents (index : Index) : List Component :=
  (index.packages.entries.map fun (id, package) => ⟨id, package.name, .package⟩) ++
  (index.types.entries.map fun (id, type) => ⟨id, type.name, .ofTypeKind type.kind⟩) ++
  (index.functions.entries.map fun (id, symbol) => ⟨id, symbol.name, .function⟩) ++
  (index.methods.entries.map fun (id, symbol) => ⟨id, symbol.name, .method⟩)

/-- The components for imported packages that are not indexed, titled by their last segment. -/
def externalComponents (index : Index) : List Component :=
  index.packages.values.flatMap fun package =>
    package.imports.filterMap fun path =>
      if (index.packageOfImport? path).isSome then none
      else some ⟨path, Text.lastPiece "/" path, .external⟩

/-! ### Links -/

/-- What contains a method: its receiver's type, or its package when that type is not indexed. -/
def ownerOf (index : Index) (method : MethodSymbol) : String :=
  if index.types.contains method.receiverTypeId then method.receiverTypeId else method.package

def containmentLinks (index : Index) : List Link :=
  (index.types.entries.map fun (id, type) => ⟨type.package, id, .contains⟩) ++
  (index.functions.entries.map fun (id, symbol) => ⟨symbol.package, id, .contains⟩) ++
  (index.methods.entries.map fun (id, symbol) => ⟨index.ownerOf symbol, id, .contains⟩)

def importLinks (index : Index) : List Link :=
  index.packages.entries.flatMap fun (id, package) =>
    package.imports.map fun path => ⟨id, (index.packageOfImport? path).getD path, .imports⟩

/-- The links of one type to the types of its fields and to those it embeds. A type has no link to
itself. -/
def linksOfType (index : Index) (id : String) (type : TypeSymbol) : List Link :=
  let targets (kind : LinkKind) (found : List (Option String)) : List Link :=
    (found.filterMap fun target? => target?.filter (· != id)).map fun target => ⟨id, target, kind⟩
  targets .uses (type.fields.map fun field => index.typeOfField? field type.package) ++
    targets .embeds (type.embeds.map fun embed => index.typeOfEmbed? embed type.package)

def typeLinks (index : Index) : List Link :=
  index.types.entries.flatMap fun (id, type) => index.linksOfType id type

end Index

namespace Resolver

/-- The indexed symbols that a callable calls, other than itself. -/
def calledSymbols (resolver : Resolver) (id : String) (callable : Callable) : List String :=
  callable.calls.filterMap fun site =>
    match resolver.resolve site (.ofCallable callable) with
    | some target => if target.kind.isLeaf || target.id == id then none else some target.id
    | none => none

def callLinks (resolver : Resolver) : List Link :=
  resolver.index.callables.flatMap fun (id, callable) =>
    (resolver.calledSymbols id callable).map fun target => ⟨id, target, .calls⟩

end Resolver

namespace Architecture

def ofIndex (index : Index) (options : ArchitectureOptions) : Architecture where
  components := firstOfEach (·.id) (index.symbolComponents ++ index.externalComponents)
  links := firstOfEach id (index.containmentLinks ++ index.importLinks ++ index.typeLinks ++
    if options.includeCalls then Resolver.callLinks ⟨index, options.resolver⟩ else [])

def component? (architecture : Architecture) (id : String) : Option Component :=
  architecture.components.find? (·.id == id)

def hasLink (architecture : Architecture) (link : Link) : Bool :=
  architecture.links.contains link

end Architecture

/-! ### As documents -/

def Component.document (component : Component) : Document :=
  .record
    [("id", .text component.id), ("title", .text component.title),
      ("entity", .text component.entity.label)]

def Link.document (link : Link) : Document :=
  .record
    [("from", .text link.source), ("to", .text link.target), ("type", .text link.kind.label)]

def Architecture.document (architecture : Architecture) : Document :=
  .record
    [("components", .list (architecture.components.map Component.document)),
      ("links", .list (architecture.links.map Link.document))]

end GoAtlas
