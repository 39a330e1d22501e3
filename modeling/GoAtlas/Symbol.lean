import GoAtlas.Text.Pieces

/-!
What the index records of a source tree: packages, types, functions and methods, and the call sites
in the bodies of functions and methods. The identifier of a symbol is its owner's identifier, a dot
and its name.
-/

namespace GoAtlas

/-- The identifier of what `owner` declares under a name. -/
def memberId (owner name : String) : String :=
  owner ++ "." ++ name

structure Package where
  id : String
  name : String
  /-- The directory as it was first given. -/
  directory : String
  /-- Imports from outside the standard library, each once, in the order of their first use. -/
  imports : List String
  deriving DecidableEq, Repr

inductive TypeKind where
  | struct | interface | other
  deriving DecidableEq, Repr

namespace TypeKind

def all : List TypeKind := [struct, interface, other]

/-- The kind as a component of a graph is called. -/
def label : TypeKind → String
  | struct => "struct"
  | interface => "interface"
  | other => "type"

end TypeKind

structure Field where
  name : String
  /-- The type it refers to, `pkg.Name` for a type of another package. -/
  typeName : String
  /-- `pkg` of a reference `pkg.Name`. -/
  typePackage : Option String
  deriving DecidableEq, Repr

structure TypeSymbol where
  name : String
  package : String
  kind : TypeKind
  file : String
  line : Nat
  fields : List Field
  embeds : List String
  /-- The methods an interface declares. -/
  methods : List String
  deriving DecidableEq, Repr

namespace TypeSymbol

def id (symbol : TypeSymbol) : String :=
  memberId symbol.package symbol.name

def isInterface (symbol : TypeSymbol) : Bool :=
  symbol.kind == .interface

end TypeSymbol

/-- The target of a function literal that is launched or invoked where it stands. -/
def closureTarget : String := "<closure>"

/-- A call as it is written in a body. -/
structure CallSite where
  /-- `Func`, `recv.Method`, `a.b.Method` or `closureTarget`. -/
  target : String
  /-- Whether the call goes through a selector. -/
  isMethod : Bool
  /-- `recv` or `a.b` of a call through a selector. -/
  receiver : Option String
  /-- The path that the receiver stands for, when it names an import. -/
  importPath : Option String
  line : Nat
  isGoroutine : Bool
  isDeferred : Bool
  deriving DecidableEq, Repr

namespace CallSite

def function (name : String) (line : Nat) : CallSite where
  target := name
  isMethod := false
  receiver := none
  importPath := none
  line
  isGoroutine := false
  isDeferred := false

def method (receiver selector : String) (line : Nat) : CallSite :=
  { function (memberId receiver selector) line with isMethod := true, receiver := some receiver }

def closure (line : Nat) : CallSite :=
  function closureTarget line

def isClosure (site : CallSite) : Bool :=
  site.target == closureTarget

/-- The last dotted segment of the target. -/
def selector (site : CallSite) : String :=
  Text.lastPiece "." site.target

end CallSite

structure FunctionSymbol where
  name : String
  package : String
  file : String
  line : Nat
  calls : List CallSite
  deriving DecidableEq, Repr

def FunctionSymbol.id (symbol : FunctionSymbol) : String :=
  memberId symbol.package symbol.name

structure MethodSymbol where
  name : String
  /-- The receiver's type without pointer and type arguments. -/
  receiver : String
  /-- What the body calls its receiver, if anything. -/
  receiverVar : Option String
  package : String
  file : String
  line : Nat
  calls : List CallSite
  deriving DecidableEq, Repr

namespace MethodSymbol

def receiverTypeId (symbol : MethodSymbol) : String :=
  memberId symbol.package symbol.receiver

def id (symbol : MethodSymbol) : String :=
  memberId symbol.receiverTypeId symbol.name

end MethodSymbol

/-- What can be called: a function or a method. -/
inductive Callable where
  | function (symbol : FunctionSymbol)
  | method (symbol : MethodSymbol)
  deriving DecidableEq, Repr

namespace Callable

def package : Callable → String
  | function symbol => symbol.package
  | method symbol => symbol.package

def calls : Callable → List CallSite
  | function symbol => symbol.calls
  | method symbol => symbol.calls

end Callable

end GoAtlas
