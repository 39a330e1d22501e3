import GoAtlas.Text.Identifier
import GoAtlas.Text.Pieces

/-!
What names mean before any source is read: predeclared functions and types, import paths of the
standard library, the name that an import without one gets, and which files are read.
-/

namespace GoAtlas.Go

/-- Predeclared functions; a call of one is no call in a graph. -/
def builtinFunctions : List String :=
  ["make", "new", "len", "cap", "append", "copy", "delete", "close", "panic", "recover", "print",
    "println", "min", "max", "clear", "complex", "real", "imag"]

/-- Predeclared types, and what stands for types without a name. No symbol has such a name. -/
def primitiveTypes : List String :=
  ["string", "int", "int8", "int16", "int32", "int64", "uint", "uint8", "uint16", "uint32",
    "uint64", "uintptr", "float32", "float64", "complex64", "complex128", "bool", "byte", "rune",
    "error", "any", "comparable", "interface{}", "struct{}", "func", ""]

def standardRoots : List String :=
  ["fmt", "io", "os", "path", "time", "net", "strings", "bytes", "errors", "sync", "context",
    "encoding", "crypto", "database", "log", "math", "regexp", "sort", "strconv", "testing",
    "runtime"]

def isBuiltinFunction (name : String) : Bool :=
  builtinFunctions.contains name

def isPrimitiveType (name : String) : Bool :=
  primitiveTypes.contains name

/-- A path of the standard library has neither dot nor slash, or lies under a known root. -/
def isStandardImport (path : String) : Bool :=
  (!Text.contains path "." && !Text.contains path "/") ||
    standardRoots.any fun root => path == root || Text.startsWith path (root ++ "/")

/-- `v` and digits. -/
def isMajorVersion (segment : String) : Bool :=
  match segment.toList with
  | 'v' :: digits => !digits.isEmpty && digits.all Text.isAsciiDigit
  | _ => false

/-- The name without a version after its last `.v`. -/
def withoutVersion (name : String) : String :=
  match Text.splitAtLast? ".v" name with
  | some (base, version) =>
      if base != "" && version.toList.all Text.isAsciiDigit then base else name
  | none => name

/-- The segment of an import path that names the package: the last one, or the one before it if
the last is a major version. -/
def namingSegment (path : String) : String :=
  match ((Text.split '/' path).filter (· != "")).reverse with
  | [] => path
  | [only] => only
  | last :: before :: _ => if isMajorVersion last then before else last

/-- The name by which a file refers to an import that it gives none. -/
def defaultImportName (path : String) : String :=
  withoutVersion (namingSegment path)

/-- Is a file of this name read? Tests are not. -/
def isPrimaryUnit (fileName : String) : Bool :=
  !Text.endsWith fileName "_test.go" && Text.endsWith fileName ".go" && fileName != ".go"

end GoAtlas.Go
