import GoAtlas.FileTree
import GoAtlas.Go.SourceUnit
import GoAtlas.Index
import GoAtlas.PackageId

/-!
Filling the index, one source at a time or from a directory. A later declaration of an identifier
replaces an earlier one; a source with a syntax error leaves the index as it was.
-/

namespace GoAtlas

structure IndexOptions where
  packageIds : PackageIds
  /-- Names of directories into which the walk does not descend. -/
  skipDirs : List String
  deriving DecidableEq, Repr

def IndexOptions.standard : IndexOptions where
  packageIds := .truncated 3
  skipDirs := ["vendor", "node_modules", ".git", "bin"]

inductive IndexError where
  | missingRoot (root : String)
  | read (path reason : String)
  | malformed (path : String) (line : Nat)
  deriving DecidableEq, Repr

namespace IndexError

def message : IndexError → String
  | missingRoot root => "source root does not exist: " ++ root
  | read path reason => "failed to read " ++ path ++ ": " ++ reason
  | malformed path line => "syntax error in " ++ path ++ " at line " ++ toString line

/-- What lies behind the error, where it is not of this program's making. -/
def causes : IndexError → List String
  | read _ reason => [reason]
  | _ => []

end IndexError

namespace Index

/-- Adds the imports that are neither standard nor known already. -/
def addImports (known : List String) (imports : List Go.Import) : List String :=
  imports.foldl (fun known imported =>
    if Go.isStandardImport imported.path || known.contains imported.path then known
    else known ++ [imported.path]) known

/-- The package with what a further unit adds to it; its first unit names it. -/
def packageWith (index : Index) (packageId directory : String) (unit : Go.SourceUnit) : Package :=
  let package := (index.packages.get? packageId).getD
    { id := packageId, name := unit.packageName, directory, imports := [] }
  { package with imports := addImports package.imports unit.imports }

def insertAll {Value : Type} (id : Value → String) (table : Table Value) (values : List Value) :
    Table Value :=
  values.foldl (fun table value => table.insert (id value) value) table

/-- Enters what a unit declares, and counts the unit. -/
def addUnit (index : Index) (packageId directory : String) (unit : Go.SourceUnit) : Index where
  packages := index.packages.insert packageId (index.packageWith packageId directory unit)
  types := insertAll TypeSymbol.id index.types unit.types
  functions := insertAll FunctionSymbol.id index.functions unit.functions
  methods := insertAll MethodSymbol.id index.methods unit.methods
  units := index.units + 1

/-- Reads a source that lies in a directory; `file` is recorded with its symbols. -/
def addSource (index : Index) (options : IndexOptions) (directory file : String)
    (source : List UInt8) : Except IndexError Index :=
  let packageId := options.packageIds.packageId directory
  match Go.SourceUnit.read source packageId file with
  | .ok unit => .ok (index.addUnit packageId directory unit)
  | .error line => .error (.malformed file line)

end Index

/-! ### Directories -/

/-- A file on a walk, with its content or the reason why it cannot be read. -/
structure WalkedFile where
  path : String
  content : Except String (List UInt8)

mutual

/-- The files of a tree, directories being entered where they stand among the files. Links are not
followed. -/
def filesBelow (skipDirs : List String) (path : String) : FileTree → List WalkedFile
  | .file content => [⟨path, .ok content⟩]
  | .unreadable reason => [⟨path, .error reason⟩]
  | .directory entries => filesAmong skipDirs path entries
  | .link _ => []

def filesAmong (skipDirs : List String) (path : String) :
    List (String × FileTree) → List WalkedFile
  | [] => []
  | (name, tree) :: rest =>
      (if tree.isDirectory && skipDirs.contains name then []
        else filesBelow skipDirs (Path.within path name) tree) ++ filesAmong skipDirs path rest

end

/-- The files that are to be indexed. A dash as the root stands for standard input, where there
are none. -/
def primaryUnits (skipDirs : List String) (root : String) (tree : FileTree) : List WalkedFile :=
  if Path.trimmed (Text.split '/' root) == ["-"] then []
  else (filesBelow skipDirs root tree).filter fun file => Go.isPrimaryUnit (Path.fileName file.path)

/-- Backslashes in a path are written as slashes. -/
def displayPath (path : String) : String :=
  String.ofList (path.toList.map fun character => if character == '\\' then '/' else character)

namespace Index

/-- Reads a file as a source of the directory in which it lies. -/
def addFile (index : Index) (options : IndexOptions) (file : WalkedFile) :
    Except IndexError Index :=
  match file.content with
  | .error reason => .error (.read (displayPath file.path) reason)
  | .ok source => index.addSource options (Path.parent file.path) (displayPath file.path) source

/-- Adds files in turn, up to the first that fails; what came before it stays. -/
def addFiles (index : Index) (options : IndexOptions) :
    List WalkedFile → Index × Option IndexError
  | [] => (index, none)
  | file :: rest =>
      match index.addFile options file with
      | .error failure => (index, some failure)
      | .ok next => next.addFiles options rest

/-- Indexes every primary unit under a root. -/
def addDirectory (index : Index) (options : IndexOptions) (lookup : PathLookup) (root : String) :
    Index × Option IndexError :=
  match lookup root with
  | .error _ => (index, some (.missingRoot root))
  | .ok tree => index.addFiles options (primaryUnits options.skipDirs root tree)

end Index

end GoAtlas
