import GoAtlas.Architecture
import GoAtlas.CallGraph.Build
import GoAtlas.Indexing
import GoAtlas.Json.Printer
import GoAtlas.Json.Value

/-!
The configuration of a run, as a JSON file holds it. A file that is missing or malformed, or gives
some field a value of the wrong form, counts as one that says nothing.
-/

namespace GoAtlas

structure Config where
  skipDirs : List String
  /-- How many segments of a directory its package's identifier keeps, zero standing for all. -/
  packageDepth : Nat
  maxDepth : Nat
  resolveInterfaces : Bool
  trackGoroutines : Bool
  receiverNameFallback : Bool
  excludePackages : List String
  includeCalls : Bool
  deriving DecidableEq, Repr

inductive ConfigError where
  | read (path reason : String)
  | write (path reason : String)
  | invalidMaxDepth (depth : Nat)
  | invalidExcludePattern (pattern : String) (cause : GlobError)
  deriving DecidableEq, Repr

namespace ConfigError

def message : ConfigError → String
  | read path _ => "failed to read config: " ++ path
  | write path _ => "failed to write config: " ++ path
  | invalidMaxDepth depth =>
      "max_depth must be between " ++ toString leastMaxDepth ++ " and " ++
        toString greatestMaxDepth ++ ", got " ++ toString depth
  | invalidExcludePattern pattern _ => "invalid exclude_packages pattern: " ++ pattern

/-- What lies behind the error, the nearest cause first. -/
def causes : ConfigError → List String
  | read _ reason => [reason]
  | write _ reason => [reason]
  | invalidMaxDepth _ => []
  | invalidExcludePattern pattern cause => [cause.message pattern]

end ConfigError

namespace Config

def standard : Config where
  skipDirs := IndexOptions.standard.skipDirs
  packageDepth := 3
  maxDepth := 10
  resolveInterfaces := true
  trackGoroutines := true
  receiverNameFallback := true
  excludePackages := []
  includeCalls := true

/-! ### Writing -/

def document (config : Config) : Document :=
  .record
    [("skip_dirs", .texts config.skipDirs),
      ("package_depth", .number config.packageDepth),
      ("max_depth", .number config.maxDepth),
      ("resolve_interfaces", .flag config.resolveInterfaces),
      ("track_goroutines", .flag config.trackGoroutines),
      ("receiver_name_fallback", .flag config.receiverNameFallback),
      ("exclude_packages", .texts config.excludePackages),
      ("include_calls", .flag config.includeCalls)]

/-- The content of a file that holds the configuration. -/
def print (config : Config) : String :=
  Json.print config.document

/-! ### Reading -/

/-- The names of the fields in their order. -/
def fieldNames : List String :=
  ["skip_dirs", "package_depth", "max_depth", "resolve_interfaces", "track_goroutines",
    "receiver_name_fallback", "exclude_packages", "include_calls"]

/-- The configuration with one field set, if the value has the form of the field. -/
def set? (config : Config) (name : String) (value : Json.Value) : Option Config :=
  match name with
  | "skip_dirs" => value.texts?.map fun skipDirs => { config with skipDirs }
  | "package_depth" => value.word?.map fun packageDepth => { config with packageDepth }
  | "max_depth" => value.word?.map fun maxDepth => { config with maxDepth }
  | "resolve_interfaces" =>
      value.flag?.map fun resolveInterfaces => { config with resolveInterfaces }
  | "track_goroutines" => value.flag?.map fun trackGoroutines => { config with trackGoroutines }
  | "receiver_name_fallback" =>
      value.flag?.map fun receiverNameFallback => { config with receiverNameFallback }
  | "exclude_packages" => value.texts?.map fun excludePackages => { config with excludePackages }
  | "include_calls" => value.flag?.map fun includeCalls => { config with includeCalls }
  | _ => some config

/-- Sets fields in turn. -/
def setAll? (config : Config) : List (String × Json.Value) → Option Config
  | [] => some config
  | (name, value) :: rest => (config.set? name value).bind (·.setAll? rest)

/-- Members of an object, if their names are texts and none of the fields occurs twice. Members of
other names do not matter. -/
def fieldsOf? (members : List (Option String × Json.Value)) :
    Option (List (String × Json.Value)) := do
  let members ← members.mapM fun (name, value) => name.map fun name => (name, value)
  let fields := members.filter fun (name, _) => fieldNames.contains name
  if (fields.map (·.1)).Nodup then some fields else none

/-- An object gives fields by name, a list in their order. What is not given has its default. -/
def ofValue? : Json.Value → Option Config
  | .object members => (fieldsOf? members).bind standard.setAll?
  | .list items =>
      if items.length ≤ fieldNames.length then standard.setAll? (fieldNames.zip items) else none
  | _ => none

/-- The configuration that a text holds. -/
def read (text : String) : Config :=
  ((Json.read? text).bind ofValue?).getD standard

/-- The configuration in a file. -/
def load (lookup : PathLookup) (path : String) : Except ConfigError Config :=
  match lookup path with
  | .error _ => .ok standard
  | .ok _ =>
      match readText lookup path with
      | .ok text => .ok (read text)
      | .error reason => .error (.read path reason)

/-! ### Checks -/

/-- The first pattern that is none, with the reason. -/
def firstBadPattern? (patterns : List String) : Option (String × GlobError) :=
  patterns.findSome? fun pattern =>
    match Glob.read pattern with
    | .ok _ => none
    | .error cause => some (pattern, cause)

/-- The first fault of a configuration. -/
def fault? (config : Config) : Option ConfigError :=
  if !isMaxDepth config.maxDepth then some (.invalidMaxDepth config.maxDepth)
  else
    (firstBadPattern? config.excludePackages).map fun (pattern, cause) =>
      .invalidExcludePattern pattern cause

/-! ### Options of a run -/

def indexOptions (config : Config) : IndexOptions where
  packageIds := .ofDepth config.packageDepth
  skipDirs := config.skipDirs

def resolverOptions (config : Config) : ResolverOptions where
  resolveInterfaces := config.resolveInterfaces
  trackGoroutines := config.trackGoroutines
  receiverNameFallback := config.receiverNameFallback

def buildOptions (config : Config) : BuildOptions where
  maxDepth := config.maxDepth
  resolver := config.resolverOptions
  excludePackages := config.excludePackages

def architectureOptions (config : Config) : ArchitectureOptions where
  includeCalls := config.includeCalls
  resolver := config.resolverOptions

end Config

end GoAtlas
