import GoAtlas.CallGraph.Events
import GoAtlas.CommandLine.Arguments
import GoAtlas.Config
import GoAtlas.Contexts.Reader
import GoAtlas.Yaml.Printer

/-! What a run of the program comes to, given the files that it finds. -/

namespace GoAtlas.CommandLine

/-! ### Failures -/

/-- Why a run fails: a message and what lies behind it, the nearest cause first. -/
structure Failure where
  message : String
  causes : List String
  deriving DecidableEq, Repr

namespace Failure

def ofConfig (error : ConfigError) : Failure := ⟨error.message, error.causes⟩

def ofBuild (error : BuildError) : Failure := ⟨error.message, error.causes⟩

def ofIndex (directory : String) (error : IndexError) : Failure :=
  ⟨"failed to index " ++ directory, error.message :: error.causes⟩

def ofContexts (path : String) (error : ContextError) : Failure :=
  ⟨"invalid contexts file " ++ path, error.message :: error.causes⟩

def ofOutput (path reason : String) : Failure :=
  ⟨"failed to write " ++ path, [reason]⟩

/-- A cause after its mark, with its further lines indented. -/
def causeText (mark indentation cause : String) : String :=
  "\n" ++ mark ++ Text.join ("\n" ++ indentation) (Text.split '\n' cause)

/-- A number that takes five columns. -/
def numberMark (number : Nat) : String :=
  let digits := toString number
  String.ofList (List.replicate (5 - digits.length) ' ') ++ digits ++ ": "

/-- The message, and under it the causes, which are numbered if there is more than one. -/
def report (failure : Failure) : String :=
  "Error: " ++ failure.message ++
    match failure.causes with
    | [] => ""
    | [cause] => "\n\nCaused by:" ++ causeText "    " "    " cause
    | causes =>
        "\n\nCaused by:" ++
          String.join (causes.zipIdx.map fun (cause, number) =>
            causeText (numberMark number) "       " cause)

end Failure

/-! ### Runs -/

inductive Outcome where
  /-- A text for standard output. -/
  | shown (text : String)
  /-- A file to be written. -/
  | written (path content : String)
  | failed (failure : Failure)
  | misused
  deriving DecidableEq, Repr

def usage : String :=
  "Usage: archgraph [--config FILE] collect DIR [-o FILE]\n" ++
  "       archgraph [--config FILE] callgraph DIR\n" ++
  "                 (--entry ID | --contexts FILE [--context NAME]) [--max-depth N] [-o FILE]"

def programVersion : String := "archgraph 0.3.0"

/-- A document, as YAML for a file whose name says so, and as JSON otherwise. -/
def present (output : Option String) (document : Document) : Outcome :=
  match output with
  | none => .shown (Json.print document)
  | some path =>
      match Path.extension? path with
      | some "yaml" => .written path (Yaml.print document)
      | some "yml" => .written path (Yaml.print document)
      | _ => .written path (Json.print document)

namespace Command

/-- The configuration: that of the file, with the depth from the command line. -/
def config? (command : Command) (lookup : PathLookup) : Except Failure Config := do
  let config ←
    match command.config with
    | none => pure Config.standard
    | some path => (Config.load lookup path).mapError Failure.ofConfig
  let config :=
    match command.task with
    | .callGraph _ (some maxDepth) => { config with maxDepth }
    | _ => config
  match config.fault? with
  | some fault => throw (.ofConfig fault)
  | none => return config

/-- The index of the directory; a partial one is a failure. -/
def index? (command : Command) (lookup : PathLookup) (config : Config) : Except Failure Index :=
  match Index.empty.addDirectory config.indexOptions lookup command.directory with
  | (index, none) => .ok index
  | (_, some error) => .error (.ofIndex command.directory error)

def eventGraphs? (lookup : PathLookup) (config : Config) (index : Index) (path : String)
    (only : Option String) : Except Failure EventGraphs := do
  let contexts ← (ProcessContexts.load lookup path).mapError (Failure.ofContexts path)
  let walker ← (Walker.ofOptions index config.buildOptions).mapError Failure.ofBuild
  match only with
  | some name => (EventGraphs.ofContext walker contexts name).mapError Failure.ofBuild
  | none => return .ofAll walker contexts

/-- The document that a command asks for. -/
def document? (command : Command) (lookup : PathLookup) : Except Failure Document := do
  let config ← command.config? lookup
  let index ← command.index? lookup config
  match command.task with
  | .collect => return (Architecture.ofIndex index config.architectureOptions).document
  | .callGraph (.entry id) _ =>
      let walker ← (Walker.ofOptions index config.buildOptions).mapError Failure.ofBuild
      let graph ← (walker.build id).mapError Failure.ofBuild
      return graph.sorted.document
  | .callGraph (.events path only) _ =>
      return (← eventGraphs? lookup config index path only).sorted.document

def run (command : Command) (lookup : PathLookup) : Outcome :=
  match command.document? lookup with
  | .ok document => present command.output document
  | .error failure => .failed failure

/-- The paths that a run may look up. -/
def paths (command : Command) : List String :=
  command.directory :: command.config.toList ++
    match command.task with
    | .callGraph (.events path _) _ => [path]
    | _ => []

end Command

/-- What a request comes to. -/
def Request.run (request : Request) (lookup : PathLookup) : Outcome :=
  match request with
  | .command wanted => wanted.run lookup
  | .help => .shown usage
  | .version => .shown programVersion
  | .misuse => .misused

/-- The paths that a request may look up. -/
def Request.paths : Request → List String
  | .command wanted => wanted.paths
  | _ => []

end GoAtlas.CommandLine
