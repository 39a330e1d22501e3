import GoAtlas.Text.Numeral
import GoAtlas.Text.Pieces

/-!
The arguments of the command line. Options may stand before and after the directory; a value stands
in the same argument or in the next one, which then must not look like an option.
-/

namespace GoAtlas.CommandLine

/-- The graphs that a run builds: from one symbol, or for the events of a file. -/
inductive GraphSource where
  | entry (id : String)
  | events (contexts : String) (only : Option String)
  deriving DecidableEq, Repr

inductive Task where
  | collect
  | callGraph (source : GraphSource) (maxDepth : Option Nat)
  deriving DecidableEq, Repr

/-- What is to be done, and with which files. -/
structure Command where
  task : Task
  directory : String
  config : Option String
  output : Option String
  deriving DecidableEq, Repr

inductive Request where
  | command (command : Command)
  | help
  | version
  /-- The arguments make no command. -/
  | misuse
  deriving DecidableEq, Repr

/-! ### Single arguments -/

inductive Argument where
  /-- Two dashes: no options after this. -/
  | separator
  | long (name : String) (value : Option String)
  | short (letters : List Char)
  | plain (text : String)
  deriving DecidableEq, Repr

/-- The part before the first equals sign, and the part after it. -/
def splitAtEquals (text : List Char) : String × Option String :=
  let name := String.ofList (text.takeWhile (· != '='))
  match text.dropWhile (· != '=') with
  | [] => (name, none)
  | _ :: value => (name, some (String.ofList value))

def Argument.ofString (text : String) : Argument :=
  match text.toList with
  | ['-', '-'] => separator
  | '-' :: '-' :: rest => long (splitAtEquals rest).1 (splitAtEquals rest).2
  | '-' :: letter :: rest => short (letter :: rest)
  | _ => plain text

def Argument.isPlain : Argument → Bool
  | plain _ => true
  | _ => false

/-! ### Options -/

inductive Flag where
  | config | output | entry | contexts | context | maxDepth
  deriving DecidableEq, Repr

def Flag.name : Flag → String
  | config => "config"
  | output => "output"
  | entry => "entry"
  | contexts => "contexts"
  | context => "context"
  | maxDepth => "max-depth"

def Flag.isPath : Flag → Bool
  | config => true
  | output => true
  | contexts => true
  | _ => false

/-- A number of at most 64 bits, perhaps with a plus sign before it. -/
def word? (text : String) : Option Nat :=
  match text.toList with
  | '+' :: digits => Text.word? digits
  | digits => Text.word? digits

/-- Paths are not empty, and depths are numbers. -/
def Flag.allows (flag : Flag) (value : String) : Bool :=
  if flag.isPath then value != ""
  else if flag == .maxDepth then (word? value).isSome
  else true

/-- The options and the directory that have been given. -/
structure Given where
  values : List (Flag × String)
  directory : Option String

def Given.nothing : Given := ⟨[], none⟩

def Given.value? (given : Given) (flag : Flag) : Option String :=
  (given.values.find? (·.1 == flag)).map (·.2)

/-- Why reading stops before the end. -/
inductive Stop where
  | help | version | misuse
  deriving DecidableEq, Repr

/-- An option is given at most once. -/
def Given.set (given : Given) (flag : Flag) (value : String) : Except Stop Given :=
  if (given.value? flag).isSome || !flag.allows value then .error .misuse
  else .ok { given with values := (flag, value) :: given.values }

/-- There is one directory. -/
def Given.setDirectory (given : Given) (text : String) : Except Stop Given :=
  if given.directory.isSome || text == "" then .error .misuse
  else .ok { given with directory := some text }

/-! ### Lists of arguments -/

/-- Reads what follows two dashes. -/
def readPlain (given : Given) : List String → Except Stop Given
  | [] => .ok given
  | text :: rest => do readPlain (← given.setDirectory text) rest

/-- An option as it begins an argument: which one it is, and its value if the argument holds it. -/
def option? (flags : List Flag) : Argument → Except Stop (Flag × Option String)
  | .long name value =>
      if name == "help" && value.isNone then .error .help
      else
        match flags.find? (·.name == name) with
        | some flag => .ok (flag, value)
        | none => .error .misuse
  | .short ('h' :: _) => .error .help
  | .short ('o' :: rest) =>
      if !flags.contains .output then .error .misuse
      else
        match rest with
        | [] => .ok (.output, none)
        | '=' :: value => .ok (.output, some (String.ofList value))
        | value => .ok (.output, some (String.ofList value))
  | _ => .error .misuse

/-- Reads the arguments of a task, which takes some options and a directory. -/
def readTask (flags : List Flag) (given : Given) : List String → Except Stop Given
  | [] => .ok given
  | text :: rest =>
      match Argument.ofString text with
      | .separator => readPlain given rest
      | .plain text => do readTask flags (← given.setDirectory text) rest
      | argument => do
          match ← option? flags argument with
          | (flag, some value) => readTask flags (← given.set flag value) rest
          | (flag, none) =>
              match rest with
              | [] => .error .misuse
              | value :: rest =>
                  if (Argument.ofString value).isPlain then
                    readTask flags (← given.set flag value) rest
                  else .error .misuse

/-- The value of an option of the task, or of one given before the name of the task. -/
def valueOf (before after : Given) (flag : Flag) : Option String :=
  (after.value? flag).or (before.value? flag)

def command? (task : Task) (before after : Given) : Except Stop Request :=
  match after.directory with
  | none => .error .misuse
  | some directory =>
      .ok (.command ⟨task, directory, valueOf before after .config, after.value? .output⟩)

def collectFlags : List Flag := [.config, .output]

def callGraphFlags : List Flag := [.config, .output, .entry, .contexts, .context, .maxDepth]

/-- A symbol or a file of contexts, but not both. With a symbol, a single context says nothing. -/
def source? (given : Given) : Except Stop GraphSource :=
  match given.value? .entry, given.value? .contexts with
  | some id, none => .ok (.entry id)
  | none, some contexts => .ok (.events contexts (given.value? .context))
  | _, _ => .error .misuse

/-- Reads a task by its name. -/
def readNamed (before : Given) (name : String) (rest : List String) : Except Stop Request :=
  match name with
  | "collect" => do
      let given ← readTask collectFlags .nothing rest
      command? .collect before given
  | "callgraph" => do
      let given ← readTask callGraphFlags .nothing rest
      let source ← source? given
      command? (.callGraph source ((given.value? .maxDepth).bind word?)) before given
  | "help" =>
      match rest with
      | [] => .error .help
      | [topic] =>
          if ["collect", "callgraph", "help"].contains topic then .error .help else .error .misuse
      | _ => .error .misuse
  | _ => .error .misuse

/-- Reads the arguments up to the name of the task. -/
def readAll (given : Given) : List String → Except Stop Request
  | [] => .error .misuse
  | text :: rest =>
      match Argument.ofString text with
      | .separator => .error .misuse
      | .plain name => readNamed given name rest
      | .long "version" none => .error .version
      | .short ('V' :: _) => .error .version
      | argument => do
          match ← option? [.config] argument with
          | (flag, some value) => readAll (← given.set flag value) rest
          | (flag, none) =>
              match rest with
              | [] => .error .misuse
              | value :: rest =>
                  if (Argument.ofString value).isPlain then readAll (← given.set flag value) rest
                  else .error .misuse

def Request.ofArguments (arguments : List String) : Request :=
  match readAll .nothing arguments with
  | .ok request => request
  | .error .help => help
  | .error .version => version
  | .error .misuse => misuse

end GoAtlas.CommandLine
