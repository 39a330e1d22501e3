import GoAtlas.Symbol
import GoAtlas.Table
import GoAtlas.Text.Quoted

/-!
Process contexts: which symbol of the program handles each event of a business process. Contexts
are checked before they are used, and the first fault in their order is the one reported.
-/

namespace GoAtlas

/-- By what an entry point is called. -/
inductive EntryPointType where
  | http | kafka | grpc | cron | custom
  deriving DecidableEq, Repr

namespace EntryPointType

def all : List EntryPointType := [http, kafka, grpc, cron, custom]

def label : EntryPointType → String
  | http => "http"
  | kafka => "kafka"
  | grpc => "grpc"
  | cron => "cron"
  | custom => "custom"

def ofLabel? (label : String) : Option EntryPointType :=
  all.find? (·.label == label)

end EntryPointType

structure EntryPoint where
  package : String
  /-- `Func` or `Type.Method`. -/
  function : String
  type : EntryPointType
  deriving DecidableEq, Repr

def EntryPoint.none : EntryPoint := ⟨"", "", .custom⟩

/-- The identifier of the symbol from which a call graph starts. -/
def EntryPoint.symbolId (entryPoint : EntryPoint) : String :=
  memberId entryPoint.package entryPoint.function

structure EventMapping where
  eventId : String
  /-- Empty for an event without a name. -/
  eventName : String
  entryPoint : EntryPoint
  deriving DecidableEq, Repr

structure ProcessContext where
  /-- The diagram of the process, which is not read. -/
  diagram : Option String
  events : List EventMapping
  deriving DecidableEq, Repr

/-- Contexts by name. -/
abbrev ProcessContexts := Table ProcessContext

inductive ContextError where
  | read (path reason : String)
  | malformed
  | empty
  | noEvents (context : String)
  /-- Positions count from one. -/
  | missingEventId (context : String) (position : Nat)
  | duplicateEventId (context eventId : String)
  | missingPackage (context eventId : String)
  | missingFunction (context eventId : String)
  deriving DecidableEq, Repr

namespace ContextError

def message : ContextError → String
  | read path reason => "failed to read contexts file " ++ path ++ ": " ++ reason
  | malformed => "failed to parse contexts YAML"
  | empty => "contexts section is empty"
  | noEvents context => "context " ++ Text.quoted context ++ " has no events"
  | missingEventId context position =>
      "context " ++ Text.quoted context ++ ", event #" ++ toString position ++ ": missing event_id"
  | duplicateEventId context eventId =>
      "context " ++ Text.quoted context ++ ": duplicate event_id " ++ Text.quoted eventId
  | missingPackage context eventId =>
      "context " ++ Text.quoted context ++ ", event " ++ Text.quoted eventId ++
        ": missing entry_point.package"
  | missingFunction context eventId =>
      "context " ++ Text.quoted context ++ ", event " ++ Text.quoted eventId ++
        ": missing entry_point.function"

/-- What lies behind the error, where it is not of this program's making. -/
def causes : ContextError → List String
  | read _ reason => [reason]
  | _ => []

end ContextError

/-! ### Checks -/

/-- The first fault of an event, given the identifiers of the events before it. -/
def EventMapping.fault? (context : String) (earlier : List String) (event : EventMapping) :
    Option ContextError :=
  if event.eventId == "" then some (.missingEventId context (earlier.length + 1))
  else if earlier.contains event.eventId then some (.duplicateEventId context event.eventId)
  else if event.entryPoint.package == "" then some (.missingPackage context event.eventId)
  else if event.entryPoint.function == "" then some (.missingFunction context event.eventId)
  else none

/-- The first fault among events, given the identifiers of those before them. -/
def firstEventFault? (context : String) (earlier : List String) :
    List EventMapping → Option ContextError
  | [] => none
  | event :: rest =>
      match event.fault? context earlier with
      | some fault => some fault
      | none => firstEventFault? context (earlier ++ [event.eventId]) rest

def ProcessContext.fault? (name : String) (context : ProcessContext) : Option ContextError :=
  if context.events.isEmpty then some (.noEvents name) else firstEventFault? name [] context.events

namespace ProcessContexts

/-- The first fault, in the order of names and then of events. -/
def fault? (contexts : ProcessContexts) : Option ContextError :=
  if contexts.isEmpty then some .empty
  else contexts.entries.findSome? fun (name, context) => context.fault? name

/-- Contexts without a fault, or the first fault. -/
def validate (contexts : ProcessContexts) : Except ContextError ProcessContexts :=
  match contexts.fault? with
  | some fault => .error fault
  | none => .ok contexts

def eventCount (contexts : ProcessContexts) : Nat :=
  contexts.values.foldl (fun count context => count + context.events.length) 0

end ProcessContexts

end GoAtlas
