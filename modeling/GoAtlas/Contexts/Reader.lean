import GoAtlas.Contexts
import GoAtlas.FileTree
import GoAtlas.Yaml.Node.Reader

/-!
Reading contexts from YAML. Whatever is missing has its default, fields of other names do not
matter, and every scalar is the text as which it is written.
-/

namespace GoAtlas

/-- A node in the document to which its references lead. -/
structure PlacedNode where
  places : List (Nat × Yaml.Node)
  node : Yaml.Node

namespace PlacedNode

/-- The node without its anchor, or the node to which it refers; of anchors that share a number the
last one counts. -/
def target (placed : PlacedNode) : Yaml.Node :=
  match placed.node with
  | .anchored _ node => node
  | .reference anchor =>
      match placed.places.reverse.find? (·.1 == anchor) with
      | some (_, node) => node
      | none => .missing
  | node => node

def within (placed : PlacedNode) (node : Yaml.Node) : PlacedNode :=
  { placed with node }

def text? (placed : PlacedNode) : Option String :=
  match placed.target with
  | .scalar _ _ text => some (String.ofList text)
  | _ => none

/-- The items of a sequence; a missing node has none. -/
def items? (placed : PlacedNode) : Option (List PlacedNode) :=
  match placed.target with
  | .sequence _ items => some (items.map placed.within)
  | .scalar _ .plain [] => some []
  | _ => none

/-- The entries of a mapping, whose keys must be texts; a missing node has none. -/
def entries? (placed : PlacedNode) : Option (List (String × PlacedNode)) :=
  match placed.target with
  | .mapping _ entries =>
      entries.mapM fun (key, value) =>
        (placed.within key).text?.map fun name => (name, placed.within value)
  | .scalar _ .plain [] => some []
  | _ => none

/-- The entries of a mapping, if none of these names occurs more than once. -/
def fields? (placed : PlacedNode) (names : List String) : Option (List (String × PlacedNode)) := do
  let entries ← placed.entries?
  if names.all fun name => (entries.filter (·.1 == name)).length ≤ 1 then entries else none

/-- The node in a field, read if it is there. -/
def field? {Value : Type} (fields : List (String × PlacedNode)) (name : String) (default : Value)
    (read : PlacedNode → Option Value) : Option Value :=
  match fields.find? (·.1 == name) with
  | some (_, node) => read node
  | none => some default

def nullTag : List UInt8 := Yaml.bytesOf "tag:yaml.org,2002:null".toList

/-- A text that may be nothing. Text in quotation marks or under a tag is never nothing, except
under the tag of nothing, which allows nothing else. -/
def optionalText? (placed : PlacedNode) : Option (Option String) :=
  match placed.target with
  | .scalar tag .plain text =>
      let word := String.ofList text
      if tag == some nullTag then
        if Yaml.isNull word && word != "" then some none else none
      else if tag.isNone && Yaml.isNull word then some none
      else some (some word)
  | .scalar _ _ text => some (some (String.ofList text))
  | _ => none

/-- The name in a tag that starts with a mark. -/
def tagName? (tag : Option (List UInt8)) : Option String :=
  match tag with
  | some (0x21 :: rest) => Text.Utf8.read? (if rest.isEmpty then [0x21] else rest)
  | _ => none

/-- One of the types, as a text or as a tag on nothing. -/
def entryPointType? (placed : PlacedNode) : Option EntryPointType :=
  match placed.target with
  | .scalar tag style text =>
      match tagName? tag with
      | some name =>
          if style == .plain && Yaml.isNull (String.ofList text) then
            EntryPointType.ofLabel? name
          else none
      | none => EntryPointType.ofLabel? (String.ofList text)
  | _ => none

def entryPoint? (placed : PlacedNode) : Option EntryPoint := do
  let fields ← placed.fields? ["package", "function", "type"]
  let package ← field? fields "package" "" text?
  let function ← field? fields "function" "" text?
  let type ← field? fields "type" .custom entryPointType?
  return ⟨package, function, type⟩

def event? (placed : PlacedNode) : Option EventMapping := do
  let fields ← placed.fields? ["event_id", "event_name", "entry_point"]
  let eventId ← field? fields "event_id" "" text?
  let eventName ← field? fields "event_name" "" text?
  let entryPoint ← field? fields "entry_point" .none entryPoint?
  return ⟨eventId, eventName, entryPoint⟩

def context? (placed : PlacedNode) : Option ProcessContext := do
  let fields ← placed.fields? ["bpmn_file", "events"]
  let diagram ← field? fields "bpmn_file" none optionalText?
  let events ← field? fields "events" [] fun node => do (← node.items?).mapM event?
  return ⟨diagram, events⟩

/-- Contexts by name; of two of one name the later one counts. -/
def contexts? (placed : PlacedNode) : Option ProcessContexts := do
  let fields ← placed.fields? ["contexts"]
  field? fields "contexts" Table.empty fun node => do
    (← node.entries?).foldlM (fun contexts (name, entry) => do
      return contexts.insert name (← entry.context?)) Table.empty

end PlacedNode

namespace ProcessContexts

/-- The contexts of a document, before they are checked. -/
def ofDocument? : Option Yaml.Node → Option ProcessContexts
  | none => some Table.empty
  | some node => PlacedNode.contexts? ⟨node.anchors, node⟩

/-- Contexts from a text, checked. -/
def read (text : String) : Except ContextError ProcessContexts :=
  match Yaml.document? text >>= ofDocument? with
  | some contexts => validate contexts
  | none => .error .malformed

/-- Contexts from a file. -/
def load (lookup : PathLookup) (path : String) : Except ContextError ProcessContexts :=
  match readText lookup path with
  | .ok text => read text
  | .error reason => .error (.read path reason)

end ProcessContexts

end GoAtlas
