import GoAtlas.CallGraph.Written
import GoAtlas.CommandLine.Run
import GoAtlas.Proofs.CallGraph.Order
import GoAtlas.Proofs.Json.Printing

/-!
What a presented graph says. A record determines what each of its names stands for, also where
fields are left out; so call graphs and architectures are determined by their documents, and by the
texts that are shown or written for them.
-/

namespace GoAtlas

/-! ### Fields of a record -/

namespace Document

variable {Value : Type}

attribute [simp] List.lookup_append

@[simp] theorem lookup_cons (wanted name : String) (field : Document)
    (rest : List (String × Document)) :
    ((name, field) :: rest).lookup wanted =
      if wanted = name then some field else rest.lookup wanted := by
  by_cases same : wanted = name <;> simp [List.lookup_cons, same, beq_eq_false_iff_ne.mpr]

@[simp] theorem lookup_optional (wanted name : String) (write : Value → Document)
    (value : Option Value) :
    (optional name write value).lookup wanted =
      if wanted = name then value.map write else none := by
  cases value <;> simp [optional]

@[simp] theorem lookup_whenSet (wanted name : String) (set : Bool) :
    (whenSet name set).lookup wanted =
      if wanted = name then (if set then some (flag true) else none) else none := by
  cases set <;> simp [whenSet]

@[simp] theorem lookup_whenSome (wanted name : String) (values : List String) :
    (whenSome name values).lookup wanted =
      if wanted = name then (if values = [] then none else some (texts values)) else none := by
  cases values <;> simp [whenSome]

/-- Equal records agree under every name. -/
theorem lookup_eq {fields others : List (String × Document)} (same : record fields = record others)
    (name : String) : fields.lookup name = others.lookup name := by
  rw [record.inj same]

/-! What is left out stands for one value only. -/

theorem map_text_injective : Function.Injective (Option.map text) :=
  Option.map_injective fun _ _ => text.inj

theorem map_number_injective : Function.Injective (Option.map number) :=
  Option.map_injective fun _ _ => number.inj

theorem whenSet_injective {set other : Bool}
    (same : (if set then some (flag true) else none) = if other then some (flag true) else none) :
    set = other := by
  cases set <;> cases other <;> first | rfl | cases same

theorem texts_injective : Function.Injective texts := fun _ _ same =>
  List.map_injective_iff.mpr (fun _ _ => text.inj) (list.inj same)

theorem whenSome_injective {values others : List String}
    (same : (if values = [] then none else some (texts values)) =
      if others = [] then none else some (texts others)) : values = others := by
  split at same <;> split at same
  · simp_all only
  · cases same
  · cases same
  · exact texts_injective (Option.some.inj same)

end Document

/-! ### Call graphs -/

theorem NodeKind.label_injective {kind other : NodeKind} (same : kind.label = other.label) :
    kind = other := by
  cases kind <;> cases other <;> first | rfl | exact absurd same (by decide)

theorem CallNode.document_injective : Function.Injective CallNode.document := by
  intro node other same
  have agree := Document.lookup_eq same
  have id : node.id = other.id := by simpa using agree "id"
  have package : node.package = other.package :=
    Document.map_text_injective (by simpa using agree "package")
  have function : node.function = other.function := by simpa using agree "function"
  have receiver : node.receiver = other.receiver :=
    Document.map_text_injective (by simpa using agree "receiver")
  have kind : node.kind = other.kind := NodeKind.label_injective (by simpa using agree "type")
  have file : node.file = other.file := Document.map_text_injective (by simpa using agree "file")
  have line : node.line = other.line := Document.map_number_injective (by simpa using agree "line")
  have depth : node.depth = other.depth := by simpa using agree "depth"
  cases node
  simp_all only

theorem CallEdge.document_injective : Function.Injective CallEdge.document := by
  intro edge other same
  have agree := Document.lookup_eq same
  have caller : edge.caller = other.caller := by simpa using agree "from"
  have callee : edge.callee = other.callee := by simpa using agree "to"
  have callType : edge.callType = other.callType :=
    CallType.label_injective (by simpa using agree "call_type")
  have line : edge.line = other.line := by simpa using agree "line"
  have isAsync : edge.isAsync = other.isAsync :=
    Document.whenSet_injective (by simpa using agree "async")
  have isCycle : edge.isCycle = other.isCycle :=
    Document.whenSet_injective (by simpa using agree "cycle")
  cases edge
  simp_all only

theorem CallStats.document_injective : Function.Injective CallStats.document := by
  intro stats other same
  cases stats
  cases other
  simpa [CallStats.document] using same

theorem CallGraph.document_injective : Function.Injective CallGraph.document := by
  intro graph other same
  have agree := Document.lookup_eq same
  have eventId : graph.eventId = other.eventId :=
    Document.map_text_injective (by simpa using agree "event_id")
  have eventName : graph.eventName = other.eventName :=
    Document.map_text_injective (by simpa using agree "event_name")
  have entryPoint : graph.entryPoint = other.entryPoint := by simpa using agree "entry_point"
  have nodes : graph.nodes = other.nodes :=
    List.map_injective_iff.mpr CallNode.document_injective (by simpa using agree "nodes")
  have edges : graph.edges = other.edges :=
    List.map_injective_iff.mpr CallEdge.document_injective (by simpa using agree "edges")
  have maxDepth : graph.maxDepth = other.maxDepth := by simpa using agree "max_depth"
  have actualDepth : graph.actualDepth = other.actualDepth := by simpa using agree "actual_depth"
  have stats : graph.stats = other.stats :=
    CallStats.document_injective (by simpa using agree "stats")
  have warnings : graph.warnings = other.warnings :=
    Document.whenSome_injective (by simpa using agree "warnings")
  cases graph
  simp_all only

/-! ### Architectures -/

theorem EntityKind.label_injective {kind other : EntityKind} (same : kind.label = other.label) :
    kind = other := by
  cases kind <;> cases other <;> first | rfl | exact absurd same (by decide)

theorem LinkKind.label_injective {kind other : LinkKind} (same : kind.label = other.label) :
    kind = other := by
  cases kind <;> cases other <;> first | rfl | exact absurd same (by decide)

theorem Component.document_injective : Function.Injective Component.document := by
  intro component other same
  have agree := Document.lookup_eq same
  have id : component.id = other.id := by simpa using agree "id"
  have title : component.title = other.title := by simpa using agree "title"
  have entity : component.entity = other.entity :=
    EntityKind.label_injective (by simpa using agree "entity")
  cases component
  simp_all only

theorem Link.document_injective : Function.Injective Link.document := by
  intro link other same
  have agree := Document.lookup_eq same
  have source : link.source = other.source := by simpa using agree "from"
  have target : link.target = other.target := by simpa using agree "to"
  have kind : link.kind = other.kind := LinkKind.label_injective (by simpa using agree "type")
  cases link
  simp_all only

theorem Architecture.document_injective : Function.Injective Architecture.document := by
  intro architecture other same
  have agree := Document.lookup_eq same
  have components : architecture.components = other.components :=
    List.map_injective_iff.mpr Component.document_injective (by simpa using agree "components")
  have links : architecture.links = other.links :=
    List.map_injective_iff.mpr Link.document_injective (by simpa using agree "links")
  cases architecture
  simp_all only

/-! ### Presented graphs -/

namespace CommandLine

/-- Is the output a file that is written as YAML? -/
def IsYaml (output : Option String) : Prop :=
  output.bind Path.extension? ∈ [some "yaml", some "yml"]

/-- What is presented as JSON, on standard output or in a file, is the printed document. -/
theorem present_of_not_isYaml {output : Option String} (json : ¬IsYaml output)
    (document : Document) :
    present output document =
      output.elim (.shown (Json.print document)) (.written · (Json.print document)) := by
  cases output with
  | none => rfl
  | some path =>
      simp only [IsYaml, Option.bind_some, List.mem_cons, List.not_mem_nil, or_false,
        not_or] at json
      unfold present
      dsimp only [Option.elim]
      split
      · exact absurd ‹_› json.1
      · exact absurd ‹_› json.2
      · rfl

theorem present_injective {output : Option String} (json : ¬IsYaml output) :
    Function.Injective (present output) := by
  intro document other same
  rw [present_of_not_isYaml json, present_of_not_isYaml json] at same
  cases output with
  | none => exact Json.print_injective (Outcome.shown.inj same)
  | some path => exact Json.print_injective (Outcome.written.inj same).2

/-- No two call graphs and no two architectures are presented by one JSON text, whichever of their
fields are left out and whichever characters are escaped. -/
theorem presented_graphs_injective {output : Option String} (json : ¬IsYaml output) :
    Function.Injective (fun graph : CallGraph => present output graph.document) ∧
      Function.Injective
        (fun architecture : Architecture => present output architecture.document) :=
  ⟨(present_injective json).comp CallGraph.document_injective,
    (present_injective json).comp Architecture.document_injective⟩

/-- Apart are a graph whose event has an empty name and one whose event has none, and so are a title
with a line break and a title that spells its escape. -/
theorem presented_graphs_ne :
    ¬IsYaml none ∧
      present none
          (CallGraph.mk none (some "") "p.A" [] [] 10 0 CallStats.zero []).document ≠
        present none (CallGraph.mk none none "p.A" [] [] 10 0 CallStats.zero []).document ∧
      present none (Architecture.mk [⟨"p", "a\n", .package⟩] []).document ≠
        present none (Architecture.mk [⟨"p", "a\\n", .package⟩] []).document := by
  have json : ¬IsYaml none := by simp [IsYaml]
  refine ⟨json, fun same => ?_, fun same => ?_⟩
  · exact absurd ((presented_graphs_injective json).1 same) (by decide)
  · exact absurd ((presented_graphs_injective json).2 same) (by decide)

end CommandLine

end GoAtlas
