import GoAtlas.Proofs.CallGraph.WellFormed

/-!
No call is lost, doubled or made up. The edges of one symbol are interleaved with those of the
symbols that it calls, so the invariant speaks of one caller at a time: what is recorded for it and
what is still pending for it, taken together, are its calls in the order of the source.
-/

namespace GoAtlas

/-- What an edge says about a call, apart from its caller and from cycles. -/
structure CallRecord where
  callee : String
  callType : CallType
  isAsync : Bool
  line : Nat
  deriving DecidableEq, Repr

def CallEdge.record (edge : CallEdge) : CallRecord :=
  ⟨edge.callee, edge.callType, edge.isAsync, edge.line⟩

def PendingCall.record (call : PendingCall) : CallRecord :=
  ⟨call.target.id, call.target.callType, call.target.isAsync, call.line⟩

/-- What the edges from one caller say, in their order. -/
def recordedFrom (edges : List CallEdge) (caller : String) : List CallRecord :=
  (edges.filter (·.caller == caller)).map (·.record)

/-- What the edges of the pending calls of one caller will say. -/
def pendingFrom (pending : List PendingCall) (caller : String) : List CallRecord :=
  (pending.filter (·.caller == caller)).map (·.record)

theorem mem_recordedFrom_iff {edges : List CallEdge} {caller : String} {record : CallRecord} :
    record ∈ recordedFrom edges caller ↔
      ∃ edge ∈ edges, edge.caller = caller ∧ edge.record = record := by
  simp [recordedFrom, and_assoc]

theorem recordedFrom_eq_nil {edges : List CallEdge} {caller : String} :
    recordedFrom edges caller = [] ↔ ∀ edge ∈ edges, edge.caller ≠ caller := by
  simp [recordedFrom, List.filter_eq_nil_iff]

theorem pendingFrom_eq_nil {pending : List PendingCall} {caller : String} :
    pendingFrom pending caller = [] ↔ ∀ call ∈ pending, call.caller ≠ caller := by
  simp [pendingFrom, List.filter_eq_nil_iff]

theorem pendingFrom_append (first second : List PendingCall) (caller : String) :
    pendingFrom (first ++ second) caller =
      pendingFrom first caller ++ pendingFrom second caller := by
  simp [pendingFrom, List.filter_append]

/-- Recording the next pending call moves it from one side to the other. -/
theorem recordedFrom_append_edge (edges : List CallEdge) (call : PendingCall)
    (rest : List PendingCall) (isCycle : Bool) (caller : String) :
    recordedFrom (edges ++ [call.edge isCycle]) caller ++ pendingFrom rest caller =
      recordedFrom edges caller ++ pendingFrom (call :: rest) caller := by
  by_cases own : call.caller = caller
  · simp [recordedFrom, pendingFrom, own, PendingCall.edge, CallEdge.record, PendingCall.record]
  · simp [recordedFrom, pendingFrom, own, PendingCall.edge]

namespace Walker

variable {walker : Walker} {entries : List String} {pending rest : List PendingCall} {walk : Walk}
  {nodes : List CallNode} {edges : List CallEdge} {node : CallNode} {callable : Callable}

/-- The calls in the body of a symbol that resolve, in the order of the source. -/
def recordsOf (walker : Walker) (callable : Callable) : List CallRecord :=
  callable.calls.filterMap fun site =>
    (walker.resolver.resolve site (.ofCallable callable)).map fun target =>
      ⟨target.id, target.callType, target.isAsync, site.line⟩

/-- A node is expanded if it is an indexed symbol, its package is not excluded, and it lies above
the depth limit. -/
def IsExpanded (walker : Walker) (node : CallNode) : Prop :=
  ∃ callable, walker.index.callable? node.id = some callable ∧
    walker.isExcluded callable.package = false ∧ node.depth < walker.maxDepth

theorem expansion_records (found : walker.index.callable? node.id = some callable)
    (included : walker.isExcluded callable.package = false)
    (shallow : node.depth < walker.maxDepth) :
    (walker.expansion node).map (·.record) = walker.recordsOf callable := by
  rw [expansion, if_pos shallow, outgoing_of_callable found included, callsOf, recordsOf,
    List.map_filterMap]
  congr 1
  funext site
  rw [Option.map_map]
  rfl

theorem expansion_eq_nil (unexpanded : ¬walker.IsExpanded node) : walker.expansion node = [] := by
  rw [List.eq_nil_iff_forall_not_mem]
  intro call member
  obtain ⟨shallow, outgoing⟩ := mem_expansion.mp member
  obtain ⟨callable, found, included, -⟩ := mem_outgoing.mp outgoing
  exact unexpanded ⟨callable, found, included, shallow⟩

theorem pendingFrom_expansion_self :
    pendingFrom (walker.expansion node) node.id = (walker.expansion node).map (·.record) := by
  have own : ∀ call ∈ walker.expansion node, (call.caller == node.id) = true := by
    intro call member
    simpa using caller_of_mem_outgoing (mem_expansion.mp member).2
  rw [pendingFrom, List.filter_eq_self.mpr own]

theorem pendingFrom_expansion_other {caller : String} (other : caller ≠ node.id) :
    pendingFrom (walker.expansion node) caller = [] := by
  rw [pendingFrom_eq_nil]
  intro call member same
  exact other (same ▸ caller_of_mem_outgoing (mem_expansion.mp member).2)

/-- For each node, its recorded calls and then its pending calls are all its calls. -/
def Accounted (walker : Walker) (nodes : List CallNode) (edges : List CallEdge)
    (pending : List PendingCall) : Prop :=
  ∀ node ∈ nodes, recordedFrom edges node.id ++ pendingFrom pending node.id =
    (walker.expansion node).map (·.record)

theorem Accounted.record {call : PendingCall}
    (accounted : walker.Accounted nodes edges (call :: rest)) (isCycle : Bool) :
    walker.Accounted nodes (edges ++ [call.edge isCycle]) rest := by
  intro node member
  rw [recordedFrom_append_edge]
  exact accounted node member

/-- A fresh node has no recorded calls, and all its calls become pending. -/
theorem Accounted.discover (node : CallNode) (accounted : walker.Accounted nodes edges rest)
    (fresh : ∀ other ∈ nodes, other.id ≠ node.id)
    (unrecorded : ∀ edge ∈ edges, edge.caller ≠ node.id)
    (unawaited : ∀ call ∈ rest, call.caller ≠ node.id) :
    walker.Accounted (nodes ++ [node]) edges (walker.expansion node ++ rest) := by
  intro other member
  rw [pendingFrom_append]
  rcases List.mem_append.mp member with old | new
  · rw [pendingFrom_expansion_other (fresh other old), List.nil_append]
    exact accounted other old
  · rw [List.mem_singleton.mp new, recordedFrom_eq_nil.mpr unrecorded,
      pendingFrom_eq_nil.mpr unawaited, pendingFrom_expansion_self, List.nil_append,
      List.append_nil]

theorem Coherent.edge_caller_ne {id : String} (coherent : walker.Coherent pending walk)
    (fresh : id ∉ walk.visited) : ∀ edge ∈ walk.edges, edge.caller ≠ id := by
  rintro edge member rfl
  exact coherent.fresh fresh (coherent.wellFormed.ends edge member).1

theorem Coherent.pending_caller_ne {id : String} (coherent : walker.Coherent pending walk)
    (fresh : id ∉ walk.visited) : ∀ call ∈ pending, call.caller ≠ id := by
  rintro call member rfl
  obtain ⟨node, nodeMember, expanded⟩ := coherent.pending call member
  refine coherent.fresh fresh (Walk.mem_ids.mpr ⟨node, nodeMember, ?_⟩)
  exact (caller_of_mem_outgoing (mem_expansion.mp expanded).2).symm

theorem Reached.accounted (reached : walker.Reached entries pending walk) :
    walker.Accounted walk.nodes walk.edges pending := by
  induction reached with
  | start => exact fun node member => absurd member List.not_mem_nil
  | revisited _ _ accounted => exact accounted
  | @entered _ _ entry before fresh discovers edges accounted =>
      have coherent := before.coherent
      have next := accounted.discover (walker.enteredNode entry 0)
        (by simpa using coherent.node_id_ne fresh) (by simpa using coherent.edge_caller_ne fresh)
        (by simp)
      rwa [List.append_nil, ← discovers.nodes, ← edges] at next
  | repeated _ _ keeps edges accounted =>
      rw [keeps.nodes, edges]
      exact accounted.record _
  | @followed _ call rest walk before fresh discovers edges accounted =>
      have coherent := before.coherent
      obtain ⟨own, later⟩ := List.forall_mem_cons.mp (coherent.pending_caller_ne fresh)
      rw [discovers.nodes, edges]
      apply (accounted.record false).discover (walker.targetNode call)
      · simpa using coherent.node_id_ne fresh
      · simpa [or_imp, forall_and, PendingCall.edge] using
          ⟨coherent.edge_caller_ne fresh, own⟩
      · simpa using later

/-- Where nothing is pending any more, all calls of a node are recorded. -/
theorem Reached.recordedFrom_eq (reached : walker.Reached entries [] walk)
    (member : node ∈ walk.nodes) :
    recordedFrom walk.edges node.id = (walker.expansion node).map (·.record) := by
  have accounted := reached.accounted node member
  have drained : pendingFrom [] node.id = [] := rfl
  rwa [drained, List.append_nil] at accounted

/-- The edges from an expanded node are the calls in its body that resolve, each one once and in the
order of the source. No other node has an edge from it. -/
theorem recordedFrom_visitAll (built : walker.index.Buildable) (entries : List String)
    (emitted : node ∈ (walker.visitAll entries).nodes) :
    (∀ callable, walker.index.callable? node.id = some callable →
      walker.isExcluded callable.package = false → node.depth < walker.maxDepth →
        recordedFrom (walker.visitAll entries).edges node.id = walker.recordsOf callable) ∧
      (¬walker.IsExpanded node →
        ∀ edge ∈ (walker.visitAll entries).edges, edge.caller ≠ node.id) := by
  have accounted := (reached_visitAll built.namesOnly entries).accounted node emitted
  have drained : pendingFrom [] node.id = [] := rfl
  rw [drained, List.append_nil] at accounted
  constructor
  · intro callable found included shallow
    rw [accounted]
    exact expansion_records found included shallow
  · intro unexpanded
    rw [← recordedFrom_eq_nil, accounted, expansion_eq_nil unexpanded]
    rfl

theorem recordedFrom_visitAll_detour :
    recordedFrom ((detourWalker 3).visitAll ["p.A"]).edges "p.A" =
      [⟨"p.B", .direct, false, 3⟩, ⟨"p.C", .direct, false, 4⟩] := by
  have found : (detourWalker 3).index.callable? ((detourWalker 3).enteredNode "p.A" 0).id =
      some (.function ⟨"A", "p", "a.go", 2, [.function "B" 3, .function "C" 4]⟩) := by
    decide +kernel
  have emitted : (detourWalker 3).enteredNode "p.A" 0 ∈
      ((detourWalker 3).visitAll ["p.A"]).nodes := by
    rw [visitAll_eq_advanceFrom 8 (by decide +kernel)]
    decide +kernel
  have recorded := (recordedFrom_visitAll (buildable_detour 3) ["p.A"] emitted).1 _ found rfl
    (by rw [enteredNode_depth]; decide)
  rw [enteredNode_id] at recorded
  rw [recorded]
  decide +kernel

end Walker

end GoAtlas
