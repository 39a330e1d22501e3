import GoAtlas.CallGraph.Events
import GoAtlas.Proofs.CallGraph.Cycles
import GoAtlas.Proofs.Contexts.Validation
import Mathlib.Algebra.BigOperators.Group.List.Basic
import Mathlib.Algebra.GroupWithZero.Nat

/-!
The events of a context, one after the other. An event adds to a set what it comes to on its own:
its graph or a warning, and its part of the statistics.
-/

namespace GoAtlas

/-! ### Sums of statistics -/

instance : Zero EventStats := ⟨⟨0, 0, 0, 0, 0, 0⟩⟩

instance : Add EventStats where
  add first second :=
    { totalEvents := first.totalEvents + second.totalEvents
      mappedEvents := first.mappedEvents + second.mappedEvents
      builtGraphs := first.builtGraphs + second.builtGraphs
      failedGraphs := first.failedGraphs + second.failedGraphs
      totalNodes := first.totalNodes + second.totalNodes
      totalEdges := first.totalEdges + second.totalEdges }

namespace EventStats

theorem zero_def : (0 : EventStats) = ⟨0, 0, 0, 0, 0, 0⟩ := rfl

theorem add_def (first second : EventStats) : first + second =
    ⟨first.totalEvents + second.totalEvents, first.mappedEvents + second.mappedEvents,
      first.builtGraphs + second.builtGraphs, first.failedGraphs + second.failedGraphs,
      first.totalNodes + second.totalNodes, first.totalEdges + second.totalEdges⟩ := rfl

instance : AddMonoid EventStats where
  add_assoc first second third := by simp [add_def, Nat.add_assoc]
  zero_add stats := by simp [add_def, zero_def]
  add_zero stats := by simp [add_def, zero_def]
  nsmul := nsmulRec

/-- Every event was built or failed, and is mapped if it was built. -/
structure Balanced (stats : EventStats) : Prop where
  total : stats.totalEvents = stats.builtGraphs + stats.failedGraphs
  mapped : stats.mappedEvents = stats.builtGraphs

/-- The graphs that were built are as many as the given ones, and have as many nodes and edges. -/
structure Describes (stats : EventStats) (graphs : List CallGraph) : Prop where
  built : stats.builtGraphs = graphs.length
  nodes : stats.totalNodes = (graphs.map (·.nodes.length)).sum
  edges : stats.totalEdges = (graphs.map (·.edges.length)).sum

theorem Describes.of_perm {stats : EventStats} {graphs others : List CallGraph}
    (describes : stats.Describes graphs) (permuted : graphs.Perm others) :
    stats.Describes others where
  built := describes.built.trans permuted.length_eq
  nodes := describes.nodes.trans (permuted.map _).sum_eq
  edges := describes.edges.trans (permuted.map _).sum_eq

end EventStats

/-! ### Single events -/

/-- The event that a graph serves. -/
def CallGraph.event (graph : CallGraph) : String :=
  graph.eventId.getD ""

namespace Walker

variable {walker : Walker} {event : EventMapping} {graph : CallGraph} {name : String}

/-- What an event comes to on its own. -/
def eventGraph (walker : Walker) (event : EventMapping) : Except BuildError CallGraph :=
  walker.buildForEvent event.eventId event.eventName event.entryPoint.symbolId

/-- The graphs of those events that have one. -/
def graphsOf (walker : Walker) (events : List EventMapping) : List CallGraph :=
  events.filterMap fun event => (walker.eventGraph event).toOption

/-- What an event adds to the statistics. -/
def statsOf (walker : Walker) (event : EventMapping) : EventStats :=
  match walker.eventGraph event with
  | .ok graph => ⟨1, 1, 1, 0, graph.nodes.length, graph.edges.length⟩
  | .error _ => ⟨1, 0, 0, 1, 0, 0⟩

/-- The warning of an event that fails. -/
def failuresOf (walker : Walker) (name : String) (event : EventMapping) : List String :=
  match walker.eventGraph event with
  | .ok _ => []
  | .error error => [EventGraphs.placeOf name event.eventId ++ error.message]

/-- The warning of an event for which there is a graph already. -/
def replacementsOf (walker : Walker) (known : String → Bool) (name : String)
    (event : EventMapping) : List String :=
  match walker.eventGraph event with
  | .ok _ =>
      if known event.eventId then
        [EventGraphs.placeOf name event.eventId ++ "replaces a graph from another context"]
      else []
  | .error _ => []

/-- Whether a context before the named one has a graph for an event. -/
def builtBefore (walker : Walker) (entries : List (String × ProcessContext)) (name id : String) :
    Bool :=
  entries.any fun (earlier, context) =>
    decide (earlier < name) && (walker.graphsOf context.events).any (·.event == id)

theorem builtBefore_iff {entries : List (String × ProcessContext)} {id : String} :
    walker.builtBefore entries name id = true ↔ ∃ entry ∈ entries, entry.1 < name ∧
      id ∈ (walker.graphsOf entry.2.events).map CallGraph.event := by
  simp [builtBefore]

/-- The graph of an event serves it, and its statistics are those of its lists. -/
theorem of_eventGraph (built : walker.eventGraph event = .ok graph) :
    graph.event = event.eventId ∧ graph.stats.totalNodes = graph.nodes.length ∧
      graph.stats.totalEdges = graph.edges.length := by
  unfold eventGraph buildForEvent at built
  cases own : walker.build event.entryPoint.symbolId with
  | error error =>
      rw [own] at built
      cases built
  | ok plain =>
      rw [own] at built
      cases built
      obtain ⟨-, rfl⟩ := build_eq_ok_iff.mp own
      exact ⟨rfl, rfl, rfl⟩

theorem toOption_eventGraph :
    (walker.eventGraph event).toOption = some graph ↔ walker.eventGraph event = .ok graph := by
  cases walker.eventGraph event <;> simp [Except.toOption]

theorem mem_graphsOf {events : List EventMapping} :
    graph ∈ walker.graphsOf events ↔ ∃ event ∈ events, walker.eventGraph event = .ok graph := by
  simp [graphsOf, toOption_eventGraph]

theorem graphsOf_append (events others : List EventMapping) :
    walker.graphsOf (events ++ others) = walker.graphsOf events ++ walker.graphsOf others :=
  List.filterMap_append

theorem graphsOf_flatMap {Source : Type} (sources : List Source)
    (eventsOf : Source → List EventMapping) : walker.graphsOf (sources.flatMap eventsOf) =
      sources.flatMap fun source => walker.graphsOf (eventsOf source) :=
  List.filterMap_flatMap

/-- A graph is built for just the events whose symbols are indexed. -/
theorem map_event_graphsOf (walker : Walker) (events : List EventMapping) :
    (walker.graphsOf events).map CallGraph.event =
      (events.filter fun event => (walker.index.callable? event.entryPoint.symbolId).isSome).map
        (·.eventId) := by
  induction events with
  | nil => rfl
  | cons event rest inductionHypothesis =>
      rw [← List.singleton_append, graphsOf_append, List.map_append, inductionHypothesis,
        List.filter_append, List.map_append]
      congr 1
      cases found : walker.index.callable? event.entryPoint.symbolId <;>
        simp [graphsOf, eventGraph, buildForEvent, build, found, Except.map, Except.toOption,
          CallGraph.event]

theorem graphsOf_sublist (walker : Walker) (events : List EventMapping) :
    ((walker.graphsOf events).map CallGraph.event).Sublist (events.map (·.eventId)) := by
  rw [map_event_graphsOf]
  exact List.filter_sublist.map _

/-- Among events with identifiers of their own, the graph for an identifier is that of its event. -/
theorem lastWith?_graphsOf {events : List EventMapping}
    (distinct : (events.map (·.eventId)).Nodup) (id : String) :
    lastWith? CallGraph.event id (walker.graphsOf events) =
      (events.find? (·.eventId == id)).bind (walker.eventGraph · |>.toOption) := by
  apply Option.ext
  intro graph
  rw [lastWith?_eq_some_iff (distinct.sublist (walker.graphsOf_sublist events)), mem_graphsOf,
    Option.bind_eq_some_iff]
  constructor
  · rintro ⟨⟨event, member, built⟩, rfl⟩
    have found := find?_of_nodup_keys distinct member
    rw [← (of_eventGraph built).1] at found
    exact ⟨event, found, toOption_eventGraph.mpr built⟩
  · rintro ⟨event, found, built⟩
    have isBuilt := toOption_eventGraph.mp built
    have same : event.eventId = id := by simpa using List.find?_some found
    exact ⟨⟨event, List.mem_of_find?_eq_some found, isBuilt⟩,
      (of_eventGraph isBuilt).1.trans same⟩

/-- The statistics of some events. -/
def statsOfAll (walker : Walker) (events : List EventMapping) : EventStats :=
  (events.map walker.statsOf).sum

theorem statsOfAll_cons (events : List EventMapping) :
    walker.statsOfAll (event :: events) = walker.statsOf event + walker.statsOfAll events :=
  List.sum_cons

theorem statsOfAll_append (events others : List EventMapping) :
    walker.statsOfAll (events ++ others) = walker.statsOfAll events + walker.statsOfAll others := by
  rw [statsOfAll, List.map_append, List.sum_append, statsOfAll, statsOfAll]

theorem totalEvents_statsOfAll (walker : Walker) (events : List EventMapping) :
    (walker.statsOfAll events).totalEvents = events.length := by
  induction events with
  | nil => rfl
  | cons event rest inductionHypothesis =>
      have single : (walker.statsOf event).totalEvents = 1 := by
        unfold statsOf
        split <;> rfl
      rw [statsOfAll_cons, EventStats.add_def]
      simp only [single, inductionHypothesis, List.length_cons, Nat.add_comm]

theorem balanced_statsOfAll (walker : Walker) (events : List EventMapping) :
    (walker.statsOfAll events).Balanced := by
  induction events with
  | nil => exact ⟨rfl, rfl⟩
  | cons event rest inductionHypothesis =>
      obtain ⟨total, mapped⟩ := inductionHypothesis
      rw [statsOfAll_cons, statsOf]
      split <;> constructor <;> simp only [EventStats.add_def] <;> omega

theorem describes_statsOfAll (walker : Walker) (events : List EventMapping) :
    (walker.statsOfAll events).Describes (walker.graphsOf events) := by
  induction events with
  | nil => exact ⟨rfl, rfl, rfl⟩
  | cons event rest inductionHypothesis =>
      obtain ⟨built, nodes, edges⟩ := inductionHypothesis
      rw [statsOfAll_cons, statsOf, ← List.singleton_append, graphsOf_append]
      cases outcome : walker.eventGraph event <;> constructor <;>
        simp [EventStats.add_def, graphsOf, outcome, Except.toOption] at built nodes edges ⊢ <;>
        omega

end Walker

/-! ### Contexts without a fault -/

namespace ProcessContexts

variable {contexts : ProcessContexts} {entry : String × ProcessContext}

/-- The events of all contexts, context by context. -/
def events (contexts : ProcessContexts) : List EventMapping :=
  contexts.entries.flatMap (·.2.events)

theorem eventCount_eq (contexts : ProcessContexts) :
    contexts.eventCount = contexts.events.length := by
  have counted : ∀ (count : Nat) (each : List ProcessContext),
      each.foldl (fun count context => count + context.events.length) count =
        count + (each.flatMap (·.events)).length := by
    intro count each
    induction each generalizing count with
    | nil => rfl
    | cons first rest inductionHypothesis =>
        rw [List.foldl_cons, inductionHypothesis, List.flatMap_cons, List.length_append,
          Nat.add_assoc]
  rw [eventCount, counted, Nat.zero_add, Table.values, List.flatMap_map, events]

/-- Within a context that was checked, no two events have one identifier. -/
theorem nodup_of_validate (accepted : contexts.validate = .ok contexts)
    (member : entry ∈ contexts.entries) : (entry.2.events.map (·.eventId)).Nodup := by
  have wellFormed := fault?_eq_none_iff.mp (validate_eq_ok_iff.mp accepted)
  exact (wellFormed.each (Table.get?_eq_some_iff.mpr member)).distinct

end ProcessContexts

namespace EventGraphs

variable {walker : Walker} {set : EventGraphs} {name : String} {event : EventMapping}
  {events : List EventMapping}

/-- What one more event changes. -/
structure Extends (walker : Walker) (name : String) (event : EventMapping)
    (before after : EventGraphs) : Prop where
  stats : after.stats = before.stats + walker.statsOf event
  graphs : after.graphs =
    Index.insertAll CallGraph.event before.graphs (walker.graphsOf [event])
  warnings : after.warnings = before.warnings ++
    (walker.failuresOf name event ++ walker.replacementsOf before.graphs.contains name event)

theorem extends_addEvent (walker : Walker) (name : String) (set : EventGraphs)
    (event : EventMapping) : Extends walker name event set (set.addEvent walker name event) := by
  have unfolded : set.addEvent walker name event =
      match walker.eventGraph event with
      | .ok graph => set.addGraph name event.eventId graph
      | .error error => set.addFailure name event.eventId error := rfl
  rw [unfolded]
  cases outcome : walker.eventGraph event with
  | ok graph =>
      obtain ⟨serves, nodes, edges⟩ := Walker.of_eventGraph outcome
      constructor
      · simp [addGraph, Walker.statsOf, outcome, EventStats.add_def, nodes, edges]
      · simp [addGraph, Walker.graphsOf, outcome, Index.insertAll, serves, Except.toOption]
      · simp only [addGraph, Walker.failuresOf, Walker.replacementsOf, outcome, List.nil_append]
        split <;> simp
  | error error =>
      constructor
      · simp [addFailure, Walker.statsOf, outcome, EventStats.add_def]
      · simp [addFailure, Walker.graphsOf, outcome, Index.insertAll, Except.toOption]
      · simp [addFailure, Walker.failuresOf, Walker.replacementsOf, outcome]

/-! ### The events of one context -/

/-- What the events of a context add to a set, if no identifier occurs twice among them. -/
structure Adds (walker : Walker) (name : String) (events : List EventMapping)
    (before after : EventGraphs) : Prop where
  stats : after.stats = before.stats + walker.statsOfAll events
  graphs : after.graphs = Index.insertAll CallGraph.event before.graphs (walker.graphsOf events)
  warnings : after.warnings = before.warnings ++ events.flatMap fun event =>
    walker.failuresOf name event ++ walker.replacementsOf before.graphs.contains name event

theorem Extends.contains_of_other {before after : EventGraphs} {id : String}
    (extended : Extends walker name event before after) (other : id ≠ event.eventId) :
    after.graphs.contains id = before.graphs.contains id := by
  have isOther : id ∉ (walker.graphsOf [event]).map CallGraph.event := by
    intro member
    obtain ⟨graph, graphMember, rfl⟩ := List.mem_map.mp member
    obtain ⟨own, ownMember, built⟩ := Walker.mem_graphsOf.mp graphMember
    rw [List.mem_singleton.mp ownMember] at built
    exact other (Walker.of_eventGraph built).1
  rw [Bool.eq_iff_iff, extended.graphs, Index.contains_insertAll, or_iff_right isOther]

theorem adds_foldl (walker : Walker) (name : String) (set : EventGraphs)
    (distinct : (events.map (·.eventId)).Nodup) :
    Adds walker name events set (events.foldl (addEvent walker name) set) := by
  induction events generalizing set with
  | nil => exact ⟨(add_zero _).symm, rfl, by simp⟩
  | cons event rest inductionHypothesis =>
      obtain ⟨fresh, restDistinct⟩ := List.nodup_cons.mp distinct
      have step := extends_addEvent walker name set event
      have later := inductionHypothesis (set.addEvent walker name event) restDistinct
      -- No later event asks for the identifier under which this one may have added a graph.
      have sameAnswers : ∀ other ∈ rest,
          walker.replacementsOf (set.addEvent walker name event).graphs.contains name other =
            walker.replacementsOf set.graphs.contains name other := by
        intro other member
        have different : other.eventId ≠ event.eventId := fun same =>
          fresh (List.mem_map.mpr ⟨other, member, same⟩)
        simp only [Walker.replacementsOf, step.contains_of_other different]
      rw [List.foldl_cons]
      constructor
      · rw [later.stats, step.stats, Walker.statsOfAll_cons, add_assoc]
      · rw [later.graphs, step.graphs, ← Index.insertAll_append, ← Walker.graphsOf_append,
          List.singleton_append]
      · rw [later.warnings, step.warnings, List.flatMap_cons, List.append_assoc]
        congr 2
        exact List.flatMap_congr fun other member => by rw [sameAnswers other member]

end EventGraphs

end GoAtlas
