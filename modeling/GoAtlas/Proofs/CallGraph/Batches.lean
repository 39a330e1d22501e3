import GoAtlas.Proofs.CallGraph.Events
import Mathlib.Data.List.Flatten

/-!
Batches of call graphs. The set of all contexts is made up of the sets of the single contexts, but
that of the graphs which two contexts have for one event it holds the later one only.
-/

namespace GoAtlas

namespace EventGraphs

variable {walker : Walker} {set : EventGraphs} {contexts : ProcessContexts}
  {entry : String × ProcessContext}

/-! ### Single contexts -/

/-- The set of one context. -/
def ofEntry (walker : Walker) (entry : String × ProcessContext) : EventGraphs :=
  (empty (some entry.1)).addContext walker entry.1 entry.2

theorem ofContext_entry (member : entry ∈ contexts.entries) :
    ofContext walker contexts entry.1 = .ok (ofEntry walker entry) := by
  have found : contexts.get? entry.1 = some entry.2 := Table.get?_eq_some_iff.mpr member
  rw [ofContext, found, ofEntry]

theorem mapM_ofContext (walker : Walker) (contexts : ProcessContexts) :
    contexts.keys.mapM (ofContext walker contexts) =
      .ok (contexts.entries.map (ofEntry walker)) := by
  have ofEntries : ∀ entries : List (String × ProcessContext),
      (∀ entry ∈ entries, ofContext walker contexts entry.1 = .ok (ofEntry walker entry)) →
        (entries.map (·.1)).mapM (ofContext walker contexts) =
          .ok (entries.map (ofEntry walker)) := by
    intro entries given
    induction entries with
    | nil => rfl
    | cons entry rest inductionHypothesis =>
        obtain ⟨own, later⟩ := List.forall_mem_cons.mp given
        rw [List.map_cons, List.mapM_cons, own, inductionHypothesis later]
        rfl
  exact ofEntries contexts.entries fun _ => ofContext_entry

section Single

variable (distinct : (entry.2.events.map (·.eventId)).Nodup)

include distinct

theorem adds_ofEntry :
    Adds walker entry.1 entry.2.events (empty (some entry.1)) (ofEntry walker entry) :=
  adds_foldl walker entry.1 _ distinct

theorem stats_ofEntry : (ofEntry walker entry).stats = walker.statsOfAll entry.2.events :=
  (adds_ofEntry distinct).stats.trans (zero_add _)

theorem warnings_ofEntry :
    (ofEntry walker entry).warnings = entry.2.events.flatMap (walker.failuresOf entry.1) := by
  have noneReplaced : ∀ event,
      walker.replacementsOf (empty (some entry.1)).graphs.contains entry.1 event = [] := by
    intro event
    unfold Walker.replacementsOf
    split <;> rfl
  simp only [(adds_ofEntry distinct).warnings, noneReplaced, List.append_nil]
  rfl

theorem get?_ofEntry (id : String) : (ofEntry walker entry).graphs.get? id =
    (entry.2.events.find? (·.eventId == id)).bind (walker.eventGraph · |>.toOption) := by
  rw [(adds_ofEntry distinct).graphs, Index.lookup_insertAll, Walker.lastWith?_graphsOf distinct]
  exact Option.or_none

theorem values_ofEntry :
    (walker.graphsOf entry.2.events).Perm (ofEntry walker entry).graphs.values := by
  rw [(adds_ofEntry distinct).graphs]
  exact (Index.values_insertAll (distinct.sublist (walker.graphsOf_sublist _))).symm

end Single

/-! ### All contexts -/

/-- The contexts that stand first, one after the other. -/
structure Merges (walker : Walker) (entries : List (String × ProcessContext))
    (set : EventGraphs) : Prop where
  stats : set.stats = walker.statsOfAll (entries.flatMap (·.2.events))
  graphs : set.graphs =
    Index.insertAll CallGraph.event .empty (walker.graphsOf (entries.flatMap (·.2.events)))
  warnings : set.warnings = entries.flatMap fun entry => entry.2.events.flatMap fun event =>
    walker.failuresOf entry.1 event ++
      walker.replacementsOf (walker.builtBefore entries entry.1) entry.1 event

/-- What a context finds when it comes after others is what was built before it. -/
theorem Merges.contains {entries : List (String × ProcessContext)} {set : EventGraphs}
    (merged : Merges walker entries set) (isLast : ∀ earlier ∈ entries, earlier.1 < entry.1)
    (id : String) :
    set.graphs.contains id = walker.builtBefore (entries ++ [entry]) entry.1 id := by
  rw [Bool.eq_iff_iff, merged.graphs, Index.contains_insertAll, Walker.builtBefore_iff,
    Walker.graphsOf_flatMap, List.map_flatMap, List.mem_flatMap]
  constructor
  · rintro (⟨earlier, member, built⟩ | known)
    · exact ⟨earlier, List.mem_append_left _ member, isLast earlier member, built⟩
    · cases known
  · rintro ⟨earlier, member, isBefore, built⟩
    rcases List.mem_append.mp member with earlierMember | same
    · exact .inl ⟨earlier, earlierMember, built⟩
    · rw [List.mem_singleton.mp same] at isBefore
      exact absurd isBefore (String.lt_irrefl _)

theorem Merges.addContext {before : List (String × ProcessContext)} {set : EventGraphs}
    (merged : Merges walker before set) (isLast : ∀ earlier ∈ before, earlier.1 < entry.1)
    (distinct : (entry.2.events.map (·.eventId)).Nodup) :
    Merges walker (before ++ [entry]) (set.addContext walker entry.1 entry.2) := by
  have added : Adds walker entry.1 entry.2.events set (set.addContext walker entry.1 entry.2) :=
    adds_foldl walker entry.1 set distinct
  have sameBefore : ∀ earlier ∈ before, ∀ id,
      walker.builtBefore (before ++ [entry]) earlier.1 id =
        walker.builtBefore before earlier.1 id := by
    intro earlier member id
    have notAfter : ¬entry.1 < earlier.1 := String.lt_asymm (isLast earlier member)
    simp only [Walker.builtBefore, List.any_append, List.any_cons, List.any_nil,
      decide_eq_false notAfter, Bool.false_and, Bool.or_false]
  constructor
  · rw [added.stats, merged.stats, ← Walker.statsOfAll_append, List.flatMap_append,
      List.flatMap_singleton]
  · rw [added.graphs, merged.graphs, ← Index.insertAll_append, ← Walker.graphsOf_append,
      List.flatMap_append, List.flatMap_singleton]
  · rw [added.warnings, merged.warnings, List.flatMap_append, List.flatMap_singleton]
    congr 1
    · refine List.flatMap_congr fun earlier member => List.flatMap_congr fun event _ => ?_
      rw [funext (sameBefore earlier member)]
    · refine List.flatMap_congr fun event _ => ?_
      rw [funext (merged.contains isLast)]

theorem merges_foldl {entries : List (String × ProcessContext)} (sorted : SortedByKey entries)
    (distinct : ∀ entry ∈ entries, (entry.2.events.map (·.eventId)).Nodup) :
    Merges walker entries
      (entries.foldl (fun set (name, context) => set.addContext walker name context)
        (empty none)) := by
  induction entries using List.reverseRecOn with
  | nil => exact ⟨rfl, rfl, rfl⟩
  | append_singleton before last inductionHypothesis =>
      -- the context that is added last is the only one to find what all others have built
      obtain ⟨beforeSorted, -, isLast⟩ := List.pairwise_append.mp sorted
      have merged := inductionHypothesis beforeSorted
        fun entry member => distinct entry (List.mem_append_left _ member)
      rw [List.foldl_append, List.foldl_cons, List.foldl_nil]
      exact merged.addContext (fun earlier member => isLast earlier member last (by simp))
        (distinct last (by simp))

/-! ### The number of warnings -/

/-- There is a warning for every event that failed and for every graph that was replaced. -/
structure Tallied (set : EventGraphs) : Prop where
  held : set.graphs.size ≤ set.stats.builtGraphs
  warned : set.warnings.length + set.graphs.size = set.stats.failedGraphs + set.stats.builtGraphs

theorem Tallied.addEvent (tallied : set.Tallied) (walker : Walker) (name : String)
    (event : EventMapping) : (set.addEvent walker name event).Tallied := by
  obtain ⟨held, warned⟩ := tallied
  unfold EventGraphs.addEvent
  split
  · rename_i graph built
    have size := set.graphs.size_insert event.eventId graph
    unfold addGraph
    cases known : set.graphs.contains event.eventId <;> rw [known] at size <;>
      constructor <;> simp at size ⊢ <;> omega
  · constructor <;> simp [addFailure] <;> omega

theorem tallied_addContext (tallied : set.Tallied) (walker : Walker) (name : String)
    (context : ProcessContext) : (set.addContext walker name context).Tallied :=
  List.foldlRecOn context.events _ tallied fun _ inner event _ => inner.addEvent walker name event

theorem tallied_ofAll (walker : Walker) (contexts : ProcessContexts) :
    (ofAll walker contexts).Tallied :=
  List.foldlRecOn contexts.entries _ ⟨Nat.le_refl _, rfl⟩ fun _ inner entry _ =>
    tallied_addContext inner walker entry.1 entry.2

/-! ### Contexts that share an event -/

/-- Two contexts that have a graph for one event, and an event without a symbol. -/
def sharedEvents : ProcessContexts :=
  (Table.empty.insert "first"
      ⟨none, [⟨"shared", "", ⟨"p", "C", .http⟩⟩, ⟨"lost", "", ⟨"p", "E", .http⟩⟩]⟩).insert "second"
    ⟨none, [⟨"shared", "", ⟨"p", "D", .cron⟩⟩]⟩

theorem validate_sharedEvents : sharedEvents.validate = .ok sharedEvents := by
  have sound : sharedEvents.fault? = none := by decide
  rw [ProcessContexts.validate, sound]

theorem graphsOf_sharedEvents :
    ((detourWalker 10).graphsOf sharedEvents.events).map CallGraph.event =
      ["shared", "shared"] := by
  rw [Walker.map_event_graphsOf]
  decide

/-! ### Sets that are made up of others -/

/-- The set of a context holds what its events come to one by one. -/
structure Single (walker : Walker) (entry : String × ProcessContext) (set : EventGraphs) :
    Prop where
  events : set.stats.totalEvents = entry.2.events.length
  graphs : ∀ id, set.graphs.get? id =
    (entry.2.events.find? (·.eventId == id)).bind (walker.eventGraph · |>.toOption)
  warnings : set.warnings = entry.2.events.flatMap (walker.failuresOf entry.1)

/-- A set of all contexts is made up of the sets of the single contexts, in their order. -/
structure Composes (walker : Walker) (contexts : ProcessContexts) (sets : List EventGraphs)
    (whole : EventGraphs) : Prop where
  singles : List.Forall₂ (Single walker) contexts.entries sets
  alone : ∀ set ∈ whole :: sets, ∀ id graph, set.graphs.get? id = some graph →
    ∃ event ∈ contexts.events, event.eventId = id ∧ walker.eventGraph event = .ok graph
  stats : whole.stats = (sets.map (·.stats)).sum
  events : whole.stats.totalEvents = contexts.eventCount
  balanced : ∀ set ∈ whole :: sets, set.stats.Balanced
  /-- A later context wins. -/
  graphs : ∀ id, whole.graphs.get? id = sets.reverse.findSome? (·.graphs.get? id)
  /-- After the warning of an event, if it has one, stands that of the graph it replaced. -/
  warnings : whole.warnings = contexts.entries.flatMap fun entry =>
    entry.2.events.flatMap fun event => walker.failuresOf entry.1 event ++
      walker.replacementsOf (walker.builtBefore contexts.entries entry.1) entry.1 event
  inOrder : (sets.flatMap (·.warnings)).Sublist whole.warnings
  warned : whole.warnings.length =
    whole.stats.failedGraphs + (whole.stats.builtGraphs - whole.graphs.size)
  held : whole.graphs.size ≤ whole.stats.builtGraphs

section Accepted

variable (accepted : contexts.validate = .ok contexts)

include accepted

theorem single_ofEntry (member : entry ∈ contexts.entries) :
    Single walker entry (ofEntry walker entry) := by
  have distinct := ProcessContexts.nodup_of_validate accepted member
  refine ⟨?_, get?_ofEntry distinct, warnings_ofEntry distinct⟩
  rw [stats_ofEntry distinct, Walker.totalEvents_statsOfAll]

theorem merges_ofAll : Merges walker contexts.entries (ofAll walker contexts) :=
  merges_foldl contexts.sorted fun _ => ProcessContexts.nodup_of_validate accepted

theorem stats_ofAll : (ofAll walker contexts).stats = walker.statsOfAll contexts.events :=
  (merges_ofAll accepted).stats

theorem sum_stats : (contexts.entries.map fun entry => (ofEntry walker entry).stats).sum =
    walker.statsOfAll contexts.events := by
  have single : ∀ entry ∈ contexts.entries,
      (ofEntry walker entry).stats = (entry.2.events.map walker.statsOf).sum := fun _ member =>
    stats_ofEntry (ProcessContexts.nodup_of_validate accepted member)
  rw [List.map_congr_left single, Walker.statsOfAll, ProcessContexts.events, List.map_flatMap,
    List.flatMap_def, List.sum_flatten, List.map_map]
  rfl

theorem lookup_ofAll (id : String) : (ofAll walker contexts).graphs.get? id =
    (contexts.entries.map (ofEntry walker)).reverse.findSome? (·.graphs.get? id) := by
  have single : ∀ entry ∈ contexts.entries.reverse, (ofEntry walker entry).graphs.get? id =
      lastWith? CallGraph.event id (walker.graphsOf entry.2.events) := by
    intro entry member
    have distinct := ProcessContexts.nodup_of_validate accepted (List.mem_reverse.mp member)
    rw [get?_ofEntry distinct, Walker.lastWith?_graphsOf distinct]
  rw [(merges_ofAll accepted).graphs, Index.lookup_insertAll,
    Walker.graphsOf_flatMap, lastWith?_flatMap, ← List.map_reverse, List.findSome?_map,
    ← List.head?_filterMap, ← List.head?_filterMap]
  exact Option.or_none.trans (congrArg List.head? (List.filterMap_congr single).symm)

theorem alone_of_mem {set : EventGraphs}
    (member : set ∈ ofAll walker contexts :: contexts.entries.map (ofEntry walker)) {id : String}
    {graph : CallGraph} (held : set.graphs.get? id = some graph) :
    ∃ event ∈ contexts.events, event.eventId = id ∧ walker.eventGraph event = .ok graph := by
  have ofGraphs : ∀ events ⊆ contexts.events,
      set.graphs = Index.insertAll CallGraph.event .empty (walker.graphsOf events) →
        ∃ event ∈ contexts.events, event.eventId = id ∧ walker.eventGraph event = .ok graph := by
    intro events subset graphs
    rw [graphs, Index.lookup_insertAll, Table.get?_empty, Option.or_none] at held
    obtain ⟨graphMember, rfl⟩ := mem_of_lastWith? held
    obtain ⟨event, eventMember, built⟩ := Walker.mem_graphsOf.mp graphMember
    exact ⟨event, subset eventMember, (Walker.of_eventGraph built).1.symm, built⟩
  rcases List.mem_cons.mp member with rfl | single
  · exact ofGraphs contexts.events (List.Subset.refl _) (merges_ofAll accepted).graphs
  · obtain ⟨entry, entryMember, rfl⟩ := List.mem_map.mp single
    have distinct := ProcessContexts.nodup_of_validate accepted entryMember
    have subset : entry.2.events ⊆ contexts.events := fun event eventMember =>
      List.mem_flatMap.mpr ⟨entry, entryMember, eventMember⟩
    exact ofGraphs entry.2.events subset (adds_ofEntry distinct).graphs

theorem balanced_of_mem {set : EventGraphs}
    (member : set ∈ ofAll walker contexts :: contexts.entries.map (ofEntry walker)) :
    set.stats.Balanced := by
  rcases List.mem_cons.mp member with rfl | single
  · rw [stats_ofAll accepted]
    exact walker.balanced_statsOfAll _
  · obtain ⟨entry, entryMember, rfl⟩ := List.mem_map.mp single
    rw [stats_ofEntry (ProcessContexts.nodup_of_validate accepted entryMember)]
    exact walker.balanced_statsOfAll _

theorem warnings_sublist : ((contexts.entries.map (ofEntry walker)).flatMap (·.warnings)).Sublist
    (ofAll walker contexts).warnings := by
  rw [(merges_ofAll accepted).warnings, List.flatMap_map]
  refine List.Sublist.flatMap_right _ fun entry member => ?_
  rw [warnings_ofEntry (ProcessContexts.nodup_of_validate accepted member)]
  exact List.Sublist.flatMap_right _ fun event _ => List.sublist_append_left ..

/-- In a batch of contexts that were checked, no event depends on another, and the contexts add
up. -/
theorem composes_ofAll (walker : Walker) :
    ∃ sets, contexts.keys.mapM (ofContext walker contexts) = .ok sets ∧
      Composes walker contexts sets (ofAll walker contexts) := by
  obtain ⟨held, warned⟩ := tallied_ofAll walker contexts
  refine ⟨contexts.entries.map (ofEntry walker), mapM_ofContext walker contexts, ?_⟩
  constructor
  · exact List.forall₂_map_right_iff.mpr
      (List.forall₂_same.mpr fun entry member => single_ofEntry accepted member)
  · exact fun set member id graph held => alone_of_mem accepted member held
  · rw [stats_ofAll accepted, List.map_map]
    exact (sum_stats accepted).symm
  · rw [stats_ofAll accepted, Walker.totalEvents_statsOfAll, ProcessContexts.eventCount_eq]
  · exact fun set member => balanced_of_mem accepted member
  · exact lookup_ofAll accepted
  · exact (merges_ofAll accepted).warnings
  · exact warnings_sublist accepted
  · omega
  · exact held

end Accepted

theorem composes_ofAll_sharedEvents : sharedEvents.validate = .ok sharedEvents ∧
    ∃ sets, sharedEvents.keys.mapM (ofContext (detourWalker 10) sharedEvents) = .ok sets ∧
      Composes (detourWalker 10) sharedEvents sets (ofAll (detourWalker 10) sharedEvents) ∧
      (ofAll (detourWalker 10) sharedEvents).stats.totalEvents = 3 := by
  obtain ⟨sets, each, composes⟩ := composes_ofAll validate_sharedEvents (detourWalker 10)
  have count : sharedEvents.eventCount = 3 := by decide +kernel
  exact ⟨validate_sharedEvents, sets, each, composes, composes.events.trans count⟩

/-! ### What the statistics count -/

section Counted

variable (accepted : contexts.validate = .ok contexts)

include accepted

theorem describes_ofEntry (member : entry ∈ contexts.entries) :
    (ofEntry walker entry).stats.Describes (ofEntry walker entry).graphs.values := by
  have distinct := ProcessContexts.nodup_of_validate accepted member
  rw [stats_ofEntry distinct]
  exact (walker.describes_statsOfAll _).of_perm (values_ofEntry distinct)

theorem describes_ofAll : (ofAll walker contexts).stats.Describes
    ((contexts.entries.map (ofEntry walker)).flatMap (·.graphs.values)) := by
  rw [stats_ofAll accepted, List.flatMap_map]
  refine (walker.describes_statsOfAll _).of_perm ?_
  rw [ProcessContexts.events, Walker.graphsOf_flatMap]
  exact List.Perm.flatMap_left _ fun entry member =>
    values_ofEntry (ProcessContexts.nodup_of_validate accepted member)

/-- Statistics describe the graphs that are held as long as no graph takes the place of another. -/
theorem describes_ofAll_iff : (ofAll walker contexts).stats.Describes
      (ofAll walker contexts).graphs.values ↔
    ((walker.graphsOf contexts.events).map CallGraph.event).Nodup := by
  have counts := walker.describes_statsOfAll contexts.events
  rw [stats_ofAll accepted, (merges_ofAll accepted).graphs]
  constructor
  · intro describes
    exact Index.nodup_of_length (describes.built.symm.trans counts.built)
  · exact fun distinct => counts.of_perm (Index.values_insertAll distinct).symm

theorem nodup_events_iff : ((walker.graphsOf contexts.events).map CallGraph.event).Nodup ↔
    (contexts.entries.map (ofEntry walker)).Pairwise fun set other =>
      set.graphs.keys.Disjoint other.graphs.keys := by
  have keys : ∀ entry ∈ contexts.entries, ∀ id, id ∈ (ofEntry walker entry).graphs.keys ↔
      id ∈ (walker.graphsOf entry.2.events).map CallGraph.event := by
    intro entry member id
    have distinct := ProcessContexts.nodup_of_validate accepted member
    rw [(adds_ofEntry distinct).graphs]
    exact Index.mem_keys_insertAll
  have single : ∀ entry ∈ contexts.entries,
      ((walker.graphsOf entry.2.events).map CallGraph.event).Nodup := fun entry member =>
    (ProcessContexts.nodup_of_validate accepted member).sublist (walker.graphsOf_sublist _)
  rw [ProcessContexts.events, Walker.graphsOf_flatMap, List.map_flatMap, List.nodup_flatMap,
    and_iff_right single, List.pairwise_map]
  refine List.Pairwise.iff_of_mem fun {entry other} member otherMember => ?_
  simp only [List.Disjoint, keys entry member, keys other otherMember]

/-- The statistics of a single context describe its graphs, those of all contexts the graphs of
every context: the ones that are held, if no two contexts have a graph for one event. -/
theorem describes_batches (walker : Walker) :
    ∃ sets, contexts.keys.mapM (ofContext walker contexts) = .ok sets ∧
      (∀ set ∈ sets, set.stats.Describes set.graphs.values) ∧
      (ofAll walker contexts).stats.Describes (sets.flatMap (·.graphs.values)) ∧
      ((ofAll walker contexts).stats.Describes (ofAll walker contexts).graphs.values ↔
        sets.Pairwise fun set other => set.graphs.keys.Disjoint other.graphs.keys) := by
  refine ⟨contexts.entries.map (ofEntry walker), mapM_ofContext walker contexts, ?_,
    describes_ofAll accepted, ?_⟩
  · intro set member
    obtain ⟨entry, entryMember, rfl⟩ := List.mem_map.mp member
    exact describes_ofEntry accepted entryMember
  · rw [describes_ofAll_iff accepted, nodup_events_iff accepted]

end Counted

theorem not_describes_ofAll_sharedEvents :
    ¬(ofAll (detourWalker 10) sharedEvents).stats.Describes
      (ofAll (detourWalker 10) sharedEvents).graphs.values := by
  rw [describes_ofAll_iff validate_sharedEvents, graphsOf_sharedEvents]
  simp

theorem describes_batches_sharedEvents : sharedEvents.validate = .ok sharedEvents ∧
    ∃ sets, sharedEvents.keys.mapM (ofContext (detourWalker 10) sharedEvents) = .ok sets ∧
      (ofAll (detourWalker 10) sharedEvents).stats.Describes (sets.flatMap (·.graphs.values)) ∧
      ¬sets.Pairwise fun set other => set.graphs.keys.Disjoint other.graphs.keys := by
  obtain ⟨sets, each, -, all, held⟩ := describes_batches validate_sharedEvents (detourWalker 10)
  exact ⟨validate_sharedEvents, sets, each, all, mt held.mpr not_describes_ofAll_sharedEvents⟩

/-- A graph that was replaced is counted, though it is not held. -/
theorem counts_replaced_sharedEvents :
    ¬∀ (index : Index) (options : BuildOptions) (walker : Walker) (contexts : ProcessContexts),
      index.Buildable → Walker.ofOptions index options = .ok walker →
        contexts.validate = .ok contexts →
          (ofAll walker contexts).stats.Describes (ofAll walker contexts).graphs.values ∧
            ∀ name set, ofContext walker contexts name = .ok set →
              set.stats.Describes set.graphs.values := by
  intro always
  have isWalker : Walker.ofOptions (detourWalker 10).index .standard = .ok (detourWalker 10) := by
    have filled : (detourWalker 10).index.isEmpty = false := by decide +kernel
    unfold Walker.ofOptions
    rw [filled]
    rfl
  obtain ⟨describes, -⟩ := always _ _ _ sharedEvents (buildable_detour 10) isWalker
    validate_sharedEvents
  exact not_describes_ofAll_sharedEvents describes

end EventGraphs

end GoAtlas
