import GoAtlas.Proofs.CallGraph.Evaluation

/-!
Call graphs are well formed: no symbol has two nodes, no edge dangles, and no node lies below the
depth limit. This holds at every moment of a walk and not only at its end, since a step that records
an edge also sees to the node of its target.
-/

namespace GoAtlas

/-- The identifiers of the nodes, in the order in which they were discovered. -/
def Walk.ids (walk : Walk) : List String :=
  walk.nodes.map (·.id)

structure Walk.WellFormed (walk : Walk) (maxDepth : Nat) : Prop where
  distinct : walk.ids.Nodup
  ends : ∀ edge ∈ walk.edges, edge.caller ∈ walk.ids ∧ edge.callee ∈ walk.ids
  shallow : ∀ node ∈ walk.nodes, node.depth ≤ maxDepth
  visited : ∀ id, id ∈ walk.visited ↔ id ∈ walk.ids

variable {walker : Walker} {walk after : Walk} {node : CallNode}

theorem Walk.mem_ids {id : String} : id ∈ walk.ids ↔ ∃ node ∈ walk.nodes, node.id = id :=
  List.mem_map

theorem Walker.Discovers.ids (discovers : walker.Discovers node walk after) :
    after.ids = walk.ids ++ [node.id] := by
  simp [Walk.ids, discovers.nodes]

theorem Walker.Keeps.ids (keeps : Walker.Keeps walk after) : after.ids = walk.ids := by
  simp [Walk.ids, keeps.nodes]

namespace Walk.WellFormed

variable {maxDepth : Nat}

theorem start : Walk.start.WellFormed maxDepth := by
  constructor <;> simp [Walk.start, Walk.ids]

/-- Discovering a fresh node, together with edges that lead to it. -/
theorem discover (wellFormed : walk.WellFormed maxDepth)
    (discovers : walker.Discovers node walk after) (fresh : node.id ∉ walk.visited)
    (shallow : node.depth ≤ maxDepth)
    (edges : ∀ edge ∈ after.edges, edge ∈ walk.edges ∨
      edge.caller ∈ walk.ids ∧ edge.callee = node.id) : after.WellFormed maxDepth where
  distinct := by
    have unmet : node.id ∉ walk.ids := mt (wellFormed.visited node.id).mpr fresh
    rw [discovers.ids]
    refine List.nodup_append.mpr ⟨wellFormed.distinct, by simp, ?_⟩
    rintro id member other single rfl
    exact unmet (List.mem_singleton.mp single ▸ member)
  ends := by
    intro edge member
    rw [discovers.ids]
    rcases edges edge member with old | ⟨caller, callee⟩
    · obtain ⟨caller, callee⟩ := wellFormed.ends edge old
      exact ⟨List.mem_append_left _ caller, List.mem_append_left _ callee⟩
    · exact ⟨List.mem_append_left _ caller, by simp [callee]⟩
  shallow := by
    rw [discovers.nodes]
    intro other member
    rcases List.mem_append.mp member with old | new
    · exact wellFormed.shallow other old
    · rw [List.mem_singleton.mp new]
      exact shallow
  visited := by
    intro id
    rw [discovers.visited, discovers.ids, List.mem_cons, List.mem_append, List.mem_singleton,
      wellFormed.visited id, or_comm]

/-- Recording edges between known nodes. -/
theorem keep (wellFormed : walk.WellFormed maxDepth) (keeps : Walker.Keeps walk after)
    (edges : ∀ edge ∈ after.edges, edge ∈ walk.edges ∨
      edge.caller ∈ walk.ids ∧ edge.callee ∈ walk.ids) : after.WellFormed maxDepth where
  distinct := by
    rw [keeps.ids]
    exact wellFormed.distinct
  ends := by
    intro edge member
    rw [keeps.ids]
    rcases edges edge member with old | ends
    · exact wellFormed.ends edge old
    · exact ends
  shallow := by
    rw [keeps.nodes]
    exact wellFormed.shallow
  visited := by
    rw [keeps.visited, keeps.ids]
    exact wellFormed.visited

end Walk.WellFormed

namespace Walker

variable {entries : List String} {pending rest : List PendingCall} {call : PendingCall}

/-- The greatest of some depths, zero if there is none. -/
def greatestDepth (nodes : List CallNode) : Nat :=
  (nodes.map (·.depth)).foldl max 0

@[simp] theorem greatestDepth_append (nodes : List CallNode) (node : CallNode) :
    greatestDepth (nodes ++ [node]) = max (greatestDepth nodes) node.depth := by
  simp [greatestDepth]

/-- What holds at every moment of a walk. -/
structure Coherent (walker : Walker) (pending : List PendingCall) (walk : Walk) : Prop where
  wellFormed : walk.WellFormed walker.maxDepth
  pending : ∀ call ∈ pending, ∃ node ∈ walk.nodes, call ∈ walker.expansion node
  deepest : walk.stats.maxDepthReached = greatestDepth walk.nodes

theorem Coherent.fresh {id : String} (coherent : walker.Coherent pending walk)
    (fresh : id ∉ walk.visited) : id ∉ walk.ids :=
  mt (coherent.wellFormed.visited id).mpr fresh

theorem Coherent.node_id_ne {id : String} (coherent : walker.Coherent pending walk)
    (fresh : id ∉ walk.visited) : ∀ node ∈ walk.nodes, node.id ≠ id := by
  rintro node member rfl
  exact coherent.fresh fresh (Walk.mem_ids.mpr ⟨node, member, rfl⟩)

theorem Coherent.caller_mem (coherent : walker.Coherent (call :: rest) walk) :
    call.caller ∈ walk.ids := by
  obtain ⟨node, member, expanded⟩ := coherent.pending call List.mem_cons_self
  rw [caller_of_mem_outgoing (mem_expansion.mp expanded).2]
  exact Walk.mem_ids.mpr ⟨node, member, rfl⟩

/-- A pending call would discover a node within the depth limit. -/
theorem Coherent.depth_le (coherent : walker.Coherent (call :: rest) walk) :
    call.depth ≤ walker.maxDepth := by
  obtain ⟨node, -, expanded⟩ := coherent.pending call List.mem_cons_self
  obtain ⟨shallow, outgoing⟩ := mem_expansion.mp expanded
  rw [depth_of_mem_outgoing outgoing]
  exact shallow

theorem Coherent.discover (coherent : walker.Coherent pending walk)
    (later : ∀ call ∈ rest, call ∈ pending) (discovers : walker.Discovers node walk after)
    (wellFormed : after.WellFormed walker.maxDepth) :
    walker.Coherent (walker.expansion node ++ rest) after where
  wellFormed := wellFormed
  pending := by
    intro call member
    rw [discovers.nodes]
    rcases List.mem_append.mp member with own | old
    · exact ⟨node, by simp, own⟩
    · obtain ⟨caller, callerMember, expanded⟩ := coherent.pending call (later call old)
      exact ⟨caller, List.mem_append_left _ callerMember, expanded⟩
  deepest := by
    rw [discovers.deepest, discovers.nodes, greatestDepth_append, coherent.deepest]

theorem Reached.coherent (reached : walker.Reached entries pending walk) :
    walker.Coherent pending walk := by
  induction reached with
  | start => exact ⟨.start, by simp, rfl⟩
  | revisited _ _ coherent => exact coherent
  | entered _ fresh discovers edges coherent =>
      have next := coherent.discover (fun _ member => member) discovers
        (coherent.wellFormed.discover discovers (by simpa using fresh) (by simp)
          fun edge member => .inl (edges ▸ member))
      rwa [List.append_nil] at next
  | @repeated _ call _ _ _ known keeps edges coherent =>
      have wellFormed := coherent.wellFormed.keep keeps (by
        intro edge member
        rw [edges] at member
        rcases List.mem_append.mp member with old | new
        · exact .inl old
        · rw [List.mem_singleton.mp new]
          exact .inr ⟨coherent.caller_mem, (coherent.wellFormed.visited _).mp known⟩)
      refine ⟨wellFormed, ?_, ?_⟩
      · rw [keeps.nodes]
        exact (List.forall_mem_cons.mp coherent.pending).2
      · rw [keeps.deepest, keeps.nodes, coherent.deepest]
  | @followed _ call _ _ _ fresh discovers edges coherent =>
      apply coherent.discover (fun _ member => List.mem_cons_of_mem _ member) discovers
      apply coherent.wellFormed.discover discovers (by simpa using fresh)
        (by simpa using coherent.depth_le)
      intro edge member
      rw [edges] at member
      rcases List.mem_append.mp member with old | new
      · exact .inl old
      · rw [List.mem_singleton.mp new]
        exact .inr ⟨coherent.caller_mem, targetNode_id.symm⟩

/-- The first node is that of the first entry point. -/
theorem Reached.head_nodes (reached : walker.Reached entries pending walk) :
    walk.nodes.head? = entries.head?.map (walker.enteredNode · 0) := by
  induction reached with
  | start => rfl
  | @revisited entries walk entry before known inductionHypothesis =>
      obtain ⟨node, member, -⟩ :=
        Walk.mem_ids.mp ((before.coherent.wellFormed.visited entry).mp known)
      cases entries with
      | nil =>
          rw [List.head?_eq_none_iff.mp inductionHypothesis] at member
          cases member
      | cons first rest => exact inductionHypothesis
  | @entered entries _ _ _ _ discovers _ inductionHypothesis =>
      rw [discovers.nodes, List.head?_append, inductionHypothesis]
      cases entries <;> rfl
  | repeated _ _ keeps _ inductionHypothesis =>
      rw [keeps.nodes]
      exact inductionHypothesis
  | @followed entries _ _ _ before _ discovers _ inductionHypothesis =>
      obtain ⟨node, member, -⟩ := Walk.mem_ids.mp before.coherent.caller_mem
      rw [discovers.nodes, List.head?_append, inductionHypothesis]
      cases entries with
      | nil =>
          rw [List.head?_eq_none_iff.mp inductionHypothesis] at member
          cases member
      | cons first rest => rfl

/-! ### Graphs of one entry point -/

/-- An indexed entry point has a call graph, that of the walk from it. -/
theorem exists_build {entry : String} (indexed : (walker.index.callable? entry).isSome = true) :
    ∃ graph, walker.build entry = .ok graph ∧ graph.nodes = (walker.visitAll [entry]).nodes ∧
      graph.edges = (walker.visitAll [entry]).edges ∧
      graph.actualDepth = (walker.visitAll [entry]).stats.maxDepthReached ∧
      graph.warnings = walker.warnings (walker.visitAll [entry]) := by
  obtain ⟨callable, found⟩ := Option.isSome_iff_exists.mp indexed
  unfold build
  rw [found]
  exact ⟨_, rfl, rfl, rfl, rfl, rfl⟩

/-- The deepest node of a walk that starts at depth zero. -/
theorem max?_depths {nodes : List CallNode} {first : CallNode} (head : nodes.head? = some first)
    (top : first.depth = 0) : (nodes.map (·.depth)).max? = some (greatestDepth nodes) := by
  obtain ⟨rest, rfl⟩ := List.head?_eq_some_iff.mp head
  rw [List.map_cons, List.max?_cons', greatestDepth, List.map_cons, List.foldl_cons, top,
    Nat.max_self]

/-- Call graphs are well formed, whatever sources, options and entry points they come from; the
graph of an indexed entry point starts with it and knows its own depth. -/
theorem wellFormed_visitAll (built : walker.index.Buildable) (entries : List String) :
    (walker.visitAll entries).WellFormed walker.maxDepth ∧
      ∀ entry, (walker.index.callable? entry).isSome = true →
        ∃ graph, walker.build entry = .ok graph ∧
          (graph.nodes.head?.map fun node => (node.id, node.depth)) = some (entry, 0) ∧
          (graph.nodes.map (·.depth)).max? = some graph.actualDepth := by
  refine ⟨(reached_visitAll built.namesOnly entries).coherent.wellFormed, ?_⟩
  intro entry indexed
  obtain ⟨graph, isBuilt, nodes, -, actualDepth, -⟩ := exists_build indexed
  have reached := reached_visitAll built.namesOnly [entry]
  have head := reached.head_nodes
  refine ⟨graph, isBuilt, ?_, ?_⟩
  · rw [nodes, head]
    simp
  · rw [nodes, actualDepth, reached.coherent.deepest]
    exact max?_depths head (by simp)

theorem wellFormed_visitAll_detour :
    ((detourWalker 3).visitAll ["p.A", "p.Z"]).WellFormed 3 ∧
      ∃ graph, (detourWalker 3).build "p.A" = .ok graph ∧
        (graph.nodes.head?.map fun node => (node.id, node.depth)) = some ("p.A", 0) ∧
        (graph.nodes.map (·.depth)).max? = some graph.actualDepth := by
  have indexed : ((detourWalker 3).index.callable? "p.A").isSome = true := by decide +kernel
  obtain ⟨wellFormed, builds⟩ := wellFormed_visitAll (buildable_detour 3) ["p.A", "p.Z"]
  exact ⟨wellFormed, builds "p.A" indexed⟩

end Walker

end GoAtlas
