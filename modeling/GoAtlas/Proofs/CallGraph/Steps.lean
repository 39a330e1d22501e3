import GoAtlas.CallGraph.Build
import GoAtlas.Proofs.Resolver.Targets
import Mathlib.Data.List.Induction

/-!
The steps of a walk. A step records at most one edge and discovers at most one node, and what a
discovered node makes pending depends on its identifier and its depth only. Invariants of walks are
proved by induction on `Walker.Reached`, which has one case for each kind of step.
-/

namespace GoAtlas

/-- The edge that is recorded for a call. -/
def PendingCall.edge (call : PendingCall) (isCycle : Bool) : CallEdge where
  caller := call.caller
  callee := call.target.id
  callType := call.target.callType
  line := call.line
  isAsync := call.target.isAsync
  isCycle := isCycle

/-- What the last element adds to a count. -/
theorem countP_append_singleton {Element : Type} (holds : Element → Bool)
    (elements : List Element) (last : Element) :
    (elements ++ [last]).countP holds = elements.countP holds + (holds last).toNat := by
  rw [List.countP_append, List.countP_singleton]
  cases holds last <;> rfl

namespace Walk

theorem hasVisited_iff {walk : Walk} {id : String} :
    walk.hasVisited id = true ↔ id ∈ walk.visited := by
  simp [hasVisited]

@[simp] theorem hasVisited_addCall (walk : Walk) (call : PendingCall) (id : String) :
    (walk.addCall call).hasVisited id = walk.hasVisited id := rfl

end Walk

namespace Walker

variable {walker : Walker} {id : String} {depth : Nat} {walk : Walk} {call : PendingCall}
  {node : CallNode}

/-- Does one symbol call another in a way that a walker may follow? The caller must be indexed and
its package not excluded. -/
def Calls (walker : Walker) (caller callee : String) : Prop :=
  ∃ callable, walker.index.callable? caller = some callable ∧
    walker.isExcluded callable.package = false ∧
    ∃ site ∈ callable.calls, ∃ target,
      walker.resolver.resolve site (.ofCallable callable) = some target ∧ target.id = callee

/-- The calls that lead out of a symbol, whatever the depth limit. -/
def outgoing (walker : Walker) (id : String) (depth : Nat) : List PendingCall :=
  match walker.index.callable? id with
  | none => []
  | some callable =>
      if walker.isExcluded callable.package then [] else walker.callsOf id callable depth

/-- The calls that become pending when a node is discovered. -/
def expansion (walker : Walker) (node : CallNode) : List PendingCall :=
  if node.depth < walker.maxDepth then walker.outgoing node.id node.depth else []

/-- Does a node have outgoing calls that the depth limit keeps from being followed? -/
def isCut (walker : Walker) (node : CallNode) : Bool :=
  decide (walker.maxDepth ≤ node.depth) && !(walker.outgoing node.id node.depth).isEmpty

/-- The node of a symbol that is entered. -/
def enteredNode (walker : Walker) (id : String) (depth : Nat) : CallNode :=
  match walker.index.callable? id with
  | none => unknownNode id depth
  | some callable => walker.symbolNode id depth callable

/-- The node of a call's target. -/
def targetNode (walker : Walker) (call : PendingCall) : CallNode :=
  if call.target.kind.isLeaf then leafNode call.target call.depth
  else walker.enteredNode call.target.id call.depth

@[simp] theorem symbolNode_id (callable : Callable) :
    (walker.symbolNode id depth callable).id = id := by
  cases callable <;> rfl

@[simp] theorem symbolNode_depth (callable : Callable) :
    (walker.symbolNode id depth callable).depth = depth := by
  cases callable <;> rfl

@[simp] theorem enteredNode_id : (walker.enteredNode id depth).id = id := by
  unfold enteredNode
  split
  · rfl
  · simp

@[simp] theorem enteredNode_depth : (walker.enteredNode id depth).depth = depth := by
  unfold enteredNode
  split
  · rfl
  · simp

@[simp] theorem targetNode_id : (walker.targetNode call).id = call.target.id := by
  unfold targetNode
  split
  · rfl
  · simp

@[simp] theorem targetNode_depth : (walker.targetNode call).depth = call.depth := by
  unfold targetNode
  split
  · rfl
  · simp

/-! ### Outgoing calls -/

theorem outgoing_of_callable {callable : Callable}
    (found : walker.index.callable? id = some callable)
    (included : walker.isExcluded callable.package = false) :
    walker.outgoing id depth = walker.callsOf id callable depth := by
  simp [outgoing, found, included]

theorem mem_outgoing :
    call ∈ walker.outgoing id depth ↔
      ∃ callable, walker.index.callable? id = some callable ∧
        walker.isExcluded callable.package = false ∧
        ∃ site ∈ callable.calls, ∃ target,
          walker.resolver.resolve site (.ofCallable callable) = some target ∧
            ⟨id, target, site.line, depth + 1⟩ = call := by
  unfold outgoing
  cases found : walker.index.callable? id with
  | none => simp
  | some callable =>
      cases excluded : walker.isExcluded callable.package <;>
        simp [excluded, callsOf, Option.map_eq_some_iff]

theorem caller_of_mem_outgoing (member : call ∈ walker.outgoing id depth) : call.caller = id := by
  obtain ⟨callable, -, -, site, -, target, -, rfl⟩ := mem_outgoing.mp member
  rfl

theorem depth_of_mem_outgoing (member : call ∈ walker.outgoing id depth) :
    call.depth = depth + 1 := by
  obtain ⟨callable, -, -, site, -, target, -, rfl⟩ := mem_outgoing.mp member
  rfl

theorem calls_iff_mem_outgoing (depth : Nat) {callee : String} :
    walker.Calls id callee ↔ ∃ call ∈ walker.outgoing id depth, call.target.id = callee := by
  constructor
  · rintro ⟨callable, found, included, site, member, target, resolved, rfl⟩
    exact ⟨_, mem_outgoing.mpr ⟨callable, found, included, site, member, target, resolved, rfl⟩,
      rfl⟩
  · rintro ⟨call, member, rfl⟩
    obtain ⟨callable, found, included, site, siteMember, target, resolved, rfl⟩ :=
      mem_outgoing.mp member
    exact ⟨callable, found, included, site, siteMember, target, resolved, rfl⟩

theorem mem_expansion :
    call ∈ walker.expansion node ↔
      node.depth < walker.maxDepth ∧ call ∈ walker.outgoing node.id node.depth := by
  unfold expansion
  split
  · rename_i shallow
    simp [shallow]
  · rename_i deep
    simp [deep]

/-- The leaves among the targets of outgoing calls are not indexed. -/
theorem callable?_eq_none_of_mem_outgoing (names : walker.index.NamesOnly)
    (member : call ∈ walker.outgoing id depth) (leaf : call.target.kind.isLeaf = true) :
    walker.index.callable? call.target.id = none := by
  obtain ⟨callable, found, -, site, siteMember, target, resolved, rfl⟩ := mem_outgoing.mp member
  have recorded : site.Recorded := (names.callable found).2 site siteMember
  exact Resolver.callable?_eq_none_of_leaf names recorded resolved leaf

/-! ### Single steps -/

/-- What discovering a node changes, apart from edges. -/
structure Discovers (walker : Walker) (node : CallNode) (before after : Walk) : Prop where
  visited : after.visited = node.id :: before.visited
  nodes : after.nodes = before.nodes ++ [node]
  cut : after.cut = before.cut + (walker.isCut node).toNat
  deepest : after.stats.maxDepthReached = max before.stats.maxDepthReached node.depth

/-- No node is discovered. -/
structure Keeps (before after : Walk) : Prop where
  visited : after.visited = before.visited
  nodes : after.nodes = before.nodes
  cut : after.cut = before.cut
  deepest : after.stats.maxDepthReached = before.stats.maxDepthReached

theorem enter_discovers (walker : Walker) (id : String) (depth : Nat) (walk : Walk) :
    walker.Discovers (walker.enteredNode id depth) walk (walker.enter id depth walk).1 := by
  unfold enter
  cases found : walker.index.callable? id with
  | none =>
      constructor <;>
        simp [enteredNode, isCut, outgoing, found, unknownNode, Walk.countUnresolved, Walk.addNode]
  | some callable =>
      dsimp only
      cases excluded : walker.isExcluded callable.package with
      | true =>
          constructor <;> simp [enteredNode, isCut, outgoing, found, excluded, Walk.addNode]
      | false =>
          by_cases shallow : depth < walker.maxDepth
          · constructor <;>
              simp [enteredNode, isCut, found, shallow, Nat.not_le_of_lt shallow, Walk.addNode]
          · cases calls : walker.callsOf id callable depth <;>
              constructor <;>
              simp [enteredNode, isCut, outgoing, found, excluded, shallow, calls, Walk.addNode,
                Nat.le_of_not_lt]

theorem enter_edges (walker : Walker) (id : String) (depth : Nat) (walk : Walk) :
    (walker.enter id depth walk).1.edges = walk.edges := by
  unfold enter
  split
  · rfl
  · dsimp only
    repeat' split
    all_goals rfl

theorem enter_pending (walker : Walker) (id : String) (depth : Nat) (walk : Walk) :
    (walker.enter id depth walk).2 = walker.expansion (walker.enteredNode id depth) := by
  unfold enter expansion
  rw [enteredNode_id, enteredNode_depth]
  cases found : walker.index.callable? id with
  | none => simp [outgoing, found]
  | some callable =>
      dsimp only
      cases excluded : walker.isExcluded callable.package with
      | true => simp [outgoing, found, excluded]
      | false =>
          rw [outgoing_of_callable found excluded]
          by_cases shallow : depth < walker.maxDepth
          · simp [shallow]
          · simp only [shallow, if_false, Bool.false_eq_true]
            split <;> rfl

/-- Every call that is followed is recorded. -/
theorem follow_edges (walker : Walker) (call : PendingCall) (walk : Walk) :
    (walker.follow call walk).1.edges = walk.edges ++
      [call.edge (!call.target.kind.isLeaf && walk.hasVisited call.target.id)] := by
  unfold follow
  dsimp only
  rw [Walk.hasVisited_addCall]
  cases leaf : call.target.kind.isLeaf with
  | true =>
      rw [if_pos rfl]
      split <;> rfl
  | false =>
      cases visited : walk.hasVisited call.target.id with
      | true => rfl
      | false => exact walker.enter_edges call.target.id call.depth (walk.addCall call)

theorem follow_keeps (known : call.target.id ∈ walk.visited) :
    Keeps walk (walker.follow call walk).1 := by
  have visited : walk.hasVisited call.target.id = true := Walk.hasVisited_iff.mpr known
  unfold follow
  dsimp only
  rw [Walk.hasVisited_addCall, if_pos visited, if_pos visited]
  split <;> exact ⟨rfl, rfl, rfl, rfl⟩

theorem follow_pending_of_known (known : call.target.id ∈ walk.visited) :
    (walker.follow call walk).2 = [] := by
  have visited : walk.hasVisited call.target.id = true := Walk.hasVisited_iff.mpr known
  unfold follow
  dsimp only
  rw [Walk.hasVisited_addCall, if_pos visited, if_pos visited]
  split <;> rfl

theorem follow_discovers (fresh : call.target.id ∉ walk.visited)
    (unindexed : call.target.kind.isLeaf = true →
      walker.index.callable? call.target.id = none) :
    walker.Discovers (walker.targetNode call) walk (walker.follow call walk).1 := by
  have unvisited : ¬walk.hasVisited call.target.id = true := mt Walk.hasVisited_iff.mp fresh
  unfold follow
  dsimp only
  rw [Walk.hasVisited_addCall, if_neg unvisited, if_neg unvisited]
  split
  · rename_i leaf
    -- A leaf has no calls of its own, so the depth limit cuts nothing off.
    have uncut : walker.isCut (walker.targetNode call) = false := by
      simp [isCut, outgoing, unindexed leaf]
    constructor
    · simp [Walk.addNode, Walk.addCall, Walk.addEdge, leafNode]
    · simp [Walk.addNode, Walk.addCall, Walk.addEdge, targetNode, leaf]
    · rw [uncut]
      rfl
    · simp [Walk.addNode, Walk.addCall, Walk.addEdge, leafNode]
  · rename_i inner
    have entered := walker.enter_discovers call.target.id call.depth (walk.addCall call)
    rw [targetNode, if_neg inner]
    exact ⟨entered.visited, entered.nodes, entered.cut, entered.deepest⟩

theorem follow_pending_of_fresh (fresh : call.target.id ∉ walk.visited)
    (unindexed : call.target.kind.isLeaf = true →
      walker.index.callable? call.target.id = none) :
    (walker.follow call walk).2 = walker.expansion (walker.targetNode call) := by
  have unvisited : ¬walk.hasVisited call.target.id = true := mt Walk.hasVisited_iff.mp fresh
  unfold follow
  dsimp only
  rw [Walk.hasVisited_addCall, if_neg unvisited, if_neg unvisited]
  split
  · rename_i leaf
    simp [expansion, outgoing, unindexed leaf]
  · rename_i inner
    rw [enter_pending, targetNode, if_neg inner]

/-! ### Walks -/

/-- The walks that a walker can come to on its way through entry points, with the calls that are
then pending. -/
inductive Reached (walker : Walker) : List String → List PendingCall → Walk → Prop
  | start : walker.Reached [] [] .start
  | revisited {entries : List String} {walk : Walk} {entry : String}
      (before : walker.Reached entries [] walk) (known : entry ∈ walk.visited) :
      walker.Reached (entries ++ [entry]) [] walk
  | entered {entries : List String} {walk : Walk} {entry : String}
      (before : walker.Reached entries [] walk) (fresh : entry ∉ walk.visited)
      (discovers : walker.Discovers (walker.enteredNode entry 0) walk (walker.enter entry 0 walk).1)
      (edges : (walker.enter entry 0 walk).1.edges = walk.edges) :
      walker.Reached (entries ++ [entry]) (walker.expansion (walker.enteredNode entry 0))
        (walker.enter entry 0 walk).1
  | repeated {entries : List String} {call : PendingCall} {rest : List PendingCall} {walk : Walk}
      (before : walker.Reached entries (call :: rest) walk) (known : call.target.id ∈ walk.visited)
      (keeps : Keeps walk (walker.follow call walk).1)
      (edges : (walker.follow call walk).1.edges =
        walk.edges ++ [call.edge (!call.target.kind.isLeaf)]) :
      walker.Reached entries rest (walker.follow call walk).1
  | followed {entries : List String} {call : PendingCall} {rest : List PendingCall} {walk : Walk}
      (before : walker.Reached entries (call :: rest) walk) (fresh : call.target.id ∉ walk.visited)
      (discovers : walker.Discovers (walker.targetNode call) walk (walker.follow call walk).1)
      (edges : (walker.follow call walk).1.edges = walk.edges ++ [call.edge false]) :
      walker.Reached entries (walker.expansion (walker.targetNode call) ++ rest)
        (walker.follow call walk).1

/-- Pending calls are calls of a symbol that is above the depth limit. -/
theorem Reached.pending_outgoing {entries : List String} {pending : List PendingCall}
    (reached : walker.Reached entries pending walk) :
    ∀ call ∈ pending, ∃ node, call ∈ walker.expansion node := by
  induction reached with
  | start => simp
  | revisited => simp
  | entered => exact fun call member => ⟨_, member⟩
  | repeated _ _ _ _ inductionHypothesis =>
      exact (List.forall_mem_cons.mp inductionHypothesis).2
  | followed _ _ _ _ inductionHypothesis =>
      intro call member
      rcases List.mem_append.mp member with own | later
      · exact ⟨_, own⟩
      · exact inductionHypothesis call (List.mem_cons_of_mem _ later)

/-- Following the next pending call is a step. -/
theorem Reached.follow (names : walker.index.NamesOnly) {entries : List String}
    {rest : List PendingCall} (reached : walker.Reached entries (call :: rest) walk) :
    walker.Reached entries ((walker.follow call walk).2 ++ rest) (walker.follow call walk).1 := by
  have edges := walker.follow_edges call walk
  by_cases known : call.target.id ∈ walk.visited
  · rw [Walk.hasVisited_iff.mpr known, Bool.and_true] at edges
    rw [follow_pending_of_known known]
    exact .repeated reached known (follow_keeps known) edges
  · have unvisited : walk.hasVisited call.target.id = false :=
      Bool.eq_false_iff.mpr (mt Walk.hasVisited_iff.mp known)
    rw [unvisited, Bool.and_false] at edges
    obtain ⟨node, member⟩ := reached.pending_outgoing call List.mem_cons_self
    have unindexed := callable?_eq_none_of_mem_outgoing names (mem_expansion.mp member).2
    rw [follow_pending_of_fresh known unindexed]
    exact .followed reached known (follow_discovers known unindexed) edges

theorem Reached.run (names : walker.index.NamesOnly) {entries : List String}
    {pending : List PendingCall} (reached : walker.Reached entries pending walk) :
    walker.Reached entries [] (walker.run pending walk) := by
  induction pending, walk using Walker.run.induct walker with
  | case1 walk =>
      rw [Walker.run]
      exact reached
  | case2 walk call rest inductionHypothesis =>
      rw [Walker.run]
      exact inductionHypothesis (reached.follow names)

theorem Reached.visit (names : walker.index.NamesOnly) {entries : List String}
    (reached : walker.Reached entries [] walk) (entry : String) :
    walker.Reached (entries ++ [entry]) [] (walker.visit walk entry) := by
  unfold Walker.visit
  split
  · rename_i known
    exact .revisited reached (Walk.hasVisited_iff.mp known)
  · rename_i fresh
    apply Reached.run names
    rw [enter_pending]
    exact .entered reached (mt Walk.hasVisited_iff.mpr fresh)
      (walker.enter_discovers entry 0 walk) (walker.enter_edges entry 0 walk)

/-- Every walk through entry points is reached, with nothing left to follow. -/
theorem reached_visitAll (names : walker.index.NamesOnly) (entries : List String) :
    walker.Reached entries [] (walker.visitAll entries) := by
  induction entries using List.reverseRecOn with
  | nil => exact .start
  | append_singleton before entry inductionHypothesis =>
      rw [visitAll, List.foldl_append]
      exact inductionHypothesis.visit names entry

end Walker

end GoAtlas
