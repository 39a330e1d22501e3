import GoAtlas.Proofs.CallGraph.Evaluation
import GoAtlas.Proofs.Index.Callables
import Mathlib.Algebra.GroupWithZero.Nat
import Mathlib.Algebra.Order.BigOperators.Group.List
import Mathlib.Algebra.Order.Group.Nat
import Mathlib.Data.List.Nodup
import Mathlib.Data.List.Perm.Subperm

/-!
Walks by nested visits. A visit of a symbol goes through its call sites and visits their targets in
the middle of that, so its end is not seen from its own arguments: what a target may still enter
depends on what its siblings have entered before. With a bound on how deep visits are nested and
another on depths, visits are a computation that may fail. It never does, since every nested visit
but the innermost enters a symbol that was not visited before, and it comes to the same walk as
following pending calls.
-/

namespace GoAtlas

/-! ### Call sites of an index -/

namespace Index

variable {index : Index} {ids : List String}

/-- How many call sites the symbol of an identifier has. -/
def siteCount (index : Index) (id : String) : Nat :=
  ((index.callable? id).map (·.calls.length)).getD 0

/-- How many call sites an index has. -/
def totalSites (index : Index) : Nat :=
  (index.callables.map (·.2.calls.length)).sum

theorem siteCount_of_found {id : String} {callable : Callable}
    (found : index.callable? id = some callable) : index.siteCount id = callable.calls.length := by
  simp [siteCount, found]

/-- Those of the identifiers that are indexed, each with its symbol. -/
def entriesOf (index : Index) (ids : List String) : List (String × Callable) :=
  ids.filterMap fun id => (index.callable? id).map (id, ·)

theorem sum_siteCount_eq (index : Index) (ids : List String) :
    (ids.map index.siteCount).sum = ((index.entriesOf ids).map (·.2.calls.length)).sum := by
  induction ids with
  | nil => rfl
  | cons id rest inductionHypothesis =>
      cases isFound : index.callable? id <;>
        simp [entriesOf, siteCount, isFound, inductionHypothesis]

theorem nodup_entriesOf (distinct : ids.Nodup) : (index.entriesOf ids).Nodup := by
  refine List.Nodup.filterMap (fun first second entry member otherMember => ?_) distinct
  obtain ⟨callable, -, rfl⟩ := Option.map_eq_some_iff.mp member
  obtain ⟨other, -, same⟩ := Option.map_eq_some_iff.mp otherMember
  exact (Prod.mk.inj same).1.symm

theorem entriesOf_subset (index : Index) (ids : List String) :
    index.entriesOf ids ⊆ index.callables := by
  intro entry member
  obtain ⟨id, -, isFound⟩ := List.mem_filterMap.mp member
  obtain ⟨callable, indexed, rfl⟩ := Option.map_eq_some_iff.mp isFound
  exact mem_callables_of_found indexed

/-- Symbols that are counted once have no more call sites than the index has. -/
theorem sum_siteCount_le (distinct : ids.Nodup) :
    (ids.map index.siteCount).sum ≤ index.totalSites := by
  have distinctEntries : (index.entriesOf ids).Nodup := nodup_entriesOf distinct
  obtain ⟨permuted, isPermuted, sublist⟩ :=
    List.subperm_of_subset distinctEntries (index.entriesOf_subset ids)
  rw [sum_siteCount_eq]
  calc ((index.entriesOf ids).map (·.2.calls.length)).sum
      = (permuted.map (·.2.calls.length)).sum := (isPermuted.map _).sum_eq.symm
    _ ≤ index.totalSites := (sublist.map _).sum_le_sum fun _ _ => Nat.zero_le _

end Index

/-! ### Nested visits -/

/-- A walk, with the symbols whose call sites it has gone through. -/
structure Journey where
  walk : Walk
  expanded : List String

def Journey.start : Journey := ⟨.start, []⟩

/-- The depth below a depth, where depths go up to a greatest one. -/
def depthBelow? (greatest depth : Nat) : Option Nat :=
  if depth + 1 ≤ greatest then some (depth + 1) else none

namespace Walker

/-- Follows a call; `visit` is for its target. -/
def followBy (visit : String → Nat → Journey → Option Journey) (call : PendingCall)
    (journey : Journey) : Option Journey :=
  if call.target.kind.isLeaf then
    let walk := journey.walk.addCall call
    if walk.hasVisited call.target.id then some { journey with walk }
    else some { journey with walk := walk.addNode (leafNode call.target call.depth) }
  else if journey.walk.hasVisited call.target.id then
    some { journey with walk := journey.walk.addCycle call }
  else visit call.target.id call.depth { journey with walk := journey.walk.addCall call }

/-- Follows the call at a site of a symbol, if it resolves. -/
def followSite (walker : Walker) (greatest : Nat)
    (visit : String → Nat → Journey → Option Journey) (id : String) (callable : Callable)
    (depth : Nat) (journey : Journey) (site : CallSite) : Option Journey :=
  match walker.resolver.resolve site (.ofCallable callable) with
  | none => some journey
  | some target => do
      let below ← depthBelow? greatest depth
      followBy visit ⟨id, target, site.line, below⟩ journey

/-- Visits a symbol by at most so many nested visits, with depths up to a greatest one. -/
def visitNested (walker : Walker) (greatest : Nat) : Nat → String → Nat → Journey → Option Journey
  | 0, _, _, _ => none
  | nesting + 1, id, depth, journey =>
      if walker.maxDepth < depth || journey.walk.hasVisited id then some journey
      else match walker.index.callable? id with
        | none =>
            let walk := (journey.walk.addNode (unknownNode id depth)).countUnresolved
            some { journey with walk }
        | some callable =>
            let walk := journey.walk.addNode (walker.symbolNode id depth callable)
            if walker.isExcluded callable.package then some { journey with walk }
            else if depth = walker.maxDepth then
              if callable.calls.any fun site =>
                  (walker.resolver.resolve site (.ofCallable callable)).isSome then
                some { journey with walk := { walk with cut := walk.cut + 1 } }
              else some { journey with walk }
            else
              callable.calls.foldlM
                (walker.followSite greatest (walker.visitNested greatest nesting) id callable depth)
                { walk, expanded := journey.expanded ++ [id] }

/-- Visits entry points in turn. -/
def visitAllNested (walker : Walker) (greatest nesting : Nat) (entries : List String) :
    Option Journey :=
  entries.foldlM (fun journey entry => walker.visitNested greatest nesting entry 0 journey) .start

variable {walker : Walker} {greatest nesting depth : Nat} {id : String} {walk : Walk}
  {journey : Journey} {call : PendingCall} {pending : List PendingCall}
  {visit : String → Nat → Journey → Option Journey}

/-! ### Pending calls in parts -/

/-- The walk to which a visit at some depth leads. -/
def visitAt (walker : Walker) (id : String) (depth : Nat) (walk : Walk) : Walk :=
  if walk.hasVisited id then walk
  else walker.run (walker.enter id depth walk).2 (walker.enter id depth walk).1

/-- The walk to which a call leads. -/
def through (walker : Walker) (call : PendingCall) (walk : Walk) : Walk :=
  walker.run (walker.follow call walk).2 (walker.follow call walk).1

theorem run_append (walker : Walker) (pending later : List PendingCall) (walk : Walk) :
    walker.run (pending ++ later) walk = walker.run later (walker.run pending walk) := by
  induction pending, walk using Walker.run.induct walker with
  | case1 walk =>
      conv_rhs => rw [run.eq_def walker [] walk]
      rfl
  | case2 walk call rest inductionHypothesis =>
      rw [List.cons_append, run, ← List.append_assoc, inductionHypothesis]
      conv_rhs => rw [run.eq_def walker (call :: rest) walk]

theorem run_cons (walker : Walker) (call : PendingCall) (rest : List PendingCall) (walk : Walk) :
    walker.run (call :: rest) walk = walker.run rest (walker.through call walk) := by
  rw [run, run_append, through]

theorem through_of_inner (inner : ¬call.target.kind.isLeaf = true)
    (fresh : ¬walk.hasVisited call.target.id = true) :
    walker.through call walk = walker.visitAt call.target.id call.depth (walk.addCall call) := by
  rw [through, follow, if_neg inner, if_neg fresh, visitAt, Walk.hasVisited_addCall, if_neg fresh]

/-! ### What is left to visit -/

theorem unvisited_run_le (walker : Walker) (pending : List PendingCall) (walk : Walk) :
    (walker.unvisited (walker.run pending walk)).length ≤ (walker.unvisited walk).length := by
  induction pending, walk using Walker.run.induct walker with
  | case1 walk => rw [run]
  | case2 walk call rest inductionHypothesis =>
      rw [run]
      refine inductionHypothesis.trans ?_
      rcases walker.follow_progress call walk with less | ⟨-, notMore⟩
      · exact Nat.le_of_lt less
      · exact notMore

theorem unvisited_through_le (walker : Walker) (call : PendingCall) (walk : Walk) :
    (walker.unvisited (walker.through call walk)).length ≤ (walker.unvisited walk).length := by
  have single := walker.unvisited_run_le [call] walk
  rwa [run_cons, run] at single

theorem unvisited_visit_le (walker : Walker) (walk : Walk) (entry : String) :
    (walker.unvisited (walker.visit walk entry)).length ≤ (walker.unvisited walk).length := by
  unfold visit
  split
  · exact Nat.le_refl _
  · rename_i fresh
    refine (walker.unvisited_run_le _ _).trans ?_
    rcases walker.enter_progress entry 0 walk (mt Walk.hasVisited_iff.mpr fresh) with
      less | ⟨-, notMore⟩
    · exact Nat.le_of_lt less
    · exact notMore

theorem unvisited_addNode_lt (depth : Nat) {callable : Callable}
    (found : walker.index.callable? id = some callable) (fresh : id ∉ walk.visited) :
    (walker.unvisited (walk.addNode (walker.symbolNode id depth callable))).length <
      (walker.unvisited walk).length := by
  rw [unvisited, unvisited, Walk.addNode, symbolNode_id]
  exact unseen_cons_length_lt (Index.mem_callables_of_callable? found) fresh

/-! ### What holds on the way -/

/-- On a journey no symbol is expanded twice, and there are edges for call sites of expanded symbols
only; so many of these sites have still to be followed. -/
structure Thrifty (walker : Walker) (awaited : Nat) (journey : Journey) : Prop where
  distinct : journey.expanded.Nodup
  visited : journey.expanded ⊆ journey.walk.visited
  indexed : ∀ id ∈ journey.expanded, (walker.index.callable? id).isSome = true
  edges : journey.walk.edges.length + awaited ≤ (journey.expanded.map walker.index.siteCount).sum

/-- A computation comes to a walk. -/
def Arrives (walker : Walker) (awaited : Nat) (outcome : Option Journey) (walk : Walk) : Prop :=
  ∃ journey, outcome = some journey ∧ journey.walk = walk ∧ walker.Thrifty awaited journey

variable {awaited : Nat}

theorem Arrives.bind {outcome : Option Journey} {next : Journey → Option Journey} {after : Walk}
    {later : Nat} (arrives : walker.Arrives awaited outcome walk)
    (goesOn : ∀ journey, journey.walk = walk → walker.Thrifty awaited journey →
      walker.Arrives later (next journey) after) :
    walker.Arrives later (outcome >>= next) after := by
  obtain ⟨journey, rfl, same, thrifty⟩ := arrives
  exact goesOn journey same thrifty

theorem Thrifty.start : walker.Thrifty 0 .start := by
  constructor <;> simp [Journey.start, Walk.start]

/-- Visiting more and recording nothing. -/
theorem Thrifty.keep (thrifty : walker.Thrifty awaited journey)
    (visited : journey.walk.visited ⊆ walk.visited) (edges : walk.edges = journey.walk.edges) :
    walker.Thrifty awaited { journey with walk } where
  distinct := thrifty.distinct
  visited := List.Subset.trans thrifty.visited visited
  indexed := thrifty.indexed
  edges := edges ▸ thrifty.edges

/-- Recording an edge for an awaited call. -/
theorem Thrifty.record (thrifty : walker.Thrifty (awaited + 1) journey)
    (visited : journey.walk.visited ⊆ walk.visited)
    (edges : walk.edges.length = journey.walk.edges.length + 1) :
    walker.Thrifty awaited { journey with walk } where
  distinct := thrifty.distinct
  visited := List.Subset.trans thrifty.visited visited
  indexed := thrifty.indexed
  edges := by
    have counted := thrifty.edges
    dsimp only
    omega

/-- Expanding a fresh symbol, all of whose calls are then awaited. -/
theorem Thrifty.expand {callable : Callable} (thrifty : walker.Thrifty awaited journey)
    (found : walker.index.callable? id = some callable) (fresh : id ∉ journey.walk.visited) :
    walker.Thrifty (awaited + (walker.callsOf id callable depth).length)
      ⟨journey.walk.addNode (walker.symbolNode id depth callable), journey.expanded ++ [id]⟩ where
  distinct := by
    refine List.nodup_append.mpr ⟨thrifty.distinct, by simp, ?_⟩
    rintro other member _ single rfl
    exact fresh (List.mem_singleton.mp single ▸ thrifty.visited member)
  visited := by
    intro other member
    rw [Walk.addNode, symbolNode_id]
    rcases List.mem_append.mp member with old | new
    · exact List.mem_cons_of_mem _ (thrifty.visited old)
    · exact List.mem_singleton.mp new ▸ List.mem_cons_self
  indexed := by
    intro other member
    rcases List.mem_append.mp member with old | new
    · exact thrifty.indexed other old
    · rw [List.mem_singleton.mp new, found]
      rfl
  edges := by
    have counted := thrifty.edges
    have fewer : (walker.callsOf id callable depth).length ≤ callable.calls.length :=
      List.length_filterMap_le _ _
    rw [List.map_append, List.sum_append, List.map_singleton, List.sum_singleton,
      Index.siteCount_of_found found]
    change journey.walk.edges.length + _ ≤ _
    omega

/-! ### Nested visits come to an end -/

/-- From walks that leave few enough symbols, visits within the depth limit arrive where pending
calls would lead. -/
def Completes (walker : Walker) (nesting : Nat)
    (visit : String → Nat → Journey → Option Journey) : Prop :=
  ∀ awaited id depth journey, walker.Thrifty awaited journey →
    (walker.unvisited journey.walk).length < nesting → depth ≤ walker.maxDepth →
      walker.Arrives awaited (visit id depth journey) (walker.visitAt id depth journey.walk)

theorem Completes.arrives_followBy (completes : walker.Completes nesting visit)
    (thrifty : walker.Thrifty (awaited + 1) journey)
    (enough : (walker.unvisited journey.walk).length < nesting)
    (within : call.depth ≤ walker.maxDepth) :
    walker.Arrives awaited (followBy visit call journey) (walker.through call journey.walk) := by
  have recorded : (journey.walk.addCall call).edges.length = journey.walk.edges.length + 1 := by
    simp [Walk.addCall, Walk.addEdge]
  unfold followBy
  by_cases leaf : call.target.kind.isLeaf = true
  · rw [if_pos leaf, through, follow, if_pos leaf]
    dsimp only
    by_cases known : (journey.walk.addCall call).hasVisited call.target.id = true
    · rw [if_pos known, if_pos known, run]
      refine ⟨_, rfl, rfl, ?_⟩
      exact thrifty.record (List.Subset.refl _) recorded
    · rw [if_neg known, if_neg known, run]
      refine ⟨_, rfl, rfl, ?_⟩
      exact thrifty.record (List.subset_cons_self _ _) recorded
  · rw [if_neg leaf]
    by_cases known : journey.walk.hasVisited call.target.id = true
    · have recordedCycle : (journey.walk.addCycle call).edges.length =
          journey.walk.edges.length + 1 := by
        simp [Walk.addCycle, Walk.addEdge]
      rw [if_pos known, through, follow, if_neg leaf, if_pos known, run]
      refine ⟨_, rfl, rfl, ?_⟩
      exact thrifty.record (List.Subset.refl _) recordedCycle
    · rw [if_neg known, through_of_inner leaf known]
      exact completes _ _ _ _ (thrifty.record (List.Subset.refl _) recorded) enough within

theorem Completes.arrives_foldlM (completes : walker.Completes nesting visit)
    (thrifty : walker.Thrifty (awaited + pending.length) journey)
    (enough : (walker.unvisited journey.walk).length < nesting)
    (within : ∀ call ∈ pending, call.depth ≤ walker.maxDepth) :
    walker.Arrives awaited
      (pending.foldlM (fun journey call => followBy visit call journey) journey)
      (walker.run pending journey.walk) := by
  induction pending generalizing journey with
  | nil =>
      rw [run]
      exact ⟨journey, rfl, rfl, thrifty⟩
  | cons call rest inductionHypothesis =>
      obtain ⟨first, later⟩ := List.forall_mem_cons.mp within
      rw [List.foldlM_cons, run_cons]
      refine (completes.arrives_followBy thrifty enough first).bind fun next same nextThrifty => ?_
      rw [← same]
      refine inductionHypothesis nextThrifty ?_ later
      rw [same]
      exact (walker.unvisited_through_le call journey.walk).trans_lt enough

/-- Where the depth below is within bounds, the sites of a symbol are followed as its calls are. -/
theorem foldlM_followSite (shallow : depth < greatest) (callable : Callable) (journey : Journey) :
    callable.calls.foldlM (walker.followSite greatest visit id callable depth) journey =
      (walker.callsOf id callable depth).foldlM
        (fun journey call => followBy visit call journey) journey := by
  rw [callsOf, List.foldlM_filterMap]
  congr 1
  funext journey site
  unfold followSite
  cases walker.resolver.resolve site (.ofCallable callable) with
  | none => rfl
  | some target =>
      have below : depthBelow? greatest depth = some (depth + 1) := if_pos shallow
      simp [below]

theorem any_resolve (walker : Walker) (id : String) (callable : Callable) (depth : Nat) :
    (callable.calls.any fun site =>
        (walker.resolver.resolve site (.ofCallable callable)).isSome) =
      !(walker.callsOf id callable depth).isEmpty := by
  rw [callsOf]
  induction callable.calls with
  | nil => rfl
  | cons site rest inductionHypothesis =>
      cases resolved : walker.resolver.resolve site (.ofCallable callable) <;>
        simp [resolved, inductionHypothesis]

/-- Nested visits complete, each of them in a symbol that the visits around it have not entered. -/
theorem completes_visitNested (bounded : walker.maxDepth ≤ greatest) (nesting : Nat) :
    walker.Completes nesting (walker.visitNested greatest nesting) := by
  induction nesting with
  | zero => exact fun _ _ _ _ _ enough _ => absurd enough (Nat.not_lt_zero _)
  | succ nesting inductionHypothesis =>
      intro awaited id depth journey thrifty enough within
      rw [visitNested, visitAt]
      by_cases known : journey.walk.hasVisited id = true
      · rw [if_pos known, if_pos (by simp [known])]
        exact ⟨journey, rfl, rfl, thrifty⟩
      have fresh : id ∉ journey.walk.visited := mt Walk.hasVisited_iff.mpr known
      rw [if_neg known, if_neg (by simpa [known] using within), enter]
      cases found : walker.index.callable? id with
      | none =>
          dsimp only
          rw [run]
          refine ⟨_, rfl, rfl, ?_⟩
          exact thrifty.keep (List.subset_cons_self _ _) rfl
      | some callable =>
          have entered : walker.Thrifty awaited
              ⟨journey.walk.addNode (walker.symbolNode id depth callable), journey.expanded⟩ :=
            thrifty.keep (List.subset_cons_self _ _) rfl
          dsimp only
          by_cases excluded : walker.isExcluded callable.package = true
          · rw [if_pos excluded, if_pos excluded, run]
            exact ⟨_, rfl, rfl, entered⟩
          rw [if_neg excluded, if_neg excluded]
          by_cases limit : depth = walker.maxDepth
          · have deep : ¬depth < walker.maxDepth := Nat.not_lt.mpr limit.ge
            rw [if_pos limit, if_neg deep, walker.any_resolve id callable depth]
            cases (walker.callsOf id callable depth).isEmpty with
            | true =>
                rw [if_neg (by simp), if_pos rfl, run]
                exact ⟨_, rfl, rfl, entered⟩
            | false =>
                rw [if_pos (by simp), if_neg (by simp), run]
                refine ⟨_, rfl, rfl, ?_⟩
                exact entered.keep (List.Subset.refl _) rfl
          · have shallow : depth < walker.maxDepth := Nat.lt_of_le_of_ne within limit
            -- The symbol itself is visited now, so one level less is enough for the visits within.
            rw [if_neg limit, if_pos shallow, foldlM_followSite (shallow.trans_le bounded)]
            refine Completes.arrives_foldlM inductionHypothesis (thrifty.expand found fresh) ?_ ?_
            · exact Nat.lt_of_lt_of_le (unvisited_addNode_lt depth found fresh)
                (Nat.le_of_lt_succ enough)
            · intro call member
              obtain ⟨site, -, resolved⟩ := List.mem_filterMap.mp member
              obtain ⟨target, -, rfl⟩ := Option.map_eq_some_iff.mp resolved
              exact shallow

theorem Completes.arrives_foldlM_visitNested
    (completes : walker.Completes nesting (walker.visitNested greatest nesting))
    (entries : List String) (thrifty : walker.Thrifty awaited journey)
    (enough : (walker.unvisited journey.walk).length < nesting) :
    walker.Arrives awaited
      (entries.foldlM (fun journey entry => walker.visitNested greatest nesting entry 0 journey)
        journey)
      (entries.foldl walker.visit journey.walk) := by
  induction entries generalizing journey with
  | nil => exact ⟨journey, rfl, rfl, thrifty⟩
  | cons entry rest inductionHypothesis =>
      rw [List.foldlM_cons, List.foldl_cons]
      refine (completes _ entry _ _ thrifty enough (Nat.zero_le _)).bind
        fun next same nextThrifty => ?_
      have sameVisit : next.walk = walker.visit journey.walk entry := same
      rw [← sameVisit]
      refine inductionHypothesis nextThrifty ?_
      rw [sameVisit]
      exact (walker.unvisited_visit_le journey.walk entry).trans_lt enough

/-- However cyclic calls are and whatever the depth limit, visiting entry points in turn ends.
Visits are nested no deeper than there are symbols and one more, and no depth beyond the limit is
computed. No symbol is expanded twice, so there are no more edges than call sites. -/
theorem visitAllNested_completes (walker : Walker) {greatest nesting : Nat}
    (bounded : walker.maxDepth ≤ greatest) (enough : walker.index.callables.length < nesting)
    (entries : List String) :
    ∃ expanded, walker.visitAllNested greatest nesting entries =
        some ⟨walker.visitAll entries, expanded⟩ ∧
      expanded.Nodup ∧ (∀ id ∈ expanded, (walker.index.callable? id).isSome = true) ∧
      (walker.visitAll entries).edges.length ≤ walker.index.totalSites := by
  have fewUnvisited : (walker.unvisited .start).length < nesting := by
    refine Nat.lt_of_le_of_lt (List.length_filter_le _ _) ?_
    rwa [List.length_map]
  have completes := completes_visitNested bounded nesting
  obtain ⟨⟨walk, expanded⟩, outcome, rfl, thrifty⟩ :=
    completes.arrives_foldlM_visitNested entries .start fewUnvisited
  refine ⟨expanded, outcome, thrifty.distinct, thrifty.indexed, ?_⟩
  exact thrifty.edges.trans (Index.sum_siteCount_le thrifty.distinct)

/-- The recursive service with the greatest depth limit of sixty-four bits. -/
def deepService : Walker :=
  { serviceWalker with maxDepth := 2 ^ 64 - 1 }

theorem visitAllNested_completes_deepService :
    ∃ expanded, deepService.visitAllNested (2 ^ 64 - 1) 3 ["p.Handler.Serve", "p.Store.Load"] =
        some ⟨deepService.visitAll ["p.Handler.Serve", "p.Store.Load"], expanded⟩ ∧
      expanded.Nodup ∧
      (deepService.visitAll ["p.Handler.Serve", "p.Store.Load"]).edges.length ≤ 5 := by
  have sites : deepService.index.totalSites = 5 := by decide
  have enough : deepService.index.callables.length < 3 := by decide
  obtain ⟨expanded, outcome, distinct, -, edges⟩ :=
    visitAllNested_completes deepService (Nat.le_refl _) enough ["p.Handler.Serve", "p.Store.Load"]
  exact ⟨expanded, outcome, distinct, sites ▸ edges⟩

/-- Visits that are nested too deep have no outcome. -/
example : ((detourWalker 10).visitAllNested 10 4 ["p.A"]).isNone = true := by decide

/-- Nor have visits that exceed the greatest depth. -/
example : ((detourWalker 10).visitAllNested 3 6 ["p.A"]).isNone = true := by decide

end Walker

end GoAtlas
