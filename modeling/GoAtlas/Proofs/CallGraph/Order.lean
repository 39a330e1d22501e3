import GoAtlas.Proofs.CallGraph.Classification
import Mathlib.Data.Prod.Lex
import Mathlib.Data.String.Basic

/-!
Sorted call graphs. Nodes are told apart by what they are sorted by, edges are not: two calls of one
symbol on one line differ only in their flags, at which the order does not look. So sorting forgets
how the lists of a graph were permuted, except that edges which differ only in their flags stay as
they stood.
-/

namespace GoAtlas

/-! ### Sorting by rank -/

section Sorting

variable {Element Rank : Type} [LinearOrder Rank] {rank : Element → Rank}
  {notAfter : Element → Element → Bool} {elements others : List Element}

/-- Lists in the order of ranks are equal if they have the same elements of each rank. -/
theorem eq_of_filter_rank (ordered : elements.Pairwise (rank · ≤ rank ·))
    (othersOrdered : others.Pairwise (rank · ≤ rank ·))
    (same : ∀ place, elements.filter (rank · = place) = others.filter (rank · = place)) :
    elements = others := by
  induction elements generalizing others with
  | nil =>
      symm
      rw [List.eq_nil_iff_forall_not_mem]
      intro element member
      have found : element ∈ others.filter (rank · = rank element) := by simpa using member
      rw [← same] at found
      simp at found
  | cons first rest inductionHypothesis =>
      obtain ⟨first_le, restOrdered⟩ := List.pairwise_cons.mp ordered
      cases others with
      | nil =>
          have none := same (rank first)
          simp at none
      | cons other more =>
          obtain ⟨other_le, moreOrdered⟩ := List.pairwise_cons.mp othersOrdered
          -- each head is found in the other list, so neither comes after the other
          have firstFound : first ∈ (other :: more).filter (rank · = rank first) := by
            rw [← same]
            simp
          have otherFound : other ∈ (first :: rest).filter (rank · = rank other) := by
            rw [same]
            simp
          have notBefore : rank other ≤ rank first := by
            rcases List.mem_cons.mp (List.mem_filter.mp firstFound).1 with isOther | later
            · rw [isOther]
            · exact other_le first later
          have notAfter : rank first ≤ rank other := by
            rcases List.mem_cons.mp (List.mem_filter.mp otherFound).1 with isFirst | later
            · rw [isFirst]
            · exact first_le other later
          have sameRank : rank other = rank first := le_antisymm notBefore notAfter
          have heads := same (rank first)
          rw [List.filter_cons_of_pos (by simp), List.filter_cons_of_pos (by simp [sameRank])]
            at heads
          obtain ⟨rfl, sameRest⟩ := List.cons.inj heads
          rw [inductionHypothesis restOrdered moreOrdered]
          intro place
          by_cases own : rank first = place
          · rw [← own, sameRest]
          · have others := same place
            rwa [List.filter_cons_of_neg (by simpa using own),
              List.filter_cons_of_neg (by simpa using own)] at others

theorem exists_split_of_pair {earlier later : Element}
    (pair : [earlier, later].Sublist elements) :
    ∃ before after, elements = before ++ later :: after ∧ earlier ∈ before := by
  have parts : ([earlier] ++ [later]).Sublist elements := pair
  obtain ⟨first, second, rfl, earlierPart, laterPart⟩ := List.append_sublist_iff.mp parts
  obtain ⟨between, after, rfl⟩ := List.append_of_mem (List.singleton_sublist.mp laterPart)
  refine ⟨first ++ between, after, by simp, ?_⟩
  exact List.mem_append_left _ (List.singleton_sublist.mp earlierPart)

theorem perm_mergeSort (permuted : others.Perm elements) :
    (others.mergeSort notAfter).Perm (elements.mergeSort notAfter) :=
  ((List.mergeSort_perm others _).trans permuted).trans (List.mergeSort_perm elements _).symm

variable (ranked : ∀ first second, notAfter first second = true ↔ rank first ≤ rank second)
include ranked

theorem notAfter_trans (first second third : Element) (before : notAfter first second = true)
    (after : notAfter second third = true) : notAfter first third = true := by
  rw [ranked] at before after ⊢
  exact le_trans before after

theorem notAfter_total (first second : Element) :
    (notAfter first second || notAfter second first) = true := by
  rw [Bool.or_eq_true, ranked, ranked]
  exact le_total _ _

theorem pairwise_rank_mergeSort (elements : List Element) :
    (elements.mergeSort notAfter).Pairwise (rank · ≤ rank ·) := by
  have sorted := List.pairwise_mergeSort (notAfter_trans ranked) (notAfter_total ranked) elements
  exact sorted.imp (ranked _ _).mp

/-- Sorting keeps the order of elements of one rank. -/
theorem filter_rank_mergeSort (elements : List Element) (place : Rank) :
    (elements.mergeSort notAfter).filter (rank · = place) = elements.filter (rank · = place) := by
  have tied : (elements.filter (rank · = place)).Pairwise (notAfter · · = true) := by
    apply List.pairwise_of_forall_mem_list
    intro first firstMember second secondMember
    have firstRank : rank first = place := by simpa using (List.mem_filter.mp firstMember).2
    have secondRank : rank second = place := by simpa using (List.mem_filter.mp secondMember).2
    rw [ranked, firstRank, secondRank]
  have kept : (elements.filter (rank · = place)).Sublist (elements.mergeSort notAfter) :=
    List.sublist_mergeSort (notAfter_trans ranked) (notAfter_total ranked) tied
      List.filter_sublist
  have again := kept.filter (rank · = place)
  rw [List.filter_filter] at again
  simp only [Bool.and_self] at again
  have permuted := (List.mergeSort_perm elements notAfter).filter (rank · = place)
  exact (again.eq_of_length permuted.length_eq.symm).symm

theorem mergeSort_eq_iff :
    elements.mergeSort notAfter = others.mergeSort notAfter ↔
      ∀ place, elements.filter (rank · = place) = others.filter (rank · = place) := by
  constructor
  · intro same place
    rw [← filter_rank_mergeSort ranked elements, same, filter_rank_mergeSort ranked]
  · intro same
    apply eq_of_filter_rank (pairwise_rank_mergeSort ranked elements)
      (pairwise_rank_mergeSort ranked others)
    intro place
    rw [filter_rank_mergeSort ranked, filter_rank_mergeSort ranked, same]

end Sorting

/-! ### What graphs are sorted by -/

def CallNode.rank (node : CallNode) : Nat ×ₗ String :=
  toLex (node.depth, node.id)

def CallEdge.rank (edge : CallEdge) : String ×ₗ String ×ₗ Nat ×ₗ String :=
  toLex (edge.caller, toLex (edge.callee, toLex (edge.line, edge.callType.label)))

theorem CallNode.notAfter_iff (first second : CallNode) :
    first.notAfter second = true ↔ first.rank ≤ second.rank := by
  unfold notAfter rank
  rw [Prod.Lex.toLex_le_toLex]
  split
  · rename_i same
    simp [same]
  · rename_i different
    simp [different]

theorem CallEdge.notAfter_iff (first second : CallEdge) :
    first.notAfter second = true ↔ first.rank ≤ second.rank := by
  unfold notAfter rank
  simp only [Prod.Lex.toLex_le_toLex]
  repeat' split
  all_goals simp_all

theorem CallType.label_injective {first second : CallType} (same : first.label = second.label) :
    first = second := by
  cases first <;> cases second <;> first | rfl | exact absurd same (by decide)

/-- The edge without its flag. -/
def CallEdge.unflagged (edge : CallEdge) : CallEdge :=
  { edge with isCycle := false }

theorem CallEdge.rank_unflagged (edge : CallEdge) : edge.unflagged.rank = edge.rank := rfl

/-- Of edges that differ only in their flags, those that are flagged stand last. -/
def FlagsLast (edges : List CallEdge) : Prop :=
  edges.Pairwise fun earlier later =>
    earlier.unflagged = later.unflagged → earlier.isCycle = true → later.isCycle = true

theorem CallEdge.eq_of_unflagged {first second : CallEdge}
    (same : first.unflagged = second.unflagged) (sameFlag : first.isCycle = second.isCycle) :
    first = second := by
  cases first
  cases second
  simp_all [unflagged]

section Ties

variable {edges others : List CallEdge}

/-- Among these edges, those that are sorted alike differ only in their flags. -/
def TiedByFlag (edges : List CallEdge) : Prop :=
  ∀ first ∈ edges, ∀ second ∈ edges, first.rank = second.rank → first.unflagged = second.unflagged

theorem TiedByFlag.of_classified {graph : CallGraph} {options : ResolverOptions}
    (classified : graph.Classified options) : TiedByFlag graph.edges := by
  intro first firstMember second secondMember same
  simp only [CallEdge.rank, toLex_inj, Prod.mk.injEq] at same
  obtain ⟨caller, callee, line, label⟩ := same
  have callType := CallType.label_injective label
  have isAsync : first.isAsync = second.isAsync := by
    rw [Bool.eq_iff_iff, classified.async first firstMember, classified.async second secondMember,
      callType]
  simp [CallEdge.unflagged, caller, callee, line, callType, isAsync]

theorem TiedByFlag.mergeSort_unflagged (tied : TiedByFlag edges) (permuted : others.Perm edges) :
    (others.mergeSort CallEdge.notAfter).map CallEdge.unflagged =
      (edges.mergeSort CallEdge.notAfter).map CallEdge.unflagged := by
  have ordered : ∀ list : List CallEdge,
      ((list.mergeSort CallEdge.notAfter).map CallEdge.unflagged).Pairwise (·.rank ≤ ·.rank) :=
    fun list => List.pairwise_map.mpr (pairwise_rank_mergeSort CallEdge.notAfter_iff list)
  refine List.Perm.eq_of_pairwise ?_ (ordered others) (ordered edges)
    ((perm_mergeSort permuted).map _)
  intro first second firstMember secondMember before after
  obtain ⟨one, oneMember, rfl⟩ := List.mem_map.mp firstMember
  obtain ⟨two, twoMember, rfl⟩ := List.mem_map.mp secondMember
  exact tied one (permuted.mem_iff.mp (List.mem_mergeSort.mp oneMember)) two
    (List.mem_mergeSort.mp twoMember) (le_antisymm before after)

/-- Permuted edges are sorted into the same list exactly if their flags stand last too. -/
theorem TiedByFlag.mergeSort_eq_iff (tied : TiedByFlag edges) (flags : FlagsLast edges)
    (permuted : others.Perm edges) :
    others.mergeSort CallEdge.notAfter = edges.mergeSort CallEdge.notAfter ↔ FlagsLast others := by
  rw [GoAtlas.mergeSort_eq_iff CallEdge.notAfter_iff]
  constructor
  · intro same
    apply List.pairwise_iff_forall_sublist.mpr
    intro earlier later pair alike
    -- the two edges have one rank, and all edges of that rank stand as they do in the other list
    have sameRank : earlier.rank = later.rank := by
      rw [← earlier.rank_unflagged, alike, later.rank_unflagged]
    have amongOthers := pair.filter (·.rank = later.rank)
    rw [same, List.filter_cons_of_pos (by simpa using sameRank),
      List.filter_cons_of_pos (by simp), List.filter_nil] at amongOthers
    exact List.pairwise_iff_forall_sublist.mp flags (amongOthers.trans List.filter_sublist) alike
  · intro othersFlags place
    have ordered : ∀ {list : List CallEdge}, FlagsLast list → list ⊆ edges →
        (list.filter (·.rank = place)).Pairwise
          fun earlier later => earlier.isCycle = true → later.isCycle = true := by
      intro list listFlags within
      apply (listFlags.sublist List.filter_sublist).imp_of_mem
      intro earlier later earlierMember laterMember keeps
      obtain ⟨earlierMember, earlierRank⟩ := List.mem_filter.mp earlierMember
      obtain ⟨laterMember, laterRank⟩ := List.mem_filter.mp laterMember
      simp only [decide_eq_true_eq] at earlierRank laterRank
      exact keeps (tied earlier (within earlierMember) later (within laterMember)
        (earlierRank.trans laterRank.symm))
    refine List.Perm.eq_of_pairwise ?_ (ordered othersFlags permuted.subset)
      (ordered flags (List.Subset.refl _)) (permuted.filter _)
    intro first second firstMember secondMember before after
    obtain ⟨firstMember, firstRank⟩ := List.mem_filter.mp firstMember
    obtain ⟨secondMember, secondRank⟩ := List.mem_filter.mp secondMember
    simp only [decide_eq_true_eq] at firstRank secondRank
    apply CallEdge.eq_of_unflagged
    · exact tied first (permuted.subset firstMember) second secondMember
        (firstRank.trans secondRank.symm)
    · rw [Bool.eq_iff_iff]
      exact ⟨before, after⟩

theorem mergeSort_nodes_eq {nodes others : List CallNode} (distinct : (nodes.map (·.id)).Nodup)
    (permuted : others.Perm nodes) :
    others.mergeSort CallNode.notAfter = nodes.mergeSort CallNode.notAfter := by
  refine List.Perm.eq_of_pairwise ?_ (pairwise_rank_mergeSort CallNode.notAfter_iff others)
    (pairwise_rank_mergeSort CallNode.notAfter_iff nodes) (perm_mergeSort permuted)
  intro first second firstMember secondMember before after
  have same : first.rank = second.rank := le_antisymm before after
  simp only [CallNode.rank, toLex_inj, Prod.mk.injEq] at same
  exact List.inj_on_of_nodup_map distinct (permuted.mem_iff.mp (List.mem_mergeSort.mp firstMember))
    (List.mem_mergeSort.mp secondMember) same.2

end Ties

/-! ### Graphs as they are built -/

/-- The graph with other lists of nodes and edges. -/
def CallGraph.withLists (graph : CallGraph) (nodes : List CallNode) (edges : List CallEdge) :
    CallGraph :=
  { graph with nodes, edges }

namespace Walker

variable {walker : Walker} {entry : String} {graph : CallGraph} {nodes : List CallNode}
  {edges : List CallEdge}

/-- Once an edge is flagged its target is known, so all further edges to the target are flagged. -/
theorem FlaggedByOrder.flagsLast (flagged : walker.FlaggedByOrder nodes edges) :
    FlagsLast edges := by
  apply List.pairwise_iff_forall_sublist.mpr
  intro earlier later pair same isCycle
  have sameCallee : earlier.callee = later.callee :=
    (congrArg CallEdge.callee same : earlier.unflagged.callee = later.unflagged.callee)
  obtain ⟨before, after, split, member⟩ := exists_split_of_pair pair
  obtain ⟨first, between, rfl⟩ := List.append_of_mem member
  have inner := ((flagged first earlier (between ++ later :: after) (by simp [split])).mp
    isCycle).1
  exact (flagged _ later after split).mpr ⟨sameCallee ▸ inner, .inr ⟨earlier, member, sameCallee⟩⟩

/-- What sorting relies on in the graphs that are built. -/
structure Sortable (graph : CallGraph) : Prop where
  distinct : (graph.nodes.map (·.id)).Nodup
  tied : TiedByFlag graph.edges
  flags : FlagsLast graph.edges

theorem sortable_of_build (built : walker.index.Buildable)
    (isBuilt : walker.build entry = .ok graph) : Sortable graph := by
  have classified := classified_build built isBuilt
  obtain ⟨indexed, rfl⟩ := build_eq_ok_iff.mp isBuilt
  have names := built.namesOnly
  have reached := reached_visitAll names [entry]
  exact ⟨reached.coherent.wellFormed.distinct, .of_classified classified,
    (reached.flaggedByOrder names).flagsLast⟩

/-- Graphs of any two walks sort alike if they have the same nodes and edges in any order. -/
theorem sorted_eq_of_build {other : Walker} {otherEntry : String} {otherGraph : CallGraph}
    (built : walker.index.Buildable) (isBuilt : walker.build entry = .ok graph)
    (otherBuilt : other.index.Buildable) (otherIsBuilt : other.build otherEntry = .ok otherGraph)
    (sameNodes : otherGraph.nodes.Perm graph.nodes)
    (sameEdges : otherGraph.edges.Perm graph.edges) :
    otherGraph.sorted.nodes = graph.sorted.nodes ∧
      otherGraph.sorted.edges = graph.sorted.edges := by
  have sortable := sortable_of_build built isBuilt
  have otherSortable := sortable_of_build otherBuilt otherIsBuilt
  exact ⟨mergeSort_nodes_eq sortable.distinct sameNodes,
    (sortable.tied.mergeSort_eq_iff sortable.flags sameEdges).mpr otherSortable.flags⟩

/-- Sorting a permuted graph gives the nodes of the sorted graph, and its edges but for their flags;
the flags agree exactly if those of edges that are otherwise equal stand last. -/
theorem sorted_permuted (built : walker.index.Buildable) (isBuilt : walker.build entry = .ok graph)
    (permutedNodes : nodes.Perm graph.nodes) (permutedEdges : edges.Perm graph.edges) :
    (graph.withLists nodes edges).sorted.nodes = graph.sorted.nodes ∧
      (graph.withLists nodes edges).sorted.edges.map CallEdge.unflagged =
        graph.sorted.edges.map CallEdge.unflagged ∧
      ((graph.withLists nodes edges).sorted.edges = graph.sorted.edges ↔ FlagsLast edges) := by
  have sortable := sortable_of_build built isBuilt
  exact ⟨mergeSort_nodes_eq sortable.distinct permutedNodes,
    sortable.tied.mergeSort_unflagged permutedEdges,
    sortable.tied.mergeSort_eq_iff sortable.flags permutedEdges⟩

end Walker

/-! ### Two calls on one line -/

/-- A function that calls another twice on one line. -/
def echo : Source where
  directory := "p"
  file := "a.go"
  content := "package p\nfunc A() \x7b\nB(); B()\n\x7d\nfunc B() \x7b\n\x7d\n".toUTF8.toList

def echoUnit : Go.SourceUnit where
  packageName := "p"
  imports := []
  types := []
  functions :=
    [⟨"A", "p", "a.go", 2, [.function "B" 3, .function "B" 3]⟩, ⟨"B", "p", "a.go", 5, []⟩]
  methods := []

theorem read_echo : Go.SourceUnit.read echo.content "p" echo.file = .ok echoUnit := by
  decide +kernel

def echoWalker : Walker where
  resolver := ⟨Index.empty.addUnit "p" echo.directory echoUnit, .standard⟩
  maxDepth := 10
  exclude := []

theorem buildable_echo : echoWalker.index.Buildable := by
  have kept : IndexOptions.standard.packageIds.packageId echo.directory = "p" := by
    decide
  exact Index.buildable_of_read kept read_echo

def echoGraph : CallGraph where
  eventId := none
  eventName := none
  entryPoint := "p.A"
  nodes :=
    [⟨"p.A", some "p", "A", none, .function, some "a.go", some 2, 0⟩,
      ⟨"p.B", some "p", "B", none, .function, some "a.go", some 5, 1⟩]
  edges :=
    [⟨"p.A", "p.B", .direct, 3, false, false⟩, ⟨"p.A", "p.B", .direct, 3, false, true⟩]
  maxDepth := 10
  actualDepth := 1
  stats := ⟨2, 2, 1, 0, 0, 1, 0⟩
  warnings := []

theorem build_echo : echoWalker.build "p.A" = .ok echoGraph := by
  rw [Walker.build_eq_advanceFrom 4 (by decide) (by decide)]
  decide

theorem not_flagsLast_reverse_echo : ¬FlagsLast echoGraph.edges.reverse := by
  unfold FlagsLast
  decide

namespace Walker

/-- Sorting does not make all permutations of a graph equal. -/
theorem not_canonical_echo :
    ¬∀ (walker : Walker) (entry : String) (graph : CallGraph) (nodes : List CallNode)
      (edges : List CallEdge), walker.index.Buildable → isMaxDepth walker.maxDepth = true →
        walker.build entry = .ok graph → nodes.Perm graph.nodes → edges.Perm graph.edges →
          (graph.withLists nodes edges).sorted.nodes = graph.sorted.nodes ∧
            (graph.withLists nodes edges).sorted.edges = graph.sorted.edges := by
  intro canonical
  have sortable := sortable_of_build buildable_echo build_echo
  have reversed := List.reverse_perm echoGraph.edges
  obtain ⟨-, same⟩ := canonical echoWalker "p.A" echoGraph echoGraph.nodes echoGraph.edges.reverse
    buildable_echo rfl build_echo (List.Perm.refl _) reversed
  exact not_flagsLast_reverse_echo
    ((sortable.tied.mergeSort_eq_iff sortable.flags reversed).mp same)

theorem sorted_permuted_echo :
    echoWalker.index.Buildable ∧ echoWalker.build "p.A" = .ok echoGraph ∧
      (echoGraph.withLists echoGraph.nodes.reverse echoGraph.edges.reverse).sorted.nodes =
        echoGraph.sorted.nodes ∧
      (echoGraph.withLists echoGraph.nodes.reverse echoGraph.edges.reverse).sorted.edges ≠
        echoGraph.sorted.edges := by
  obtain ⟨nodes, -, edges⟩ := sorted_permuted buildable_echo build_echo
    (List.reverse_perm echoGraph.nodes) (List.reverse_perm echoGraph.edges)
  exact ⟨buildable_echo, build_echo, nodes, mt edges.mp not_flagsLast_reverse_echo⟩

end Walker

end GoAtlas
