import GoAtlas.Go.Tree
import Mathlib.Data.List.Basic
import Mathlib.Data.List.Flatten

/-!
Paths in syntax trees. A path says at each node which child comes next, counted from zero, and leads
to one node of the tree. Nodes come in the order in which a source spells them exactly as their
paths come in the order of dictionaries, where a path comes before all that go further.
-/

namespace GoAtlas.Go

abbrev Path := List Nat

namespace Node

/-- What holds of a node whenever it holds of its children holds of every node. -/
theorem inductionOnChildren {holds : Node → Prop}
    (step : ∀ node : Node, (∀ child ∈ node.children, holds child) → holds node) :
    ∀ node, holds node
  | .mk kind role line text children =>
      step _ fun child (member : child ∈ children) =>
        have : sizeOf child < sizeOf (Node.mk kind role line text children) := by
          have smaller := List.sizeOf_lt_of_mem member
          simp only [mk.sizeOf_spec]
          omega
        inductionOnChildren step child
termination_by node => sizeOf node

/-- The node to which a path leads, if it stays in the tree. -/
def descend? : Node → Path → Option Node
  | node, [] => some node
  | node, rank :: rest => node.children[rank]?.bind fun child => child.descend? rest

variable {node child : Node} {path : Path}

@[simp]
theorem descend?_nil (node : Node) : node.descend? [] = some node := by
  rw [descend?]

theorem descend?_cons_eq_some_iff {rank : Nat} {reached : Node} :
    node.descend? (rank :: path) = some reached ↔
      ∃ child, node.children[rank]? = some child ∧ child.descend? path = some reached := by
  rw [descend?, Option.bind_eq_some_iff]

theorem descend?_append (node : Node) (path further : Path) :
    node.descend? (path ++ further) =
      (node.descend? path).bind fun reached => reached.descend? further := by
  induction path generalizing node with
  | nil => simp
  | cons rank rest inductionHypothesis =>
      simp only [List.cons_append, descend?, Option.bind_assoc, inductionHypothesis]

/-! ### The order of the nodes -/

mutual

/-- The node and all below it, in the order in which a source spells them. -/
def nodes : Node → List Node
  | .mk kind role line text children => .mk kind role line text children :: nodesOf children

def nodesOf : List Node → List Node
  | [] => []
  | child :: rest => child.nodes ++ nodesOf rest

end

theorem nodes_eq (node : Node) : node.nodes = node :: node.children.flatMap nodes := by
  have all (children : List Node) : nodesOf children = children.flatMap nodes := by
    induction children with
    | nil => rfl
    | cons child rest inductionHypothesis =>
        rw [nodesOf, inductionHypothesis, List.flatMap_cons]
  cases node
  rw [nodes, all, children_mk]

theorem mem_nodes_of_descend? {reached : Node} (found : node.descend? path = some reached) :
    reached ∈ node.nodes := by
  induction path generalizing node with
  | nil =>
      rw [descend?_nil, Option.some.injEq] at found
      rw [nodes_eq, found]
      exact List.mem_cons_self
  | cons rank rest inductionHypothesis =>
      obtain ⟨child, isChild, found⟩ := descend?_cons_eq_some_iff.mp found
      rw [nodes_eq]
      exact List.mem_cons_of_mem _
        (List.mem_flatMap.mpr ⟨child, List.mem_of_getElem? isChild, inductionHypothesis found⟩)

theorem pair_sublist {Element : Type} {elements : List Element} {first second : Element}
    {rank later : Nat} (before : rank < later) (found : elements[rank]? = some first)
    (laterFound : elements[later]? = some second) : [first, second].Sublist elements := by
  induction elements generalizing rank later with
  | nil => simp at found
  | cons head rest inductionHypothesis =>
      obtain ⟨later, rfl⟩ := Nat.exists_eq_succ_of_ne_zero (Nat.ne_zero_of_lt before)
      rw [Nat.succ_eq_add_one, List.getElem?_cons_succ] at laterFound
      cases rank with
      | zero =>
          rw [List.getElem?_cons_zero, Option.some.injEq] at found
          exact found ▸ (List.singleton_sublist.mpr (List.mem_of_getElem? laterFound)).cons_cons _
      | succ rank =>
          rw [List.getElem?_cons_succ] at found
          exact (inductionHypothesis (Nat.lt_of_succ_lt_succ before) found laterFound).cons _

/-- Paths come in the order of the nodes to which they lead. -/
theorem pair_sublist_nodes {later : Path} {first second : Node} (before : path < later)
    (found : node.descend? path = some first) (laterFound : node.descend? later = some second) :
    [first, second].Sublist node.nodes := by
  change List.Lex (· < ·) path later at before
  induction before generalizing node with
  | @nil rank rest =>
      rw [descend?_nil, Option.some.injEq] at found
      subst found
      obtain ⟨child, isChild, laterFound⟩ := descend?_cons_eq_some_iff.mp laterFound
      rw [nodes_eq]
      refine (List.singleton_sublist.mpr (List.mem_flatMap.mpr ?_)).cons_cons _
      exact ⟨child, List.mem_of_getElem? isChild, mem_nodes_of_descend? laterFound⟩
  | @cons rank rest laterRest _ inductionHypothesis =>
      obtain ⟨child, isChild, found⟩ := descend?_cons_eq_some_iff.mp found
      obtain ⟨_, isSame, laterFound⟩ := descend?_cons_eq_some_iff.mp laterFound
      rw [isChild, Option.some.injEq] at isSame
      subst isSame
      rw [nodes_eq]
      refine (List.Sublist.trans (inductionHypothesis found laterFound) ?_).cons _
      simpa using (List.singleton_sublist.mpr (List.mem_of_getElem? isChild)).flatMap nodes
  | @rel rank rest laterRank laterRest less =>
      obtain ⟨child, isChild, found⟩ := descend?_cons_eq_some_iff.mp found
      obtain ⟨laterChild, isLaterChild, laterFound⟩ := descend?_cons_eq_some_iff.mp laterFound
      rw [nodes_eq]
      refine List.Sublist.cons _ ?_
      have children := (pair_sublist less isChild isLaterChild).flatMap nodes
      refine List.Sublist.trans ?_ children
      rw [List.flatMap_cons, List.flatMap_cons, List.flatMap_nil, List.append_nil]
      exact (List.singleton_sublist.mpr (mem_nodes_of_descend? found)).append
        (List.singleton_sublist.mpr (mem_nodes_of_descend? laterFound))

/-- No node begins on a line before that of a node that the source spells earlier. -/
def Ascends (body : Node) : Prop :=
  body.nodes.Pairwise fun node later => node.line ≤ later.line

instance (body : Node) : Decidable body.Ascends :=
  inferInstanceAs (Decidable (body.nodes.Pairwise fun node later => node.line ≤ later.line))

theorem Ascends.line_le {later : Path} {first second : Node} (ascends : node.Ascends)
    (before : path < later) (found : node.descend? path = some first)
    (laterFound : node.descend? later = some second) : first.line ≤ second.line := by
  have both := List.Pairwise.sublist (pair_sublist_nodes before found laterFound) ascends
  simpa using both

end Node

end GoAtlas.Go
