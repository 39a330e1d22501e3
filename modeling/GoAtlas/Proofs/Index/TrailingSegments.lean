import GoAtlas.Index
import GoAtlas.Proofs.Index.Tables
import GoAtlas.Proofs.Text.ByteOrder
import Mathlib.Data.List.Induction
import Mathlib.Order.Bounds.Basic

/-!
Packages by import path. Counting from the end the segments that two paths share gives the length
of the longest list of segments in which both end. The search among the identifiers of packages
keeps the first one that shares most, so an import path that is no package refers to the smallest
identifier among the best matches, and to none if nothing matches.
-/

namespace GoAtlas.Index

/-! ### Shared ends -/

section

variable {Element : Type} [DecidableEq Element] {elements others : List Element}

theorem take_commonPrefixLength (elements others : List Element) :
    elements.take (commonPrefixLength elements others) =
      others.take (commonPrefixLength elements others) := by
  fun_induction commonPrefixLength elements others with
  | case1 rest otherRest first inductionHypothesis => simp [inductionHypothesis]
  | case2 => simp
  | case3 => simp

theorem commonPrefixLength_le (elements others : List Element) :
    commonPrefixLength elements others ≤ elements.length := by
  fun_induction commonPrefixLength elements others with
  | case1 rest otherRest first inductionHypothesis =>
      exact Nat.succ_le_succ inductionHypothesis
  | case2 => exact Nat.zero_le _
  | case3 => exact Nat.zero_le _

theorem length_le_commonPrefixLength {beginning : List Element} (begins : beginning <+: elements)
    (otherBegins : beginning <+: others) :
    beginning.length ≤ commonPrefixLength elements others := by
  induction beginning generalizing elements others with
  | nil => exact Nat.zero_le _
  | cons first rest inductionHypothesis =>
      obtain ⟨after, rfl⟩ := begins
      obtain ⟨otherAfter, rfl⟩ := otherBegins
      simp only [List.cons_append, commonPrefixLength, if_true, List.length_cons]
      exact Nat.succ_le_succ
        (inductionHypothesis (List.prefix_append _ _) (List.prefix_append _ _))

/-- What lists share from their start, when both are turned round, is what they share at their
ends. -/
theorem isGreatest_commonPrefixLength_reverse (elements others : List Element) :
    IsGreatest
      {length | ∃ ending, ending <:+ elements ∧ ending <:+ others ∧ ending.length = length}
      (commonPrefixLength elements.reverse others.reverse) := by
  constructor
  · refine ⟨(elements.reverse.take (commonPrefixLength elements.reverse others.reverse)).reverse,
      ?_, ?_, ?_⟩
    · rw [← List.reverse_prefix, List.reverse_reverse]
      exact List.take_prefix _ _
    · rw [← List.reverse_prefix, List.reverse_reverse, take_commonPrefixLength]
      exact List.take_prefix _ _
    · rw [List.length_reverse, List.length_take]
      exact Nat.min_eq_left (commonPrefixLength_le _ _)
  · rintro _ ⟨ending, ends, otherEnds, rfl⟩
    rw [← List.length_reverse]
    exact length_le_commonPrefixLength (List.reverse_prefix.mpr ends)
      (List.reverse_prefix.mpr otherEnds)

end

/-- So many segments is the longest list in which both paths end. -/
def SharesSegments (path other : String) (length : Nat) : Prop :=
  IsGreatest
    {count | ∃ ending, ending <:+ Text.split '/' path ∧ ending <:+ Text.split '/' other ∧
      ending.length = count} length

variable {path id : String}

theorem sharesSegments_iff {other : String} {length : Nat} :
    SharesSegments path other length ↔ sharedTrailingSegments path other = length := by
  have greatest : SharesSegments path other (sharedTrailingSegments path other) :=
    isGreatest_commonPrefixLength_reverse _ _
  constructor
  · exact greatest.unique
  · rintro rfl
    exact greatest

/-! ### The best match -/

/-- No identifier among these shares more segments with the path, and none before this one shares
as many. -/
structure IsBest (path : String) (ids : List String) (id : String) : Prop where
  member : id ∈ ids
  shares : 0 < sharedTrailingSegments path id
  most : ∀ other ∈ ids, sharedTrailingSegments path other ≤ sharedTrailingSegments path id
  first : ∀ other ∈ ids, sharedTrailingSegments path other = sharedTrailingSegments path id →
    id ≤ other

/-- What a search among these identifiers has found. -/
inductive Finds (path : String) (ids : List String) : Option (String × Nat) → Prop where
  | best {id : String} (best : IsBest path ids id) :
      Finds path ids (some (id, sharedTrailingSegments path id))
  | nothing (apart : ∀ id ∈ ids, sharedTrailingSegments path id = 0) : Finds path ids none

theorem forall_mem_concat {ids : List String} {holds : String → Prop}
    (earlier : ∀ other ∈ ids, holds other) (last : holds id) :
    ∀ other ∈ ids ++ [id], holds other :=
  List.forall_mem_append.mpr ⟨earlier, List.forall_mem_singleton.mpr last⟩

/-- What shares more than everything before it is the best match with it. -/
theorem isBest_concat {ids : List String} (shares : 0 < sharedTrailingSegments path id)
    (better : ∀ earlier ∈ ids,
      sharedTrailingSegments path earlier < sharedTrailingSegments path id) :
    IsBest path (ids ++ [id]) id where
  member := List.mem_append_right _ (List.mem_singleton.mpr rfl)
  shares := shares
  most := forall_mem_concat (fun earlier member => (better earlier member).le) le_rfl
  first := forall_mem_concat
    (fun earlier member asMany => absurd asMany (better earlier member).ne) fun _ => le_rfl

/-- The best match stays the best beside a later identifier that shares no more. -/
theorem IsBest.concat {ids : List String} {other : String} (best : IsBest path ids id)
    (notBetter : sharedTrailingSegments path other ≤ sharedTrailingSegments path id)
    (later : id < other) : IsBest path (ids ++ [other]) id where
  member := List.mem_append_left _ best.member
  shares := best.shares
  most := forall_mem_concat best.most notBetter
  first := forall_mem_concat best.first fun _ => later.le

/-- A further identifier, which comes after all others, is kept only if it shares more. -/
theorem Finds.betterMatch {ids : List String} {found : Option (String × Nat)}
    (finds : Finds path ids found) (later : ∀ earlier ∈ ids, earlier < id) :
    Finds path (ids ++ [id]) (betterMatch path found id) := by
  unfold Index.betterMatch
  cases finds with
  | @best kept best =>
      dsimp only
      split
      · rename_i better
        refine .best (isBest_concat (Nat.zero_lt_of_lt better) fun earlier member => ?_)
        exact Nat.lt_of_le_of_lt (best.most earlier member) better
      · rename_i notBetter
        exact .best (best.concat (Nat.le_of_not_lt notBetter) (later kept best.member))
  | nothing apart =>
      dsimp only
      split
      · rename_i shares
        refine .best (isBest_concat shares fun earlier member => ?_)
        rw [apart earlier member]
        exact shares
      · rename_i sharesNothing
        exact .nothing (forall_mem_concat apart (Nat.eq_zero_of_not_pos sharesNothing))

/-- The search meets the identifiers in their order, so the invariant is about those met so far. -/
theorem finds_foldl {ids : List String} (ordered : ids.Pairwise (· < ·)) :
    Finds path ids (ids.foldl (betterMatch path) none) := by
  induction ids using List.reverseRecOn with
  | nil => exact .nothing fun _ member => by cases member
  | append_singleton ids id inductionHypothesis =>
      obtain ⟨earlierOrdered, -, later⟩ := List.pairwise_append.mp ordered
      rw [List.foldl_append, List.foldl_cons, List.foldl_nil]
      exact (inductionHypothesis earlierOrdered).betterMatch
        fun earlier member => later earlier member id (List.mem_singleton.mpr rfl)

/-! ### What an import path refers to -/

/-- An import path refers to the package with just this identifier. If there is none, it refers to
a package that shares most trailing segments with it, to the first of these in the order of their
bytes, and to no package if none shares any. -/
inductive RefersTo (index : Index) (path : String) : Option String → Prop where
  | itself (known : path ∈ index.packages.keys) : index.RefersTo path (some path)
  | closest {id : String} {length : Nat} (unknown : path ∉ index.packages.keys)
      (member : id ∈ index.packages.keys) (shares : SharesSegments path id length)
      (some : 0 < length)
      (best : ∀ other ∈ index.packages.keys, ∀ count, SharesSegments path other count →
        count < length ∨ count = length ∧ id.toUTF8.data.toList ≤ other.toUTF8.data.toList) :
      index.RefersTo path (Option.some id)
  | nothing (unknown : path ∉ index.packages.keys)
      (apart : ∀ id ∈ index.packages.keys, SharesSegments path id 0) : index.RefersTo path none

variable {index : Index}

theorem le_iff_bytes_le {other : String} :
    id ≤ other ↔ id.toUTF8.data.toList ≤ other.toUTF8.data.toList := by
  rw [← not_lt, Text.Utf8.lt_iff_bytes_lt, List.not_lt]

theorem IsBest.refersTo (unknown : path ∉ index.packages.keys)
    (best : IsBest path index.packages.keys id) : index.RefersTo path (some id) := by
  refine .closest unknown best.member (sharesSegments_iff.mpr rfl) best.shares ?_
  intro other member count shares
  obtain rfl := sharesSegments_iff.mp shares
  rcases (best.most other member).lt_or_eq with fewer | asMany
  · exact .inl fewer
  · exact .inr ⟨asMany, le_iff_bytes_le.mp (best.first other member asMany)⟩

theorem refersTo_packageOfImport? (index : Index) (path : String) :
    index.RefersTo path (index.packageOfImport? path) := by
  unfold packageOfImport?
  split
  · rename_i known
    exact .itself (Table.mem_keys_iff.mpr known)
  · rename_i unknown
    have notMember : path ∉ index.packages.keys := fun member =>
      unknown (Table.mem_keys_iff.mp member)
    generalize same : index.packages.keys.foldl (betterMatch path) none = found
    have finds : Finds path index.packages.keys found :=
      same ▸ finds_foldl index.packages.keys_ordered
    cases finds with
    | best best => exact best.refersTo notMember
    | nothing apart =>
        exact .nothing notMember fun id member => sharesSegments_iff.mpr (apart id member)

theorem RefersTo.unique {answer other : Option String} (refers : index.RefersTo path answer)
    (otherRefers : index.RefersTo path other) : answer = other := by
  cases refers with
  | itself known =>
      cases otherRefers with
      | itself => rfl
      | closest unknown => exact absurd known unknown
      | nothing unknown => exact absurd known unknown
  | closest unknown member shares some best =>
      cases otherRefers with
      | itself known => exact absurd known unknown
      | closest _ otherMember otherShares _ otherBest =>
          rcases best _ otherMember _ otherShares with fewer | ⟨same, before⟩ <;>
            rcases otherBest _ member _ shares with otherFewer | ⟨otherSame, after⟩
          · exact absurd otherFewer fewer.asymm
          · exact absurd otherSame fewer.ne'
          · exact absurd same otherFewer.ne'
          · exact congrArg Option.some
              (le_antisymm (le_iff_bytes_le.mpr before) (le_iff_bytes_le.mpr after))
      | nothing _ apart =>
          obtain rfl := shares.unique (apart _ member)
          exact absurd some (Nat.lt_irrefl 0)
  | nothing unknown apart =>
      cases otherRefers with
      | itself known => exact absurd known unknown
      | closest _ member shares some _ =>
          obtain rfl := shares.unique (apart _ member)
          exact absurd some (Nat.lt_irrefl 0)
      | nothing => rfl

/-- Looking up the package of an import path gives the one to which it refers, if there is one. -/
theorem packageOfImport?_eq_iff (index : Index) (path : String) (answer : Option String) :
    index.packageOfImport? path = answer ↔ index.RefersTo path answer := by
  constructor
  · rintro rfl
    exact index.refersTo_packageOfImport? path
  · exact (index.refersTo_packageOfImport? path).unique

example : sharedTrailingSegments "example.com/app/store" "lib/store" = 1 ∧
    sharedTrailingSegments "app//" "lib//" = 2 := by decide +kernel

end GoAtlas.Index
