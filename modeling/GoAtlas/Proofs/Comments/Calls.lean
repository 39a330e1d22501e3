import GoAtlas.Proofs.Calls.Alike
import GoAtlas.Proofs.Comments.Insertion

/-!
Call sites of a body with comments put in. They are those of the body itself, up to the lines on
which they stand.
-/

namespace GoAtlas

/-- What a site says of its call, wherever the call stands. -/
def CallSite.withoutLine (site : CallSite) : CallSite :=
  { site with line := 0 }

namespace Go

variable {reading : Reading} {node other call otherCall : Node} {imports : ImportNames}
  {launch : Launch}

namespace Commented

/-- Inside parentheses that are looked through, the same is found. -/
theorem unparenthesize (commented : Commented reading node other)
    (opened : reading.opened = true) :
    ∃ inner : Reading, inner.opened = true ∧
      Commented inner (Go.unparenthesize node) (Go.unparenthesize other) := by
  fun_induction Go.unparenthesize node generalizing reading other with
  | case1 role line text first rest inductionHypothesis =>
      obtain ⟨inside⟩ := commented
      rw [opened] at inside
      cases inside with
      | child here =>
          have passes : Kind.parenthesizedExpression.passes first.role = true := rfl
          rw [Go.unparenthesize]
          exact inductionHypothesis here (Reading.opened_child opened passes)
  | case2 node notWrapped =>
      refine ⟨reading, opened, ?_⟩
      suffices plain : Go.unparenthesize other = other by rwa [plain]
      refine Node.unwraps_iff.mp ⟨[], .plain ?_⟩
      by_cases parenthesized : node.kind = .parenthesizedExpression
      · have inside := commented.inside
        obtain ⟨kind, role, line, text, children⟩ := node
        obtain rfl : kind = .parenthesizedExpression := parenthesized
        cases children with
        | nil =>
            rw [opened] at inside
            generalize other.children = others at inside ⊢
            cases inside
            exact .inr rfl
        | cons first rest => exact absurd rfl (notWrapped role line text first rest)
      · exact .inl (commented.kind ▸ parenthesized)

/-- An expression that is looked through looks the same without the comments. -/
theorem looksAlike :
    LooksAlike fun node other => ∃ reading : Reading, reading.opened = true ∧
      Commented reading node other where
  kind := fun ⟨_, _, commented⟩ => commented.kind
  text := fun ⟨_, _, commented⟩ => commented.text
  inside := fun ⟨_, opened, commented⟩ => commented.unparenthesize opened
  operand := by
    rintro node other ⟨reading, opened, commented⟩ selector
    refine commented.child? .operand fun child otherChild related => ?_
    exact ⟨_, Reading.opened_child opened (by rw [selector]; rfl), related⟩
  field := by
    rintro node other ⟨reading, opened, commented⟩ -
    exact commented.child? .field fun child otherChild related => related.text

/-- A call that is found or launched has the site that it has without the comments. -/
theorem callSite? (imports : ImportNames) (launch : Launch)
    (commented : Commented reading call otherCall)
    (reached : reading.searched = true ∨ reading.opened = true)
    (isCall : call.kind = .callExpression) :
    (Go.callSite? imports launch otherCall).map (·.withoutLine) =
      (Go.callSite? imports launch call).map (·.withoutLine) := by
  have opened : (reading.child call.kind (some .function)).opened = true := by
    rw [isCall]
    rcases reached with searched | opened
    · exact Reading.opened_of_calls searched rfl
    · exact Reading.opened_child opened rfl
  have callees := looksAlike.callSite? imports launch
    (commented.child? .function fun _ _ related => ⟨_, opened, related⟩)
  rw [callees, Option.map_map]
  rfl

/-- Comments are no calls: of a statement that is searched, the same call is launched. -/
theorem launchedCall? (commented : Commented reading node other)
    (searched : reading.searched = true) (launches : node.kind.launch? = some launch) :
    Option.Rel (fun call otherCall => ∃ inner : Reading, inner.opened = true ∧
      Commented inner call otherCall) (Go.launchedCall? node) (Go.launchedCall? other) := by
  have calls (role : Option Role) : node.kind.calls role = true := by
    unfold Kind.launch? at launches
    split at launches
    · rw [‹node.kind = _›, Kind.calls]
    · rw [‹node.kind = _›, Kind.calls]
    · cases launches
  refine looksAlike.launchedCall?
    (commented.inside.find? (fun kind _ => kind != .comment) rfl ?_)
  intro written _ _ otherWritten related
  exact ⟨_, Reading.opened_of_calls searched (calls _), related⟩

/-- The same calls are recorded of a node that is searched. -/
theorem callSites (imports : ImportNames) (commented : Commented reading node other)
    (searched : reading.searched = true) :
    (Go.callSites imports other).map (·.withoutLine) =
      (Go.callSites imports node).map (·.withoutLine) := by
  induction node using Node.inductionOnChildren generalizing reading other with
  | step node inductionHypothesis =>
      cases launches : node.kind.launch? with
      | some launch =>
          have otherLaunches : other.kind.launch? = some launch := commented.kind ▸ launches
          rw [Node.callSites_of_launch launches, Node.callSites_of_launch otherLaunches]
          have calls := commented.launchedCall? searched launches
          have isCall (call : Node) (launched : Go.launchedCall? node = some call) :
              call.kind = .callExpression := Node.isCall_of_launchedCall? launched
          generalize Go.launchedCall? node = call, Go.launchedCall? other = otherCall
            at calls isCall ⊢
          cases calls with
          | none => rfl
          | some related =>
              obtain ⟨inner, opened, related⟩ := related
              have sites := related.callSite? imports launch (.inr opened) (isCall _ rfl)
              simp only [Option.bind_eq_bind, Option.bind_some, ← Option.toList_map, sites]
      | none =>
          by_cases literal : node.kind = .funcLiteral
          · rw [Node.callSites_of_literal literal,
              Node.callSites_of_literal (commented.kind.trans literal)]
          · have isOpen : node.kind.encloses = false := by
              simp [Kind.encloses, literal, launches]
            have otherIsOpen : other.kind.encloses = false := commented.kind ▸ isOpen
            have inner : (other.children.flatMap (Go.callSites imports)).map (·.withoutLine) =
                (node.children.flatMap (Go.callSites imports)).map (·.withoutLine) := by
              rw [List.map_flatMap, List.map_flatMap]
              refine commented.inside.flatMap (fun _ _ => rfl) ?_
              intro child member otherChild here
              exact inductionHypothesis child member here (Reading.searched_child searched isOpen)
            rw [Node.callSites_of_isOpen isOpen, Node.callSites_of_isOpen otherIsOpen,
              List.map_append, List.map_append, inner, commented.kind]
            split
            · rename_i isCall
              rw [← Option.toList_map, ← Option.toList_map,
                commented.callSite? imports .direct (.inl searched) isCall]
            · rfl

end Commented

end Go

end GoAtlas
