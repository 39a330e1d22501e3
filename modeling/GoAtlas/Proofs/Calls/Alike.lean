import GoAtlas.Proofs.Calls.Records

/-!
Callees that look alike. What a call is recorded as depends on its callee only so far as kinds,
names and parentheses go. Where these are the same, the sites of two calls differ in their lines at
most.
-/

namespace GoAtlas.Go

/-- Expressions so related look alike: in kind and text, in what their parentheses hold, and as
selectors in operand and field. -/
structure LooksAlike (alike : Node → Node → Prop) : Prop where
  kind : ∀ {node other : Node}, alike node other → other.kind = node.kind
  text : ∀ {node other : Node}, alike node other → other.text = node.text
  inside : ∀ {node other : Node}, alike node other →
    alike (unparenthesize node) (unparenthesize other)
  operand : ∀ {node other : Node}, alike node other → node.kind = .selectorExpression →
    Option.Rel alike (node.child? .operand) (other.child? .operand)
  field : ∀ {node other : Node}, alike node other → node.kind = .selectorExpression →
    Option.Rel (fun child otherChild => otherChild.text = child.text) (node.child? .field)
      (other.child? .field)

variable {alike : Node → Node → Prop} {node other call otherCall statement otherStatement : Node}

namespace LooksAlike

theorem receiverText? (looks : LooksAlike alike) (operands : alike node other) :
    Go.receiverText? other = Go.receiverText? node := by
  unfold Go.receiverText?
  rw [looks.kind operands]
  split
  · rw [looks.text operands]
  · rename_i selector
    have under := looks.operand operands selector
    have selected := looks.field operands selector
    generalize node.child? .operand = base, other.child? .operand = otherBase at under ⊢
    generalize node.child? .field = field, other.child? .field = otherField at selected ⊢
    cases under with
    | none => rfl
    | some bases =>
        have inner := looks.inside bases
        simp only [Option.bind_eq_bind, Option.bind_some, looks.kind inner, looks.text inner]
        cases selected with
        | none => rfl
        | some same => simp only [Option.bind_some, same]
  · rfl

theorem selectorSite? (looks : LooksAlike alike) (imports : ImportNames)
    (selectors : alike node other) (selector : node.kind = .selectorExpression)
    (line otherLine : Nat) : Go.selectorSite? imports other otherLine =
      (Go.selectorSite? imports node line).map ({ · with line := otherLine }) := by
  unfold Go.selectorSite?
  have under := looks.operand selectors selector
  have selected := looks.field selectors selector
  generalize node.child? .operand = operand, other.child? .operand = otherOperand at under ⊢
  generalize node.child? .field = field, other.child? .field = otherField at selected ⊢
  cases selected with
  | none => rfl
  | some same =>
      cases under with
      | none => rfl
      | some operands =>
          have inner := looks.inside operands
          simp only [Option.bind_eq_bind, Option.bind_some, looks.receiverText? inner,
            looks.kind inner, same]
          cases Go.receiverText? (unparenthesize _) <;> rfl

/-- Calls of callees that look alike have the same site but for its line. -/
theorem callSite? (looks : LooksAlike alike) (imports : ImportNames) (launch : Launch)
    (callees : Option.Rel alike (call.child? .function) (otherCall.child? .function)) :
    Go.callSite? imports launch otherCall =
      (Go.callSite? imports launch call).map ({ · with line := otherCall.line }) := by
  unfold Go.callSite?
  generalize call.child? .function = callee, otherCall.child? .function = otherCallee at callees ⊢
  cases callees with
  | none => rfl
  | some written =>
      have inner := looks.inside written
      simp only [Option.bind_eq_bind, Option.bind_some, looks.kind inner, looks.text inner]
      split
      · rfl
      · rename_i selector
        rw [looks.selectorSite? imports inner selector call.line otherCall.line]
        cases Go.selectorSite? imports (unparenthesize _) call.line <;> rfl
      · rfl
      · rfl

theorem callSite?_of_line (looks : LooksAlike alike) (imports : ImportNames) (launch : Launch)
    (callees : Option.Rel alike (call.child? .function) (otherCall.child? .function))
    (sameLine : otherCall.line = call.line) :
    Go.callSite? imports launch otherCall = Go.callSite? imports launch call := by
  rw [looks.callSite? imports launch callees, sameLine]
  cases found : Go.callSite? imports launch call with
  | none => rfl
  | some site => rw [Option.map_some, ← (callSite?_eq_some_iff.mp found).line]

/-- Statements whose expressions look alike launch calls that look alike. -/
theorem launchedCall? (looks : LooksAlike alike)
    (launched : Option.Rel alike (statement.children.find? (·.kind != .comment))
      (otherStatement.children.find? (·.kind != .comment))) :
    Option.Rel alike (Go.launchedCall? statement) (Go.launchedCall? otherStatement) := by
  unfold Go.launchedCall?
  generalize statement.children.find? _ = expression,
    otherStatement.children.find? _ = otherExpression at launched ⊢
  cases launched with
  | none => exact .none
  | some written =>
      have inner := looks.inside written
      simp only [Option.bind_eq_bind, Option.bind_some, looks.kind inner]
      split
      · exact .some inner
      · exact .none

end LooksAlike

end GoAtlas.Go
