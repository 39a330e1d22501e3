import GoAtlas.Go.Tree
import GoAtlas.Symbol

/-!
The call sites of a function body, in source order. A `go` or `defer` statement contributes the
call it launches and nothing inside it, and function literals are not entered.
-/

namespace GoAtlas.Go

/-- The names under which a file's imports can be called, with their paths; of two imports with one
name the later counts. -/
abbrev ImportNames := List (String × String)

def ImportNames.path? (imports : ImportNames) (name : String) : Option String :=
  (imports.reverse.find? fun binding => binding.1 == name).map (·.2)

/-- The way a call is made. -/
inductive Launch where
  | direct | goroutine | deferred
  deriving DecidableEq, Repr

/-- What stands inside parentheses: their first child, as long as that is parenthesized itself. -/
def unparenthesize : Node → Node
  | .mk .parenthesizedExpression _ _ _ (first :: _) => unparenthesize first
  | node => node

/-- The receiver that an operand spells: `x` or `x.y`. -/
def receiverText? (operand : Node) : Option String :=
  match operand.kind with
  | .identifier => some operand.text
  | .selectorExpression => do
      let base := unparenthesize (← operand.child? .operand)
      if base.kind == .identifier then
        return memberId base.text (← operand.child? .field).text
      else none
  | _ => none

/-- A call through a selector. Only a receiver that is a mere name can stand for an import. -/
def selectorSite? (imports : ImportNames) (selector : Node) (line : Nat) : Option CallSite := do
  let field ← selector.child? .field
  let operand := unparenthesize (← selector.child? .operand)
  let receiver ← receiverText? operand
  let importPath := if operand.kind == .identifier then imports.path? receiver else none
  return { CallSite.method receiver field.text line with importPath }

/-- The site of a call, if its callee has a name or is a function literal. -/
def callSite? (imports : ImportNames) (launch : Launch) (call : Node) : Option CallSite := do
  let callee := unparenthesize (← call.child? .function)
  let site ←
    match callee.kind with
    | .identifier => some (CallSite.function callee.text call.line)
    | .selectorExpression => selectorSite? imports callee call.line
    | .funcLiteral => some (CallSite.closure call.line)
    | _ => none
  return { site with isGoroutine := launch == .goroutine, isDeferred := launch == .deferred }

/-- The call that a `go` or `defer` statement launches. -/
def launchedCall? (statement : Node) : Option Node := do
  let launched := unparenthesize (← statement.children.find? (·.kind != .comment))
  if launched.kind == .callExpression then some launched else none

mutual

def callSites (imports : ImportNames) : Node → List CallSite
  | .mk kind role line text children =>
      let node := Node.mk kind role line text children
      match kind with
      | .goStatement => (launchedCall? node >>= callSite? imports .goroutine).toList
      | .deferStatement => (launchedCall? node >>= callSite? imports .deferred).toList
      | .funcLiteral => []
      | .callExpression => (callSite? imports .direct node).toList ++ callSitesIn imports children
      | _ => callSitesIn imports children

def callSitesIn (imports : ImportNames) : List Node → List CallSite
  | [] => []
  | child :: rest => callSites imports child ++ callSitesIn imports rest

end

@[simp]
theorem callSitesIn_eq_flatMap (imports : ImportNames) (nodes : List Node) :
    callSitesIn imports nodes = nodes.flatMap (callSites imports) := by
  induction nodes with
  | nil => simp [callSitesIn]
  | cons child rest inductionHypothesis => simp [callSitesIn, inductionHypothesis]

end GoAtlas.Go
