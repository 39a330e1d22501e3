import GoAtlas.Proofs.Calls.Alike
import GoAtlas.Proofs.Calls.Capture

/-!
What the recorded calls of a body do not depend on: everything inside function literals and inside
the arguments of launched calls. The outline of a body leaves these out and has the same call sites.
-/

namespace GoAtlas.Go

/-- Is a child of this kind part of a launched expression, given whether its parent is? Of a
launched call only the arguments are. -/
def Kind.launches (kind : Kind) (launched : Bool) (child : Kind) : Bool :=
  match kind with
  | .goStatement => true
  | .deferStatement => true
  | .parenthesizedExpression => launched
  | .callExpression => launched && child == .argumentList
  | _ => false

/-- Is what stands inside such a node left out of an outline? -/
def Kind.isHidden (kind : Kind) (launched : Bool) : Bool :=
  kind == .funcLiteral || launched && kind == .argumentList

namespace Node

mutual

/-- The node with function literals, and the arguments of launched calls, emptied. -/
def outlineAs (launched : Bool) : Node → Node
  | .mk kind role line text children =>
      .mk kind role line text
        (if kind.isHidden launched then [] else outlinesIn kind launched children)

def outlinesIn (kind : Kind) (launched : Bool) : List Node → List Node
  | [] => []
  | child :: rest =>
      child.outlineAs (kind.launches launched child.kind) :: outlinesIn kind launched rest

end

def outline (body : Node) : Node :=
  body.outlineAs false

variable {node : Node} {launched : Bool} {imports : ImportNames} {launch : Launch}

theorem outlinesIn_eq_map (kind : Kind) (launched : Bool) (nodes : List Node) :
    outlinesIn kind launched nodes =
      nodes.map fun child => child.outlineAs (kind.launches launched child.kind) := by
  induction nodes with
  | nil => rfl
  | cons child rest inductionHypothesis => rw [outlinesIn, inductionHypothesis, List.map_cons]

@[simp]
theorem kind_outlineAs (node : Node) (launched : Bool) :
    (node.outlineAs launched).kind = node.kind := by
  cases node
  rfl

@[simp]
theorem role_outlineAs (node : Node) (launched : Bool) :
    (node.outlineAs launched).role = node.role := by
  cases node
  rfl

@[simp]
theorem line_outlineAs (node : Node) (launched : Bool) :
    (node.outlineAs launched).line = node.line := by
  cases node
  rfl

@[simp]
theorem text_outlineAs (node : Node) (launched : Bool) :
    (node.outlineAs launched).text = node.text := by
  cases node
  rfl

theorem children_outlineAs (shown : node.kind.isHidden launched = false) :
    (node.outlineAs launched).children =
      node.children.map fun child => child.outlineAs (node.kind.launches launched child.kind) := by
  cases node
  rw [outlineAs, children_mk, children_mk, ← outlinesIn_eq_map]
  exact if_neg (Bool.not_eq_true _ ▸ shown)

theorem child?_outlineAs (shown : node.kind.isHidden launched = false) (role : Role) :
    (node.outlineAs launched).child? role =
      (node.child? role).map fun child =>
        child.outlineAs (node.kind.launches launched child.kind) := by
  rw [child?, children_outlineAs shown, List.find?_map, child?]
  simp only [Function.comp_def, role_outlineAs]

end Node

variable {node call : Node} {launched : Bool} {imports : ImportNames} {launch : Launch}

/-- Parentheses pass on whether they belong to a launched expression. -/
theorem Node.UnwrapsAt.outlineAs {inner : Node} {path : Path}
    (unwraps : node.UnwrapsAt path inner) :
    (node.outlineAs launched).UnwrapsAt path (inner.outlineAs launched) := by
  have shown {node : Node} (parenthesized : node.kind = .parenthesizedExpression) :
      node.kind.isHidden launched = false := by simp [parenthesized, Kind.isHidden]
  induction unwraps with
  | @plain node bare =>
      refine .plain ?_
      by_cases parenthesized : node.kind = .parenthesizedExpression
      · have empty := bare.resolve_left (not_not_intro parenthesized)
        rw [Node.children_outlineAs (shown parenthesized), empty]
        exact .inr rfl
      · rw [Node.kind_outlineAs]
        exact .inl parenthesized
  | @inside node first inner path parenthesized begins _ inductionHypothesis =>
      refine .inside ?_ ?_ inductionHypothesis
      · rw [Node.kind_outlineAs, parenthesized]
      · rw [Node.children_outlineAs (shown parenthesized), List.getElem?_map, begins, parenthesized]
        rfl

theorem unparenthesize_outlineAs (node : Node) (launched : Bool) :
    unparenthesize (node.outlineAs launched) = (unparenthesize node).outlineAs launched := by
  obtain ⟨path, unwraps⟩ := Node.exists_unwrapsAt node
  exact Node.unwraps_iff.mp ⟨path, unwraps.outlineAs⟩

theorem Node.child?_outlineAs_alike {alike : Node → Node → Prop}
    (outlined : ∀ (child : Node) (launched : Bool), alike child (child.outlineAs launched))
    (shown : node.kind.isHidden launched = false) (role : Role) :
    Option.Rel alike (node.child? role) ((node.outlineAs launched).child? role) := by
  rw [Node.child?_outlineAs shown]
  cases node.child? role with
  | none => exact .none
  | some child => exact .some (outlined child _)

/-- An expression and its outline look alike. -/
theorem looksAlike_outlineAs :
    LooksAlike fun node other => ∃ launched, other = Node.outlineAs launched node where
  kind := by
    rintro node _ ⟨launched, rfl⟩
    exact Node.kind_outlineAs node launched
  text := by
    rintro node _ ⟨launched, rfl⟩
    exact Node.text_outlineAs node launched
  inside := by
    rintro node _ ⟨launched, rfl⟩
    exact ⟨launched, unparenthesize_outlineAs node launched⟩
  operand := by
    rintro node _ ⟨launched, rfl⟩ selector
    exact Node.child?_outlineAs_alike (fun _ launched => ⟨launched, rfl⟩)
      (by simp [selector, Kind.isHidden]) .operand
  field := by
    rintro node _ ⟨launched, rfl⟩ selector
    exact Node.child?_outlineAs_alike (fun child launched => Node.text_outlineAs child launched)
      (by simp [selector, Kind.isHidden]) .field

/-- The site of a call depends on its callee only, and of the callee on what is not left out. -/
theorem callSite?_outlineAs (isCall : call.kind = .callExpression) :
    callSite? imports launch (call.outlineAs launched) = callSite? imports launch call := by
  have shown : call.kind.isHidden launched = false := by simp [isCall, Kind.isHidden]
  exact looksAlike_outlineAs.callSite?_of_line imports launch
    (Node.child?_outlineAs_alike (fun _ launched => ⟨launched, rfl⟩) shown .function)
    (Node.line_outlineAs call launched)

theorem launchedCall?_outlineAs (shown : node.kind.isHidden launched = false) :
    launchedCall? (node.outlineAs launched) >>= callSite? imports launch =
      launchedCall? node >>= callSite? imports launch := by
  have expressions : Option.Rel (fun node other => ∃ launched, other = Node.outlineAs launched node)
      (node.children.find? (·.kind != .comment))
      ((node.outlineAs launched).children.find? (·.kind != .comment)) := by
    rw [Node.children_outlineAs shown, List.find?_map]
    simp only [Function.comp_def, Node.kind_outlineAs]
    cases node.children.find? (·.kind != .comment) with
    | none => exact .none
    | some written => exact .some ⟨_, rfl⟩
  have calls := looksAlike_outlineAs.launchedCall? expressions
  have isCall (call : Node) (launched : launchedCall? node = some call) :
      call.kind = .callExpression := Node.isCall_of_launchedCall? launched
  generalize launchedCall? node = call, launchedCall? (node.outlineAs launched) = outlined
    at calls isCall ⊢
  cases calls with
  | none => rfl
  | some outlined =>
      obtain ⟨_, rfl⟩ := outlined
      exact callSite?_outlineAs (isCall _ rfl)

theorem Kind.launches_of_isOpen {kind : Kind} (isOpen : kind.encloses = false) (child : Kind) :
    kind.launches false child = false := by
  unfold Kind.launches
  split
  · cases isOpen
  · cases isOpen
  · rfl
  · rfl
  · rfl

/-- The outline of a body has the call sites of the body. -/
theorem callSites_outline (body : Node) :
    callSites imports body.outline = callSites imports body := by
  unfold Node.outline
  induction body using Node.inductionOnChildren with
  | step node inductionHypothesis =>
      cases launches : node.kind.launch? with
      | some launch =>
          have shown : node.kind.isHidden false = false := by
            rw [Kind.isHidden, Bool.false_and, Bool.or_false, beq_eq_false_iff_ne]
            rintro literal
            simp [literal, Kind.launch?] at launches
          have launchesAlike : (node.outlineAs false).kind.launch? = some launch := by
            rw [Node.kind_outlineAs, launches]
          rw [Node.callSites_of_launch launches, Node.callSites_of_launch launchesAlike,
            launchedCall?_outlineAs shown]
      | none =>
          by_cases literal : node.kind = .funcLiteral
          · rw [Node.callSites_of_literal literal,
              Node.callSites_of_literal ((Node.kind_outlineAs node false).trans literal)]
          · have isOpen : node.kind.encloses = false := by
              simp [Kind.encloses, literal, launches]
            have shown : node.kind.isHidden false = false := by simp [Kind.isHidden, literal]
            have outlineIsOpen : (node.outlineAs false).kind.encloses = false := by
              rw [Node.kind_outlineAs, isOpen]
            rw [Node.callSites_of_isOpen isOpen, Node.callSites_of_isOpen outlineIsOpen,
              Node.kind_outlineAs, Node.children_outlineAs shown]
            congr 1
            · split
              · rename_i isCall
                rw [callSite?_outlineAs isCall]
              · rfl
            · simp only [Kind.launches_of_isOpen isOpen, List.flatMap_map]
              exact List.flatMap_congr inductionHypothesis

/-! ### What is recorded -/

/-- The call sites of a body record the calls that it makes itself, each call once and in the order
in which the source spells them. They are those of every body with the same outline, and where lines
never fall back in the body, the lines of the sites do not either. -/
theorem callSites_exact (imports : ImportNames) (body : Node) :
    (∃ records : List (Path × CallSite), Node.Lists records (body.RecordsAt imports) ∧
      records.map (·.2) = callSites imports body) ∧
    (∀ other : Node, other.outline = body.outline →
      callSites imports other = callSites imports body) ∧
    (body.Ascends →
      (callSites imports body).Pairwise fun site later => site.line ≤ later.line) := by
  have recorded := Node.exists_lists_recordsAt imports body
  refine ⟨recorded, fun other same => ?_, fun ascends => ?_⟩
  · rw [← callSites_outline other, same, callSites_outline]
  · obtain ⟨records, lists, sites⟩ := recorded
    exact sites ▸ Node.lines_ordered ascends lists

/-- A call of a name with these arguments. -/
def plainCall (role : Option Role) (line : Nat) (name : String) (arguments : List Node) : Node :=
  .mk .callExpression role line ""
    [.mk .identifier (some .function) line name [], .mk .argumentList none line "" arguments]

/-- A body that launches a call with a call as its argument, and invokes a function literal. -/
def launching (argument inner : String) : Node :=
  .mk .block none 1 ""
    [.mk .goStatement none 2 "" [plainCall none 2 "notify" [plainCall none 2 argument []]],
      .mk .callExpression none 3 ""
        [.mk .funcLiteral (some .function) 3 "" [plainCall none 4 inner []],
          .mk .argumentList none 5 "" [plainCall none 5 "last" []]]]

theorem callSites_exact_launching :
    (launching "now" "first").outline = (launching "later" "second").outline ∧
      (launching "later" "second").Ascends ∧
      callSites [] (launching "now" "first") = callSites [] (launching "later" "second") ∧
      (callSites [] (launching "later" "second")).Pairwise
        fun site later => site.line ≤ later.line := by
  obtain ⟨-, outlined, ordered⟩ := callSites_exact [] (launching "later" "second")
  have same : (launching "now" "first").outline = (launching "later" "second").outline := rfl
  have ascends : (launching "later" "second").Ascends := by decide
  exact ⟨same, ascends, outlined _ same, ordered ascends⟩

example : (callSites [] (launching "now" "first")).map (·.target) =
    ["notify", closureTarget, "last"] := by decide

end GoAtlas.Go
