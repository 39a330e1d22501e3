import GoAtlas.Proofs.Comments.Units

/-!
What comments change. Put in anywhere but before the first child of what is looked through, they
change nothing that a unit declares. A comment that comes first there is taken for what it precedes:
a call behind it is not recorded, and a type behind it refers to nothing.
-/

namespace GoAtlas.Go

namespace Node

/-- What comes first in the node, through parentheses and pointers, is a comment. -/
inductive Obscured : Node → Prop where
  | comment {node : Node} (isComment : node.kind = .comment) : Obscured node
  | behind {node first : Node} (wraps : node.kind.wraps = true)
      (begins : node.children.head? = some first) (obscured : Obscured first) : Obscured node

variable {node call written statement : Node} {imports : ImportNames} {launch : Launch}

theorem exists_of_head? {first : Node} (begins : node.children.head? = some first) :
    ∃ kind role line text rest, node = .mk kind role line text (first :: rest) := by
  obtain ⟨kind, role, line, text, children⟩ := node
  obtain ⟨rest, rfl⟩ := List.head?_eq_some_iff.mp begins
  exact ⟨kind, role, line, text, rest, rfl⟩

/-- Without its parentheses, such a node is no expression. -/
theorem Obscured.kind_unparenthesize (obscured : node.Obscured) :
    (unparenthesize node).kind = .comment ∨ (unparenthesize node).kind = .pointerType ∨
      (unparenthesize node).kind = .parenthesizedType := by
  have bare {node : Node} (plain : node.kind ≠ .parenthesizedExpression) :
      unparenthesize node = node := unwraps_iff.mp ⟨[], .plain (.inl plain)⟩
  induction obscured with
  | comment isComment =>
      rw [bare (by rw [isComment]; decide)]
      exact .inl isComment
  | @behind node first wraps begins _ inductionHypothesis =>
      obtain ⟨kind, role, line, text, rest, rfl⟩ := exists_of_head? begins
      by_cases parenthesized : kind = .parenthesizedExpression
      · subst parenthesized
        exact inductionHypothesis
      · have plain : Node.kind (.mk kind role line text (first :: rest)) ≠
            .parenthesizedExpression := parenthesized
        rw [bare plain]
        refine .inr ?_
        simpa [Kind.wraps, parenthesized] using wraps

theorem Obscured.selectorSite?_eq_none (obscured : written.Obscured) {selector : Node}
    (under : selector.child? .operand = some written) (line : Nat) :
    selectorSite? imports selector line = none := by
  have notReceiver : receiverText? (unparenthesize written) = none := by
    unfold receiverText?
    rcases obscured.kind_unparenthesize with same | same | same <;> rw [same]
  unfold selectorSite?
  rw [under]
  simp only [Option.bind_eq_bind, Option.bind_some, notReceiver, Option.bind_none,
    Option.bind_fun_none]

theorem Obscured.callSite?_eq_none (obscured : written.Obscured)
    (called : call.child? .function = some written) : callSite? imports launch call = none := by
  unfold callSite?
  rw [called]
  simp only [Option.bind_eq_bind, Option.bind_some]
  rcases obscured.kind_unparenthesize with same | same | same <;> rw [same] <;> rfl

theorem Obscured.launchedCall?_eq_none (obscured : written.Obscured)
    (launched : statement.children.find? (·.kind != .comment) = some written) :
    launchedCall? statement = none := by
  unfold launchedCall?
  rw [launched]
  simp only [Option.bind_eq_bind, Option.bind_some]
  rcases obscured.kind_unparenthesize with same | same | same <;> rw [same] <;> rfl

theorem Obscured.typeReference_eq (obscured : node.Obscured) : typeReference node = .none := by
  induction obscured with
  | @comment node isComment =>
      obtain ⟨kind, role, line, text, children⟩ := node
      obtain rfl : kind = .comment := isComment
      rfl
  | @behind node first wraps begins _ inductionHypothesis =>
      obtain ⟨kind, role, line, text, rest, rfl⟩ := exists_of_head? begins
      cases kind with
      | pointerType | parenthesizedType => exact inductionHypothesis
      | parenthesizedExpression => rfl
      | _ => cases wraps

theorem Obscured.receiverTypeName_eq (obscured : node.Obscured) :
    receiverTypeName node = unknownReceiver := by
  induction obscured with
  | @comment node isComment =>
      obtain ⟨kind, role, line, text, children⟩ := node
      obtain rfl : kind = .comment := isComment
      rfl
  | @behind node first wraps begins _ inductionHypothesis =>
      obtain ⟨kind, role, line, text, rest, rfl⟩ := exists_of_head? begins
      cases kind with
      | pointerType | parenthesizedType => exact inductionHypothesis
      | parenthesizedExpression => rfl
      | _ => cases wraps

end Node

namespace SourceUnit

/-- Comments put in anywhere but before the first child of what is looked through change nothing
that a unit declares. A comment that comes first there hides what follows it: the call is not
recorded, or not launched, and the type is none. -/
theorem comments_ofTree (package file : String) :
    (∀ root other : Node, Commented .file root other →
      (ofTree package file other).withoutLines = (ofTree package file root).withoutLines) ∧
    (∀ (imports : ImportNames) (launch : Launch) (call written : Node), written.Obscured →
      call.child? .function = some written → callSite? imports launch call = none) ∧
    (∀ (imports : ImportNames) (selector written : Node) (line : Nat), written.Obscured →
      selector.child? .operand = some written → selectorSite? imports selector line = none) ∧
    (∀ statement written : Node, written.Obscured →
      statement.children.find? (·.kind != .comment) = some written →
      launchedCall? statement = none) ∧
    (∀ type : Node, type.Obscured →
      typeReference type = .none ∧ receiverTypeName type = unknownReceiver) := by
  refine ⟨fun root other commented => withoutLines_ofTree commented, ?_, ?_, ?_, ?_⟩
  · intro imports launch call written obscured called
    exact obscured.callSite?_eq_none called
  · intro imports selector written line obscured under
    exact obscured.selectorSite?_eq_none under line
  · intro statement written obscured launched
    exact obscured.launchedCall?_eq_none launched
  · intro type obscured
    exact ⟨obscured.typeReference_eq, obscured.receiverTypeName_eq⟩

/-- The second source is read as the first one with comments put in, where so much is read of the
first. -/
def CommentedSource (reading : Reading) (source other : List UInt8) : Prop :=
  ∃ root otherRoot, parse source = .ok root ∧ parse other = .ok otherRoot ∧
    Commented reading root otherRoot

instance (reading : Reading) (source other : List UInt8) :
    Decidable (CommentedSource reading source other) :=
  match parsed : parse source, otherParsed : parse other with
  | .ok root, .ok otherRoot =>
      decidable_of_iff (Commented reading root otherRoot)
        (by simp [CommentedSource, parsed, otherParsed])
  | .error _, _ => isFalse (by simp [CommentedSource, parsed])
  | _, .error _ => isFalse (by simp [CommentedSource, otherParsed])

def withoutComments : List UInt8 :=
  "package p\nfunc (t *T) Run() \x7b\n(t.f)()\ngo a.B((1))\n\x7d\n".toUTF8.toList

def withComments : List UInt8 :=
  ("package p // its name\nfunc (/* a */ t /* b */ *T) Run() \x7b\n// c\n" ++
    "(t. /* d */ f)(/* e */)\ngo /* f */ a.B((/* g */ 1))\n\x7d\n").toUTF8.toList

theorem comments_ofTree_withComments : ∃ root other, parse withoutComments = .ok root ∧
    parse withComments = .ok other ∧ Commented .file root other ∧
    (ofTree "p" "p.go" other).withoutLines = (ofTree "p" "p.go" root).withoutLines := by
  have both : CommentedSource .file withoutComments withComments := by decide +kernel
  obtain ⟨root, other, parsed, otherParsed, inserted⟩ := both
  obtain ⟨same, -⟩ := comments_ofTree "p" "p.go"
  exact ⟨root, other, parsed, otherParsed, inserted, same root other inserted⟩

def parenthesized (inside : String) : List UInt8 :=
  ("package p\nfunc Run() \x7b\n(" ++ inside ++ ")()\n\x7d\n").toUTF8.toList

/-- The calls in the bodies of functions, wherever they stand. -/
def calledByFunctions (unit : SourceUnit) : List (List CallSite) :=
  unit.functions.map fun symbol => symbol.calls.map (·.withoutLine)

/-- Not every comment leaves the calls as they are: one in parentheses hides the callee. -/
theorem not_comments_ofTree : ¬∀ (source other : List UInt8) (root otherRoot : Node)
    (package file : String), parse source = .ok root → parse other = .ok otherRoot →
      Commented .unread root otherRoot →
      calledByFunctions (ofTree package file otherRoot) =
        calledByFunctions (ofTree package file root) := by
  intro law
  have both : CommentedSource .unread (parenthesized "f") (parenthesized "/* c */ f") := by
    decide +kernel
  obtain ⟨root, otherRoot, parsed, otherParsed, inserted⟩ := both
  have same := law _ _ root otherRoot "p" "f.go" parsed otherParsed inserted
  have apart : (read (parenthesized "/* c */ f") "p" "f.go").map calledByFunctions ≠
      (read (parenthesized "f") "p" "f.go").map calledByFunctions := by
    decide +kernel
  rw [read, read, parsed, otherParsed] at apart
  exact apart (congrArg Except.ok same)

end SourceUnit

end GoAtlas.Go
