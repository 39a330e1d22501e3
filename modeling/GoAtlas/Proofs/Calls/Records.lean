import GoAtlas.Proofs.Calls.Paths
import GoAtlas.Proofs.Names.Calls

/-!
What is recorded of a call. The callee, without its parentheses, is a name, a function literal, or a
selector on a name or on a selector of a name; of any other call nothing is recorded.
-/

namespace GoAtlas.Go

namespace Node

/-! ### Parentheses -/

/-- Taking the first child of what is parenthesized, again and again, leads down this path to this
node. -/
inductive UnwrapsAt : Node → Path → Node → Prop where
  | plain {node : Node}
      (bare : node.kind ≠ .parenthesizedExpression ∨ node.children = []) : UnwrapsAt node [] node
  | inside {node first inner : Node} {path : Path}
      (parenthesized : node.kind = .parenthesizedExpression)
      (begins : node.children[0]? = some first) (unwraps : UnwrapsAt first path inner) :
      UnwrapsAt node (0 :: path) inner

/-- The node without the parentheses around it. -/
def Unwraps (node inner : Node) : Prop :=
  ∃ path, UnwrapsAt node path inner

theorem exists_unwrapsAt (node : Node) : ∃ path, UnwrapsAt node path (unparenthesize node) := by
  fun_induction unparenthesize node with
  | case1 role line text first rest inductionHypothesis =>
      obtain ⟨path, unwraps⟩ := inductionHypothesis
      exact ⟨0 :: path, .inside rfl rfl unwraps⟩
  | case2 node notWrapped =>
      refine ⟨[], .plain ?_⟩
      obtain ⟨kind, role, line, text, children⟩ := node
      cases children with
      | nil => exact .inr rfl
      | cons first rest =>
          refine .inl fun parenthesized => ?_
          obtain rfl : kind = .parenthesizedExpression := parenthesized
          exact notWrapped role line text first rest rfl

theorem unwrapsAt_unique {node inner other : Node} {path otherPath : Path}
    (unwraps : UnwrapsAt node path inner) (otherUnwraps : UnwrapsAt node otherPath other) :
    path = otherPath ∧ inner = other := by
  induction unwraps generalizing otherPath other with
  | plain bare =>
      cases otherUnwraps with
      | plain => exact ⟨rfl, rfl⟩
      | inside parenthesized begins =>
          rcases bare with otherKind | empty
          · exact absurd parenthesized otherKind
          · simp [empty] at begins
  | inside parenthesized begins _ inductionHypothesis =>
      cases otherUnwraps with
      | plain bare =>
          rcases bare with otherKind | empty
          · exact absurd parenthesized otherKind
          · simp [empty] at begins
      | inside _ otherBegins otherUnwraps =>
          rw [begins, Option.some.injEq] at otherBegins
          subst otherBegins
          obtain ⟨rfl, rfl⟩ := inductionHypothesis otherUnwraps
          exact ⟨rfl, rfl⟩

theorem UnwrapsAt.descend? {node inner : Node} {path : Path} (unwraps : UnwrapsAt node path inner) :
    node.descend? path = some inner := by
  induction unwraps with
  | plain => exact descend?_nil _
  | inside _ begins _ inductionHypothesis =>
      exact descend?_cons_eq_some_iff.mpr ⟨_, begins, inductionHypothesis⟩

theorem unwraps_iff {node inner : Node} : node.Unwraps inner ↔ unparenthesize node = inner := by
  obtain ⟨path, unwraps⟩ := exists_unwrapsAt node
  constructor
  · rintro ⟨otherPath, otherUnwraps⟩
    exact (unwrapsAt_unique unwraps otherUnwraps).2
  · rintro rfl
    exact ⟨path, unwraps⟩

end Node

/-! ### What a call spells -/

variable {imports : ImportNames} {launch : Launch} {call callee operand : Node}
  {text : String} {importPath : Option String} {site : CallSite}

/-- The receiver that an operand spells, and the path of the import that it names. -/
inductive SpellsReceiver (imports : ImportNames) : Node → String → Option String → Prop where
  | name {operand : Node} (identifier : operand.kind = .identifier) :
      SpellsReceiver imports operand operand.text (imports.path? operand.text)
  | path {operand written base field : Node} (selector : operand.kind = .selectorExpression)
      (under : operand.child? .operand = some written) (unwraps : written.Unwraps base)
      (identifier : base.kind = .identifier) (selected : operand.child? .field = some field) :
      SpellsReceiver imports operand (memberId base.text field.text) none

/-- The target that a callee spells, whether it does so through a selector, and with which receiver
and which path of an import. -/
inductive SpellsTarget (imports : ImportNames) :
    Node → String → Bool → Option String → Option String → Prop where
  | name {callee : Node} (identifier : callee.kind = .identifier) :
      SpellsTarget imports callee callee.text false none none
  | literal {callee : Node} (isLiteral : callee.kind = .funcLiteral) :
      SpellsTarget imports callee closureTarget false none none
  | selector {callee written operand field : Node} {receiver : String}
      {importPath : Option String} (selector : callee.kind = .selectorExpression)
      (under : callee.child? .operand = some written) (unwraps : written.Unwraps operand)
      (spells : SpellsReceiver imports operand receiver importPath)
      (selected : callee.child? .field = some field) :
      SpellsTarget imports callee (memberId receiver field.text) true (some receiver) importPath

/-- The site records the call: where it stands, how it is launched and what its callee spells. -/
structure Records (imports : ImportNames) (launch : Launch) (call : Node) (site : CallSite) :
    Prop where
  line : site.line = call.line
  isGoroutine : site.isGoroutine = (launch == .goroutine)
  isDeferred : site.isDeferred = (launch == .deferred)
  callee : ∃ written callee, call.child? .function = some written ∧ written.Unwraps callee ∧
    SpellsTarget imports callee site.target site.isMethod site.receiver site.importPath

theorem spellsReceiver_iff : SpellsReceiver imports operand text importPath ↔
    receiverText? operand = some text ∧
      importPath = if operand.kind == .identifier then imports.path? text else none := by
  constructor
  · rintro (⟨identifier⟩ | ⟨selector, under, unwraps, identifier, selected⟩)
    · simp [receiverText?, identifier]
    · simp [receiverText?, selector, under, Node.unwraps_iff.mp unwraps, identifier, selected]
  · rintro ⟨spelled, rfl⟩
    unfold receiverText? at spelled
    split at spelled
    · rename_i identifier
      cases spelled
      rw [identifier]
      exact .name identifier
    · rename_i selector
      simp only [Option.bind_eq_bind, Option.bind_eq_some_iff] at spelled
      obtain ⟨written, under, spelled⟩ := spelled
      split at spelled
      · rename_i identifier
        obtain ⟨field, selected, same⟩ := Option.bind_eq_some_iff.mp spelled
        cases same
        rw [selector]
        exact .path selector under (Node.unwraps_iff.mpr rfl) (beq_iff_eq.mp identifier) selected
      · cases spelled
    · cases spelled

theorem selectorSite?_eq_some_iff {line : Nat} (selector : callee.kind = .selectorExpression) :
    selectorSite? imports callee line = some site ↔
      SpellsTarget imports callee site.target site.isMethod site.receiver site.importPath ∧
        site.line = line ∧ site.isGoroutine = false ∧ site.isDeferred = false := by
  simp only [selectorSite?, Option.bind_eq_bind, Option.bind_eq_some_iff]
  constructor
  · rintro ⟨field, selected, written, under, receiver, spelled, same⟩
    cases same
    exact ⟨.selector selector under (Node.unwraps_iff.mpr rfl)
      (spellsReceiver_iff.mpr ⟨spelled, rfl⟩) selected, rfl, rfl, rfl⟩
  · obtain ⟨target, isMethod, siteReceiver, siteImport, siteLine, isGoroutine, isDeferred⟩ := site
    rintro ⟨spells, rfl, rfl, rfl⟩
    dsimp only at spells
    cases spells with
    | name identifier =>
        rw [selector] at identifier
        cases identifier
    | literal isLiteral =>
        rw [selector] at isLiteral
        cases isLiteral
    | selector _ under unwraps spells selected =>
        obtain ⟨spelled, rfl⟩ := spellsReceiver_iff.mp spells
        obtain rfl := Node.unwraps_iff.mp unwraps
        exact ⟨_, selected, _, under, _, spelled, rfl⟩

/-- A call has a site exactly if there is one that records it, and then has that one. -/
theorem callSite?_eq_some_iff :
    callSite? imports launch call = some site ↔ Records imports launch call site := by
  simp only [callSite?, Option.bind_eq_bind, Option.bind_eq_some_iff]
  constructor
  · rintro ⟨written, found, spelled⟩
    split at spelled <;> obtain ⟨plain, plainFound, same⟩ := Option.bind_eq_some_iff.mp spelled <;>
      cases same
    · rename_i identifier
      cases plainFound
      exact ⟨rfl, rfl, rfl, _, _, found, Node.unwraps_iff.mpr rfl, .name identifier⟩
    · rename_i selector
      obtain ⟨spells, line, -, -⟩ := (selectorSite?_eq_some_iff selector).mp plainFound
      exact ⟨line, rfl, rfl, _, _, found, Node.unwraps_iff.mpr rfl, spells⟩
    · rename_i isLiteral
      cases plainFound
      exact ⟨rfl, rfl, rfl, _, _, found, Node.unwraps_iff.mpr rfl, .literal isLiteral⟩
    · cases plainFound
  · obtain ⟨target, isMethod, receiver, importPath, line, isGoroutine, isDeferred⟩ := site
    rintro ⟨rfl, rfl, rfl, written, callee, found, unwraps, spells⟩
    obtain rfl := Node.unwraps_iff.mp unwraps
    refine ⟨written, found, ?_⟩
    dsimp only at spells ⊢
    cases spells with
    | name identifier =>
        rw [identifier]
        rfl
    | literal isLiteral =>
        rw [isLiteral]
        rfl
    | selector selector under unwraps spells selected =>
        rw [selector]
        refine Option.bind_eq_some_iff.mpr ⟨⟨_, _, _, importPath, call.line, false, false⟩, ?_, rfl⟩
        exact (selectorSite?_eq_some_iff selector).mpr
          ⟨.selector selector under unwraps spells selected, rfl, rfl, rfl⟩

end GoAtlas.Go
