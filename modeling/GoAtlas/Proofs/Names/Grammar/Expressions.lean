import GoAtlas.Go.Grammar.Expressions
import GoAtlas.Proofs.Names.Grammar.Types

/-! Expressions are read soundly when the phrases inside them are. -/

namespace GoAtlas.Go.Grammar

open GoAtlas.Go.Parser Named

section

variable {rules : Rules} (sound : rules.Sound)

include sound

/-! ### Composite literals and conversions -/

/-- A literal inside a literal, or an expression. -/
theorem elementValue_sound :
    (nextIsMark openBrace >>= fun nested =>
      if nested = true then child rules.literalValue
      else child (rules.expression .inside)).Sound :=
  branch_sound (nextIsMark_sound _) (child_sound sound.literalValue)
    (child_sound (sound.expression .inside))

theorem literalElement_sound : (literalElement rules).Sound := by
  have keyed : ∀ value, namesOnly value →
      (nextIsMark ":" >>= fun isKey =>
        if isKey = true then
          extend .keyedElement value [mark ":", child (node .literalElement
            [do if ← nextIsMark openBrace then child rules.literalValue
                else child (rules.expression .inside)])]
        else pure value).Sound := by
    intro value names
    refine branch_sound (nextIsMark_sound _) (extend_sound rfl names ?_) (pure_sound names)
    exact ⟨mark_sound _, child_sound (node_sound rfl (elementValue_sound sound))⟩
  apply branch_sound (nextIsMark_sound _)
  · exact bind_sound (node_sound rfl (child_sound sound.literalValue)) keyed
  · exact bind_sound (node_sound rfl (child_sound (sound.expression .inside))) keyed

theorem literalValue_sound : (literalValue rules).Sound := by
  apply bind_sound ahead_sound
  intro tokens _
  split
  · exact node_sound rfl ⟨mark_sound _, mark_sound _, mark_sound _⟩
  · exact node_sound rfl (bracketed_sound (child_sound (literalElement_sound sound)))

/-- A type before the literal value that it gives its type to. -/
theorem composite_sound {type : Node} (names : namesOnly type) :
    (extend .compositeLiteral (type.withRole .type) [child rules.literalValue]).Sound :=
  extend_sound rfl (Node.namesOnly_withRole rfl names) (child_sound sound.literalValue)

theorem namedComposite_sound (place : Place) : (namedComposite rules place).Sound := by
  apply bind_sound (namedType_sound sound place.layout)
  intro type names
  apply bind_sound (continuesWith_sound _ _)
  intro _ _
  split
  · exact composite_sound sound names
  · exact refuse_sound

theorem conversionOf_sound {type : Node} (names : namesOnly type) :
    (conversionOf rules type).Sound :=
  extend_sound rfl (Node.namesOnly_withRole rfl names)
    ⟨mark_sound _, childAs_sound rfl (sound.expression .inside),
      partIf_sound (nextIsMark_sound _) (mark_sound _), mark_sound _⟩

theorem typedOperand_sound {type : Parser Node} (typeSound : type.Sound) :
    (typedOperand rules type).Sound :=
  bind_sound typeSound fun _ names => branch_sound (nextIsMark_sound _)
    (composite_sound sound names) (conversionOf_sound sound names)

theorem conversion_sound {type : Parser Node} (typeSound : type.Sound) :
    (conversion rules type).Sound :=
  bind_sound typeSound fun _ names => conversionOf_sound sound names

theorem funcLiteral_sound : (funcLiteral rules).Sound :=
  node_sound rfl ⟨keyword_sound _, child_sound sound.parameters, result_sound sound .free,
    childAs_sound rfl sound.block⟩

theorem function_sound : (function rules).Sound :=
  either_sound (funcLiteral_sound sound) (conversion_sound sound (type_sound sound .free))

theorem parenthesized_sound : (parenthesized rules).Sound :=
  either_sound
    (node_sound rfl ⟨mark_sound _, child_sound (sound.expression .inside), mark_sound _⟩)
    (conversion_sound sound (type_sound sound .free))

/-! ### Operands and what follows them -/

theorem nameOperand_sound (place : Place) (name : String) :
    (nameOperand rules place name).Sound := by
  unfold nameOperand
  split
  · exact tokenNode_sound rfl
  · split
    · exact word_sound _
    · split
      · exact word_sound _
      · exact either_sound (namedComposite_sound sound place) (word_sound _)

theorem operand_sound (place : Place) : (operand rules place).Sound := by
  have types := type_sound sound .free
  apply bind_sound head_sound
  intro lexeme _
  split
  · exact nameOperand_sound sound place _
  · exact tokenNode_sound rfl
  · exact tokenNode_sound rfl
  · exact tokenNode_sound rfl
  · exact parenthesized_sound sound
  · apply bind_sound ahead_sound
    intro tokens _
    split
    · exact bind_sound (bracketType_sound sound .free true) fun _ names =>
        composite_sound sound names
    · exact typedOperand_sound sound (bracketType_sound sound .free false)
  · exact function_sound sound
  · exact typedOperand_sound sound types
  · exact typedOperand_sound sound types
  · exact conversion_sound sound types
  · exact conversion_sound sound types
  · exact refuse_sound

theorem argument_sound : (argument rules).Sound :=
  bind_sound (sound.expression .inside) fun _ names => branch_sound (nextIsMark_sound _)
    (extend_sound rfl names (mark_sound _)) (pure_sound names)

theorem argumentList_sound : (argumentList rules).Sound :=
  node_sound rfl (bracketed_sound (child_sound (argument_sound sound)))

theorem typeFirstArguments_sound : (typeFirstArguments rules).Sound := by
  refine inOrder_sound
    ⟨child_sound (sound.type .free), during_sound (nextIsMark_sound _) ?_⟩
  apply bind_sound (mark_sound _)
  intro comma names
  apply branch_sound (nextIsMark_sound _) (pure_sound names)
  exact bind_sound (child_sound (sound.expression .inside)) fun nodes others =>
    pure_sound (by simp [names, others])

theorem typeFirstArgumentList_sound : (typeFirstArgumentList rules).Sound :=
  node_sound rfl ⟨mark_sound _, partIf_sound (not_sound (nextIsMark_sound _))
    (typeFirstArguments_sound sound), mark_sound _⟩

theorem call_sound {callee : Node} (names : namesOnly callee) : (call rules callee).Sound := by
  refine extend_sound rfl (Node.namesOnly_withRole rfl names) (child_sound ?_)
  split
  · exact typeFirstArgumentList_sound sound
  · exact argumentList_sound sound

omit sound in
theorem atTypeGuard_sound : atTypeGuard.Sound := by
  apply bind_sound ahead_sound
  intro tokens _
  split <;> exact pure_sound trivial

theorem selection_sound {operand : Node} (names : namesOnly operand) :
    (selection rules operand).Sound := by
  have inner : namesOnly (operand.withRole .operand) := Node.namesOnly_withRole rfl names
  apply bind_sound ahead_sound
  intro tokens _
  split
  · exact extend_sound rfl inner
      ⟨mark_sound _, mark_sound _, child_sound (sound.type .free), mark_sound _⟩
  · exact extend_sound rfl inner ⟨mark_sound _, childAs_word_sound⟩

theorem indexed_sound {operand : Node} (names : namesOnly operand) :
    (indexed rules operand).Sound := by
  have inner : namesOnly (operand.withRole .operand) := Node.namesOnly_withRole rfl names
  have bound := child_sound (sound.expression .inside)
  apply bind_sound (mark_sound _)
  intro opening openingNames
  apply bind_sound (partIf_sound (not_sound (nextIsMark_sound _)) bound)
  intro first firstNames
  have closes : ∀ kind : Kind, kind.spellsName = false → ∀ bounds : List Node, namesOnly bounds →
      (mark "]" >>= fun closing => pure (Node.mk kind none operand.line ""
        (operand.withRole .operand :: (opening ++ first ++ bounds ++ closing)))).Sound := by
    intro kind construct bounds boundNames
    refine bind_sound (mark_sound _) fun closing closingNames => pure_sound ?_
    apply Node.namesOnly_mk construct
    simp [inner, openingNames, firstNames, boundNames, closingNames]
  apply branch_sound (nextIsMark_sound _)
  · apply bind_sound (mark_sound _)
    intro colon colonNames
    apply branch_sound (nextIsMark_sound _)
    · exact closes .sliceExpression rfl colon colonNames
    · refine bind_sound (inOrder_sound ⟨bound, partIf_sound (nextIsMark_sound _)
        (inOrder_sound ⟨mark_sound _, bound⟩)⟩) fun others otherNames => ?_
      exact closes .sliceExpression rfl _ (by simp [colonNames, otherNames])
  · exact closes .indexExpression rfl [] namesOnly_nil

theorem instantiated_sound (place : Place) {operand : Node} (names : namesOnly operand) :
    (instantiated rules place operand).Sound := by
  have type : namesOnly (operand.withRole .type) := Node.namesOnly_withRole rfl names
  have callee : namesOnly (operand.withRole .function) := Node.namesOnly_withRole rfl names
  apply bind_sound (child_sound (typeArguments_sound sound))
  intro types typeNames
  apply branch_sound (continuesWith_sound _ _)
  · apply bind_sound (child_sound (argumentList_sound sound))
    intro arguments argumentNames
    dsimp only
    split
    · have generic : namesOnly ((Node.mk .genericType none operand.line ""
          (operand.withRole .type :: types)).withRole .type) :=
        Node.namesOnly_withRole rfl
          (Node.namesOnly_mk rfl (namesOnly_cons.mpr ⟨type, typeNames⟩))
      exact pure_sound (Node.namesOnly_mk rfl (namesOnly_cons.mpr ⟨generic, argumentNames⟩))
    · exact pure_sound (Node.namesOnly_mk rfl (by simp [callee, typeNames, argumentNames]))
  · split
    · exact pure_sound (Node.namesOnly_mk rfl (namesOnly_cons.mpr ⟨type, typeNames⟩))
    · exact refuse_sound

theorem suffixes_sound (place : Place) (rounds : Nat) {operand : Node}
    (names : namesOnly operand) : (suffixes rules place rounds operand).Sound := by
  induction rounds generalizing operand with
  | zero => exact refuse_sound
  | succ rounds inductionHypothesis =>
      refine bind_sound (continues_sound _) fun _ _ => bind_sound atTypeGuard_sound fun _ _ => ?_
      split
      · exact pure_sound names
      apply bind_sound head_sound
      intro lexeme _
      split
      · exact bind_sound (selection_sound sound names) fun _ => inductionHypothesis
      · exact bind_sound (call_sound sound names) fun _ => inductionHypothesis
      · exact bind_sound (either_sound (indexed_sound sound names)
          (instantiated_sound sound place names)) fun _ => inductionHypothesis
      · exact pure_sound names

/-! ### Operators -/

omit sound in
theorem firstOperator_sound (second : String) : (firstOperator second).Sound := by
  refine bind_sound comments_sound fun before names => bind_sound (modify_sound ?_) fun _ _ =>
    pure_sound names
  intro lexemes lexemeNames
  split
  · exact namesOnly_nil
  · rename_i lexeme rest
    refine namesOnly_cons.mpr ⟨?_, (namesOnly_cons.mp lexemeNames).2⟩
    exact Lexer.namesOnly_mark second

theorem unary_sound (place : Place) : (unary rules place).Sound := by
  have applied : ∀ operator : Parser (List Node), operator.Sound →
      (node .unaryExpression [operator, childAs .operand (rules.unary place)]).Sound :=
    fun operator operatorSound =>
      node_sound rfl ⟨operatorSound, childAs_sound rfl (sound.unary place)⟩
  have plain := bind_sound (operand_sound sound place) fun _ names =>
    suffixes_sound sound place (rules.rounds + 1) names
  apply bind_sound head_sound
  intro lexeme _
  split
  · split
    · exact applied _ (mark_sound _)
    · split
      · exact applied _ (firstOperator_sound _)
      · exact plain
  · exact plain

omit sound in
theorem chain_sound (layout : Layout) (operators : List String) {operand : Parser Node}
    (operandSound : operand.Sound) (rounds : Nat) {left : Node} (names : namesOnly left) :
    (chain layout operators operand rounds left).Sound := by
  induction rounds generalizing left with
  | zero => exact refuse_sound
  | succ rounds inductionHypothesis =>
      refine branch_sound (continuesWithOneOf_sound _ _) ?_ (pure_sound names)
      exact bind_sound (extend_sound rfl names ⟨next_sound, child_sound operandSound⟩) fun _ =>
        inductionHypothesis

omit sound in
theorem joined_sound (place : Place) (operators : List (List String)) {operand : Parser Node}
    (operandSound : operand.Sound) : (joined rules place operand operators).Sound := by
  induction operators generalizing operand with
  | nil => exact operandSound
  | cons tightest looser inductionHypothesis =>
      exact inductionHypothesis (bind_sound operandSound fun _ names =>
        chain_sound place.layout tightest operandSound _ names)

theorem expression_sound (place : Place) : (expression rules place).Sound :=
  joined_sound place binaryOperators (unary_sound sound place)

end

end GoAtlas.Go.Grammar
