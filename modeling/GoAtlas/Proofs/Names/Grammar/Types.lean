import GoAtlas.Go.Grammar.Types
import GoAtlas.Proofs.Names.Parsers

/-! Types and parameters are read soundly when the phrases inside them are. -/

namespace GoAtlas.Go.Grammar

open GoAtlas.Go.Parser Named

section

variable {rules : Rules} (sound : rules.Sound)

include sound

/-! ### Types -/

theorem typeElement_sound (layout : Layout) : (typeElement rules layout).Sound :=
  node_sound rfl ⟨child_sound (sound.type layout), during_sound (continuesWith_sound layout _)
    (inOrder_sound ⟨mark_sound _, child_sound (sound.type layout)⟩)⟩

theorem typeArguments_sound : (typeArguments rules).Sound := by
  have argument := child_sound (typeElement_sound sound .free)
  refine node_sound rfl
    ⟨mark_sound _, argument, during_sound (nextIsMark_sound _) ?_, mark_sound _⟩
  apply bind_sound (mark_sound _)
  intro comma names
  apply branch_sound (nextIsMark_sound _) (pure_sound names)
  exact bind_sound argument fun nodes others => pure_sound (by simp [names, others])

theorem namedType_sound (layout : Layout) : (namedType rules layout).Sound := by
  have named : ∀ type, namesOnly type →
      (continuesWith layout "[" >>= fun generic =>
        if generic = true then
          either (extend .genericType (type.withRole .type) [child (typeArguments rules)])
            (pure type)
        else pure type).Sound := by
    intro type names
    refine branch_sound (continuesWith_sound layout _) (either_sound ?_ (pure_sound names))
      (pure_sound names)
    exact extend_sound rfl (Node.namesOnly_withRole rfl names)
      (child_sound (typeArguments_sound sound))
  refine word_bind_sound fun line name spelled =>
    branch_sound (continuesWith_sound layout _) ?_ ?_
  · refine bind_sound (extend_sound rfl ?_ ⟨mark_sound _, childAs_word_sound⟩) named
    exact Node.namesOnly_withRole_name spelled (Node.namesOnly_leaf rfl)
  · exact bind_sound (pure_sound (Node.namesOnly_leaf_name spelled)) named

theorem result_sound (layout : Layout) : (result rules layout).Sound := by
  apply branch_sound (continuesWith_sound layout _) (child_sound sound.parameters)
  refine bind_sound head_sound fun lexeme _ => bind_sound (continues_sound layout) fun _ _ => ?_
  split
  · exact child_sound (sound.type layout)
  · exact pure_sound namesOnly_nil

omit sound in
theorem atFieldEnd_sound : atFieldEnd.Sound :=
  bind_sound atSeparator_sound fun _ _ => bind_sound (nextIsMark_sound _) fun _ _ =>
    pure_sound trivial

omit sound in
theorem tag_sound : tag.Sound := by
  apply bind_sound head_sound
  intro lexeme _
  split
  · exact branch_sound (continues_sound _) (child_sound (tokenNode_sound rfl))
      (pure_sound namesOnly_nil)
  · exact pure_sound namesOnly_nil

theorem fieldDeclaration_sound : (fieldDeclaration rules).Sound := by
  have embedded : (childAs .type (namedType rules .lines)).Sound :=
    childAs_sound rfl (namedType_sound sound .lines)
  refine branch_sound (nextIsMark_sound _) (node_sound rfl ⟨mark_sound _, embedded, tag_sound⟩)
    (either_sound ?_ ?_)
  · refine bind_sound (node_sound rfl ⟨embedded, tag_sound⟩) fun field names => ?_
    exact branch_sound atFieldEnd_sound (pure_sound names) refuse_sound
  · exact node_sound rfl ⟨commaSeparated_sound childAs_word_sound,
      childAs_sound rfl (sound.type .lines), tag_sound⟩

theorem structType_sound : (structType rules).Sound :=
  node_sound rfl ⟨keyword_sound _, child_sound (node_sound rfl
    ⟨mark_sound _, separated_sound (child_sound (fieldDeclaration_sound sound)), mark_sound _⟩)⟩

theorem interfaceElement_sound : (interfaceElement rules).Sound := by
  apply bind_sound ahead_sound
  intro tokens _
  split
  · refine either_sound ?_ (typeElement_sound sound .lines)
    apply word_bind_sound
    intro line name spelled
    refine branch_sound (continues_sound _) ?_ refuse_sound
    refine extend_sound rfl ?_ ⟨child_sound sound.parameters, result_sound sound .lines⟩
    exact Node.namesOnly_withRole_name spelled (Node.namesOnly_leaf_name spelled)
  · exact typeElement_sound sound .lines

theorem interfaceType_sound : (interfaceType rules).Sound :=
  node_sound rfl ⟨keyword_sound _, mark_sound _,
    separated_sound (child_sound (interfaceElement_sound sound)), mark_sound _⟩

theorem bracketType_sound (layout : Layout) (openLength : Bool) :
    (bracketType rules layout openLength).Sound := by
  have element : (childAs .element (rules.type layout)).Sound :=
    childAs_sound rfl (sound.type layout)
  apply bind_sound ahead_sound
  intro tokens _
  split
  · exact node_sound rfl ⟨mark_sound _, mark_sound _, element⟩
  · split
    · exact node_sound rfl ⟨mark_sound _, mark_sound _, mark_sound _, element⟩
    · exact refuse_sound
  · exact node_sound rfl
      ⟨mark_sound _, child_sound (sound.expression .inside), mark_sound _, element⟩

theorem channelType_sound (layout : Layout) : (channelType rules layout).Sound := by
  have value : (childAs .value (rules.type layout)).Sound :=
    childAs_sound rfl (sound.type layout)
  apply branch_sound (nextIsMark_sound _)
  · exact node_sound rfl ⟨mark_sound _, keyword_sound _, value⟩
  · exact node_sound rfl
      ⟨keyword_sound _, partIf_sound (nextIsMark_sound _) (mark_sound _), value⟩

theorem type_sound (layout : Layout) : (type rules layout).Sound := by
  have inner := child_sound (sound.type layout)
  apply bind_sound head_sound
  intro lexeme _
  split
  · exact namedType_sound sound layout
  · exact node_sound rfl ⟨mark_sound _, child_sound (sound.type .free), mark_sound _⟩
  · exact node_sound rfl ⟨mark_sound _, inner⟩
  · exact node_sound rfl ⟨mark_sound _, inner⟩
  · exact bracketType_sound sound layout false
  · exact channelType_sound sound layout
  · exact channelType_sound sound layout
  · exact node_sound rfl ⟨keyword_sound _, mark_sound _, child_sound (sound.type .free),
      mark_sound _, childAs_sound rfl (sound.type layout)⟩
  · exact structType_sound sound
  · exact interfaceType_sound sound
  · exact node_sound rfl
      ⟨keyword_sound _, child_sound sound.parameters, result_sound sound layout⟩
  · exact refuse_sound

/-! ### Parameters -/

theorem namedParameters_sound : (namedParameters rules).Sound := by
  refine bind_sound (node_sound rfl ⟨childAs_word_sound,
    during_sound ?_ (inOrder_sound ⟨mark_sound _, childAs_word_sound⟩),
    childAs_sound rfl (sound.type .free)⟩) fun parameter names => ?_
  · apply bind_sound ahead_sound
    intro tokens _
    split <;> exact pure_sound trivial
  · apply bind_sound (nextIsMark_sound _)
    intro comma _
    apply bind_sound (nextIsMark_sound _)
    intro closing _
    split
    · exact pure_sound names
    · exact refuse_sound

theorem parameter_sound : (parameter rules).Sound := by
  have type : (childAs .type (rules.type .free)).Sound := childAs_sound rfl (sound.type .free)
  apply bind_sound ahead_sound
  intro tokens _
  split
  · exact node_sound rfl ⟨mark_sound _, type⟩
  · exact node_sound rfl ⟨childAs_word_sound, mark_sound _, type⟩
  · exact either_sound (namedParameters_sound sound) (node_sound rfl type)
  · exact node_sound rfl type

theorem parameters_sound : (parameters rules).Sound := by
  apply bind_sound ahead_sound
  intro tokens _
  split
  · exact node_sound rfl ⟨mark_sound _, mark_sound _, mark_sound _⟩
  · exact node_sound rfl (bracketed_sound (child_sound (parameter_sound sound)))

theorem typeParameter_sound : (typeParameter rules).Sound :=
  node_sound rfl ⟨commaSeparated_sound childAs_word_sound,
    childAs_sound rfl (typeElement_sound sound .free)⟩

theorem typeParameters_sound : (typeParameters rules).Sound := by
  apply bind_sound ahead_sound
  intro tokens _
  split
  · exact refuse_sound
  · exact node_sound rfl (bracketed_sound (child_sound (typeParameter_sound sound)))

end

end GoAtlas.Go.Grammar
