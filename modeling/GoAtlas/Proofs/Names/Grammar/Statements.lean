import GoAtlas.Go.Grammar.Statements
import GoAtlas.Proofs.Names.Grammar.Expressions

/-! Statements and declarations are read soundly when the phrases inside them are. -/

namespace GoAtlas.Go.Grammar

open GoAtlas.Go.Parser Named

section

variable {rules : Rules} (sound : rules.Sound)

include sound

/-! ### Declarations -/

omit sound in
theorem specifications_sound {specification : Parser Node} (each : specification.Sound) :
    (specifications rules specification).Sound :=
  branch_sound (nextIsMark_sound _)
    (inOrder_sound ⟨mark_sound _, separated_sound (child_sound each), mark_sound _⟩)
    (child_sound each)

theorem expressionList_sound (place : Place) : (expressionList rules place).Sound :=
  node_sound rfl (commaSeparated_sound (child_sound (sound.expression place)))

theorem initialValues_sound : (initialValues rules).Sound :=
  inOrder_sound ⟨mark_sound _, child_sound (expressionList_sound sound .ofStatement)⟩

omit sound in
theorem names_sound (layout : Layout) : (names rules layout).Sound :=
  commaSeparated_sound childAs_word_sound

theorem constSpec_sound : (constSpec rules).Sound := by
  refine node_sound rfl ⟨names_sound .lines, ?_⟩
  apply branch_sound (continuesWith_sound _ _) (initialValues_sound sound)
  refine bind_sound (continues_sound _) fun _ _ => bind_sound head_sound fun _ _ =>
    bind_sound (nextIsMark_sound _) fun _ _ => ?_
  split
  · exact inOrder_sound ⟨childAs_sound rfl (sound.type .lines), initialValues_sound sound⟩
  · exact pure_sound namesOnly_nil

theorem varSpec_sound : (varSpec rules).Sound :=
  node_sound rfl ⟨names_sound .free, branch_sound (nextIsMark_sound _) (initialValues_sound sound)
    (inOrder_sound ⟨childAs_sound rfl (sound.type .lines),
      partIf_sound (continuesWith_sound _ _) (initialValues_sound sound)⟩)⟩

theorem typeSpec_sound : (typeSpec rules).Sound := by
  apply word_bind_sound
  intro line name spelled
  have specified : ∀ parts : List (Parser (List Node)), parts.Forall Sound →
      (inOrder parts >>= fun parameters => nextIsMark "=" >>= fun isAlias =>
        extend (if isAlias = true then Kind.typeAlias else .typeSpec)
          ((Node.leaf .typeIdentifier line name).withRole .name)
          [pure parameters, partIf (nextIsMark "=") (mark "="),
            childAs .type (rules.type .lines)]).Sound := by
    intro parts partsSound
    apply bind_sound (inOrder_sound partsSound)
    intro parameters names
    refine bind_sound (nextIsMark_sound _) fun isAlias _ => extend_sound ?_ ?_ ?_
    · cases isAlias <;> rfl
    · exact Node.namesOnly_withRole_name spelled (Node.namesOnly_leaf_name spelled)
    · exact ⟨pure_sound names, partIf_sound (nextIsMark_sound _) (mark_sound _),
        childAs_sound rfl (sound.type .lines)⟩
  exact branch_sound (nextIsMark_sound _)
    (either_sound (specified [] trivial) (specified _ (child_sound (typeParameters_sound sound))))
    (specified [] trivial)

theorem declaration_sound (name : String) : (declaration rules name).Sound := by
  unfold declaration
  split
  · exact node_sound rfl ⟨keyword_sound _, specifications_sound (constSpec_sound sound)⟩
  · exact node_sound rfl ⟨keyword_sound _, specifications_sound (varSpec_sound sound)⟩
  · exact node_sound rfl ⟨keyword_sound _, specifications_sound (typeSpec_sound sound)⟩

/-! ### Simple statements and heads -/

theorem simpleStatementFrom_sound (place : Place) {list : Node} (names : namesOnly list) :
    (simpleStatementFrom rules place list).Sound := by
  have right := child_sound (expressionList_sound sound place)
  refine branch_sound (continuesWith_sound _ _) (extend_sound rfl names ⟨next_sound, right⟩) ?_
  refine branch_sound (continuesWithOneOf_sound _ _)
    (extend_sound rfl names ⟨next_sound, right⟩) ?_
  split
  · exact refuse_sound
  refine branch_sound (continuesWithOneOf_sound _ _) (extend_sound rfl names next_sound) ?_
  apply branch_sound (continuesWith_sound _ _)
  · exact extend_sound rfl names ⟨next_sound, child_sound (sound.expression place)⟩
  · exact pure_sound (Node.namesOnly_mk rfl (Node.namesOnly_children names))

theorem simpleStatement_sound (place : Place) : (simpleStatement rules place).Sound :=
  bind_sound (expressionList_sound sound place) fun _ names =>
    simpleStatementFrom_sound sound place names

omit sound in
theorem inHead_sound {Value : Type} [Named Value] {read : Place → Parser Value}
    (readSound : ∀ place, (read place).Sound) : (inHead read).Sound :=
  either_sound
    (bind_sound (readSound _) fun _ names =>
      branch_sound (nextIsMark_sound _) (pure_sound names) refuse_sound)
    (readSound _)

theorem ifHead_sound (place : Place) : (ifHead rules place).Sound := by
  apply bind_sound comments_sound
  intro before beforeNames
  apply bind_sound (simpleStatement_sound sound place)
  intro first firstNames
  have opening : namesOnly (before ++ [first]) := by simp [beforeNames, firstNames]
  apply branch_sound (nextIsMark_sound _)
  · exact inOrder_sound
      ⟨pure_sound opening, mark_sound _, child_sound (sound.expression place)⟩
  · split
    · exact pure_sound opening
    · exact refuse_sound

theorem ifStatement_sound : (ifStatement rules).Sound := by
  refine node_sound rfl
    ⟨keyword_sound _, inHead_sound (ifHead_sound sound), child_sound sound.block, ?_⟩
  refine bind_sound (nextIs_sound _) fun _ _ => bind_sound (continues_sound _) fun _ _ => ?_
  split
  · exact inOrder_sound ⟨keyword_sound _, branch_sound (nextIs_sound _)
      (child_sound sound.statement) (child_sound sound.block)⟩
  · exact pure_sound namesOnly_nil

theorem forClauseRest_sound (place : Place) : (forClauseRest rules place).Sound :=
  inOrder_sound ⟨mark_sound _, partIf_sound (not_sound (nextIsMark_sound _))
    (child_sound (sound.expression place)), mark_sound _, partIf_sound
    (not_sound (nextIsMark_sound _)) (child_sound (simpleStatement_sound sound place))⟩

theorem rangeRest_sound (place : Place) : (rangeRest rules place).Sound :=
  inOrder_sound ⟨keyword_sound _, child_sound (sound.expression place)⟩

theorem forHead_sound (place : Place) : (forHead rules place).Sound := by
  have single : ∀ before : List Node, namesOnly before → ∀ clause : Parser Node, clause.Sound →
      (clause >>= fun node => pure (before ++ [node]) : Parser (List Node)).Sound :=
    fun before beforeNames clause clauseSound =>
      bind_sound clauseSound fun node names => pure_sound (by simp [beforeNames, names])
  apply branch_sound (nextIsMark_sound _) (pure_sound namesOnly_nil)
  apply bind_sound comments_sound
  intro before beforeNames
  refine branch_sound (nextIs_sound _)
    (single before beforeNames _ (node_sound rfl (rangeRest_sound sound place))) ?_
  refine branch_sound (nextIsMark_sound _)
    (single before beforeNames _ (node_sound rfl (forClauseRest_sound sound place))) ?_
  apply bind_sound (expressionList_sound sound place)
  intro list listNames
  apply bind_sound ahead_sound
  intro tokens _
  split
  · split
    · exact single before beforeNames _
        (extend_sound rfl listNames ⟨next_sound, rangeRest_sound sound place⟩)
    · exact refuse_sound
  · apply bind_sound (simpleStatementFrom_sound sound place listNames)
    intro first firstNames
    refine branch_sound (nextIsMark_sound _)
      (single before beforeNames _
        (extend_sound rfl firstNames (forClauseRest_sound sound place))) ?_
    split
    · exact pure_sound (by simp [beforeNames, firstNames])
    · exact refuse_sound

theorem forStatement_sound : (forStatement rules).Sound :=
  node_sound rfl
    ⟨keyword_sound _, inHead_sound (forHead_sound sound), child_sound sound.block⟩

/-! ### Statements with cases -/

theorem listedStatement_sound : (listedStatement rules).Sound := by
  apply bind_sound ahead_sound
  intro tokens _
  split
  · split
    · exact node_sound rfl ⟨child_sound (word_sound _), mark_sound _⟩
    · exact sound.statement
  · exact sound.statement

theorem statements_sound : (statements rules).Sound :=
  separated_sound (child_sound (listedStatement_sound sound))

theorem caseClause_sound {caseHead : Parser (List Node)} (headSound : caseHead.Sound) :
    (caseClause rules caseHead).Sound :=
  branch_sound (nextIs_sound _)
    (node_sound rfl ⟨keyword_sound _, mark_sound _, statements_sound sound⟩)
    (node_sound rfl ⟨keyword_sound _, headSound, mark_sound _, statements_sound sound⟩)

theorem cases_sound {caseHead : Parser (List Node)} (headSound : caseHead.Sound) :
    (cases rules caseHead).Sound :=
  inOrder_sound ⟨mark_sound _, during_sound (not_sound (nextIsMark_sound _))
    (child_sound (caseClause_sound sound headSound)), mark_sound _⟩

theorem switchValue_sound (place : Place) {list : Node} (names : namesOnly list) :
    (switchValue rules place list).Sound := by
  have guarded : ∀ subject : Node, namesOnly subject →
      (extend .typeAssertion subject [mark ".", mark "(", keyword "type", mark ")"] >>=
        fun node => pure (node, true) : Parser (Node × Bool)).Sound :=
    fun subject subjectNames =>
      bind_sound (extend_sound rfl subjectNames
        ⟨mark_sound _, mark_sound _, keyword_sound _, mark_sound _⟩)
        fun _ nodeNames => pure_sound ⟨nodeNames, trivial⟩
  refine branch_sound atTypeGuard_sound ?_ (branch_sound (nextIsMark_sound _) ?_ ?_)
  · split
    · exact guarded list names
    · exact refuse_sound
  · refine bind_sound (extend_sound rfl names
      ⟨next_sound, child_sound (expressionList_sound sound place)⟩) fun declared declaredNames => ?_
    exact branch_sound atTypeGuard_sound (guarded declared declaredNames)
      (pure_sound ⟨declaredNames, trivial⟩)
  · exact bind_sound (simpleStatementFrom_sound sound place names) fun _ first =>
      pure_sound ⟨first, trivial⟩

theorem switchHead_sound (place : Place) : (switchHead rules place).Sound := by
  have list := expressionList_sound sound place
  refine branch_sound (nextIsMark_sound _) (pure_sound ⟨namesOnly_nil, trivial⟩) ?_
  apply bind_sound comments_sound
  intro before beforeNames
  apply bind_sound list
  intro read readNames
  apply bind_sound (switchValue_sound sound place readNames)
  intro value valueNames
  obtain ⟨first, guarded⟩ := value
  obtain ⟨firstNames, -⟩ := valueNames
  have opening : namesOnly (before ++ [first]) := by simp [beforeNames, firstNames]
  dsimp only
  split
  · exact pure_sound ⟨opening, trivial⟩
  apply branch_sound (nextIsMark_sound _)
  · apply bind_sound (mark_sound _)
    intro semicolon semicolonNames
    refine branch_sound (nextIsMark_sound _) (pure_sound ⟨?_, trivial⟩) ?_
    · simp [beforeNames, firstNames, semicolonNames]
    apply bind_sound comments_sound
    intro between betweenNames
    apply bind_sound list
    intro other otherNames
    apply bind_sound (switchValue_sound sound place otherNames)
    intro last lastNames
    obtain ⟨node, onTypes⟩ := last
    obtain ⟨nodeNames, -⟩ := lastNames
    dsimp only
    split
    · refine pure_sound ⟨?_, trivial⟩
      simp [beforeNames, firstNames, semicolonNames, betweenNames, nodeNames]
    · exact refuse_sound
  · split
    · exact pure_sound ⟨opening, trivial⟩
    · exact refuse_sound

theorem switchStatement_sound : (switchStatement rules).Sound := by
  refine bind_sound head_sound fun _ _ =>
    bind_sound (keyword_sound _) fun opening openingNames => ?_
  apply bind_sound (inHead_sound (switchHead_sound sound))
  intro read readNames
  obtain ⟨nodes, onTypes⟩ := read
  obtain ⟨nodeNames, -⟩ := readNames
  refine bind_sound (cases_sound sound ?_) fun clauses clauseNames => pure_sound ?_
  · split
    · exact commaSeparated_sound (child_sound (sound.type .free))
    · exact child_sound (expressionList_sound sound .inside)
  · refine Node.namesOnly_mk ?_ (by simp [openingNames, nodeNames, clauseNames])
    cases onTypes <;> rfl

theorem communication_sound : (communication rules).Sound := by
  have value := child_sound (sound.expression .inside)
  apply bind_sound (expressionList_sound sound .inside)
  intro list names
  refine bind_sound (nextIsMark_sound _) fun _ _ => bind_sound (nextIsMark_sound _) fun _ _ => ?_
  split
  · exact extend_sound rfl names ⟨next_sound, value⟩
  split
  · exact refuse_sound
  · exact branch_sound (nextIsMark_sound _) (extend_sound rfl names ⟨next_sound, value⟩)
      (pure_sound (Node.namesOnly_mk rfl (Node.namesOnly_children names)))

theorem selectStatement_sound : (selectStatement rules).Sound :=
  node_sound rfl
    ⟨keyword_sound _, cases_sound sound (child_sound (communication_sound sound))⟩

/-! ### All statements -/

theorem block_sound : (block rules).Sound :=
  node_sound rfl ⟨mark_sound _, statements_sound sound, mark_sound _⟩

omit sound in
theorem optionalLabel_sound : optionalLabel.Sound := by
  apply bind_sound head_sound
  intro lexeme _
  split
  · exact branch_sound (continues_sound _) (child_sound (word_sound _))
      (pure_sound namesOnly_nil)
  · exact pure_sound namesOnly_nil

theorem returnStatement_sound : (returnStatement rules).Sound := by
  refine node_sound rfl ⟨keyword_sound _, ?_⟩
  refine bind_sound (continues_sound _) fun _ _ => bind_sound (nextIsMark_sound _) fun _ _ =>
    bind_sound head_sound fun _ _ => ?_
  split
  · exact pure_sound namesOnly_nil
  · exact child_sound (expressionList_sound sound .ofStatement)

theorem keywordStatement_sound (name : String) : (keywordStatement rules name).Sound := by
  have launched := child_sound (sound.expression .ofStatement)
  unfold keywordStatement
  split
  · exact declaration_sound sound _
  · exact declaration_sound sound _
  · exact declaration_sound sound _
  · exact returnStatement_sound sound
  · exact node_sound rfl ⟨keyword_sound _, launched⟩
  · exact node_sound rfl ⟨keyword_sound _, launched⟩
  · exact ifStatement_sound sound
  · exact forStatement_sound sound
  · exact switchStatement_sound sound
  · exact selectStatement_sound sound
  · exact node_sound rfl (keyword_sound _)
  · exact node_sound rfl ⟨keyword_sound _, optionalLabel_sound⟩
  · exact node_sound rfl ⟨keyword_sound _, optionalLabel_sound⟩
  · exact node_sound rfl ⟨keyword_sound _, child_sound (word_sound _)⟩
  · exact simpleStatement_sound sound .ofStatement

theorem statement_sound : (statement rules).Sound := by
  apply bind_sound ahead_sound
  intro tokens _
  split
  · exact keywordStatement_sound sound _
  · exact sound.block
  · exact node_sound rfl (mark_sound _)
  · exact node_sound rfl
      ⟨child_sound (word_sound _), mark_sound _, child_sound sound.statement⟩
  · exact simpleStatement_sound sound .ofStatement

end

end GoAtlas.Go.Grammar
