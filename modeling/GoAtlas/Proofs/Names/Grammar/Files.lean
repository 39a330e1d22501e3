import GoAtlas.Go.Grammar.Files
import GoAtlas.Proofs.Names.Grammar.Statements

/-! Source files are read soundly, so every name in a syntax tree is a name. -/

namespace GoAtlas.Go.Grammar

open GoAtlas.Go.Parser Named

section

variable {rules : Rules} (sound : rules.Sound)

include sound

omit sound in
theorem packageClause_sound : packageClause.Sound :=
  node_sound rfl ⟨keyword_sound _, child_sound (word_sound _)⟩

omit sound in
theorem importPath_sound : importPath.Sound := by
  apply bind_sound head_sound
  intro lexeme _
  split
  · exact bind_sound drop_sound fun _ _ => pure_sound (Node.namesOnly_leaf rfl)
  · exact refuse_sound

omit sound in
theorem importSpec_sound : importSpec.Sound := by
  have path : (childAs .path importPath).Sound := childAs_sound rfl importPath_sound
  apply bind_sound head_sound
  intro lexeme _
  split
  · refine node_sound rfl ⟨childAs_sound rfl ?_, path⟩
    exact bind_sound head_sound fun _ _ => bind_sound (mark_sound _) fun _ _ =>
      pure_sound (Node.namesOnly_leaf rfl)
  · exact node_sound rfl ⟨childAs_word_sound, path⟩
  · exact node_sound rfl path

omit sound in
theorem importDeclaration_sound : (importDeclaration rules).Sound :=
  node_sound rfl ⟨keyword_sound _, specifications_sound importSpec_sound⟩

theorem optionalBody_sound : (optionalBody rules).Sound :=
  partIf_sound (continuesWith_sound _ _) (childAs_sound rfl sound.block)

theorem functionDeclaration_sound : (functionDeclaration rules).Sound :=
  node_sound rfl ⟨keyword_sound _, childAs_word_sound,
    partIf_sound (nextIsMark_sound _) (child_sound (typeParameters_sound sound)),
    child_sound sound.parameters, result_sound sound .lines, optionalBody_sound sound⟩

theorem methodDeclaration_sound : (methodDeclaration rules).Sound :=
  node_sound rfl ⟨keyword_sound _, childAs_sound rfl sound.parameters, childAs_word_sound,
    child_sound sound.parameters, result_sound sound .lines, optionalBody_sound sound⟩

theorem fileItem_sound : (fileItem rules).Sound := by
  have item : ∀ (reading : Parser Node) (needsSeparator : Bool), reading.Sound →
      (reading >>= fun node => pure (node, needsSeparator) : Parser (Node × Bool)).Sound :=
    fun reading needsSeparator readingSound =>
      bind_sound readingSound fun _ names => pure_sound ⟨names, trivial⟩
  apply bind_sound ahead_sound
  intro tokens _
  split
  · exact item _ false packageClause_sound
  · exact item _ false (importDeclaration_sound)
  · exact item _ false (functionDeclaration_sound sound)
  · exact either_sound (item _ false (methodDeclaration_sound sound))
      (item _ true sound.statement)
  · exact item _ true sound.statement

theorem fileItems_sound (rounds : Nat) : (fileItems rules rounds).Sound := by
  induction rounds with
  | zero => exact refuse_sound
  | succ rounds inductionHypothesis =>
      apply bind_sound comments_sound
      intro before beforeNames
      apply branch_sound (nextIs_sound _) (pure_sound beforeNames)
      apply bind_sound (fileItem_sound sound)
      intro read readNames
      obtain ⟨item, needsSeparator⟩ := read
      obtain ⟨itemNames, -⟩ := readNames
      apply branch_sound atSeparator_sound
      · apply bind_sound separator_sound
        intro between betweenNames
        refine bind_sound inductionHypothesis fun others otherNames => pure_sound ?_
        simp [beforeNames, itemNames, betweenNames, otherNames]
      · apply bind_sound (nextIs_sound _)
        intro _ _
        split
        · refine bind_sound comments_sound fun after afterNames => pure_sound ?_
          simp [beforeNames, itemNames, afterNames]
        · exact refuse_sound

theorem sourceFile_sound : (sourceFile rules).Sound :=
  node_sound rfl (fileItems_sound sound _)

theorem phrase_sound (form : Phrase) : (phrase rules form).Sound := by
  cases form with
  | type layout => exact type_sound sound layout
  | parameters => exact parameters_sound sound
  | expression place => exact expression_sound sound place
  | unary place => exact unary_sound sound place
  | literalValue => exact literalValue_sound sound
  | statement => exact statement_sound sound
  | block => exact block_sound sound

end

/-- The grammar is sound at every depth of nesting. -/
theorem rulesOfDepth_sound (depth : Nat) : (rulesOfDepth depth).Sound := by
  induction depth with
  | zero => exact fun _ => refuse_sound
  | succ depth inductionHypothesis => exact phrase_sound inductionHypothesis

end GoAtlas.Go.Grammar

namespace GoAtlas.Go

/-- Every name in the syntax tree of a source is a name. -/
theorem namesOnly_of_parse {source : List UInt8} {root : Node} (read : parse source = .ok root) :
    root.NamesOnly := by
  have names : Named.namesOnly (lex source) := fun _ => namesOnly_of_mem_lex
  unfold parse at read
  cases done : Grammar.sourceFile (Grammar.rulesOfDepth (depthFor (lex source))) (lex source) with
  | error line => simp [StateT.run', done] at read
  | ok result =>
      simp only [StateT.run', done] at read
      cases read
      exact (Grammar.sourceFile_sound (Grammar.rulesOfDepth_sound _) _ _ names done).1

end GoAtlas.Go
