import GoAtlas.Go.Grammar.Parser
import GoAtlas.Proofs.Names.Lexemes
import Mathlib.Data.List.Basic

/-!
Parsers that keep names names. A value is well named when every identifier, field and type name in
it is a name; a sound parser turns well-named lexemes into a well-named result and leaves
well-named lexemes. Sound parsers combine, which carries the property through the grammar.
-/

namespace GoAtlas.Go

/-! ### Well-named values -/

def Kind.spellsName : Kind → Bool
  | .identifier => true
  | .typeIdentifier => true
  | _ => false

def Role.spellsName : Role → Bool
  | .name => true
  | .field => true
  | .package => true
  | _ => false

/-- Must the text of the node be a name? -/
def Node.spellsName (node : Node) : Bool :=
  node.kind.spellsName || node.role.any Role.spellsName

/-- Every node of the tree that spells a name spells one that Go admits. -/
inductive Node.NamesOnly : Node → Prop where
  | intro {node : Node} (own : node.spellsName = true → isName node.text = true)
      (inner : ∀ child ∈ node.children, child.NamesOnly) : node.NamesOnly

/-- Values that may hold words of a source. -/
class Named (Value : Type) where
  namesOnly : Value → Prop

open Named (namesOnly)

instance : Named Token := ⟨Token.NamesOnly⟩

instance : Named Lexeme := ⟨fun lexeme => lexeme.token.NamesOnly⟩

instance : Named Node := ⟨Node.NamesOnly⟩

instance : Named Bool := ⟨fun _ => True⟩

instance : Named Kind := ⟨fun _ => True⟩

instance : Named Unit := ⟨fun _ => True⟩

instance {Value : Type} [Named Value] : Named (List Value) :=
  ⟨fun values => ∀ value ∈ values, namesOnly value⟩

instance {First Second : Type} [Named First] [Named Second] : Named (First × Second) :=
  ⟨fun pair => namesOnly pair.1 ∧ namesOnly pair.2⟩

section

variable {Value First Second : Type} [Named Value] [Named First] [Named Second]

@[simp] theorem namesOnly_bool (value : Bool) : namesOnly value := trivial

@[simp] theorem namesOnly_kind (kind : Kind) : namesOnly kind := trivial

@[simp] theorem namesOnly_nil : namesOnly ([] : List Value) := fun _ member => by cases member

@[simp]
theorem namesOnly_cons {first : Value} {rest : List Value} :
    namesOnly (first :: rest) ↔ namesOnly first ∧ namesOnly rest :=
  List.forall_mem_cons

@[simp]
theorem namesOnly_append {first second : List Value} :
    namesOnly (first ++ second) ↔ namesOnly first ∧ namesOnly second :=
  List.forall_mem_append

@[simp]
theorem namesOnly_pair {first : First} {second : Second} :
    namesOnly (first, second) ↔ namesOnly first ∧ namesOnly second := Iff.rfl

end

namespace Node

theorem isName_text {node : Node} (names : namesOnly node) (spells : node.spellsName = true) :
    isName node.text = true := by
  obtain ⟨own, inner⟩ := names
  exact own spells

theorem namesOnly_children {node : Node} (names : namesOnly node) : namesOnly node.children := by
  obtain ⟨own, inner⟩ := names
  exact inner

/-- A construct without a role names nothing itself. -/
theorem namesOnly_mk {kind : Kind} {line : Nat} {text : String} {children : List Node}
    (construct : kind.spellsName = false) (inner : namesOnly children) :
    namesOnly (mk kind none line text children) := by
  refine .intro ?_ inner
  intro spells
  simp [Node.spellsName, Node.kind, Node.role, construct] at spells

theorem namesOnly_leaf {kind : Kind} {line : Nat} {text : String}
    (construct : kind.spellsName = false) : namesOnly (leaf kind line text) :=
  namesOnly_mk construct namesOnly_nil

theorem namesOnly_leaf_name {kind : Kind} {line : Nat} {text : String}
    (name : isName text = true) : namesOnly (leaf kind line text) :=
  .intro (fun _ => name) namesOnly_nil

/-- Any node can take a role that is not a name's. -/
theorem namesOnly_withRole {node : Node} {role : Role} (plain : role.spellsName = false)
    (names : namesOnly node) : namesOnly (node.withRole role) := by
  have inner := namesOnly_children names
  refine .intro ?_ inner
  intro spells
  have own : node.spellsName = true → isName node.text = true := isName_text names
  simp only [Node.spellsName, kind_withRole, role_withRole, Option.any_some, plain,
    Bool.or_false] at spells
  exact own (by simp [Node.spellsName, spells])

theorem namesOnly_withRole_name {node : Node} {role : Role} (name : isName node.text = true)
    (names : namesOnly node) : namesOnly (node.withRole role) := by
  have inner := namesOnly_children names
  exact .intro (fun _ => name) inner

end Node

/-! ### Sound parsers -/

namespace Parser

theorem bind_eq_ok {Value Result : Type} {parser : Parser Value} {next : Value → Parser Result}
    {input : List Lexeme} {result : Result × List Lexeme}
    (done : (parser >>= next) input = .ok result) :
    ∃ value middle, parser input = .ok (value, middle) ∧ next value middle = .ok result := by
  change (parser input >>= fun pair => next pair.1 pair.2) = _ at done
  cases first : parser input with
  | error line =>
      rw [first] at done
      cases done
  | ok pair =>
      rw [first] at done
      exact ⟨pair.1, pair.2, rfl, done⟩

variable {Value Result : Type} [Named Value] [Named Result]

/-- The parser makes no names of what is none. -/
def Sound (parser : Parser Value) : Prop :=
  ∀ input result, namesOnly input → parser input = .ok result → namesOnly result

theorem pure_sound {value : Value} (names : namesOnly value) :
    (pure value : Parser Value).Sound := by
  intro input result inputNames done
  cases done
  exact ⟨names, inputNames⟩

theorem bind_sound {parser : Parser Value} {next : Value → Parser Result}
    (first : parser.Sound) (second : ∀ value, namesOnly value → (next value).Sound) :
    (parser >>= next).Sound := by
  intro input result inputNames done
  obtain ⟨value, middle, read, remaining⟩ := bind_eq_ok done
  obtain ⟨valueNames, middleNames⟩ := first input _ inputNames read
  exact second value valueNames middle result middleNames remaining

/-- A question is asked, and one of two ways is taken. -/
theorem branch_sound {question : Parser Bool} {yes no : Parser Value} (asked : question.Sound)
    (yesSound : yes.Sound) (noSound : no.Sound) :
    (question >>= fun answer => if answer = true then yes else no).Sound := by
  apply bind_sound asked
  intro answer _
  split
  · exact yesSound
  · exact noSound

theorem get_sound : (get : Parser (List Lexeme)).Sound := by
  intro input result inputNames done
  cases done
  exact ⟨inputNames, inputNames⟩

theorem set_sound {lexemes : List Lexeme} (names : namesOnly lexemes) :
    (set lexemes : Parser Unit).Sound := by
  intro input result inputNames done
  cases done
  exact ⟨trivial, names⟩

theorem modify_sound {change : List Lexeme → List Lexeme}
    (keeps : ∀ lexemes, namesOnly lexemes → namesOnly (change lexemes)) :
    (modify change : Parser Unit).Sound := by
  intro input result inputNames done
  cases done
  exact ⟨trivial, keeps input inputNames⟩

theorem drop_sound : (modify List.tail : Parser Unit).Sound :=
  modify_sound fun _ names lexeme member => names lexeme (List.mem_of_mem_tail member)

theorem head_sound : head.Sound := by
  refine bind_sound get_sound fun lexemes names => pure_sound ?_
  cases lexemes with
  | nil => exact fun name same => by cases same
  | cons first rest => exact names first List.mem_cons_self

theorem refuse_sound : (refuse : Parser Value).Sound := by
  apply bind_sound head_sound
  intro lexeme _ input result inputNames done
  cases done

theorem either_sound {first second : Parser Value} (firstSound : first.Sound)
    (secondSound : second.Sound) : (either first second).Sound := by
  intro input result inputNames done
  unfold either at done
  split at done
  · rename_i result read
    cases done
    exact firstSound input _ inputNames read
  · split at done
    · rename_i result read
      cases done
      exact secondSound input _ inputNames read
    · cases done

theorem comments_sound : comments.Sound := by
  apply bind_sound get_sound
  intro lexemes names
  split
  · exact pure_sound namesOnly_nil
  · rename_i lexeme rest
    obtain ⟨own, later⟩ := namesOnly_cons.mp names
    have left : namesOnly ({ lexeme with comments := [] } :: rest) :=
      namesOnly_cons.mpr ⟨own, later⟩
    refine bind_sound (set_sound left) fun _ _ => pure_sound ?_
    intro node member
    obtain ⟨line, -, rfl⟩ := List.mem_map.mp member
    exact Node.namesOnly_leaf rfl

theorem next_sound : next.Sound :=
  bind_sound comments_sound fun _ names => bind_sound drop_sound fun _ _ => pure_sound names

theorem token_sound (expected : Token) : (token expected).Sound := by
  apply bind_sound head_sound
  intro lexeme _
  split
  · exact next_sound
  · exact refuse_sound

theorem mark_sound (text : String) : (mark text).Sound := token_sound _

theorem keyword_sound (name : String) : (keyword name).Sound := token_sound _

/-- What follows the reading of a word may use that it is a name. -/
theorem word_bind_sound {kind : Kind} {next : Node → Parser Value}
    (follows : ∀ line name, isName name = true → (next (.leaf kind line name)).Sound) :
    (word kind >>= next).Sound := by
  unfold word
  rw [bind_assoc]
  apply bind_sound head_sound
  intro lexeme names
  split
  · rename_i name spelled
    rw [bind_assoc]
    apply bind_sound drop_sound
    intro _ _
    rw [pure_bind]
    exact follows lexeme.line name (names name spelled)
  · rw [refuse, bind_assoc]
    apply bind_sound head_sound
    intro stuck _ input result inputNames done
    cases done

theorem word_sound (kind : Kind) : (word kind).Sound := by
  rw [← bind_pure (word kind)]
  exact word_bind_sound fun line name spelled => pure_sound (Node.namesOnly_leaf_name spelled)

theorem tokenNode_sound {kind : Kind} (construct : kind.spellsName = false) :
    (tokenNode kind).Sound :=
  bind_sound head_sound fun _ _ => bind_sound drop_sound fun _ _ =>
    pure_sound (Node.namesOnly_leaf construct)

theorem child_sound {part : Parser Node} (sound : part.Sound) : (child part).Sound := by
  apply bind_sound comments_sound
  intro before beforeNames
  refine bind_sound sound fun node names => pure_sound ?_
  simp [beforeNames, names]

theorem childAs_sound {role : Role} {part : Parser Node} (plain : role.spellsName = false)
    (sound : part.Sound) : (childAs role part).Sound := by
  apply child_sound
  rw [Functor.mapRev, ← bind_pure_comp]
  exact bind_sound sound fun node names => pure_sound (Node.namesOnly_withRole plain names)

theorem childAs_word_sound {role : Role} {kind : Kind} : (childAs role (word kind)).Sound := by
  apply child_sound
  rw [Functor.mapRev, ← bind_pure_comp]
  exact word_bind_sound fun line name spelled =>
    pure_sound (Node.namesOnly_withRole_name spelled (Node.namesOnly_leaf_name spelled))

theorem inOrder_sound {parts : List (Parser (List Node))} (sound : parts.Forall Sound) :
    (inOrder parts).Sound := by
  induction parts with
  | nil => exact pure_sound namesOnly_nil
  | cons part parts inductionHypothesis =>
      obtain ⟨own, later⟩ := List.forall_cons _ _ _ |>.mp sound
      apply bind_sound own
      intro nodes names
      refine bind_sound (inductionHypothesis later) fun others otherNames => pure_sound ?_
      simp [names, otherNames]

theorem node_sound {kind : Kind} {parts : List (Parser (List Node))}
    (construct : kind.spellsName = false) (sound : parts.Forall Sound) :
    (node kind parts).Sound :=
  bind_sound head_sound fun _ _ => bind_sound (inOrder_sound sound) fun _ names =>
    pure_sound (Node.namesOnly_mk construct names)

theorem extend_sound {kind : Kind} {first : Node} {parts : List (Parser (List Node))}
    (construct : kind.spellsName = false) (names : namesOnly first)
    (sound : parts.Forall Sound) : (extend kind first parts).Sound :=
  bind_sound (inOrder_sound sound) fun _ others =>
    pure_sound (Node.namesOnly_mk construct (namesOnly_cons.mpr ⟨names, others⟩))

/-! ### Questions -/

theorem nextIs_sound (expected : Token) : (nextIs expected).Sound :=
  bind_sound head_sound fun _ _ => pure_sound trivial

theorem nextIsMark_sound (text : String) : (nextIsMark text).Sound := nextIs_sound _

theorem ahead_sound : ahead.Sound := by
  refine bind_sound get_sound fun lexemes names => pure_sound ?_
  intro token member
  obtain ⟨lexeme, taken, rfl⟩ := List.mem_map.mp member
  exact names lexeme (List.mem_of_mem_take taken)

theorem continues_sound (layout : Layout) : (continues layout).Sound :=
  bind_sound head_sound fun _ _ => pure_sound trivial

theorem continuesWith_sound (layout : Layout) (text : String) :
    (continuesWith layout text).Sound :=
  bind_sound (nextIsMark_sound text) fun _ _ => bind_sound (continues_sound layout) fun _ _ =>
    pure_sound trivial

theorem continuesWithOneOf_sound (layout : Layout) (texts : List String) :
    (continuesWithOneOf layout texts).Sound := by
  apply bind_sound head_sound
  intro lexeme _
  split
  · exact bind_sound (continues_sound layout) fun _ _ => pure_sound trivial
  · exact pure_sound trivial

theorem atSeparator_sound : atSeparator.Sound :=
  bind_sound head_sound fun _ _ => bind_sound (nextIsMark_sound _) fun _ _ =>
    bind_sound (nextIsMark_sound _) fun _ _ => pure_sound trivial

theorem not_sound {question : Parser Bool} (sound : question.Sound) :
    (do return !(← question) : Parser Bool).Sound :=
  bind_sound sound fun _ _ => pure_sound trivial

/-! ### Repetition -/

theorem partIf_sound {condition : Parser Bool} {part : Parser (List Node)}
    (asked : condition.Sound) (sound : part.Sound) : (partIf condition part).Sound :=
  branch_sound asked sound (pure_sound namesOnly_nil)

theorem during_sound {condition : Parser Bool} {part : Parser (List Node)} {rounds : Nat}
    (asked : condition.Sound) (sound : part.Sound) : (during condition part rounds).Sound := by
  induction rounds with
  | zero => exact pure_sound namesOnly_nil
  | succ rounds inductionHypothesis =>
      refine branch_sound asked ?_ (pure_sound namesOnly_nil)
      apply bind_sound sound
      intro nodes names
      refine bind_sound inductionHypothesis fun others otherNames => pure_sound ?_
      simp [names, otherNames]

theorem commaSeparated_sound {rounds : Nat} {layout : Layout} {part : Parser (List Node)}
    (sound : part.Sound) : (commaSeparated rounds layout part).Sound :=
  inOrder_sound ⟨sound, during_sound (continuesWith_sound layout _)
    (inOrder_sound ⟨mark_sound _, sound⟩)⟩

theorem elements_sound {closing : String} {part : Parser (List Node)} {rounds : Nat}
    (sound : part.Sound) : (bracketed.elements closing part rounds).Sound := by
  induction rounds with
  | zero => exact refuse_sound
  | succ rounds inductionHypothesis =>
      apply branch_sound (nextIsMark_sound closing) (pure_sound namesOnly_nil)
      apply bind_sound sound
      intro nodes names
      refine branch_sound (nextIsMark_sound ",") ?_ (pure_sound names)
      apply bind_sound (mark_sound ",")
      intro comma commaNames
      refine bind_sound inductionHypothesis fun others otherNames => pure_sound ?_
      simp [names, commaNames, otherNames]

theorem bracketed_sound {rounds : Nat} {opening closing : String} {part : Parser (List Node)}
    (sound : part.Sound) : (bracketed rounds opening closing part).Sound :=
  inOrder_sound ⟨mark_sound _, elements_sound sound, mark_sound _⟩

theorem separator_sound : separator.Sound := by
  apply bind_sound head_sound
  intro lexeme _
  split
  · exact pure_sound namesOnly_nil
  · exact next_sound

theorem separated_sound {closes : Token → Bool} {item : Parser (List Node)} {rounds : Nat}
    (sound : item.Sound) : (separated closes item rounds).Sound := by
  induction rounds with
  | zero => exact refuse_sound
  | succ rounds inductionHypothesis =>
      apply bind_sound head_sound
      intro lexeme _
      split
      · exact pure_sound namesOnly_nil
      apply bind_sound sound
      intro nodes names
      refine branch_sound atSeparator_sound ?_ (pure_sound names)
      apply bind_sound separator_sound
      intro between betweenNames
      refine bind_sound inductionHypothesis fun others otherNames => pure_sound ?_
      simp [names, betweenNames, otherNames]

end Parser

/-- Rules under which every phrase is read soundly. -/
def Rules.Sound (rules : Rules) : Prop :=
  ∀ phrase, (rules.phrase phrase).Sound

namespace Rules.Sound

variable {rules : Rules} (sound : rules.Sound)

include sound

theorem type (layout : Parser.Layout) : (rules.type layout).Sound := sound _

theorem parameters : rules.parameters.Sound := sound _

theorem expression (place : Place) : (rules.expression place).Sound := sound _

theorem unary (place : Place) : (rules.unary place).Sound := sound _

theorem literalValue : rules.literalValue.Sound := sound _

theorem statement : rules.statement.Sound := sound _

theorem block : rules.block.Sound := sound _

end Rules.Sound

end GoAtlas.Go
