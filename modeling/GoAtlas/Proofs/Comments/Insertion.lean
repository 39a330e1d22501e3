import GoAtlas.Proofs.Calls.Capture
import Mathlib.Data.List.Forall2

/-!
Syntax trees with comments put in. Comments stand among the children of any node, where most of what
is read of the node passes over them. Only in parentheses and behind the star of a pointer is it the
first child that counts, and only in such nodes as are looked through; a comment put in may stand
anywhere but before that child.
-/

namespace GoAtlas.Go

/-! ### What is read of a node -/

/-- Does the child in a role say what such a declaration declares? -/
def Kind.declares (kind : Kind) (role : Option Role) : Bool :=
  match kind with
  | .typeDeclaration | .structType | .fieldDeclarationList | .interfaceType => true
  | .typeSpec | .typeAlias => role == some .type
  | _ => false

/-- Is the child in a role a type to which such a declaration refers? -/
def Kind.refers (kind : Kind) (role : Option Role) : Bool :=
  match kind with
  | .fieldDeclaration | .parameterDeclaration => role == some .type
  | .typeElement => true
  | _ => false

/-- Does such a statement or expression call the child in a role, or launch it? -/
def Kind.calls (kind : Kind) (role : Option Role) : Bool :=
  match kind with
  | .goStatement | .deferStatement => true
  | .callExpression => role == some .function
  | _ => false

/-- Does the first child of such a node stand for the node? -/
def Kind.wraps (kind : Kind) : Bool :=
  kind == .parenthesizedExpression || kind == .pointerType || kind == .parenthesizedType

/-- Does what such a node refers to depend on what the child in a role refers to? -/
def Kind.passes (kind : Kind) (role : Option Role) : Bool :=
  match kind with
  | .callExpression => role == some .function
  | .selectorExpression => role == some .operand
  | .genericType => role == some .type
  | .sliceType | .arrayType => role == some .element
  | .mapType | .channelType => role == some .value
  | _ => kind.wraps

/-- What is read of a node. -/
structure Reading where
  /-- The declarations that are its children, as in a file or in the receiver of a method. -/
  listed : Bool
  /-- What it declares. -/
  declared : Bool
  /-- The calls in it. -/
  searched : Bool
  /-- To what it refers. -/
  opened : Bool

namespace Reading

def unread : Reading := ⟨false, false, false, false⟩

def file : Reading := { unread with listed := true }

/-- What is read of the child in a role where so much is read of a node of the kind. -/
def child (reading : Reading) (kind : Kind) (role : Option Role) : Reading where
  listed := reading.declared && kind == .methodDeclaration && role == some .receiver
  declared := reading.listed || reading.declared && kind.declares role
  searched := reading.declared && (kind == .functionDeclaration || kind == .methodDeclaration) &&
    role == some .body || reading.searched && !kind.encloses
  opened := reading.declared && kind.refers role || reading.searched && kind.calls role ||
    reading.opened && kind.passes role

variable {reading : Reading} {kind : Kind} {role : Option Role}

theorem declared_of_listed (listed : reading.listed = true) :
    (reading.child kind role).declared = true := by
  simp [child, listed]

theorem declared_child (declared : reading.declared = true) (declares : kind.declares role = true) :
    (reading.child kind role).declared = true := by
  simp [child, declared, declares]

theorem searched_child (searched : reading.searched = true) (isOpen : kind.encloses = false) :
    (reading.child kind role).searched = true := by
  simp [child, searched, isOpen]

theorem opened_of_refers (declared : reading.declared = true) (refers : kind.refers role = true) :
    (reading.child kind role).opened = true := by
  simp [child, declared, refers]

theorem opened_of_calls (searched : reading.searched = true) (calls : kind.calls role = true) :
    (reading.child kind role).opened = true := by
  simp [child, searched, calls]

theorem opened_child (opened : reading.opened = true) (passes : kind.passes role = true) :
    (reading.child kind role).opened = true := by
  simp [child, opened, passes]

end Reading

/-! ### Insertion -/

mutual

/-- The second node is the first one, of which so much is read, with comments put in. Lines may have
moved. -/
inductive Commented : Reading → Node → Node → Prop where
  | mk {reading : Reading} {kind : Kind} {role : Option Role} {line otherLine : Nat} {text : String}
      {children others : List Node}
      (inside : CommentedIn (reading.child kind) (reading.opened && kind.wraps) children others) :
      Commented reading (.mk kind role line text children) (.mk kind role otherLine text others)

/-- The nodes are read in the way that goes with their roles, and no comment is put in before the
first one if that one is to stay first. -/
inductive CommentedIn : (Option Role → Reading) → Bool → List Node → List Node → Prop where
  | nil {readingOf : Option Role → Reading} {keepsFirst : Bool} :
      CommentedIn readingOf keepsFirst [] []
  | comment {readingOf : Option Role → Reading} {children others : List Node} (line : Nat)
      (text : String) (rest : CommentedIn readingOf false children others) :
      CommentedIn readingOf false children (.leaf .comment line text :: others)
  | child {readingOf : Option Role → Reading} {keepsFirst : Bool} {child other : Node}
      {children others : List Node} (here : Commented (readingOf child.role) child other)
      (rest : CommentedIn readingOf false children others) :
      CommentedIn readingOf keepsFirst (child :: children) (other :: others)

end

variable {reading : Reading} {readingOf : Option Role → Reading} {keepsFirst : Bool}
  {node other : Node} {children others : List Node}

theorem commented_mk_iff {kind otherKind : Kind} {role otherRole : Option Role}
    {line otherLine : Nat} {text otherText : String} :
    Commented reading (.mk kind role line text children)
        (.mk otherKind otherRole otherLine otherText others) ↔
      (kind = otherKind ∧ role = otherRole ∧ text = otherText) ∧
        CommentedIn (reading.child kind) (reading.opened && kind.wraps) children others := by
  constructor
  · rintro ⟨inside⟩
    exact ⟨⟨rfl, rfl, rfl⟩, inside⟩
  · rintro ⟨⟨rfl, rfl, rfl⟩, inside⟩
    exact .mk inside

/-- A node of the longer list has been put in, or belongs to the first node of the other. -/
theorem commentedIn_mk_cons_iff {kind : Kind} {role : Option Role} {line : Nat} {text : String}
    {inner : List Node} :
    CommentedIn readingOf keepsFirst children (.mk kind role line text inner :: others) ↔
      ((keepsFirst = false ∧ kind = .comment ∧ role = none ∧ inner = []) ∧
        CommentedIn readingOf false children others) ∨
      ∃ child rest, children = child :: rest ∧
        Commented (readingOf child.role) child (.mk kind role line text inner) ∧
        CommentedIn readingOf false rest others := by
  constructor
  · rintro (⟨⟩ | ⟨_, _, rest⟩ | ⟨here, rest⟩)
    · exact .inl ⟨⟨rfl, rfl, rfl, rfl⟩, rest⟩
    · exact .inr ⟨_, _, rfl, here, rest⟩
  · rintro (⟨⟨rfl, rfl, rfl, rfl⟩, rest⟩ | ⟨child, children, rfl, here, rest⟩)
    · exact .comment line text rest
    · exact .child here rest

mutual

def decideCommented (reading : Reading) :
    (node other : Node) → Decidable (Commented reading node other)
  | .mk kind _ _ _ children, .mk _ _ _ _ others =>
      have := decideCommentedIn (reading.child kind) (reading.opened && kind.wraps) children others
      decidable_of_iff' _ commented_mk_iff

def decideCommentedIn (readingOf : Option Role → Reading) (keepsFirst : Bool) :
    (children others : List Node) → Decidable (CommentedIn readingOf keepsFirst children others)
  | [], [] => isTrue .nil
  | _ :: _, [] => isFalse nofun
  | children, .mk kind role line text inner :: others =>
      have := decideCommentedIn readingOf false children others
      have : Decidable (∃ child rest, children = child :: rest ∧
          Commented (readingOf child.role) child (.mk kind role line text inner) ∧
          CommentedIn readingOf false rest others) :=
        match children with
        | [] => isFalse nofun
        | child :: rest =>
            have := decideCommented (readingOf child.role) child (.mk kind role line text inner)
            have := decideCommentedIn readingOf false rest others
            decidable_of_iff
              (Commented (readingOf child.role) child (.mk kind role line text inner) ∧
                CommentedIn readingOf false rest others)
              (by simp)
      have : Decidable (inner = []) := decidable_of_iff _ List.isEmpty_iff
      decidable_of_iff' _ commentedIn_mk_cons_iff

end

instance : Decidable (Commented reading node other) := decideCommented reading node other

/-! ### What both have -/

theorem map_eq_of_rel {Element Value : Type} {element other : Option Element}
    {read : Element → Value}
    (both : Option.Rel (fun element other => read other = read element) element other) :
    other.map read = element.map read := by
  cases both with
  | none => rfl
  | some same => exact congrArg some same

theorem flatMap_eq_of_forall₂ {Element Value : Type} {alike : Element → Element → Prop}
    {elements others : List Element} {read : Element → List Value}
    (both : List.Forall₂ alike elements others)
    (same : ∀ element other, alike element other → read other = read element) :
    others.flatMap read = elements.flatMap read := by
  induction both with
  | nil => rfl
  | cons here _ inductionHypothesis =>
      rw [List.flatMap_cons, List.flatMap_cons, same _ _ here, inductionHypothesis]

namespace Commented

theorem kind (commented : Commented reading node other) : other.kind = node.kind := by
  cases commented
  rfl

theorem role (commented : Commented reading node other) : other.role = node.role := by
  cases commented
  rfl

theorem text (commented : Commented reading node other) : other.text = node.text := by
  cases commented
  rfl

theorem inside (commented : Commented reading node other) :
    CommentedIn (reading.child node.kind) (reading.opened && node.kind.wraps) node.children
      other.children := by
  obtain ⟨inside⟩ := commented
  exact inside

end Commented

namespace CommentedIn

/-- What is chosen by kind and role, and is no comment, is the same in both. -/
theorem filter (select : Kind → Option Role → Bool) (noComment : select .comment none = false)
    (inside : CommentedIn readingOf keepsFirst children others) :
    List.Forall₂ (fun child other => select child.kind child.role = true ∧
        Commented (readingOf child.role) child other)
      (children.filter fun child => select child.kind child.role)
      (others.filter fun other => select other.kind other.role) := by
  induction others generalizing children keepsFirst with
  | nil =>
      cases inside
      exact .nil
  | cons other others inductionHypothesis =>
      cases inside with
      | comment line text rest =>
          rw [List.filter_cons_of_neg (Bool.not_eq_true _ ▸ noComment)]
          exact inductionHypothesis rest
      | child here rest =>
          have both := inductionHypothesis rest
          simp only [List.filter_cons, here.kind, here.role]
          split
          · exact .cons ⟨‹_›, here⟩ both
          · exact both

theorem find? {alike : Node → Node → Prop} (select : Kind → Option Role → Bool)
    (noComment : select .comment none = false)
    (inside : CommentedIn readingOf keepsFirst children others)
    (imp : ∀ child ∈ children, select child.kind child.role = true →
      ∀ other, Commented (readingOf child.role) child other → alike child other) :
    Option.Rel alike (children.find? fun child => select child.kind child.role)
      (others.find? fun other => select other.kind other.role) := by
  have both := inside.filter select noComment
  have member (child : Node)
      (first : (children.filter fun child => select child.kind child.role).head? = some child) :
      child ∈ children := List.mem_of_mem_filter (List.mem_of_head? first)
  rw [← List.head?_filter, ← List.head?_filter]
  generalize children.filter _ = chosen, others.filter _ = otherChosen at both member ⊢
  cases both with
  | nil => exact .none
  | cons here _ => exact .some (imp _ (member _ rfl) here.1 _ here.2)

/-- What passes over comments reads the same in both, if it does so in each node. -/
theorem flatMap {Value : Type} {read : Node → List Value}
    (inside : CommentedIn readingOf keepsFirst children others)
    (silent : ∀ line text, read (.leaf .comment line text) = [])
    (alike : ∀ child ∈ children, ∀ other, Commented (readingOf child.role) child other →
      read other = read child) : others.flatMap read = children.flatMap read := by
  induction others generalizing children keepsFirst with
  | nil =>
      cases inside
      rfl
  | cons other others inductionHypothesis =>
      cases inside with
      | comment line text rest =>
          rw [List.flatMap_cons, silent, List.nil_append]
          exact inductionHypothesis rest alike
      | child here rest =>
          rw [List.flatMap_cons, List.flatMap_cons, alike _ List.mem_cons_self _ here]
          congr 1
          exact inductionHypothesis rest fun child member =>
            alike child (List.mem_cons_of_mem _ member)

/-- A first child that is to stay first does so. -/
theorem head? {alike : Node → Node → Prop} (inside : CommentedIn readingOf true children others)
    (imp : ∀ child ∈ children, ∀ other, Commented (readingOf child.role) child other →
      alike child other) : Option.Rel alike children.head? others.head? := by
  cases inside with
  | nil => exact .none
  | child here _ => exact .some (imp _ List.mem_cons_self _ here)

end CommentedIn

namespace Commented

/-- Comments have no role. -/
theorem child? {alike : Node → Node → Prop} (commented : Commented reading node other)
    (role : Role)
    (imp : ∀ child otherChild, Commented (reading.child node.kind (some role)) child otherChild →
      alike child otherChild) : Option.Rel alike (node.child? role) (other.child? role) := by
  refine commented.inside.find? (fun _ childRole => childRole == some role) rfl ?_
  intro child _ inRole otherChild related
  rw [beq_iff_eq] at inRole
  exact imp child otherChild (inRole ▸ related)

theorem childText (commented : Commented reading node other) (role : Role) :
    (other.child? role).map (·.text) = (node.child? role).map (·.text) :=
  map_eq_of_rel (commented.child? role fun _ _ related => related.text)

end Commented

end GoAtlas.Go
