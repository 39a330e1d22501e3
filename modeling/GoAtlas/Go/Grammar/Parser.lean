import GoAtlas.Go.Token
import GoAtlas.Go.Tree

/-!
Parsers over lexemes. A parser refuses with the line on which it got stuck, and of two refused
readings the one that got further counts. A part of a construct is read as a list of nodes: the
comments before it and then the part itself, if it leaves a node.
-/

namespace GoAtlas.Go

abbrev Parser := StateT (List Lexeme) (Except Nat)

namespace Parser

def head : Parser Lexeme := do
  return (← get).headD { token := .endOfSource, line := 1, startsLine := true, comments := [] }

def refuse {α : Type} : Parser α := do
  throw (← head).line

/-- The first reading that is not refused. -/
def either {α : Type} (first second : Parser α) : Parser α := fun input =>
  match first input with
  | .ok result => .ok result
  | .error line =>
      match second input with
      | .ok result => .ok result
      | .error otherLine => .error (max line otherLine)

/-- Takes the comments before the next token. -/
def comments : Parser (List Node) := do
  match ← get with
  | [] => return []
  | lexeme :: rest =>
      set ({ lexeme with comments := [] } :: rest)
      return lexeme.comments.map (Node.leaf .comment ·)

/-- Takes the next token, which leaves no node, with the comments before it. -/
def next : Parser (List Node) := do
  let before ← comments
  modify List.tail
  return before

def token (expected : Token) : Parser (List Node) := do
  if (← head).token = expected then next else refuse

def mark (text : String) : Parser (List Node) :=
  token (.mark text)

def keyword (name : String) : Parser (List Node) :=
  token (.keyword name)

/-- Takes a name as a node of the given kind. -/
def word (kind : Kind) : Parser Node := do
  let lexeme ← head
  match lexeme.token with
  | .word name =>
      modify List.tail
      return .leaf kind lexeme.line name
  | _ => refuse

/-- Takes a token as a node without text. -/
def tokenNode (kind : Kind) : Parser Node := do
  let lexeme ← head
  modify List.tail
  return .leaf kind lexeme.line

def child (part : Parser Node) : Parser (List Node) := do
  let before ← comments
  return before ++ [← part]

def childAs (role : Role) (part : Parser Node) : Parser (List Node) :=
  child (part <&> (·.withRole role))

def inOrder : List (Parser (List Node)) → Parser (List Node)
  | [] => return []
  | part :: parts => do
      let nodes ← part
      return nodes ++ (← inOrder parts)

/-- A construct with the given parts. -/
def node (kind : Kind) (parts : List (Parser (List Node))) : Parser Node := do
  let line := (← head).line
  return .mk kind none line "" (← inOrder parts)

/-- A construct that begins with a node already read. -/
def extend (kind : Kind) (first : Node) (parts : List (Parser (List Node))) : Parser Node := do
  return .mk kind none first.line "" (first :: (← inOrder parts))

/-- Nothing, or the part if `condition` holds here. -/
def partIf (condition : Parser Bool) (part : Parser (List Node)) : Parser (List Node) := do
  if ← condition then part else return []

def nextIs (expected : Token) : Parser Bool := do
  return (← head).token = expected

def nextIsMark (text : String) : Parser Bool :=
  nextIs (.mark text)

/-- The next three tokens, which stay unread. -/
def ahead : Parser (List Token) := do
  return ((← get).take 3).map (·.token)

/-- The part again and again, as long as `condition` holds, for at most so many rounds. -/
def during (condition : Parser Bool) (part : Parser (List Node)) : Nat → Parser (List Node)
  | 0 => return []
  | rounds + 1 => do
      if ← condition then
        let nodes ← part
        return nodes ++ (← during condition part rounds)
      else return []

/-- Does a line end close a phrase, or is it a blank like others? Inside brackets, and wherever a
phrase cannot end, it is a blank. -/
inductive Layout where
  | lines | free
  deriving DecidableEq, Repr

/-- Does the next token still belong to a phrase laid out like this? -/
def continues (layout : Layout) : Parser Bool := do
  return layout == .free || !(← head).startsLine

def continuesWith (layout : Layout) (text : String) : Parser Bool := do
  return (← nextIsMark text) && (← continues layout)

def continuesWithOneOf (layout : Layout) (texts : List String) : Parser Bool := do
  match (← head).token with
  | .mark text => return texts.contains text && (← continues layout)
  | _ => return false

/-- At least one part, with commas between them. -/
def commaSeparated (rounds : Nat) (layout : Layout) (part : Parser (List Node)) :
    Parser (List Node) :=
  inOrder [part, during (continuesWith layout ",") (inOrder [mark ",", part]) rounds]

/-- Any number of parts between two marks, with commas between them and perhaps after the last. -/
def bracketed (rounds : Nat) (opening closing : String) (part : Parser (List Node)) :
    Parser (List Node) :=
  let rec elements : Nat → Parser (List Node)
    | 0 => refuse
    | rounds + 1 => do
        if ← nextIsMark closing then return []
        let nodes ← part
        if ← nextIsMark "," then
          let comma ← mark ","
          return nodes ++ comma ++ (← elements rounds)
        else return nodes
  inOrder [mark opening, elements (rounds + 1), mark closing]

/-- What separates statements, specifications and elements: a line end, which may have been
passed already, a semicolon or a null character. -/
def atSeparator : Parser Bool := do
  return (← head).startsLine || (← nextIsMark ";") || (← nextIsMark "\x00")

def separator : Parser (List Node) := do
  if (← head).startsLine then return [] else next

/-- Items up to a closing token, with separators between them and perhaps after the last. -/
def separated (closes : Token → Bool) (item : Parser (List Node)) : Nat → Parser (List Node)
  | 0 => refuse
  | rounds + 1 => do
      if closes (← head).token then return []
      let nodes ← item
      if ← atSeparator then
        let between ← separator
        return nodes ++ between ++ (← separated closes item rounds)
      else return nodes

end Parser

/-- Which opening braces after an operand begin a composite literal? Where a block follows an
expression, the brace after a mere name begins the block. -/
inductive Braces where
  /-- After every type, a name included. -/
  | any
  /-- After a type that is not a mere name. -/
  | notName
  /-- After a type that cannot be read as an operand. -/
  | explicit
  deriving DecidableEq, Repr

/-- The surroundings of an expression. -/
structure Place where
  layout : Parser.Layout
  braces : Braces
  deriving DecidableEq, Repr

/-- Inside brackets. -/
def Place.inside : Place := ⟨.free, .any⟩

/-- A statement, or part of one, up to the end of the line. -/
def Place.ofStatement : Place := ⟨.lines, .any⟩

/-- The constructs that contain each other. -/
inductive Phrase where
  | type (layout : Parser.Layout)
  | parameters
  | expression (place : Place)
  | unary (place : Place)
  | literalValue
  | statement
  | block
  deriving DecidableEq, Repr

/-- How the phrases inside a construct are read, and for how many rounds a repetition may go on. -/
structure Rules where
  phrase : Phrase → Parser Node
  rounds : Nat

namespace Rules

def type (rules : Rules) (layout : Parser.Layout) : Parser Node := rules.phrase (.type layout)

def parameters (rules : Rules) : Parser Node := rules.phrase .parameters

def expression (rules : Rules) (place : Place) : Parser Node := rules.phrase (.expression place)

def unary (rules : Rules) (place : Place) : Parser Node := rules.phrase (.unary place)

def literalValue (rules : Rules) : Parser Node := rules.phrase .literalValue

def statement (rules : Rules) : Parser Node := rules.phrase .statement

def block (rules : Rules) : Parser Node := rules.phrase .block

end Rules

end GoAtlas.Go
