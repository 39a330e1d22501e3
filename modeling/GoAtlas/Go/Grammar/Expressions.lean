import GoAtlas.Go.Grammar.Types

/-!
The grammar of expressions. What can be read as an operand is read as one: `T(x)` is a call, and
brackets after an operand are an index unless they cannot hold an expression.
-/

namespace GoAtlas.Go.Grammar

open GoAtlas.Go.Parser

/-- Names with a meaning of their own in expressions; they name nothing there. -/
def constants : List String := ["nil", "true", "false", "iota"]

/-- Predeclared functions whose first argument is a type. -/
def allocators : List String := ["new", "make"]

/-! ### Composite literals -/

def literalElement (rules : Rules) : Parser Node := do
  let value ←
    if ← nextIsMark openBrace then node .literalElement [child rules.literalValue]
    else node .literalElement [child (rules.expression .inside)]
  if ← nextIsMark ":" then
    extend .keyedElement value [mark ":", child (node .literalElement
      [do if ← nextIsMark openBrace then child rules.literalValue
          else child (rules.expression .inside)])]
  else return value

/-- The elements of a composite literal in braces, where a comma may also stand alone. -/
def literalValue (rules : Rules) : Parser Node := do
  match ← ahead with
  | .mark openBrace :: .mark "," :: _ =>
      node .literalValue [mark openBrace, mark ",", mark closeBrace]
  | _ =>
      node .literalValue
        [bracketed rules.rounds openBrace closeBrace (child (literalElement rules))]

def Braces.allow (braces : Braces) (type : Node) : Bool :=
  match braces with
  | .any => true
  | .notName => type.kind != .typeIdentifier
  | .explicit => false

/-- A composite literal of a named type. -/
def namedComposite (rules : Rules) (place : Place) : Parser Node := do
  let type ← namedType rules place.layout
  if (Braces.allow place.braces type) && (← continuesWith place.layout openBrace) then
    extend .compositeLiteral (type.withRole .type) [child rules.literalValue]
  else refuse

/-! ### Conversions and functions -/

/-- The converted operand in parentheses, perhaps with a comma after it. -/
def conversionOf (rules : Rules) (type : Node) : Parser Node :=
  extend .typeConversion (type.withRole .type) [mark "(",
    childAs .operand (rules.expression .inside), partIf (nextIsMark ",") (mark ","), mark ")"]

/-- A type that is no operand starts a composite literal or a conversion. -/
def typedOperand (rules : Rules) (type : Parser Node) : Parser Node := do
  let read ← type
  if ← nextIsMark openBrace then
    extend .compositeLiteral (read.withRole .type) [child rules.literalValue]
  else conversionOf rules read

def conversion (rules : Rules) (type : Parser Node) : Parser Node := do
  conversionOf rules (← type)

def funcLiteral (rules : Rules) : Parser Node :=
  node .funcLiteral [keyword "func", child rules.parameters, result rules .free,
    childAs .body rules.block]

/-- A function literal, or a conversion to a function type. -/
def function (rules : Rules) : Parser Node :=
  either (funcLiteral rules) (conversion rules (type rules .free))

def parenthesized (rules : Rules) : Parser Node :=
  either
    (node .parenthesizedExpression [mark "(", child (rules.expression .inside), mark ")"])
    (conversion rules (type rules .free))

/-! ### Operands -/

def nameOperand (rules : Rules) (place : Place) (name : String) : Parser Node :=
  if constants.contains name then tokenNode .predeclared
  else if allocators.contains name then word .identifier
  else if place.braces == .explicit then word .identifier
  else either (namedComposite rules place) (word .identifier)

def operand (rules : Rules) (place : Place) : Parser Node := do
  match (← head).token with
  | .word name => nameOperand rules place name
  | .number => tokenNode .basicLiteral
  | .rune => tokenNode .basicLiteral
  | .text _ => tokenNode .basicLiteral
  | .mark "(" => parenthesized rules
  | .mark "[" => do
      match ← ahead with
      | .mark "[" :: .mark "..." :: _ =>
          extend .compositeLiteral ((← bracketType rules .free true).withRole .type)
            [child rules.literalValue]
      | _ => typedOperand rules (bracketType rules .free false)
  | .keyword "func" => function rules
  | .keyword "map" => typedOperand rules (type rules .free)
  | .keyword "struct" => typedOperand rules (type rules .free)
  | .keyword "interface" => conversion rules (type rules .free)
  | .keyword "chan" => conversion rules (type rules .free)
  | _ => refuse

/-! ### What follows an operand -/

def argument (rules : Rules) : Parser Node := do
  let value ← rules.expression .inside
  if ← nextIsMark "..." then extend .variadicArgument value [mark "..."] else return value

def argumentList (rules : Rules) : Parser Node :=
  node .argumentList [bracketed rules.rounds "(" ")" (child (argument rules))]

/-- Arguments of which the first is a type. -/
def typeFirstArguments (rules : Rules) : Parser (List Node) :=
  inOrder [child (rules.type .free),
    during (nextIsMark ",") (do
      let comma ← mark ","
      if ← nextIsMark ")" then return comma
      else return comma ++ (← child (rules.expression .inside))) rules.rounds]

def typeFirstArgumentList (rules : Rules) : Parser Node :=
  node .argumentList [mark "(", partIf (do return !(← nextIsMark ")")) (typeFirstArguments rules),
    mark ")"]

def call (rules : Rules) (callee : Node) : Parser Node := do
  let arguments :=
    if callee.kind == .identifier && allocators.contains callee.text then
      typeFirstArgumentList rules
    else argumentList rules
  extend .callExpression (callee.withRole .function) [child arguments]

/-- `x.(type)` belongs to the switch in whose head it stands. -/
def atTypeGuard : Parser Bool := do
  match ← ahead with
  | [.mark ".", .mark "(", .keyword "type"] => return true
  | _ => return false

def selection (rules : Rules) (operand : Node) : Parser Node := do
  match ← ahead with
  | .mark "." :: .mark "(" :: _ =>
      extend .typeAssertion (operand.withRole .operand)
        [mark ".", mark "(", child (rules.type .free), mark ")"]
  | _ =>
      extend .selectorExpression (operand.withRole .operand)
        [mark ".", childAs .field (word .fieldIdentifier)]

/-- An index or a slice; a slice with a capacity needs both its later bounds. -/
def indexed (rules : Rules) (operand : Node) : Parser Node := do
  let bound := child (rules.expression .inside)
  let opening ← mark "["
  let first ← partIf (do return !(← nextIsMark ":")) bound
  let (kind, bounds) ←
    if ← nextIsMark ":" then
      let colon ← mark ":"
      if ← nextIsMark "]" then pure (Kind.sliceExpression, colon)
      else pure (.sliceExpression, colon ++ (← inOrder
        [bound, partIf (nextIsMark ":") (inOrder [mark ":", bound])]))
    else pure (.indexExpression, [])
  let closing ← mark "]"
  return .mk kind none operand.line ""
    (operand.withRole .operand :: (opening ++ first ++ bounds ++ closing))

/-- Can the operand be read as the name of a type? -/
def isTypeName (operand : Node) : Bool :=
  match operand with
  | .mk .identifier _ _ _ _ => true
  | .mk .selectorExpression _ _ _ (.mk .identifier _ _ _ _ :: _) => true
  | _ => false

/-- An operand with type arguments. With one plain argument after them, a name makes it a
conversion, and otherwise arguments make it a call. -/
def instantiated (rules : Rules) (place : Place) (operand : Node) : Parser Node := do
  let typeArguments ← child (typeArguments rules)
  if ← continuesWith place.layout "(" then
    let arguments ← child (argumentList rules)
    let plain := (arguments.flatMap (·.children)).filter (·.kind != .comment)
    let isConversion := plain.length == 1 && plain.all (·.kind != .variadicArgument)
    if isTypeName operand && isConversion then
      return .mk .typeConversion none operand.line ""
        (.mk .genericType (some .type) operand.line "" (operand.withRole .type :: typeArguments)
          :: arguments)
    else
      return .mk .callExpression none operand.line ""
        (operand.withRole .function :: (typeArguments ++ arguments))
  else if isTypeName operand then
    return .mk .typeInstantiation none operand.line "" (operand.withRole .type :: typeArguments)
  else refuse

/-- Everything that follows an operand: selectors, brackets and arguments. -/
def suffixes (rules : Rules) (place : Place) : Nat → Node → Parser Node
  | 0, _ => refuse
  | rounds + 1, operand => do
      if !(← continues place.layout) || (← atTypeGuard) then return operand
      match (← head).token with
      | .mark "." => suffixes rules place rounds (← selection rules operand)
      | .mark "(" => suffixes rules place rounds (← call rules operand)
      | .mark "[" =>
          suffixes rules place rounds
            (← either (indexed rules operand) (instantiated rules place operand))
      | _ => return operand

/-! ### Operators -/

def unaryOperators : List String := ["+", "-", "!", "^", "*", "&", "<-"]

/-- Where only a unary operator can stand, these are two of them. -/
def twoOperators : String → Option (String × String)
  | "++" => some ("+", "+")
  | "--" => some ("-", "-")
  | "&&" => some ("&", "&")
  | "&^" => some ("&", "^")
  | _ => none

/-- Takes the first of the two operators that the next token stands for. -/
def firstOperator (second : String) : Parser (List Node) := do
  let before ← comments
  modify fun input =>
    match input with
    | [] => []
    | lexeme :: rest => { lexeme with token := .mark second } :: rest
  return before

def unary (rules : Rules) (place : Place) : Parser Node := do
  let applied (operator : Parser (List Node)) : Parser Node :=
    node .unaryExpression [operator, childAs .operand (rules.unary place)]
  match (← head).token with
  | .mark text =>
      if unaryOperators.contains text then applied (mark text)
      else
        match twoOperators text with
        | some (_, second) => applied (firstOperator second)
        | none => operand rules place >>= suffixes rules place (rules.rounds + 1)
  | _ => operand rules place >>= suffixes rules place (rules.rounds + 1)

/-- The binary operators, the ones that bind most tightly first. -/
def binaryOperators : List (List String) :=
  [["*", "/", "%", "<<", ">>", "&", "&^"], ["+", "-", "|", "^"],
    ["==", "!=", "<", "<=", ">", ">="], ["&&"], ["||"]]

/-- Further operands, each after one of the operators; they group to the left. -/
def chain (layout : Layout) (operators : List String) (operand : Parser Node) :
    Nat → Node → Parser Node
  | 0, _ => refuse
  | rounds + 1, left => do
      if ← continuesWithOneOf layout operators then
        let longer ← extend .binaryExpression left [next, child operand]
        chain layout operators operand rounds longer
      else return left

/-- Operands joined by operators, of which those listed first bind most tightly. -/
def joined (rules : Rules) (place : Place) (operand : Parser Node) :
    List (List String) → Parser Node
  | [] => operand
  | operators :: looser =>
      joined rules place (do
        chain place.layout operators operand (rules.rounds + 1) (← operand)) looser

def expression (rules : Rules) (place : Place) : Parser Node :=
  joined rules place (unary rules place) binaryOperators

end GoAtlas.Go.Grammar
