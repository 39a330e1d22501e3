import GoAtlas.Go.Grammar.Parser

/-! The grammar of types, parameters and type parameters. -/

namespace GoAtlas.Go.Grammar

open GoAtlas.Go.Parser

/-- A type, or a union of types. -/
def typeElement (rules : Rules) (layout : Layout) : Parser Node :=
  node .typeElement [child (rules.type layout),
    during (continuesWith layout "|") (inOrder [mark "|", child (rules.type layout)]) rules.rounds]

def typeArguments (rules : Rules) : Parser Node :=
  node .typeArguments [mark "[", child (typeElement rules .free),
    during (nextIsMark ",") (do
      let comma ← mark ","
      if ← nextIsMark "]" then return comma
      else return comma ++ (← child (typeElement rules .free))) rules.rounds,
    mark "]"]

/-- A type that is named: `T`, `p.T`, and either with type arguments. -/
def namedType (rules : Rules) (layout : Layout) : Parser Node := do
  let first ← word .identifier
  let named ←
    if ← continuesWith layout "." then
      extend .qualifiedType ((Node.leaf .packageIdentifier first.line first.text).withRole .package)
        [mark ".", childAs .name (word .typeIdentifier)]
    else pure (.leaf .typeIdentifier first.line first.text)
  if ← continuesWith layout "[" then
    either (extend .genericType (named.withRole .type) [child (typeArguments rules)]) (pure named)
  else return named

/-- May `token` begin a type without parentheses? -/
def beginsPlainType : Token → Bool
  | .word _ => true
  | .mark text => ["*", "[", "<-", "~"].contains text
  | .keyword name => ["struct", "interface", "map", "chan", "func"].contains name
  | _ => false

/-- The result of a function, if one stands here: parameters or a type without parentheses. -/
def result (rules : Rules) (layout : Layout) : Parser (List Node) := do
  if ← continuesWith layout "(" then child rules.parameters
  else if beginsPlainType (← head).token && (← continues layout) then child (rules.type layout)
  else return []

/-- Does an embedded type end here? -/
def atFieldEnd : Parser Bool := do
  return (← atSeparator) || (← nextIsMark closeBrace)

def tag : Parser (List Node) := do
  match (← head).token with
  | .text _ => if ← continues .lines then child (tokenNode .basicLiteral) else return []
  | _ => return []

/-- A field with its names before the type, or an embedded type; a name followed by brackets is an
embedded type if the line ends after them. -/
def fieldDeclaration (rules : Rules) : Parser Node := do
  let embedded := childAs .type (namedType rules .lines)
  if ← nextIsMark "*" then node .fieldDeclaration [mark "*", embedded, tag]
  else
    either
      (do
        let field ← node .fieldDeclaration [embedded, tag]
        if ← atFieldEnd then return field else refuse)
      (node .fieldDeclaration
        [commaSeparated rules.rounds .free (childAs .name (word .fieldIdentifier)),
          childAs .type (rules.type .lines), tag])

def structType (rules : Rules) : Parser Node :=
  node .structType [keyword "struct", child (node .fieldDeclarationList
    [mark openBrace,
      separated (· == .mark closeBrace) (child (fieldDeclaration rules)) (rules.rounds + 1),
      mark closeBrace])]

def interfaceElement (rules : Rules) : Parser Node := do
  match ← ahead with
  | .word _ :: .mark "(" :: _ =>
      either
        (do
          let method ← word .fieldIdentifier
          if ← continues .lines then
            extend .methodElement (method.withRole .name)
              [child rules.parameters, result rules .lines]
          else refuse)
        (typeElement rules .lines)
  | _ => typeElement rules .lines

def interfaceType (rules : Rules) : Parser Node :=
  node .interfaceType [keyword "interface", mark openBrace,
    separated (· == .mark closeBrace) (child (interfaceElement rules)) (rules.rounds + 1),
    mark closeBrace]

/-- A type that begins with a bracket. Only a composite literal may leave its length open. -/
def bracketType (rules : Rules) (layout : Layout) (openLength : Bool) : Parser Node := do
  match ← ahead with
  | .mark "[" :: .mark "]" :: _ =>
      node .sliceType [mark "[", mark "]", childAs .element (rules.type layout)]
  | .mark "[" :: .mark "..." :: _ =>
      if openLength then
        node .implicitLengthArrayType
          [mark "[", mark "...", mark "]", childAs .element (rules.type layout)]
      else refuse
  | _ =>
      node .arrayType [mark "[", child (rules.expression .inside), mark "]",
        childAs .element (rules.type layout)]

def channelType (rules : Rules) (layout : Layout) : Parser Node := do
  if ← nextIsMark "<-" then
    node .channelType [mark "<-", keyword "chan", childAs .value (rules.type layout)]
  else
    node .channelType [keyword "chan", partIf (nextIsMark "<-") (mark "<-"),
      childAs .value (rules.type layout)]

def type (rules : Rules) (layout : Layout) : Parser Node := do
  match (← head).token with
  | .word _ => namedType rules layout
  | .mark "(" => node .parenthesizedType [mark "(", child (rules.type .free), mark ")"]
  | .mark "*" => node .pointerType [mark "*", child (rules.type layout)]
  | .mark "~" => node .negatedType [mark "~", child (rules.type layout)]
  | .mark "[" => bracketType rules layout false
  | .mark "<-" => channelType rules layout
  | .keyword "chan" => channelType rules layout
  | .keyword "map" =>
      node .mapType [keyword "map", mark "[", child (rules.type .free), mark "]",
        childAs .value (rules.type layout)]
  | .keyword "struct" => structType rules
  | .keyword "interface" => interfaceType rules
  | .keyword "func" =>
      node .functionType [keyword "func", child rules.parameters, result rules layout]
  | _ => refuse

/-- Names with their common type, as many names as stand here. -/
def namedParameters (rules : Rules) : Parser Node := do
  let nameAhead : Parser Bool := do
    match ← ahead with
    | .mark "," :: .word _ :: _ => return true
    | _ => return false
  let parameter ← node .parameterDeclaration [childAs .name (word .identifier),
    during nameAhead (inOrder [mark ",", childAs .name (word .identifier)]) rules.rounds,
    childAs .type (rules.type .free)]
  if (← nextIsMark ",") || (← nextIsMark ")") then return parameter else refuse

def parameter (rules : Rules) : Parser Node := do
  let variadic (name : List (Parser (List Node))) : Parser Node :=
    node .variadicParameter (name ++ [mark "...", childAs .type (rules.type .free)])
  let unnamed := node .parameterDeclaration [childAs .type (rules.type .free)]
  match ← ahead with
  | .mark "..." :: _ => variadic []
  | .word _ :: .mark "..." :: _ => variadic [childAs .name (word .identifier)]
  | .word _ :: _ => either (namedParameters rules) unnamed
  | _ => unnamed

/-- Parameters in parentheses, where a comma may also stand alone. -/
def parameters (rules : Rules) : Parser Node := do
  match ← ahead with
  | .mark "(" :: .mark "," :: _ => node .parameterList [mark "(", mark ",", mark ")"]
  | _ => node .parameterList [bracketed rules.rounds "(" ")" (child (parameter rules))]

/-- Names with their common constraint. -/
def typeParameter (rules : Rules) : Parser Node :=
  node .typeParameter [commaSeparated rules.rounds .free (childAs .name (word .identifier)),
    childAs .type (typeElement rules .free)]

/-- Type parameters in brackets, at least one. -/
def typeParameters (rules : Rules) : Parser Node := do
  match ← ahead with
  | .mark "[" :: .mark "]" :: _ => refuse
  | _ => node .typeParameters [bracketed rules.rounds "[" "]" (child (typeParameter rules))]

end GoAtlas.Go.Grammar
