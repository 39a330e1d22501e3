import GoAtlas.Go.Grammar.Expressions

/-! The grammar of statements and of the declarations that may stand among them. -/

namespace GoAtlas.Go.Grammar

open GoAtlas.Go.Parser

/-! ### Declarations -/

/-- One specification, or any number of them in parentheses. -/
def specifications (rules : Rules) (specification : Parser Node) : Parser (List Node) := do
  if ← nextIsMark "(" then
    inOrder [mark "(", separated (· == .mark ")") (child specification) (rules.rounds + 1),
      mark ")"]
  else child specification

def expressionList (rules : Rules) (place : Place) : Parser Node :=
  node .expressionList
    [commaSeparated rules.rounds place.layout (child (rules.expression place))]

def initialValues (rules : Rules) : Parser (List Node) :=
  inOrder [mark "=", child (expressionList rules .ofStatement)]

def names (rules : Rules) (layout : Layout) : Parser (List Node) :=
  commaSeparated rules.rounds layout (childAs .name (word .identifier))

def constSpec (rules : Rules) : Parser Node :=
  node .constSpec [names rules .lines, do
    if ← continuesWith .lines "=" then initialValues rules
    else if (← continues .lines) && ((beginsPlainType (← head).token) || (← nextIsMark "(")) then
      inOrder [childAs .type (rules.type .lines), initialValues rules]
    else return []]

def varSpec (rules : Rules) : Parser Node :=
  node .varSpec [names rules .free, do
    if ← nextIsMark "=" then initialValues rules
    else
      inOrder [childAs .type (rules.type .lines),
        partIf (continuesWith .lines "=") (initialValues rules)]]

/-- A declared type. A bracket after its name opens the length of an array if it can, and type
parameters otherwise. -/
def typeSpec (rules : Rules) : Parser Node := do
  let name ← word .typeIdentifier
  let specified (parts : List (Parser (List Node))) : Parser Node := do
    let parameters ← inOrder parts
    let kind := if ← nextIsMark "=" then Kind.typeAlias else .typeSpec
    extend kind (name.withRole .name) [pure parameters, partIf (nextIsMark "=") (mark "="),
      childAs .type (rules.type .lines)]
  if ← nextIsMark "[" then either (specified []) (specified [child (typeParameters rules)])
  else specified []

def declaration (rules : Rules) (name : String) : Parser Node :=
  match name with
  | "const" => node .constDeclaration [keyword name, specifications rules (constSpec rules)]
  | "var" => node .varDeclaration [keyword name, specifications rules (varSpec rules)]
  | _ => node .typeDeclaration [keyword name, specifications rules (typeSpec rules)]

/-! ### Simple statements -/

def assignmentOperators : List String :=
  ["=", "+=", "-=", "*=", "/=", "%=", "&=", "|=", "^=", "<<=", ">>=", "&^="]

/-- The only expression of a list. -/
def onlyExpression? (list : Node) : Option Node :=
  match list.children.filter (·.kind != .comment) with
  | [expression] => some expression
  | _ => none

/-- A simple statement that begins with the expressions already read. -/
def simpleStatementFrom (rules : Rules) (place : Place) (list : Node) : Parser Node := do
  let right := child (expressionList rules place)
  let alone := (onlyExpression? list).isSome
  if ← continuesWith place.layout ":=" then extend .shortVarDeclaration list [next, right]
  else if ← continuesWithOneOf place.layout assignmentOperators then
    extend .assignmentStatement list [next, right]
  else if !alone then refuse
  else if ← continuesWithOneOf place.layout ["++", "--"] then extend .stepStatement list [next]
  else if ← continuesWith place.layout "<-" then
    extend .sendStatement list [next, child (rules.expression place)]
  else return .mk .expressionStatement none list.line "" list.children

def simpleStatement (rules : Rules) (place : Place) : Parser Node := do
  simpleStatementFrom rules place (← expressionList rules place)

/-! ### Heads

The head of an `if`, `for` or `switch` ends where its block begins. A type with a selector or with
brackets may yet start a composite literal there, if a block follows the head that results. -/

def inHead {α : Type} (read : Place → Parser α) : Parser α :=
  either
    (do
      let result ← read ⟨.free, .notName⟩
      if ← nextIsMark openBrace then return result else refuse)
    (read ⟨.free, .explicit⟩)

/-- A condition, perhaps after a statement and a semicolon. -/
def ifHead (rules : Rules) (place : Place) : Parser (List Node) := do
  let before ← comments
  let first ← simpleStatement rules place
  if ← nextIsMark ";" then
    inOrder [pure (before ++ [first]), mark ";", child (rules.expression place)]
  else if first.kind == .expressionStatement then return before ++ [first]
  else refuse

def ifStatement (rules : Rules) : Parser Node :=
  node .ifStatement [keyword "if", inHead (ifHead rules), child rules.block, do
    if (← nextIs (.keyword "else")) && (← continues .lines) then
      inOrder [keyword "else",
        do if ← nextIs (.keyword "if") then child rules.statement else child rules.block]
    else return []]

/-- What follows the first semicolon in the head of a loop. -/
def forClauseRest (rules : Rules) (place : Place) : Parser (List Node) :=
  inOrder [mark ";",
    partIf (do return !(← nextIsMark ";")) (child (rules.expression place)), mark ";",
    partIf (do return !(← nextIsMark openBrace)) (child (simpleStatement rules place))]

def rangeRest (rules : Rules) (place : Place) : Parser (List Node) :=
  inOrder [keyword "range", child (rules.expression place)]

def forHead (rules : Rules) (place : Place) : Parser (List Node) := do
  if ← nextIsMark openBrace then return []
  let before ← comments
  if ← nextIs (.keyword "range") then
    return before ++ [← node .rangeClause [rangeRest rules place]]
  else if ← nextIsMark ";" then
    return before ++ [← node .forClause [forClauseRest rules place]]
  else
    let list ← expressionList rules place
    match ← ahead with
    | .mark operator :: .keyword "range" :: _ =>
        if operator == ":=" || operator == "=" then
          return before ++ [← extend .rangeClause list [next, rangeRest rules place]]
        else refuse
    | _ =>
        let first ← simpleStatementFrom rules place list
        if ← nextIsMark ";" then
          return before ++ [← extend .forClause first [forClauseRest rules place]]
        else if first.kind == .expressionStatement then return before ++ [first]
        else refuse

def forStatement (rules : Rules) : Parser Node :=
  node .forStatement [keyword "for", inHead (forHead rules), child rules.block]

/-! ### Statements with cases -/

/-- Does a list of statements end here? -/
def closesStatements : Token → Bool
  | .mark text => text == closeBrace
  | .keyword name => name == "case" || name == "default"
  | .endOfSource => true
  | _ => false

/-- A statement of a list. The last one may be a label with nothing after it. -/
def listedStatement (rules : Rules) : Parser Node := do
  match ← ahead with
  | [.word _, .mark ":", after] =>
      if closesStatements after then node .labeledStatement [child (word .labelName), mark ":"]
      else rules.statement
  | _ => rules.statement

def statements (rules : Rules) : Parser (List Node) :=
  separated closesStatements (child (listedStatement rules)) (rules.rounds + 1)

def caseClause (rules : Rules) (caseHead : Parser (List Node)) : Parser Node := do
  if ← nextIs (.keyword "default") then
    node .caseClause [keyword "default", mark ":", statements rules]
  else node .caseClause [keyword "case", caseHead, mark ":", statements rules]

def cases (rules : Rules) (caseHead : Parser (List Node)) : Parser (List Node) :=
  inOrder [mark openBrace,
    during (do return !(← nextIsMark closeBrace)) (child (caseClause rules caseHead)) rules.rounds,
    mark closeBrace]

/-- The value of a switch, and whether its type is switched on. -/
def switchValue (rules : Rules) (place : Place) (list : Node) : Parser (Node × Bool) := do
  let guarded (subject : Node) : Parser (Node × Bool) := do
    return (← extend .typeAssertion subject
      [mark ".", mark "(", keyword "type", mark ")"], true)
  if ← atTypeGuard then
    if (onlyExpression? list).isSome then guarded list else refuse
  else if ← nextIsMark ":=" then
    let declared ← extend .shortVarDeclaration list
      [next, child (expressionList rules place)]
    if ← atTypeGuard then guarded declared else return (declared, false)
  else return (← simpleStatementFrom rules place list, false)

/-- The head of a switch, and whether it is a switch on types. -/
def switchHead (rules : Rules) (place : Place) : Parser (List Node × Bool) := do
  if ← nextIsMark openBrace then return ([], false)
  let before ← comments
  let (first, guarded) ← switchValue rules place (← expressionList rules place)
  if guarded then return (before ++ [first], true)
  else if ← nextIsMark ";" then
    let semicolon ← mark ";"
    if ← nextIsMark openBrace then return (before ++ first :: semicolon, false)
    let between ← comments
    let (value, guarded) ← switchValue rules place (← expressionList rules place)
    if guarded || value.kind == .expressionStatement then
      return (before ++ first :: semicolon ++ between ++ [value], guarded)
    else refuse
  else if first.kind == .expressionStatement then return (before ++ [first], false)
  else refuse

def switchStatement (rules : Rules) : Parser Node := do
  let line := (← head).line
  let opening ← keyword "switch"
  let (nodes, onTypes) ← inHead (switchHead rules)
  let caseHead :=
    if onTypes then commaSeparated rules.rounds .free (child (rules.type .free))
    else child (expressionList rules .inside)
  let clauses ← cases rules caseHead
  let kind := if onTypes then Kind.typeSwitchStatement else .switchStatement
  return .mk kind none line "" (opening ++ nodes ++ clauses)

/-- A case of a `select`: a send, or a receive with what it assigns. -/
def communication (rules : Rules) : Parser Node := do
  let list ← expressionList rules .inside
  let value := child (rules.expression .inside)
  if (← nextIsMark ":=") || (← nextIsMark "=") then extend .receiveStatement list [next, value]
  else if (onlyExpression? list).isNone then refuse
  else if ← nextIsMark "<-" then extend .sendStatement list [next, value]
  else return .mk .receiveStatement none list.line "" list.children

def selectStatement (rules : Rules) : Parser Node :=
  node .selectStatement [keyword "select", cases rules (child (communication rules))]

/-! ### All statements -/

def block (rules : Rules) : Parser Node :=
  node .block [mark openBrace, statements rules, mark closeBrace]

/-- A label on the same line, if one stands there. -/
def optionalLabel : Parser (List Node) := do
  match (← head).token with
  | .word _ => if ← continues .lines then child (word .labelName) else return []
  | _ => return []

def returnStatement (rules : Rules) : Parser Node :=
  node .returnStatement [keyword "return", do
    if !(← continues .lines) || (← nextIsMark ";") || closesStatements (← head).token then
      return []
    else child (expressionList rules .ofStatement)]

def labeledStatement (rules : Rules) : Parser Node :=
  node .labeledStatement [child (word .labelName), mark ":", child rules.statement]

def keywordStatement (rules : Rules) (name : String) : Parser Node :=
  let launched := child (rules.expression .ofStatement)
  match name with
  | "const" => declaration rules name
  | "var" => declaration rules name
  | "type" => declaration rules name
  | "return" => returnStatement rules
  | "go" => node .goStatement [keyword name, launched]
  | "defer" => node .deferStatement [keyword name, launched]
  | "if" => ifStatement rules
  | "for" => forStatement rules
  | "switch" => switchStatement rules
  | "select" => selectStatement rules
  | "fallthrough" => node .branchStatement [keyword name]
  | "break" => node .branchStatement [keyword name, optionalLabel]
  | "continue" => node .branchStatement [keyword name, optionalLabel]
  | "goto" => node .branchStatement [keyword name, child (word .labelName)]
  | _ => simpleStatement rules .ofStatement

def statement (rules : Rules) : Parser Node := do
  match ← ahead with
  | .keyword name :: _ => keywordStatement rules name
  | .mark openBrace :: _ => rules.block
  | .mark ";" :: _ => node .emptyStatement [mark ";"]
  | .word _ :: .mark ":" :: _ => labeledStatement rules
  | _ => simpleStatement rules .ofStatement

end GoAtlas.Go.Grammar
