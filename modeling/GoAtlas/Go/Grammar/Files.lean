import GoAtlas.Go.Grammar.Statements
import GoAtlas.Go.Lexer

/-!
The grammar of source files. A file is a sequence of clauses, declarations and statements in any
order, each ended by a line end or a semicolon. At the end of the source only package clauses,
imports and functions may go without.
-/

namespace GoAtlas.Go.Grammar

open GoAtlas.Go.Parser

def packageClause : Parser Node :=
  node .packageClause [keyword "package", child (word .packageIdentifier)]

def importPath : Parser Node := do
  let lexeme ← head
  match lexeme.token with
  | .text literal =>
      modify List.tail
      -- A path that is not UTF-8 spells nothing.
      return .leaf .basicLiteral lexeme.line (literal.getD "")
  | _ => refuse

def importSpec : Parser Node := do
  match (← head).token with
  | .mark "." =>
      node .importSpec [childAs .givenName (do
        let line := (← head).line
        let _ ← mark "."
        return .leaf .packageIdentifier line "."), childAs .path importPath]
  | .word _ =>
      node .importSpec [childAs .givenName (word .packageIdentifier), childAs .path importPath]
  | _ => node .importSpec [childAs .path importPath]

def importDeclaration (rules : Rules) : Parser Node :=
  node .importDeclaration [keyword "import", specifications rules importSpec]

/-- The body of a function, unless the line ends before it. -/
def optionalBody (rules : Rules) : Parser (List Node) :=
  partIf (continuesWith .lines openBrace) (childAs .body rules.block)

def functionDeclaration (rules : Rules) : Parser Node :=
  node .functionDeclaration [keyword "func", childAs .name (word .identifier),
    partIf (nextIsMark "[") (child (typeParameters rules)),
    child rules.parameters, result rules .lines, optionalBody rules]

def methodDeclaration (rules : Rules) : Parser Node :=
  node .methodDeclaration [keyword "func", childAs .receiver rules.parameters,
    childAs .name (word .fieldIdentifier), child rules.parameters, result rules .lines,
    optionalBody rules]

/-- A declaration or statement of a file, and whether it must be ended by a separator. -/
def fileItem (rules : Rules) : Parser (Node × Bool) := do
  match ← ahead with
  | .keyword "package" :: _ => return (← packageClause, false)
  | .keyword "import" :: _ => return (← importDeclaration rules, false)
  | .keyword "func" :: .word _ :: _ => return (← functionDeclaration rules, false)
  | .keyword "func" :: _ =>
      either (do return (← methodDeclaration rules, false)) (do return (← rules.statement, true))
  | _ => return (← rules.statement, true)

def fileItems (rules : Rules) : Nat → Parser (List Node)
  | 0 => refuse
  | rounds + 1 => do
      let before ← comments
      if ← nextIs .endOfSource then return before
      let (item, needsSeparator) ← fileItem rules
      if ← atSeparator then
        let between ← separator
        return before ++ item :: between ++ (← fileItems rules rounds)
      else if !needsSeparator && (← nextIs .endOfSource) then
        return before ++ item :: (← comments)
      else refuse

def sourceFile (rules : Rules) : Parser Node :=
  node .sourceFile [fileItems rules (rules.rounds + 1)]

/-- Reads one phrase, given how the phrases inside it are read. -/
def phrase (rules : Rules) : Phrase → Parser Node
  | .type layout => type rules layout
  | .parameters => parameters rules
  | .expression place => expression rules place
  | .unary place => unary rules place
  | .literalValue => literalValue rules
  | .statement => statement rules
  | .block => block rules

/-- The grammar to a depth of nesting: below it, every phrase is refused. -/
def rulesOfDepth : Nat → Rules
  | 0 => ⟨fun _ => refuse, 0⟩
  | depth + 1 => ⟨fun inner => phrase (rulesOfDepth depth) inner, depth⟩

end GoAtlas.Go.Grammar

namespace GoAtlas.Go

/-- No phrase is nested deeper than this: each level of nesting takes a token, and between two
tokens lie at most a few levels. -/
def depthFor (lexemes : List Lexeme) : Nat :=
  8 * lexemes.length + 16

/-- The syntax tree of a source, or the line of the first thing in it that fits no reading. -/
def parse (source : List UInt8) : Except Nat Node :=
  let lexemes := lex source
  (Grammar.sourceFile (Grammar.rulesOfDepth (depthFor lexemes))).run' lexemes

end GoAtlas.Go
