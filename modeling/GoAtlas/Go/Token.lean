import GoAtlas.Text.Identifier

/-!
The tokens of Go source and where each one stands. A lexeme knows whether a line ended before it,
since a line end separates statements wherever a separator may stand, and which comments precede it.
-/

namespace GoAtlas.Go

inductive Token where
  /-- A name that is no keyword, predeclared names included. -/
  | word (name : String)
  | keyword (name : String)
  /-- An operator or a mark of punctuation. -/
  | mark (text : String)
  | number
  | rune
  /-- A string literal as written, quotes included; `none` when it is not UTF-8. -/
  | text (literal : Option String)
  /-- What no token can start with, or what starts one that does not end. -/
  | stray
  | endOfSource
  deriving DecidableEq, Inhabited, Repr

structure Lexeme where
  token : Token
  line : Nat
  /-- A line ended between the token before and this one, outside comments. -/
  startsLine : Bool
  /-- The lines on which the comments before the token begin. -/
  comments : List Nat
  deriving Inhabited, Repr

@[match_pattern]
abbrev openBrace : String := "\x7b"

@[match_pattern]
abbrev closeBrace : String := "\x7d"

def keywords : List String :=
  ["break", "case", "chan", "const", "continue", "default", "defer", "else", "fallthrough", "for",
    "func", "go", "goto", "if", "import", "interface", "map", "package", "range", "return",
    "select", "struct", "switch", "type", "var"]

/-- Operators and punctuation, each before those that it begins with. -/
def marks : List String :=
  ["&^=", "<<=", ">>=", "...",
    "&^", "<<", ">>", "&&", "||", "==", "!=", "<=", ">=", ":=", "+=", "-=", "*=", "/=", "%=", "&=",
    "|=", "^=", "<-", "++", "--",
    "+", "-", "*", "/", "%", "&", "|", "^", "<", ">", "=", "!", "(", ")", "[", "]",
    openBrace, closeBrace, ",", ";", ".", ":", "~", "\x00"]

/-- A whole word as a token. -/
def Token.ofName (name : String) : Token :=
  if keywords.contains name then .keyword name else .word name

end GoAtlas.Go
