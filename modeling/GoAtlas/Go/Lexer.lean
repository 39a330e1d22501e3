import GoAtlas.Go.Token
import GoAtlas.Text.Numeral
import GoAtlas.Text.Utf8

/-!
From bytes to lexemes. Where several tokens could start, the longest is taken; blanks and comments
separate tokens, and a line end is remembered on the lexeme after it. Bytes outside UTF-8 are let
through in comments, strings and runes and are stray anywhere else.
-/

namespace GoAtlas.Go

/-- A character of the source, or a byte that belongs to none. -/
abbrev Letter := Option Char

namespace Lexer

def isHexDigit : Char → Bool := Text.isDigitOf 16

def isOctalDigit : Char → Bool := Text.isDigitOf 8

def isBinaryDigit : Char → Bool := Text.isDigitOf 2

def isBlank (character : Char) : Bool :=
  character == ' ' || ('\t' ≤ character && character ≤ '\r')

/-! ### Numbers

Each function drops from the front what it describes, and fails when that does not stand there. -/

/-- The rest of a run of digits, in which single underscores may separate digits. -/
def dropDigits (isDigit : Char → Bool) : List Char → List Char
  | [] => []
  | [character] => if isDigit character then [] else [character]
  | '_' :: next :: rest => if isDigit next then dropDigits isDigit rest else '_' :: next :: rest
  | character :: next :: rest =>
      if isDigit character then dropDigits isDigit (next :: rest) else character :: next :: rest

def digits? (isDigit : Char → Bool) : List Char → Option (List Char)
  | [] => none
  | character :: rest => if isDigit character then some (dropDigits isDigit rest) else none

def oneOf? (choices : List Char) : List Char → Option (List Char)
  | [] => none
  | character :: rest => if choices.contains character then some rest else none

def optional (drop? : List Char → Option (List Char)) (text : List Char) : List Char :=
  (drop? text).getD text

def based? (letters : List Char) (isDigit : Char → Bool) (text : List Char) :
    Option (List Char) := do
  let afterZero ← oneOf? ['0'] text
  let afterBase ← oneOf? letters afterZero
  digits? isDigit (optional (oneOf? ['_']) afterBase)

/-- `017`, `0o17` and `0_17` are octal. -/
def octal? (text : List Char) : Option (List Char) := do
  let afterZero ← oneOf? ['0'] text
  digits? isOctalDigit (optional (oneOf? ['_']) (optional (oneOf? ['o', 'O']) afterZero))

/-- A decimal integer starts with a zero only if it is zero. -/
def decimal? (text : List Char) : Option (List Char) :=
  match text with
  | '0' :: rest => some rest
  | _ => digits? Text.isAsciiDigit text

def exponent? (letters : List Char) (text : List Char) : Option (List Char) := do
  let afterLetter ← oneOf? letters text
  digits? Text.isAsciiDigit (optional (oneOf? ['+', '-']) afterLetter)

def decimalFloat? (text : List Char) : Option (List Char) :=
  match digits? Text.isAsciiDigit text with
  | some ('.' :: fraction) =>
      some (optional (exponent? ['e', 'E']) (optional (digits? Text.isAsciiDigit) fraction))
  | some rest => exponent? ['e', 'E'] rest
  | none => do
      let fraction ← oneOf? ['.'] text
      let rest ← digits? Text.isAsciiDigit fraction
      return optional (exponent? ['e', 'E']) rest

def hexMantissa? (text : List Char) : Option (List Char) :=
  match digits? isHexDigit (optional (oneOf? ['_']) text) with
  | some ('.' :: fraction) => some (optional (digits? isHexDigit) fraction)
  | some rest => some rest
  | none => oneOf? ['.'] text >>= digits? isHexDigit

def hexFloat? (text : List Char) : Option (List Char) := do
  let afterZero ← oneOf? ['0'] text
  let mantissa ← oneOf? ['x', 'X'] afterZero
  exponent? ['p', 'P'] (← hexMantissa? mantissa)

/-- What is left after the longest number at the front. -/
def number? (text : List Char) : Option (List Char) :=
  let plain := [based? ['x', 'X'] isHexDigit text, based? ['b', 'B'] isBinaryDigit text,
    octal? text, decimal? text, decimalFloat? text, hexFloat? text].filterMap id
  let imaginary := (digits? Text.isAsciiDigit text).toList ++ plain |>.filterMap (oneOf? ['i'])
  (plain ++ imaginary).foldl (fun best rest =>
    match best with
    | none => some rest
    | some found => if rest.length < found.length then some rest else some found) none

/-- May `character` stand in a number? Every number is a run of these. -/
def isNumeric (character : Char) : Bool :=
  isHexDigit character || "_.+-xXoOpPi".toList.contains character

/-! ### Strings and runes -/

def startsWithHex : Nat → List Letter → Bool
  | 0, _ => true
  | count + 1, some character :: rest => isHexDigit character && startsWithHex count rest
  | _ + 1, _ => false

/-- May a backslash in a string be followed by `letter` and then by `rest`? Hexadecimal escapes
need their digits, and any other character may be escaped. -/
def isStringEscape (letter : Letter) (rest : List Letter) : Bool :=
  match letter with
  | some 'x' => startsWithHex 2 rest
  | some 'u' => startsWithHex 4 rest
  | some 'U' => startsWithHex 8 rest
  | some '\x00' => false
  | _ => true

/-- The letters up to and with the closing quote of an interpreted string, and those after it. -/
def interpreted? : List Letter → Option (List Letter × List Letter)
  | [] => none
  | some '"' :: rest => some ([some '"'], rest)
  | some '\n' :: _ => none
  | some '\x00' :: _ => none
  | some '\\' :: letter :: rest =>
      if isStringEscape letter rest then
        (interpreted? rest).map fun (taken, after) => (some '\\' :: letter :: taken, after)
      else none
  | letter :: rest => (interpreted? rest).map fun (taken, after) => (letter :: taken, after)

/-- The letters up to and with the closing quote of a raw string, and those after it. -/
def raw? : List Letter → Option (List Letter × List Letter)
  | [] => none
  | some '`' :: rest => some ([some '`'], rest)
  | some '\x00' :: _ => none
  | letter :: rest => (raw? rest).map fun (taken, after) => (letter :: taken, after)

/-- How many letters the escape after a backslash in a rune takes. -/
def runeEscape? (rest : List Letter) : Option Nat :=
  match rest with
  | some 'x' :: digits => if startsWithHex 2 digits then some 3 else none
  | some 'u' :: digits => if startsWithHex 4 digits then some 5 else none
  | some 'U' :: digits => if startsWithHex 8 digits then some 9 else none
  | some first :: some second :: some third :: _ =>
      if "abfnrtv\\'\"".toList.contains first then some 1
      else if [first, second, third].all isOctalDigit then some 3
      else none
  | some first :: _ => if "abfnrtv\\'\"".toList.contains first then some 1 else none
  | _ => none

/-- The letters of a rune literal after its opening quote, and those after it. -/
def rune? : List Letter → Option (List Letter × List Letter)
  | some '\\' :: rest => do
      let size ← runeEscape? rest
      match rest.drop size with
      | some '\'' :: after => some (some '\\' :: rest.take (size + 1), after)
      | _ => none
  | some '\'' :: _ => none
  | some '\x00' :: _ => none
  | letter :: some '\'' :: after => some ([letter, some '\''], after)
  | _ => none

/-! ### Tokens -/

/-- The mark at the front: `marks` lists the longer ones first. -/
def mark? (letters : List Letter) : Option (String × List Letter) :=
  marks.findSome? fun mark =>
    let spelled := mark.toList.map some
    if spelled.isPrefixOf letters then some (mark, letters.drop spelled.length) else none

/-- The run of characters at the front that satisfy `accepts`. -/
def run (accepts : Char → Bool) : List Letter → List Char
  | some character :: rest => if accepts character then character :: run accepts rest else []
  | _ => []

def lineEnds (letters : List Letter) : Nat :=
  letters.count (some '\n')

/-- The token at the front, the number of lines that end inside it, and what follows it. -/
def token? (letters : List Letter) : Option (Token × Nat × List Letter) :=
  let markOrNone := (mark? letters).map fun (mark, rest) => (Token.mark mark, 0, rest)
  match letters with
  | [] => none
  | none :: _ => none
  | some '"' :: rest =>
      (interpreted? rest).map fun (taken, after) =>
        (.text (Text.Utf8.text? (some '"' :: taken)), lineEnds taken, after)
  | some '`' :: rest =>
      (raw? rest).map fun (taken, after) =>
        (.text (Text.Utf8.text? (some '`' :: taken)), lineEnds taken, after)
  | some '\'' :: rest =>
      (rune? rest).map fun (taken, after) => (.rune, lineEnds taken, after)
  | some character :: _ =>
      if Text.startsName character then
        let name := run Text.continuesName letters
        some (.ofName (String.ofList name), 0, letters.drop name.length)
      else if Text.isAsciiDigit character || character == '.' then
        let numeric := run isNumeric letters
        match number? numeric with
        | some rest => some (.number, 0, letters.drop (numeric.length - rest.length))
        | none => markOrNone
      else markOrNone

/-- A comment that runs to the end of the line: what follows it. -/
def afterLineComment : List Letter → List Letter
  | [] => []
  | some '\n' :: rest => some '\n' :: rest
  | some '\x00' :: rest => some '\x00' :: rest
  | _ :: rest => afterLineComment rest

/-- A comment that runs to a closing mark: the number of lines that end inside it, and what
follows it. -/
def afterBlockComment? : List Letter → Option (Nat × List Letter)
  | [] => none
  | some '*' :: some '/' :: rest => some (0, rest)
  | some '\x00' :: _ => none
  | some '\n' :: rest => (afterBlockComment? rest).map fun (lines, after) => (lines + 1, after)
  | _ :: rest => afterBlockComment? rest

/-- What stands between the token before and the letters that are still to be read. -/
structure Gap where
  line : Nat
  startsLine : Bool
  /-- Lines of the comments, the last one first. -/
  comments : List Nat

/-- The lexeme that ends a gap. -/
def Gap.close (gap : Gap) (token : Token) : Lexeme :=
  ⟨token, gap.line, gap.startsLine, gap.comments.reverse⟩

/-- Reads the rest of the source; every round takes a letter, so as many rounds as there are
letters are enough. Nothing is read after a stray letter. -/
def lexemes : Nat → Gap → List Letter → List Lexeme
  | 0, gap, _ => [gap.close .endOfSource]
  | rounds + 1, gap, letters =>
      match letters with
      | [] => [gap.close .endOfSource]
      | some '\n' :: rest =>
          lexemes rounds { gap with line := gap.line + 1, startsLine := true } rest
      | some '/' :: some '/' :: rest =>
          lexemes rounds { gap with comments := gap.line :: gap.comments } (afterLineComment rest)
      | some '/' :: some '*' :: rest =>
          match afterBlockComment? rest with
          | none => [gap.close .stray]
          | some (lines, after) =>
              lexemes rounds
                { gap with line := gap.line + lines, comments := gap.line :: gap.comments } after
      | letter :: rest =>
          if letter.any isBlank then lexemes rounds gap rest
          else
            match token? letters with
            | none => [gap.close .stray]
            | some (token, lines, after) =>
                gap.close token :: lexemes rounds ⟨gap.line + lines, false, []⟩ after

end Lexer

/-- The lexemes of a source; the last one is the end or a stray letter. A byte order mark at the
start is passed over. -/
def lex (source : List UInt8) : List Lexeme :=
  let letters :=
    match Text.Utf8.decode source with
    | some '\ufeff' :: rest => rest
    | letters => letters
  Lexer.lexemes (letters.length + 1) ⟨1, false, []⟩ letters

end GoAtlas.Go
