import GoAtlas.Text.CharSet
import GoAtlas.Text.Numeral

/-!
Cutting JSON into tokens, character by character. Between marks and blanks stand words, which are
constants or numbers, and texts in quotation marks. A text whose escapes name half a pair of
surrogates is well formed, but it spells no text.
-/

namespace GoAtlas.Json

inductive Token where
  /-- One of the brackets, braces, colons and commas. -/
  | mark (character : Char)
  | null
  | flag (value : Bool)
  /-- A number as it is written. -/
  | number (literal : List Char)
  | text (value : Option String)
  deriving DecidableEq, Repr

def isSpace (character : Char) : Bool :=
  character == ' ' || character == '\n' || character == '\t' || character == '\r'

def isMark (character : Char) : Bool :=
  "[]\x7b\x7d:,".toList.contains character

/-! ### Words -/

/-- One digit or more. -/
def areDigits (text : List Char) : Bool :=
  !text.isEmpty && text.all Char.isDigit

/-- Digits without a needless zero before them. -/
def isWhole (text : List Char) : Bool :=
  areDigits text && (text.length == 1 || text.head? != some '0')

/-- Nothing, or an exponent mark, perhaps a sign, and digits. -/
def isExponent (text : List Char) : Bool :=
  match text with
  | [] => true
  | mark :: rest =>
      (mark == 'e' || mark == 'E') &&
        match rest with
        | '+' :: digits => areDigits digits
        | '-' :: digits => areDigits digits
        | digits => areDigits digits

/-- Nothing, or a point and digits, and then perhaps an exponent. -/
def isFraction (text : List Char) : Bool :=
  match text with
  | '.' :: rest =>
      areDigits (rest.takeWhile Char.isDigit) && isExponent (rest.dropWhile Char.isDigit)
  | _ => isExponent text

def isNumber (word : List Char) : Bool :=
  let unsigned :=
    match word with
    | '-' :: rest => rest
    | _ => word
  isWhole (unsigned.takeWhile Char.isDigit) && isFraction (unsigned.dropWhile Char.isDigit)

def wordToken? (word : List Char) : Option Token :=
  match String.ofList word with
  | "null" => some .null
  | "true" => some (.flag true)
  | "false" => some (.flag false)
  | _ => if isNumber word then some (.number word) else none

/-! ### Texts -/

/-- The character for which a letter after a backslash stands. -/
def escapedCharacter? : Char → Option Char
  | '"' => some '"'
  | '\\' => some '\\'
  | '/' => some '/'
  | 'b' => some '\x08'
  | 'f' => some '\x0c'
  | 'n' => some '\n'
  | 'r' => some '\r'
  | 't' => some '\t'
  | _ => none

def isHighHalf (code : Nat) : Bool := 0xD800 ≤ code && code < 0xDC00

def isLowHalf (code : Nat) : Bool := 0xDC00 ≤ code && code < 0xE000

/-- The characters that codes spell: pairs of halves make one, and no half may be left alone. -/
def spelled? : List Nat → Option (List Char)
  | [] => some []
  | [code] => if isHighHalf code || isLowHalf code then none else some [Char.ofNat code]
  | code :: next :: rest =>
      if isHighHalf code && isLowHalf next then
        (spelled? rest).map
          (Char.ofNat (0x10000 + (code - 0xD800) * 0x400 + (next - 0xDC00)) :: ·)
      else if isHighHalf code || isLowHalf code then none
      else (spelled? (next :: rest)).map (Char.ofNat code :: ·)

/-! ### Lexing -/

/-- Where the lexer stands. What has been read stands last character first. -/
inductive Stage where
  | between
  | word (read : List Char)
  /-- Between quotation marks, with the codes of characters and of halves. -/
  | text (read : List Nat)
  | escape (read : List Nat)
  /-- In an escape by number, with so many digits left. -/
  | code (read : List Nat) (number left : Nat)
  deriving DecidableEq

/-- The tokens so far, the last one first, and where the lexer stands. -/
structure Lexer where
  tokens : List Token
  stage : Stage

namespace Lexer

def start : Lexer := ⟨[], .between⟩

def push (lexer : Lexer) (token : Token) : Lexer :=
  ⟨token :: lexer.tokens, .between⟩

/-- Ends a word, if one is being read. -/
def endWord (lexer : Lexer) : Option Lexer :=
  match lexer.stage with
  | .word read => (wordToken? read.reverse).map lexer.push
  | _ => some lexer

/-- A character outside of texts. -/
def outside (lexer : Lexer) (character : Char) : Option Lexer :=
  if isSpace character then lexer.endWord
  else if isMark character then lexer.endWord.map (·.push (.mark character))
  else if character == '"' then lexer.endWord.map fun lexer => { lexer with stage := .text [] }
  else
    match lexer.stage with
    | .word read => some { lexer with stage := .word (character :: read) }
    | _ => some { lexer with stage := .word [character] }

/-- A character of the text. -/
def step (lexer : Lexer) (character : Char) : Option Lexer :=
  match lexer.stage with
  | .between => lexer.outside character
  | .word _ => lexer.outside character
  | .text read =>
      if character == '"' then
        some (lexer.push (.text ((spelled? read.reverse).map String.ofList)))
      else if character == '\\' then some { lexer with stage := .escape read }
      else if character.toNat < 0x20 then none
      else some { lexer with stage := .text (character.toNat :: read) }
  | .escape read =>
      if character == 'u' then some { lexer with stage := .code read 0 4 }
      else
        (escapedCharacter? character).map fun escaped =>
          { lexer with stage := .text (escaped.toNat :: read) }
  | .code read number left =>
      (Text.digitValue? character).map fun digit =>
        let number := 16 * number + digit
        { lexer with
          stage := if left ≤ 1 then .text (number :: read) else .code read number (left - 1) }

/-- The tokens, if nothing is left open. -/
def finish? (lexer : Lexer) : Option (List Token) :=
  lexer.endWord.bind fun lexer =>
    match lexer.stage with
    | .between => some lexer.tokens.reverse
    | _ => none

end Lexer

def tokens? (text : List Char) : Option (List Token) :=
  (text.foldlM Lexer.step Lexer.start).bind Lexer.finish?

end GoAtlas.Json
