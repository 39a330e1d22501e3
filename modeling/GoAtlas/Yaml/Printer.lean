import GoAtlas.Document
import GoAtlas.Yaml.Characters
import GoAtlas.Yaml.Plain

/-!
Documents as YAML in block style. The fields of a record and the items of a list stand on lines of
their own; a list stands as deep as the field that holds it, a record two columns deeper.
-/

namespace GoAtlas.Yaml

/-- A line of the output, with the character that ends it. -/
structure Line where
  text : List Char
  ending : Char := '\n'

/-- Puts a text in front of a line; blanks are not put in front of an empty one. -/
def Line.after (text : List Char) (line : Line) : Line :=
  { line with text := text ++ line.text }

def Line.indented (line : Line) : Line :=
  if line.text.isEmpty then line else line.after [' ', ' ']

/-- Puts a marker of two columns in front of the first line, and blanks in front of the others. -/
def hang (marker : List Char) : List Line → List Line
  | [] => []
  | first :: rest => first.after marker :: rest.map Line.indented

/-- The lines of a text, without one for an end that is already the end of the last line. -/
def linesOf : List Char → List Line
  | [] => []
  | character :: rest =>
      if isBreak character then ⟨[], character⟩ :: linesOf rest
      else
        match linesOf rest with
        | [] => [⟨[character], '\n'⟩]
        | line :: more => line.after [character] :: more

/-! ### What a scalar allows -/

/-- Does a test hold for two neighbours somewhere in a text? -/
def hasNeighbours (test : Char → Char → Bool) : List Char → Bool
  | first :: second :: rest => test first second || hasNeighbours test (second :: rest)
  | _ => false

/-- Does the text start like something that is not a plain scalar? -/
def startsLikeMarkup (text : List Char) : Bool :=
  match text with
  | [] => false
  | first :: rest =>
      "#,[]\x7b\x7d&*!|>'\"%@\x60".toList.contains first ||
        ("?:-".toList.contains first && isBlankOrEnd rest.head?) ||
        ['-', '-', '-'].isPrefixOf text || ['.', '.', '.'].isPrefixOf text

/-- Would a colon in the text be taken for the end of a key, or a number sign for a comment? -/
def holdsMarkup (text : List Char) : Bool :=
  text.getLast? == some ':' ||
    hasNeighbours (fun first second =>
      (first == ':' && isBlankOrEnd (some second)) ||
        (second == '#' && isBlankOrEnd (some first))) text

/-- Does the text begin or end with a space or a break? -/
def hasLooseEnds (text : List Char) : Bool :=
  let isLoose (character : Char) : Bool := character == ' ' || isBreak character
  text.head?.any isLoose || text.getLast?.any isLoose

/-- A space before a break cannot be seen. -/
def hasHiddenSpace : List Char → Bool :=
  hasNeighbours fun first second => first == ' ' && isBreak second

/-- A space after a break looks like indentation. -/
def hasLeadingSpace : List Char → Bool :=
  hasNeighbours fun first second => isBreak first && second == ' '

def allowsPlain (text : List Char) : Bool :=
  !text.isEmpty && !startsLikeMarkup text && !holdsMarkup text && !hasLooseEnds text &&
    !text.any isBreak && text.all isPrintable

def allowsSingleQuotes (text : List Char) : Bool :=
  !hasHiddenSpace text && !hasLeadingSpace text && text.all isPrintable

def allowsLiteral (text : List Char) : Bool :=
  text.getLast? != some ' ' && !hasHiddenSpace text && text.all isPrintable

/-! ### Scalars -/

def singleQuoted (text : List Char) : List Line :=
  let inner := text.flatMap fun character =>
    if character == '\'' then ['\'', '\''] else [character]
  match (linesOf inner).reverse with
  | [] => [⟨['\'', '\''], '\n'⟩]
  | last :: earlier =>
      let closed : List Line :=
        if last.ending == '\n' then [⟨last.text ++ ['\''], '\n'⟩] else [⟨['\''], '\n'⟩, last]
      match (closed ++ earlier).reverse with
      | first :: rest => first.after ['\''] :: rest
      | [] => []

/-- The upper-case hexadecimal digits of a number, in a fixed number of places. -/
def hexDigits (places number : Nat) : List Char :=
  let digits := (Nat.toDigits 16 number).map Char.toUpper
  List.replicate (places - digits.length) '0' ++ digits

/-- A character between double quotation marks. -/
def doubleQuotedCharacter (character : Char) : List Char :=
  match character with
  | '"' => ['\\', '"']
  | '\\' => ['\\', '\\']
  | '\x00' => ['\\', '0']
  | '\x07' => ['\\', 'a']
  | '\x08' => ['\\', 'b']
  | '\t' => ['\\', 't']
  | '\n' => ['\\', 'n']
  | '\x0b' => ['\\', 'v']
  | '\x0c' => ['\\', 'f']
  | '\r' => ['\\', 'r']
  | '\x1b' => ['\\', 'e']
  | '\x85' => ['\\', 'N']
  | '\u2028' => ['\\', 'L']
  | '\u2029' => ['\\', 'P']
  | _ =>
      let point := character.toNat
      if isPrintable character then [character]
      else if point ≤ 0xFF then ['\\', 'x'] ++ hexDigits 2 point
      else if point ≤ 0xFFFF then ['\\', 'u'] ++ hexDigits 4 point
      else ['\\', 'U'] ++ hexDigits 8 point

def doubleQuoted (text : List Char) : List Line :=
  [⟨['"'] ++ text.flatMap doubleQuotedCharacter ++ ['"'], '\n'⟩]

/-- What stands after the bar: the indentation, if the text does not show it, and what becomes of
the breaks at its end. -/
def literalHints (text : List Char) : List Char :=
  let depth :=
    if text.head?.any fun character => character == ' ' || isBreak character then ['2'] else []
  let keep :=
    match text.reverse with
    | [] => ['-']
    | [last] => if isBreak last then ['+'] else ['-']
    | last :: previous :: _ =>
        if !isBreak last then ['-'] else if isBreak previous then ['+'] else []
  depth ++ keep

def literal (text : List Char) : List Line :=
  ⟨'|' :: literalHints text, '\n'⟩ :: linesOf text

/-- The lines of a text. The first one belongs on the line of its key or marker. -/
def scalarLines (text : String) : List Line :=
  let characters := text.toList
  let singleOrDouble :=
    if allowsSingleQuotes characters then singleQuoted characters else doubleQuoted characters
  if characters.contains '\n' then
    if allowsLiteral characters then literal characters else doubleQuoted characters
  else if isOtherThanText text then singleOrDouble
  else if allowsPlain characters then [⟨characters, '\n'⟩]
  else singleOrDouble

/-! ### Documents -/

/-- A key that is not simple, being too long or of more than one line, is marked as a key. -/
def isSimpleKey (key : String) : Bool :=
  !key.toList.any isBreak && key.utf8ByteSize ≤ 128

/-- A field, from the lines of its key and those of its value. -/
def fieldLines (key : String) (value : Document) (valueLines : List Line) : List Line :=
  if isSimpleKey key then
    let name := (scalarLines key).flatMap (·.text)
    match value with
    | .list (_ :: _) => ⟨name ++ [':'], '\n'⟩ :: valueLines
    | .record (_ :: _) => ⟨name ++ [':'], '\n'⟩ :: valueLines.map Line.indented
    | _ =>
        match valueLines with
        | [] => []
        | first :: rest => first.after (name ++ [':', ' ']) :: rest.map Line.indented
  else hang ['?', ' '] (scalarLines key) ++ hang [':', ' '] valueLines

mutual

/-- The lines of a document. Only those of a scalar are still to be indented after the first. -/
def documentLines : Document → List Line
  | .text value => scalarLines value
  | .number value => [⟨Nat.toDigits 10 value, '\n'⟩]
  | .flag true => [⟨['t', 'r', 'u', 'e'], '\n'⟩]
  | .flag false => [⟨['f', 'a', 'l', 's', 'e'], '\n'⟩]
  | .list [] => [⟨['[', ']'], '\n'⟩]
  | .list items => itemLines items
  | .record [] => [⟨['{', '}'], '\n'⟩]
  | .record fields => recordLines fields

def itemLines : List Document → List Line
  | [] => []
  | item :: rest => hang ['-', ' '] (documentLines item) ++ itemLines rest

def recordLines : List (String × Document) → List Line
  | [] => []
  | (key, value) :: rest => fieldLines key value (documentLines value) ++ recordLines rest

end

def print (document : Document) : String :=
  String.ofList ((documentLines document).flatMap fun line => line.text ++ [line.ending])

end GoAtlas.Yaml
