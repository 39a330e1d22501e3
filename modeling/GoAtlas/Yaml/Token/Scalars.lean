import GoAtlas.Yaml.Cursor
import GoAtlas.Yaml.Plain

/-!
Reading scalars: between quotation marks, plain, and as a block. All of them give the text that the
scalar stands for and the place after it.
-/

namespace GoAtlas.Yaml

/-! ### Quotation marks -/

/-- The character for which a letter after a backslash stands. -/
def escapedCharacter? : Char → Option Char
  | '0' => some '\x00'
  | 'a' => some '\x07'
  | 'b' => some '\x08'
  | 't' => some '\t'
  | '\t' => some '\t'
  | 'n' => some '\n'
  | 'v' => some '\x0b'
  | 'f' => some '\x0c'
  | 'r' => some '\r'
  | 'e' => some '\x1b'
  | ' ' => some ' '
  | '"' => some '"'
  | '/' => some '/'
  | '\\' => some '\\'
  | 'N' => some '\x85'
  | '_' => some '\xa0'
  | 'L' => some '\u2028'
  | 'P' => some '\u2029'
  | _ => none

/-- How many digits follow a letter after a backslash. -/
def escapeDigits? : Char → Option Nat
  | 'x' => some 2
  | 'u' => some 4
  | 'U' => some 8
  | _ => none

def hexNumber? (digits : List Char) : Option Nat :=
  if digits.all (Text.isDigitOf 16) then some (Text.numberOf 16 digits) else none

/-- The character with a number, if there is one. -/
def characterOf? (number : Nat) : Option Char :=
  if number.isValidChar then some (Char.ofNat number) else none

/-- The character of an escape, and the number of characters after the backslash. -/
def escape? (text : List Char) : Option (Char × Nat) :=
  match text with
  | [] => none
  | letter :: rest =>
      match escapeDigits? letter with
      | none => (escapedCharacter? letter).map fun character => (character, 1)
      | some count =>
          if rest.length < count then none
          else do
            let character ← characterOf? (← hexNumber? (rest.take count))
            return (character, count + 1)

/-- Reads up to the closing quotation mark. The text read so far stands last character first. -/
def quotedBody (mark : Char) : Nat → Cursor → List Char → Option (List Char × Cursor)
  | 0, _, _ => none
  | rounds + 1, cursor, read =>
      if cursor.isAtDocumentMark then none
      else
        match cursor.rest with
        | [] => none
        | character :: rest =>
            if isBlank character || isBreak character then
              match cursor.gap? 0 with
              | none => none
              | some (gap, next) => quotedBody mark rounds next (gap.folded.reverse ++ read)
            else if character == mark then
              if mark == '\'' && rest.head? == some mark then
                quotedBody mark rounds (cursor.skip 2) (mark :: read)
              else some (read.reverse, cursor.skip 1)
            else if mark == '"' && character == '\\' then
              if rest.head?.any isBreak then
                match (cursor.skip 1).skipBreak.gap? 0 with
                | none => none
                | some (gap, next) => quotedBody mark rounds next (gap.breaks.reverse ++ read)
              else
                match escape? rest with
                | none => none
                | some (escaped, count) =>
                    quotedBody mark rounds (cursor.skip (count + 1)) (escaped :: read)
            else quotedBody mark rounds (cursor.skip 1) (character :: read)

/-- A scalar from its opening quotation mark on. -/
def quotedScalar? (mark : Char) (cursor : Cursor) : Option (List Char × Cursor) :=
  quotedBody mark cursor.rest.length (cursor.skip 1) []

/-! ### Plain scalars -/

/-- Does a plain scalar end before this text? In flow collections their marks end it too. -/
def endsPlain (inFlow : Bool) (text : List Char) : Bool :=
  match text with
  | [] => true
  | character :: rest =>
      (character == ':' && isBlankOrEnd rest.head?) ||
        (inFlow && ",[]\x7b\x7d".toList.contains character)

/-- A colon right before a mark of flow collections is refused there. -/
def isMisplacedColon (inFlow : Bool) (text : List Char) : Bool :=
  match text with
  | ':' :: mark :: _ => inFlow && ",?[]\x7b\x7d".toList.contains mark
  | _ => false

/-- Reads on after a gap. The text read so far stands last character first; the gap becomes part
of it with the next character. -/
def plainBody (inFlow : Bool) (column : Nat) :
    Nat → Cursor → List Char → Gap → Option (List Char × Gap × Cursor)
  | 0, cursor, read, gap => some (read.reverse, gap, cursor)
  | rounds + 1, cursor, read, gap =>
      match cursor.rest with
      | [] => some (read.reverse, gap, cursor)
      | character :: _ =>
          if isBlank character || isBreak character then
            match cursor.gap? column with
            | none => none
            | some (gap, next) =>
                if (!inFlow && next.column < column) || next.isAtDocumentMark ||
                    next.rest.head? == some '#' then
                  some (read.reverse, gap, next)
                else plainBody inFlow column rounds next read gap
          else if isMisplacedColon inFlow cursor.rest then none
          else if endsPlain inFlow cursor.rest then some (read.reverse, gap, cursor)
          else
            plainBody inFlow column rounds (cursor.skip 1)
              (character :: gap.folded.reverse ++ read) .empty

/-- A plain scalar, the gap after it, and the place after the gap. -/
def plainScalar? (inFlow : Bool) (column : Nat) (cursor : Cursor) :
    Option (List Char × Gap × Cursor) :=
  plainBody inFlow column cursor.rest.length cursor [] .empty

/-! ### Blocks -/

/-- What becomes of the breaks at the end of a block. -/
inductive Chomping where
  | strip | clip | keep
  deriving DecidableEq

structure BlockHeader where
  isFolded : Bool
  chomping : Chomping
  /-- How much deeper the block stands than what holds it, if that is said. -/
  indentation : Option Nat

def chomping? : Char → Option Chomping
  | '+' => some .keep
  | '-' => some .strip
  | _ => none

/-- The header of a block after its first mark: a digit and a sign, in either order, or less. -/
def blockHeader? (isFolded : Bool) (cursor : Cursor) : Option (BlockHeader × Cursor) :=
  let digit? (cursor : Cursor) : Option Nat :=
    (cursor.rest.head?.filter Char.isDigit).bind Text.digitValue?
  let (sign, afterSign) :=
    match cursor.rest.head?.bind chomping? with
    | some chomping => (some chomping, cursor.skip 1)
    | none => (none, cursor)
  let (digit, afterDigit) :=
    match digit? afterSign with
    | some digit => (some digit, afterSign.skip 1)
    | none => (none, afterSign)
  let (sign, after) :=
    match sign, digit, afterDigit.rest.head?.bind chomping? with
    | none, some _, some chomping => (some chomping, afterDigit.skip 1)
    | _, _, _ => (sign, afterDigit)
  if digit == some 0 then none
  else (after.skipRestOfLine?).map fun next => (⟨isFolded, sign.getD .clip, digit⟩, next)

/-- Passes empty lines and indentation; each round passes a character. Gives the breaks, the
greatest column that was met and the place. Without a known depth, all spaces count as
indentation. -/
def blockBreaks (depth : Option Nat) :
    Nat → Cursor → List Char → Nat → Option (List Char × Nat × Cursor)
  | 0, cursor, breaks, deepest => some (breaks, deepest, cursor)
  | rounds + 1, cursor, breaks, deepest =>
      let isIndentation := depth.all (cursor.column < ·)
      match cursor.rest with
      | [] => some (breaks, max deepest cursor.column, cursor)
      | character :: _ =>
          if isIndentation && character == ' ' then
            blockBreaks depth rounds (cursor.skip 1) breaks deepest
          else if isIndentation && character == '\t' then none
          else if isBreak character then
            blockBreaks depth rounds cursor.skipBreak (breaks ++ cursor.breakText)
              (max deepest cursor.column)
          else some (breaks, max deepest cursor.column, cursor)

/-- What has been read of a block. -/
structure BlockReading where
  /-- The text, its last character first. -/
  read : List Char
  /-- The break after the last line. -/
  lineBreak : List Char
  /-- The breaks of the empty lines after it. -/
  emptyLines : List Char
  /-- Does the last line start with a blank? -/
  startsBlank : Bool

/-- Reads the lines of a block. -/
def blockLines (header : BlockHeader) (depth : Nat) :
    Nat → Cursor → BlockReading → Option (BlockReading × Cursor)
  | 0, _, _ => none
  | rounds + 1, cursor, reading =>
      if cursor.column != depth || cursor.rest.isEmpty then some (reading, cursor)
      else
        let startsBlank := cursor.rest.head?.any isBlank
        let joint :=
          if header.isFolded && reading.lineBreak == ['\n'] && !reading.startsBlank &&
              !startsBlank then
            if reading.emptyLines.isEmpty then [' '] else reading.emptyLines
          else reading.lineBreak ++ reading.emptyLines
        let line := cursor.word fun character => !isBreak character
        let lineEnd := cursor.skip line.length
        match blockBreaks (some depth) lineEnd.rest.length lineEnd.skipBreak [] 0 with
        | none => none
        | some (emptyLines, _, next) =>
            blockLines header depth rounds next
              { read := line.reverse ++ joint.reverse ++ reading.read
                lineBreak := lineEnd.breakText
                emptyLines
                startsBlank }

/-- A block from after its first mark on. What holds it stands at the column before `column`. -/
def blockScalar? (isFolded : Bool) (column : Nat) (cursor : Cursor) :
    Option (List Char × Cursor) := do
  let (header, body) ← blockHeader? isFolded cursor
  let given := header.indentation.map fun indentation => column - 1 + indentation
  let (emptyLines, deepest, first) ← blockBreaks given body.rest.length body [] 0
  let depth := given.getD (max deepest (max column 1))
  let (reading, after) ←
    blockLines header depth (cursor.rest.length + 1) first ⟨[], [], emptyLines, false⟩
  let ending :=
    match header.chomping with
    | .strip => []
    | .clip => reading.lineBreak
    | .keep => reading.lineBreak ++ reading.emptyLines
  return (reading.read.reverse ++ ending, after)

end GoAtlas.Yaml
