import GoAtlas.Yaml.Characters

/-!
A place in a YAML text, and what lies between the words there: blanks and breaks, which are kept,
dropped or folded into one space.
-/

namespace GoAtlas.Yaml

/-- What is left of the text, and where that begins. Lines, columns and places count from zero. -/
structure Cursor where
  rest : List Char
  place : Nat
  line : Nat
  column : Nat

namespace Cursor

def start (text : List Char) : Cursor := ⟨text, 0, 0, 0⟩

/-- The character so many characters ahead. -/
def ahead (cursor : Cursor) (count : Nat) : Option Char :=
  cursor.rest[count]?

/-- Passes characters of the line. -/
def skip (cursor : Cursor) (count : Nat) : Cursor :=
  { cursor with
    rest := cursor.rest.drop count
    place := cursor.place + count
    column := cursor.column + count }

/-- Passes a break; a carriage return and the line feed after it are one. -/
def skipBreak (cursor : Cursor) : Cursor :=
  match cursor.rest with
  | '\r' :: '\n' :: rest => ⟨rest, cursor.place + 2, cursor.line + 1, 0⟩
  | _ :: rest => ⟨rest, cursor.place + 1, cursor.line + 1, 0⟩
  | [] => cursor

/-- The characters up to the first that fails a test, which must fail for breaks. -/
def word (cursor : Cursor) (passes : Char → Bool) : List Char :=
  cursor.rest.takeWhile passes

def skipWord (cursor : Cursor) (passes : Char → Bool) : Cursor :=
  cursor.skip (cursor.word passes).length

def isAtBreak (cursor : Cursor) : Bool :=
  cursor.rest.head?.any isBreak

def isAtBlankOrEnd (cursor : Cursor) : Bool :=
  isBlankOrEnd cursor.rest.head?

/-- Does the line begin with three dashes or three dots that stand alone? -/
def isAtDocumentMark (cursor : Cursor) : Bool :=
  cursor.column == 0 &&
    (['-', '-', '-'].isPrefixOf cursor.rest || ['.', '.', '.'].isPrefixOf cursor.rest) &&
    isBlankOrEnd (cursor.ahead 3)

/-- What a break stands for: the separators of lines and paragraphs for themselves, and every other
one for a line feed. -/
def breakText (cursor : Cursor) : List Char :=
  match cursor.rest.head? with
  | some '\u2028' => ['\u2028']
  | some '\u2029' => ['\u2029']
  | some character => if isBreak character then ['\n'] else []
  | none => []

/-- Passes blanks, then a comment, up to the end of the line; nothing else may stand there. -/
def skipRestOfLine? (cursor : Cursor) : Option Cursor :=
  let after := cursor.skipWord isBlank
  let after :=
    if after.rest.head? == some '#' then after.skipWord fun character => !isBreak character
    else after
  if after.rest.isEmpty then some after
  else if after.isAtBreak then some after.skipBreak
  else none

end Cursor

/-- Blanks up to a break, and the breaks from there on. -/
structure Gap where
  blanks : List Char
  breaks : List Char

namespace Gap

def empty : Gap := ⟨[], []⟩

/-- A single break becomes a space; of several, the first one is dropped. -/
def folded (gap : Gap) : List Char :=
  match gap.breaks with
  | [] => gap.blanks
  | ['\n'] => [' ']
  | '\n' :: more => more
  | other => other

end Gap

/-- Passes blanks and breaks; each round passes one of them. On a line after the first there must
be no tab left of the given column. -/
def Cursor.passGap (cursor : Cursor) (column : Nat) (gap : Gap) :
    Nat → Option (Gap × Cursor)
  | 0 => some (gap, cursor)
  | rounds + 1 =>
      match cursor.rest with
      | [] => some (gap, cursor)
      | character :: _ =>
          if isBreak character then
            cursor.skipBreak.passGap column { gap with breaks := gap.breaks ++ cursor.breakText }
              rounds
          else if !isBlank character then some (gap, cursor)
          else if gap.breaks.isEmpty then
            (cursor.skip 1).passGap column { gap with blanks := gap.blanks ++ [character] } rounds
          else if character == '\t' && cursor.column < column then none
          else (cursor.skip 1).passGap column gap rounds

/-- The gap at a place. -/
def Cursor.gap? (cursor : Cursor) (column : Nat) : Option (Gap × Cursor) :=
  cursor.passGap column .empty cursor.rest.length

end GoAtlas.Yaml
