import GoAtlas.Document

/-! Documents as JSON, one item or field a line, two spaces deeper with every level. -/

namespace GoAtlas.Json

/-- The lower-case hexadecimal digits of a number below 256. -/
def twoHexDigits (number : Nat) : List Char :=
  [Nat.digitChar (number / 16), Nat.digitChar (number % 16)]

/-- A character between quotation marks; those that JSON does not allow there are escaped, and no
others. -/
def quotedCharacter (character : Char) : List Char :=
  match character with
  | '"' => ['\\', '"']
  | '\\' => ['\\', '\\']
  | '\x08' => ['\\', 'b']
  | '\x0c' => ['\\', 'f']
  | '\n' => ['\\', 'n']
  | '\r' => ['\\', 'r']
  | '\t' => ['\\', 't']
  | _ =>
      if character.toNat < 0x20 then ['\\', 'u', '0', '0'] ++ twoHexDigits character.toNat
      else [character]

def quoted (text : List Char) : List Char :=
  '"' :: text.flatMap quotedCharacter ++ ['"']

/-- The end of a line, and the blanks at the start of the next one. -/
def newLine (depth : Nat) : List Char :=
  '\n' :: List.replicate (2 * depth) ' '

/-- Items on lines of their own, with commas between them. -/
def onLines (depth : Nat) : List (List Char) → List Char
  | [] => []
  | [item] => newLine depth ++ item
  | item :: rest => newLine depth ++ item ++ ',' :: onLines depth rest

/-- Items between brackets, which stand next to each other if there are none. -/
def bracketed (opening closing : Char) (depth : Nat) (items : List (List Char)) : List Char :=
  if items.isEmpty then [opening, closing]
  else opening :: onLines (depth + 1) items ++ newLine depth ++ [closing]

mutual

/-- A document on a line of the given depth. -/
def printAt (depth : Nat) : Document → List Char
  | .text value => quoted value.toList
  | .number value => Nat.toDigits 10 value
  | .flag true => ['t', 'r', 'u', 'e']
  | .flag false => ['f', 'a', 'l', 's', 'e']
  | .list items => bracketed '[' ']' depth (printItems (depth + 1) items)
  | .record fields => bracketed '{' '}' depth (printFields (depth + 1) fields)

def printItems (depth : Nat) : List Document → List (List Char)
  | [] => []
  | item :: rest => printAt depth item :: printItems depth rest

def printFields (depth : Nat) : List (String × Document) → List (List Char)
  | [] => []
  | (name, value) :: rest =>
      (quoted name.toList ++ ':' :: ' ' :: printAt depth value) :: printFields depth rest

end

def print (document : Document) : String :=
  String.ofList (printAt 0 document)

end GoAtlas.Json
