/-!
Cutting texts at separators, and asking what they begin with, end with or contain. The definitions
work on lists of characters; their counterparts on strings are the ones that other modules use.
-/

namespace GoAtlas.Text

/-- The pieces between the occurrences of a separator, empty pieces included. -/
def pieces (separator : Char) : List Char → List (List Char)
  | [] => [[]]
  | character :: rest =>
      if character = separator then [] :: pieces separator rest
      else
        match pieces separator rest with
        | [] => [[character]]
        | piece :: more => (character :: piece) :: more

@[simp]
theorem pieces_nil (separator : Char) : pieces separator [] = [[]] := rfl

@[simp]
theorem pieces_separator (separator : Char) (rest : List Char) :
    pieces separator (separator :: rest) = [] :: pieces separator rest := by
  simp [pieces]

theorem pieces_ne_nil (separator : Char) (text : List Char) : pieces separator text ≠ [] := by
  cases text with
  | nil => simp
  | cons character rest =>
      by_cases same : character = separator
      · simp [pieces, same]
      · cases h : pieces separator rest <;> simp [pieces, same, h]

/-- What stands before and after the last occurrence of a pattern. -/
def splitLast? (pattern : List Char) : List Char → Option (List Char × List Char)
  | [] => none
  | character :: rest =>
      match splitLast? pattern rest with
      | some (before, after) => some (character :: before, after)
      | none =>
          if pattern.isPrefixOf (character :: rest) then
            some ([], (character :: rest).drop pattern.length)
          else none

/-- Does `part` occur somewhere in the text? -/
def occurs (part : List Char) : List Char → Bool
  | [] => part.isEmpty
  | character :: rest => part.isPrefixOf (character :: rest) || occurs part rest

def split (separator : Char) (text : String) : List String :=
  (pieces separator text.toList).map String.ofList

def join (separator : String) (parts : List String) : String :=
  separator.intercalate parts

def startsWith (text beginning : String) : Bool :=
  beginning.toList.isPrefixOf text.toList

def endsWith (text ending : String) : Bool :=
  ending.toList.isSuffixOf text.toList

def contains (text part : String) : Bool :=
  occurs part.toList text.toList

def splitAtLast? (pattern text : String) : Option (String × String) :=
  (splitLast? pattern.toList text.toList).map fun (before, after) =>
    (String.ofList before, String.ofList after)

/-- What is left of a text without its beginning. -/
def without? (beginning text : String) : Option String :=
  if startsWith text beginning then
    some (String.ofList (text.toList.drop beginning.toList.length))
  else none

/-- The text after the last separator; all of it when there is none. -/
def lastPiece (separator : String) (text : String) : String :=
  match splitAtLast? separator text with
  | some (_, after) => after
  | none => text

end GoAtlas.Text
