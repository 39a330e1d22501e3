import GoAtlas.Text.Utf8
import GoAtlas.Yaml.Cursor
import GoAtlas.Yaml.Token
import GoAtlas.Yaml.Token.Scalars

/-! Reading names, tags and directives. Tags are bytes, since escapes in them give bytes. -/

namespace GoAtlas.Yaml

def isNameCharacter (character : Char) : Bool :=
  character.isAlphanum || character == '_' || character == '-'

/-! ### Names of anchors -/

/-- A name after the mark of an anchor or reference, with what may stand after it. -/
def name? (cursor : Cursor) : Option (List Char × Cursor) :=
  let name := (cursor.skip 1).word isNameCharacter
  let after := cursor.skip (name.length + 1)
  let isOver :=
    after.isAtBlankOrEnd || after.rest.head?.any "?:,]\x7d%@\x60".toList.contains
  if name.isEmpty || !isOver then none else some (name, after)

/-! ### Tags -/

/-- The bytes of a character that an escape starts, from its first byte. -/
def escapedBytes? (first : Nat) : Option Nat :=
  if first < 0x80 then some 1
  else if first / 0x20 == 6 then some 2
  else if first / 0x10 == 14 then some 3
  else if first / 0x08 == 30 then some 4
  else none

/-- A byte written as a percent sign and two digits. -/
def percentByte? : List Char → Option (Nat × List Char)
  | '%' :: high :: low :: rest => (hexNumber? [high, low]).map fun byte => (byte, rest)
  | _ => none

/-- So many further bytes of an escaped character. -/
def furtherBytes? : Nat → List Char → Option (List UInt8 × List Char)
  | 0, text => some ([], text)
  | count + 1, text => do
      let (byte, rest) ← percentByte? text
      if byte / 0x40 != 2 then none
      else
        let (bytes, rest) ← furtherBytes? count rest
        return (UInt8.ofNat byte :: bytes, rest)

/-- An escaped character. -/
def percentCharacter? (text : List Char) : Option (List UInt8 × List Char) := do
  let (first, rest) ← percentByte? text
  let count ← escapedBytes? first
  let (bytes, rest) ← furtherBytes? (count - 1) rest
  return (UInt8.ofNat first :: bytes, rest)

/-- The characters of a tag apart from its handle. Between angle brackets and in directives it may
hold marks of flow collections. -/
def isTagCharacter (withMarks : Bool) (character : Char) : Bool :=
  isNameCharacter character || ";/?:@&=+$.!~*'()%".toList.contains character ||
    (withMarks && ",[]".toList.contains character)

/-- Reads the characters of a tag; each round reads at least one. -/
def tagText (withMarks : Bool) : Nat → List Char → Option (List UInt8 × List Char)
  | 0, text => some ([], text)
  | _ + 1, [] => some ([], [])
  | rounds + 1, character :: rest =>
      if !isTagCharacter withMarks character then some ([], character :: rest)
      else
        let step :=
          if character == '%' then percentCharacter? (character :: rest)
          else some (String.utf8EncodeChar character, rest)
        match step with
        | none => none
        | some (bytes, rest) =>
            (tagText withMarks rounds rest).map fun (more, left) => (bytes ++ more, left)

/-- The characters of a tag at a place, which may be missing only where something stands before
them. -/
def tagText? (withMarks mayBeEmpty : Bool) (cursor : Cursor) : Option (List UInt8 × Cursor) := do
  let (bytes, left) ← tagText withMarks cursor.rest.length cursor.rest
  if bytes.isEmpty && !mayBeEmpty then none
  else return (bytes, cursor.skip (cursor.rest.length - left.length))

def bytesOf (text : List Char) : List UInt8 :=
  text.flatMap String.utf8EncodeChar

/-- An exclamation mark, a name, and the mark that closes the handle if there is one. -/
def tagHandle? (cursor : Cursor) : Option (List Char × Cursor) :=
  if cursor.rest.head? != some '!' then none
  else
    let opened := '!' :: (cursor.skip 1).word isNameCharacter
    if cursor.ahead opened.length == some '!' then
      some (opened ++ ['!'], cursor.skip (opened.length + 1))
    else some (opened, cursor.skip opened.length)

/-- A tag: between angle brackets, after a handle, or after a single mark. A mark alone is a tag of
its own. -/
def tag? (inFlow : Bool) (cursor : Cursor) : Option (Token × Cursor) := do
  let (token, after) ←
    if cursor.ahead 1 == some '<' then do
      let (suffix, after) ← tagText? true false (cursor.skip 2)
      if after.rest.head? != some '>' then none
      else pure (Token.tag [] suffix, after.skip 1)
    else do
      let (handle, afterHandle) ← tagHandle? cursor
      if 1 < handle.length && handle.getLast? == some '!' then do
        let (suffix, after) ← tagText? false false afterHandle
        pure (Token.tag (bytesOf handle) suffix, after)
      else do
        let (more, after) ← tagText? false true afterHandle
        let suffix := bytesOf (handle.drop 1) ++ more
        pure (if suffix.isEmpty then Token.tag [] [0x21] else Token.tag [0x21] suffix, after)
  if (inFlow && after.rest.head? == some ',') || after.isAtBlankOrEnd then some (token, after)
  else none

/-! ### Directives -/

/-- A number of at most nine digits. -/
def versionNumber? (cursor : Cursor) : Option (Nat × Cursor) :=
  let digits := cursor.word Char.isDigit
  if digits.isEmpty || 9 < digits.length then none
  else some (Text.numberOf 10 digits, cursor.skip digits.length)

def version? (cursor : Cursor) : Option (Token × Cursor) := do
  let (major, afterMajor) ← versionNumber? (cursor.skipWord isBlank)
  if afterMajor.rest.head? != some '.' then none
  else
    let (minor, after) ← versionNumber? (afterMajor.skip 1)
    return (.version major minor, after)

def handleDirective? (cursor : Cursor) : Option (Token × Cursor) := do
  let (handle, afterHandle) ← tagHandle? (cursor.skipWord isBlank)
  if handle != ['!'] && handle.getLast? != some '!' then none
  else if !afterHandle.rest.head?.any isBlank then none
  else
    let (expansion, after) ← tagText? true false (afterHandle.skipWord isBlank)
    if after.isAtBlankOrEnd then some (.tagHandle (bytesOf handle) expansion, after) else none

/-- A directive, up to the end of its line. -/
def directive? (cursor : Cursor) : Option (Token × Cursor) := do
  let name := (cursor.skip 1).word isNameCharacter
  let afterName := cursor.skip (name.length + 1)
  if !afterName.isAtBlankOrEnd then none
  else
    let (token, after) ←
      match String.ofList name with
      | "YAML" => version? afterName
      | "TAG" => handleDirective? afterName
      | _ => none
    return (token, ← after.skipRestOfLine?)

end GoAtlas.Yaml
