import GoAtlas.Yaml.Token.Properties
import GoAtlas.Yaml.Token.Scalars

/-!
From text to tokens. The begin and end of blocks follow from columns. A key without a mark of its
own is only known as one when its colon comes, so the place of what may turn out to be a key is
remembered: it must lie on one line, and in a block a word at the block's own column has to be one.
-/

namespace GoAtlas.Yaml

/-- What may turn out to be a key. -/
structure PossibleKey where
  /-- How many tokens stand before it. -/
  tokens : Nat
  /-- Is it an error if it is no key? -/
  isRequired : Bool
  place : Nat
  line : Nat
  column : Nat

structure Scanner where
  cursor : Cursor
  tokens : Array Token
  /-- The columns of the open blocks, the innermost one first. -/
  blocks : List Nat
  /-- For every open flow collection, and last for the blocks, what may turn out to be a key. -/
  keys : List (Option PossibleKey)
  /-- May a key without a mark stand here? -/
  allowsKey : Bool

namespace Scanner

def start (text : List Char) : Scanner where
  cursor := .start text
  tokens := #[]
  blocks := []
  keys := [none]
  allowsKey := true

def inFlow (scanner : Scanner) : Bool :=
  1 < scanner.keys.length

/-- The first column that is deeper than the innermost block. -/
def deeper (scanner : Scanner) : Nat :=
  match scanner.blocks with
  | [] => 0
  | column :: _ => column + 1

def push (scanner : Scanner) (token : Token) : Scanner :=
  { scanner with tokens := scanner.tokens.push token }

def moveTo (scanner : Scanner) (cursor : Cursor) : Scanner :=
  { scanner with cursor }

/-! ### Possible keys -/

def isTooFar (scanner : Scanner) (key : PossibleKey) : Bool :=
  key.line < scanner.cursor.line || key.place + 1024 < scanner.cursor.place

/-- Forgets the keys that lie too far back. -/
def forgetFarKeys (scanner : Scanner) : Option Scanner :=
  let isLost (key : Option PossibleKey) : Bool :=
    key.any fun key => key.isRequired && scanner.isTooFar key
  if scanner.keys.any isLost then none
  else
    some { scanner with keys := scanner.keys.map fun key => key.filter (!scanner.isTooFar ·) }

/-- Forgets the innermost possible key. -/
def forgetKey (scanner : Scanner) : Option Scanner :=
  match scanner.keys with
  | some key :: rest =>
      if key.isRequired then none else some { scanner with keys := none :: rest }
  | _ => some scanner

/-- Remembers what begins here as a possible key. -/
def rememberKey (scanner : Scanner) : Option Scanner :=
  if !scanner.allowsKey then some scanner
  else
    let cursor := scanner.cursor
    let key : PossibleKey := {
      tokens := scanner.tokens.size
      isRequired := !scanner.inFlow && scanner.blocks.head? == some cursor.column
      place := cursor.place
      line := cursor.line
      column := cursor.column }
    (scanner.forgetKey).map fun scanner =>
      { scanner with keys := some key :: scanner.keys.drop 1 }

/-! ### Blocks -/

/-- Opens a block at a column, unless one is open there. Its token is put before the others from a
place on. -/
def openBlock (scanner : Scanner) (column : Nat) (token : Token) (place : Nat) : Scanner :=
  if scanner.inFlow || column < scanner.deeper then scanner
  else
    { scanner with
      blocks := column :: scanner.blocks
      tokens := scanner.tokens.insertIdx! place token }

/-- Closes the blocks that are deeper than a line that begins at a column. -/
def closeBlocks (scanner : Scanner) (column : Nat) : Scanner :=
  if scanner.inFlow then scanner
  else
    let closed := scanner.blocks.takeWhile (column < ·)
    { scanner with
      blocks := scanner.blocks.drop closed.length
      tokens := scanner.tokens ++ closed.map fun _ => Token.blockEnd }

/-- Closes all blocks. -/
def closeAllBlocks (scanner : Scanner) : Scanner :=
  if scanner.inFlow then scanner
  else
    { scanner with
      blocks := []
      tokens := scanner.tokens ++ scanner.blocks.map fun _ => Token.blockEnd }

/-! ### Between tokens -/

/-- Passes blanks, comments and breaks; each round passes at least one character. Tabs do not count
as indentation, so they may not stand where a key might follow. -/
def passSpace : Nat → Scanner → Scanner
  | 0, scanner => scanner
  | rounds + 1, scanner =>
      match scanner.cursor.rest with
      | [] => scanner
      | character :: _ =>
          if character == '\ufeff' && scanner.cursor.place == 0 then
            passSpace rounds (scanner.moveTo (scanner.cursor.skip 1))
          else if character == ' ' ||
              (character == '\t' && (scanner.inFlow || !scanner.allowsKey)) then
            passSpace rounds (scanner.moveTo (scanner.cursor.skip 1))
          else if character == '#' then
            passSpace rounds (scanner.moveTo
              (scanner.cursor.skipWord fun character => !isBreak character))
          else if isBreak character then
            passSpace rounds
              { scanner with
                cursor := scanner.cursor.skipBreak
                allowsKey := scanner.allowsKey || !scanner.inFlow }
          else scanner

/-! ### Tokens -/

/-- A token of so many characters. -/
def take (scanner : Scanner) (token : Token) (count : Nat) : Scanner :=
  (scanner.moveTo (scanner.cursor.skip count)).push token

/-- What ends all blocks: a directive or the mark of a document. -/
def documentLevel (scanner : Scanner) (token : Token) (after : Cursor) : Option Scanner :=
  (scanner.closeAllBlocks.forgetKey).map fun scanner =>
    { (scanner.push token).moveTo after with allowsKey := false }

def flowStart (scanner : Scanner) (token : Token) : Option Scanner :=
  (scanner.rememberKey).map fun scanner =>
    { scanner.take token 1 with keys := none :: scanner.keys, allowsKey := true }

def flowEnd (scanner : Scanner) (token : Token) : Option Scanner :=
  (scanner.forgetKey).map fun scanner =>
    { scanner.take token 1 with
      keys := if scanner.inFlow then scanner.keys.drop 1 else scanner.keys
      allowsKey := false }

def flowEntry (scanner : Scanner) : Option Scanner :=
  (scanner.forgetKey).map fun scanner => { scanner.take .flowEntry 1 with allowsKey := true }

def blockEntry (scanner : Scanner) : Option Scanner :=
  if !scanner.inFlow && !scanner.allowsKey then none
  else
    let scanner :=
      scanner.openBlock scanner.cursor.column .blockSequenceStart scanner.tokens.size
    (scanner.forgetKey).map fun scanner => { scanner.take .blockEntry 1 with allowsKey := true }

/-- The mark of a key. -/
def keyMark (scanner : Scanner) : Option Scanner :=
  if !scanner.inFlow && !scanner.allowsKey then none
  else
    let scanner := scanner.openBlock scanner.cursor.column .blockMappingStart scanner.tokens.size
    (scanner.forgetKey).map fun scanner =>
      { scanner.take .key 1 with allowsKey := !scanner.inFlow }

/-- A colon: what may have been a key is one, or else the key is left out. -/
def valueMark (scanner : Scanner) : Option Scanner :=
  match scanner.keys with
  | some key :: rest =>
      let scanner := { scanner with
        tokens := scanner.tokens.insertIdx! key.tokens .key
        keys := none :: rest }
      let scanner := scanner.openBlock key.column .blockMappingStart key.tokens
      some { scanner.take .value 1 with allowsKey := false }
  | _ =>
      if !scanner.inFlow && !scanner.allowsKey then none
      else
        let scanner :=
          scanner.openBlock scanner.cursor.column .blockMappingStart scanner.tokens.size
        some { scanner.take .value 1 with allowsKey := !scanner.inFlow }

/-- A token that may begin a key. -/
def keyPart (scanner : Scanner) (read : Cursor → Option (Token × Cursor)) : Option Scanner := do
  let scanner ← scanner.rememberKey
  let (token, after) ← read scanner.cursor
  return { (scanner.push token).moveTo after with allowsKey := false }

def blockScalar (scanner : Scanner) (isFolded : Bool) : Option Scanner := do
  let scanner ← scanner.forgetKey
  let (text, after) ← blockScalar? isFolded scanner.deeper (scanner.cursor.skip 1)
  return { (scanner.push (.scalar .block text)).moveTo after with allowsKey := true }

/-- A key may follow a plain scalar when a break lies between them. -/
def plainScalar (scanner : Scanner) : Option Scanner := do
  let scanner ← scanner.rememberKey
  let (text, gap, after) ← plainScalar? scanner.inFlow scanner.deeper scanner.cursor
  return { (scanner.push (.scalar .plain text)).moveTo after with allowsKey := !gap.breaks.isEmpty }

/-- May a plain scalar begin with this text? -/
def startsPlain (inFlow : Bool) : List Char → Bool
  | [] => false
  | first :: rest =>
      !(isBlankOrEnd (some first) || "-?:,[]\x7b\x7d#&*!|>'\"%@\x60".toList.contains first) ||
        (first == '-' && !rest.head?.any isBlank) ||
        (!inFlow && (first == '?' || first == ':') && !isBlankOrEnd rest.head?)

/-- The next token, from its first character on. -/
def token? (scanner : Scanner) : Option Scanner :=
  let cursor := scanner.cursor
  let standsAlone := isBlankOrEnd (cursor.ahead 1)
  match cursor.rest with
  | [] => none
  | first :: _ =>
      if cursor.column == 0 && first == '%' then do
        let (token, after) ← directive? cursor
        scanner.documentLevel token after
      else if cursor.isAtDocumentMark then
        scanner.documentLevel (if first == '-' then .documentStart else .documentEnd)
          (cursor.skip 3)
      else if first == '[' then scanner.flowStart .flowSequenceStart
      else if first == '{' then scanner.flowStart .flowMappingStart
      else if first == ']' then scanner.flowEnd .flowSequenceEnd
      else if first == '}' then scanner.flowEnd .flowMappingEnd
      else if first == ',' then scanner.flowEntry
      else if first == '-' && standsAlone then scanner.blockEntry
      else if first == '?' && (scanner.inFlow || standsAlone) then scanner.keyMark
      else if first == ':' && (scanner.inFlow || standsAlone) then scanner.valueMark
      else if first == '*' then
        scanner.keyPart fun cursor =>
          (name? cursor).map fun (name, after) => (.reference name, after)
      else if first == '&' then
        scanner.keyPart fun cursor => (name? cursor).map fun (name, after) => (.anchor name, after)
      else if first == '!' then scanner.keyPart (tag? scanner.inFlow)
      else if first == '|' && !scanner.inFlow then scanner.blockScalar false
      else if first == '>' && !scanner.inFlow then scanner.blockScalar true
      else if first == '\'' || first == '"' then
        scanner.keyPart fun cursor =>
          (quotedScalar? first cursor).map fun (text, after) => (.scalar .quoted text, after)
      else if startsPlain scanner.inFlow cursor.rest then scanner.plainScalar
      else none

/-- Scans the rest of the text; every round takes a token. -/
def run : Nat → Scanner → Option Scanner
  | 0, _ => none
  | rounds + 1, scanner => do
      let scanner ← (passSpace scanner.cursor.rest.length scanner).forgetFarKeys
      if scanner.cursor.rest.isEmpty then (scanner.closeAllBlocks).forgetKey
      else
        let scanner ← (scanner.closeBlocks scanner.cursor.column).token?
        run rounds scanner

end Scanner

/-- The characters that a text may hold at all. -/
def isAllowed (character : Char) : Bool :=
  character == '\t' || character == '\r' || character == '\x85' || character == '\ufeff' ||
    isPrintable character

/-- The tokens of a text, if it can be cut into tokens. -/
def tokens? (text : List Char) : Option (List Token) :=
  if text.all isAllowed then
    (Scanner.run (text.length + 1) (Scanner.start text)).map (·.tokens.toList)
  else none

end GoAtlas.Yaml
