/-! Classes of characters in YAML. -/

namespace GoAtlas.Yaml

/-- The characters that end a line. -/
def isBreak (character : Char) : Bool :=
  character == '\n' || character == '\r' || character == '\x85' || character == '\u2028' ||
    character == '\u2029'

def isBlank (character : Char) : Bool :=
  character == ' ' || character == '\t'

/-- Is there a blank, a line's end or the end of the text? -/
def isBlankOrEnd : Option Char → Bool
  | none => true
  | some character => isBlank character || isBreak character || character == '\x00'

/-- The characters that may stand in a text as they are. -/
def isPrintable (character : Char) : Bool :=
  let point := character.toNat
  point == 0x0A || (0x20 ≤ point && point ≤ 0x7E) || (0xA0 ≤ point && point < 0xD800) ||
    (0xE000 ≤ point && point < 0xFFFE && point != 0xFEFF) || 0x10000 ≤ point

end GoAtlas.Yaml
