/-! The tokens of a YAML text, those for the begin and end of blocks included. -/

namespace GoAtlas.Yaml

/-- A scalar is plain if it stands without quotation marks and not as a block. -/
inductive ScalarStyle where
  | plain | quoted | block
  deriving DecidableEq, Repr

inductive Token where
  | version (major minor : Nat)
  | tagHandle (handle expansion : List UInt8)
  | documentStart
  | documentEnd
  | blockSequenceStart
  | blockMappingStart
  | blockEnd
  | flowSequenceStart
  | flowSequenceEnd
  | flowMappingStart
  | flowMappingEnd
  | blockEntry
  | flowEntry
  | key
  | value
  | anchor (name : List Char)
  | reference (name : List Char)
  | tag (handle suffix : List UInt8)
  | scalar (style : ScalarStyle) (text : List Char)
  deriving DecidableEq, Repr

end GoAtlas.Yaml
