import GoAtlas.Yaml.Node
import GoAtlas.Yaml.Token.Scanner

/-!
From tokens to the tree of the one document of a text. Everything that a tree leaves open, such as
a value after a colon, is a missing node.
-/

namespace GoAtlas.Yaml

/-- What is left to read, and what has been declared so far. -/
structure NodeReading where
  tokens : List Token
  /-- The names of anchors with their numbers, the latest one first. -/
  anchors : List (List Char × Nat)
  /-- What the handles of tags stand for, the latest one first. -/
  handles : List (List UInt8 × List UInt8)

/-- Reading goes on from what is left, or fails. -/
abbrev NodeReader := StateT NodeReading Option

namespace NodeReader

def peek : NodeReader (Option Token) := do
  return (← get).tokens.head?

def skip : NodeReader Unit :=
  modify fun reading => { reading with tokens := reading.tokens.drop 1 }

/-- Passes a token if it is the next one. -/
def accept (token : Token) : NodeReader Bool := do
  if (← peek) == some token then
    skip
    return true
  else return false

/-- Is one of these tokens, or nothing, the next one? -/
def isBefore (tokens : List Token) : NodeReader Bool := do
  match ← peek with
  | none => return true
  | some token => return tokens.contains token

/-! ### Anchors and tags -/

/-- The number of a new anchor: how many names there are so far. A name that is used again counts
as one of them, so its number may be given to another name as well. -/
def declare (name : List Char) : NodeReader Nat := do
  let reading ← get
  let anchor := (reading.anchors.map (·.1)).eraseDups.length
  set { reading with anchors := (name, anchor) :: reading.anchors }
  return anchor

/-- A tag with its handle written out. -/
def expanded (handle suffix : List UInt8) : NodeReader (List UInt8) := do
  if handle.isEmpty then return suffix
  else
    match (← get).handles.find? (·.1 == handle) with
    | some (_, expansion) => return expansion ++ suffix
    | none => failure

def anchor? : NodeReader (Option (List Char)) := do
  match ← peek with
  | some (.anchor name) =>
      skip
      return some name
  | _ => return none

def tag? : NodeReader (Option (List UInt8)) := do
  match ← peek with
  | some (.tag handle suffix) =>
      skip
      return some (← expanded handle suffix)
  | _ => return none

/-- An anchor and a tag in either order, each of which may be missing. -/
def properties : NodeReader (Option (List Char) × Option (List UInt8)) := do
  match ← anchor? with
  | some name => return (some name, ← tag?)
  | none =>
      match ← tag? with
      | some tag => return (← anchor?, some tag)
      | none => return (none, none)

/-! ### Nodes -/

/-- Where a node stands decides which tokens may begin it. -/
inductive Position where
  /-- In a flow collection, or at the start of one. -/
  | flow
  | block
  /-- A value in a block, where a sequence need not be deeper. -/
  | blockValue
  deriving DecidableEq

/-- A tag of a single mark says nothing about a scalar. -/
def scalarTag (tag : Option (List UInt8)) : Option (List UInt8) :=
  tag.filter (· != [0x21])

mutual

/-- A node. Every round goes one level down or one entry on. -/
def node (position : Position) : Nat → NodeReader Node
  | 0 => failure
  | rounds + 1 => do
      match ← peek with
      | some (.reference name) =>
          skip
          match (← get).anchors.find? (·.1 == name) with
          | some (_, anchor) => return .reference anchor
          | none => failure
      | _ =>
          let (name, tag) ← properties
          let anchor ← name.mapM declare
          let inner ← content position tag (name.isSome || tag.isSome) rounds
          return match anchor with
            | some anchor => .anchored anchor inner
            | none => inner

/-- What stands after an anchor and a tag. -/
def content (position : Position) (tag : Option (List UInt8)) (hasProperties : Bool) :
    Nat → NodeReader Node
  | 0 => failure
  | rounds + 1 => do
      match ← peek with
      | some (.scalar style text) =>
          skip
          return .scalar (scalarTag tag) style text
      | some .flowSequenceStart =>
          skip
          return .sequence tag (← flowItems true rounds)
      | some .flowMappingStart =>
          skip
          return .mapping tag (← flowEntries true rounds)
      | next =>
          if position != .flow && next == some .blockSequenceStart then
            skip
            return .sequence tag (← blockItems rounds)
          else if position != .flow && next == some .blockMappingStart then
            skip
            return .mapping tag (← blockEntries rounds)
          else if position == .blockValue && next == some .blockEntry then
            return .sequence tag (← indentlessItems rounds)
          else if hasProperties then return .scalar tag .plain []
          else failure

/-- A node, or a missing one before one of these tokens. -/
def nodeUnless (position : Position) (tokens : List Token) : Nat → NodeReader Node
  | 0 => failure
  | rounds + 1 => do
      if ← isBefore tokens then return .missing else node position rounds

def blockItems : Nat → NodeReader (List Node)
  | 0 => failure
  | rounds + 1 => do
      if ← accept .blockEntry then
        let item ← nodeUnless .block [.blockEntry, .blockEnd] rounds
        return item :: (← blockItems rounds)
      else if ← accept .blockEnd then return []
      else failure

/-- The items of a sequence that stands as deep as the key to which it belongs. -/
def indentlessItems : Nat → NodeReader (List Node)
  | 0 => failure
  | rounds + 1 => do
      if ← accept .blockEntry then
        let item ← nodeUnless .block [.blockEntry, .key, .value, .blockEnd] rounds
        return item :: (← indentlessItems rounds)
      else return []

def blockEntries : Nat → NodeReader (List (Node × Node))
  | 0 => failure
  | rounds + 1 => do
      if ← accept .key then
        let key ← nodeUnless .blockValue [.key, .value, .blockEnd] rounds
        let value ← blockValue rounds
        return (key, value) :: (← blockEntries rounds)
      else if ← accept .blockEnd then return []
      else failure

def blockValue : Nat → NodeReader Node
  | 0 => failure
  | rounds + 1 => do
      if ← accept .value then nodeUnless .blockValue [.key, .value, .blockEnd] rounds
      else return .missing

/-- The items of a sequence between brackets; an item may be a single entry of a mapping. -/
def flowItems (isFirst : Bool) : Nat → NodeReader (List Node)
  | 0 => failure
  | rounds + 1 => do
      if ← accept .flowSequenceEnd then return []
      else
        let isGoingOn ← if isFirst then pure true else accept .flowEntry
        if !isGoingOn then failure
        else if ← accept .flowSequenceEnd then return []
        else if ← accept .key then
          let entry ← pair rounds
          return .mapping none [entry] :: (← flowItems false rounds)
        else
          let item ← node .flow rounds
          return item :: (← flowItems false rounds)

/-- The key and value of a single entry; a key that is left out takes the next token's place. -/
def pair : Nat → NodeReader (Node × Node)
  | 0 => failure
  | rounds + 1 => do
      let ends := [Token.flowEntry, .flowSequenceEnd]
      if ← isBefore (.value :: ends) then
        skip
        return (.missing, ← flowValue ends rounds)
      else
        let key ← node .flow rounds
        return (key, ← flowValue ends rounds)

/-- A value after a colon, or a missing one. -/
def flowValue (ends : List Token) : Nat → NodeReader Node
  | 0 => failure
  | rounds + 1 => do
      if ← accept .value then nodeUnless .flow ends rounds else return .missing

/-- The entries of a mapping between braces; a node without a colon is a key. -/
def flowEntries (isFirst : Bool) : Nat → NodeReader (List (Node × Node))
  | 0 => failure
  | rounds + 1 => do
      if ← accept .flowMappingEnd then return []
      else
        let isGoingOn ← if isFirst then pure true else accept .flowEntry
        if !isGoingOn then failure
        else if ← accept .flowMappingEnd then return []
        else if ← accept .key then
          let ends := [Token.flowEntry, .flowMappingEnd]
          let key ← nodeUnless .flow (.value :: ends) rounds
          let value ← flowValue ends rounds
          return (key, value) :: (← flowEntries false rounds)
        else
          let key ← node .flow rounds
          return (key, .missing) :: (← flowEntries false rounds)

end

/-! ### Documents -/

/-- The handles that every document has. -/
def standardHandles : List (List UInt8 × List UInt8) :=
  [([0x21], [0x21]), ([0x21, 0x21], bytesOf "tag:yaml.org,2002:".toList)]

/-- Passes directives: at most one for the version, and one for each handle. -/
def directives : Nat → Bool → NodeReader Unit
  | 0, _ => failure
  | rounds + 1, hasVersion => do
      match ← peek with
      | some (.version major minor) =>
          if hasVersion || major != 1 || !(minor == 1 || minor == 2) then failure
          else
            skip
            directives rounds true
      | some (.tagHandle handle expansion) =>
          let reading ← get
          if reading.handles.any (·.1 == handle) then failure
          else
            set { reading with
              tokens := reading.tokens.drop 1
              handles := (handle, expansion) :: reading.handles }
            directives rounds hasVersion
      | _ => return ()

/-- The node of the first document, or nothing if there is no document. -/
def document (rounds : Nat) : NodeReader (Option Node) := do
  match ← peek with
  | none => return none
  | some first =>
      let isMarked :=
        match first with
        | .version _ _ => true
        | .tagHandle _ _ => true
        | .documentStart => true
        | _ => false
      directives rounds false
      modify fun reading => { reading with handles := reading.handles ++ standardHandles }
      if !isMarked then return some (← node .block rounds)
      else if ← accept .documentStart then
        return some (← nodeUnless .block [.documentStart, .documentEnd] rounds)
      else failure

/-- Passes the marks that end documents. -/
def documentEnds (tokens : List Token) : List Token :=
  tokens.dropWhile (· == .documentEnd)

end NodeReader

/-- The tree of the only document in a text: a failure if the text is malformed or holds more than
one document, and nothing if it holds none. -/
def document? (text : String) : Option (Option Node) := do
  let tokens ← tokens? text.toList
  let rounds := 4 * tokens.length + 8
  let (node, reading) ← (NodeReader.document rounds).run ⟨tokens, [], []⟩
  if (NodeReader.documentEnds reading.tokens).isEmpty then some node else none

end GoAtlas.Yaml
