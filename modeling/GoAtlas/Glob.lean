/-!
Glob patterns over identifiers. Matching is on UTF-8 bytes and must take the whole identifier:
`*` and `?` also match slashes, and `**` between slashes, or at an end, stands for whole
components.
-/

namespace GoAtlas

inductive GlobToken where
  /-- The bytes of one character. -/
  | literal (bytes : List UInt8)
  | anyByte
  | anyBytes
  /-- `**/` at the start: nothing, or everything up to a slash. -/
  | anyParents
  /-- `/**` at the end: a slash and everything after it. -/
  | anyBelow
  /-- `/**/` between: a slash, or everything from a slash to a slash. -/
  | anyBetween
  /-- A byte that lies, or does not lie, in one of the ranges. -/
  | oneOf (negated : Bool) (ranges : List (UInt8 × UInt8))
  | alternatives (branches : List (List GlobToken))
  deriving Inhabited, Repr

inductive GlobError where
  | unclosedClass
  | invalidRange (first last : Char)
  | unopenedAlternatives
  | unclosedAlternatives
  | danglingEscape
  deriving DecidableEq, Repr

namespace GlobError

def cause : GlobError → String
  | unclosedClass => "unclosed character class; missing ']'"
  | invalidRange first last =>
      "invalid range; '" ++ first.toString ++ "' > '" ++ last.toString ++ "'"
  | unopenedAlternatives =>
      "unopened alternate group; missing '\x7b' (maybe escape '\x7d' with '[\x7d]'?)"
  | unclosedAlternatives =>
      "unclosed alternate group; missing '\x7d' (maybe escape '\x7b' with '[\x7b]'?)"
  | danglingEscape => "dangling '\\'"

def message (pattern : String) (failure : GlobError) : String :=
  "error parsing glob '" ++ pattern ++ "': " ++ failure.cause

end GlobError

/-- A pattern that has been read. -/
structure Glob where
  tokens : List GlobToken
  deriving Inhabited, Repr

namespace Glob

/-! ### Reading patterns -/

/-- The bytes of the characters between two, as ranges. Where a character takes several bytes, only
the last byte of the first character and the first byte of the last one are the ends of a range. -/
def byteRanges (first last : Char) : List (UInt8 × UInt8) :=
  let bytes (character : Char) := String.utf8EncodeChar character
  if first = last then (bytes first).map fun byte => (byte, byte)
  else
    ((bytes first).dropLast.map fun byte => (byte, byte)) ++
      ((bytes first).getLastD 0, (bytes last).headD 0) ::
        (bytes last).tail.map fun byte => (byte, byte)

/-- The ranges of a character class while it is read, the last one first. -/
structure ClassReading where
  ranges : List (Char × Char)
  /-- A hyphen stands after the last range and may extend it. -/
  extending : Bool

/-- Makes a character the end of the last range. -/
def ClassReading.extend (reading : ClassReading) (character : Char) :
    Except GlobError ClassReading :=
  match reading.ranges with
  | [] => .ok ⟨[(character, character)], false⟩
  | (first, _) :: rest =>
      if character < first then .error (.invalidRange first character)
      else .ok ⟨(first, character) :: rest, false⟩

/-- Reads a class up to its closing bracket; a bracket or hyphen is literal where it comes first,
and a hyphen also where it comes last. -/
def readClass (reading : ClassReading) :
    List Char → Except GlobError (List (Char × Char) × List Char)
  | [] => .error .unclosedClass
  | character :: rest =>
      if reading.ranges.isEmpty then readClass ⟨[(character, character)], false⟩ rest
      else if character = ']' then
        .ok (if reading.extending then ('-', '-') :: reading.ranges else reading.ranges, rest)
      else if character = '-' && !reading.extending then
        readClass { reading with extending := true } rest
      else if reading.extending then
        match reading.extend character with
        | .ok extended => readClass extended rest
        | .error failure => .error failure
      else readClass ⟨(character, character) :: reading.ranges, false⟩ rest

/-- A class, from after its opening bracket, with the characters that follow it. -/
def class? (text : List Char) : Except GlobError (GlobToken × List Char) := do
  let (negated, text) :=
    match text with
    | '!' :: rest => (true, rest)
    | '^' :: rest => (true, rest)
    | text => (false, text)
  let (ranges, rest) ← readClass ⟨[], false⟩ text
  return (.oneOf negated (ranges.flatMap fun (first, last) => byteRanges first last), rest)

/-- A group that is open: what stands before it and its branches so far, each the last one first. -/
structure OpenGroup where
  before : List GlobToken
  branches : List (List GlobToken)

/-- The tokens of the innermost branch, the last one first, inside the open groups. -/
structure Reading where
  tokens : List GlobToken
  groups : List OpenGroup

def Reading.push (reading : Reading) (token : GlobToken) : Reading :=
  { reading with tokens := token :: reading.tokens }

def Reading.open (reading : Reading) : Reading :=
  ⟨[], ⟨reading.tokens, []⟩ :: reading.groups⟩

/-- A comma ends a branch inside a group. -/
def Reading.comma (reading : Reading) : Reading :=
  match reading.groups with
  | [] => reading.push (.literal [0x2C])
  | group :: outer =>
      ⟨[], { group with branches := reading.tokens.reverse :: group.branches } :: outer⟩

def Reading.close (reading : Reading) : Except GlobError Reading :=
  match reading.groups with
  | [] => .error .unopenedAlternatives
  | group :: outer =>
      let branches := (reading.tokens.reverse :: group.branches).reverse
      .ok ⟨.alternatives branches :: group.before, outer⟩

/-- Two stars that stand for themselves only. -/
def Reading.plainStars (reading : Reading) : Reading :=
  (reading.push .anyBytes).push .anyBytes

/-- Whole components take the place of the slash before them; at the start they stay what they
are. -/
def Reading.components (reading : Reading) (atEnd : Bool) : Reading :=
  match reading.tokens with
  | .anyParents :: _ => reading
  | .anyBelow :: _ => reading
  | _ :: rest => { reading with tokens := (if atEnd then .anyBelow else .anyBetween) :: rest }
  | [] => reading

/-- Two stars, given the character before them and the text after them: what they add to the
reading, and the text that is left. -/
def Reading.stars (reading : Reading) (before : Option Char) (after : List Char) :
    Reading × List Char :=
  if reading.tokens.isEmpty then
    match after with
    | [] => (reading.push .anyParents, [])
    | '/' :: rest => (reading.push .anyParents, rest)
    | _ => (reading.plainStars, after)
  else if before = some '/' ||
      (!reading.groups.isEmpty && (before = some ',' || before = some '{')) then
    match after with
    | [] => (reading.components true, [])
    | '/' :: rest => (reading.components false, rest)
    | next :: _ =>
        if (next = ',' || next = '}') && !reading.groups.isEmpty then
          (reading.components true, after)
        else (reading.plainStars, after)
  else (reading.plainStars, after)

/-- Reads the rest of a pattern; every round takes a character. -/
def readTokens : Nat → Option Char → Reading → List Char → Except GlobError (List GlobToken)
  | _, _, reading, [] =>
      if reading.groups.isEmpty then .ok reading.tokens.reverse else .error .unclosedAlternatives
  | 0, _, _, _ :: _ => .error .unclosedAlternatives
  | rounds + 1, before, reading, character :: rest =>
      let goOn (reading : Reading) (rest : List Char) :=
        readTokens rounds (some character) reading rest
      match character with
      | '?' => goOn (reading.push .anyByte) rest
      | '*' =>
          match rest with
          | '*' :: after =>
              let (starred, left) := reading.stars before after
              let taken := if left.length < after.length then '/' else '*'
              readTokens rounds (some taken) starred left
          | _ => goOn (reading.push .anyBytes) rest
      | '[' =>
          match class? rest with
          | .ok (token, after) => readTokens rounds (some ']') (reading.push token) after
          | .error failure => .error failure
      | '{' => goOn reading.open rest
      | '}' =>
          match reading.close with
          | .ok closed => goOn closed rest
          | .error failure => .error failure
      | ',' => goOn reading.comma rest
      | '\\' =>
          match rest with
          | [] => .error .danglingEscape
          | escaped :: after =>
              readTokens rounds (some escaped)
                (reading.push (.literal (String.utf8EncodeChar escaped))) after
      | _ => goOn (reading.push (.literal (String.utf8EncodeChar character))) rest

def read (pattern : String) : Except GlobError Glob :=
  let text := pattern.toList
  (readTokens text.length none ⟨[], []⟩ text).map Glob.mk

/-! ### Matching -/

def slash : UInt8 := 0x2F

/-- All ends of a list, the whole list first. -/
def ends {Element : Type} : List Element → List (List Element)
  | [] => [[]]
  | first :: rest => (first :: rest) :: ends rest

/-- What follows each slash. -/
def afterSlashes : List UInt8 → List (List UInt8)
  | [] => []
  | byte :: rest => if byte = slash then rest :: afterSlashes rest else afterSlashes rest

mutual

/-- Does a token add nothing to the pattern? Groups without a branch that adds something do not. -/
def isVoid : GlobToken → Bool
  | .alternatives branches => allVoid branches
  | _ => false

def isVoidBranch : List GlobToken → Bool
  | [] => true
  | token :: rest => isVoid token && isVoidBranch rest

def allVoid : List (List GlobToken) → Bool
  | [] => true
  | branch :: rest => isVoidBranch branch && allVoid rest

end

mutual

/-- What can be left of an input after a token has taken its part from the front. -/
def rests (input : List UInt8) : GlobToken → List (List UInt8)
  | .literal bytes => if bytes.isPrefixOf input then [input.drop bytes.length] else []
  | .anyByte =>
      match input with
      | [] => []
      | _ :: rest => [rest]
  | .anyBytes => ends input
  | .anyParents => input :: afterSlashes input
  | .anyBelow =>
      match input with
      | [] => []
      | byte :: rest => if byte = slash then ends rest else []
  | .anyBetween =>
      match input with
      | [] => []
      | byte :: rest => if byte = slash then rest :: afterSlashes rest else []
  | .oneOf negated ranges =>
      match input with
      | [] => []
      | byte :: rest =>
          if (ranges.any fun (low, high) => low ≤ byte && byte ≤ high) != negated then [rest]
          else []
  | .alternatives branches => if allVoid branches then [input] else restsAny input branches

def restsAll (inputs : List (List UInt8)) : List GlobToken → List (List UInt8)
  | [] => inputs
  | token :: tokens =>
      restsAll (inputs.flatMap fun input => rests input token).eraseDups tokens

/-- A branch that adds nothing is no choice. -/
def restsAny (input : List UInt8) : List (List GlobToken) → List (List UInt8)
  | [] => []
  | branch :: branches =>
      (if isVoidBranch branch then [] else restsAll [input] branch) ++ restsAny input branches

end

/-- Does the pattern match the whole text? A pattern of nothing but `**` matches every text. -/
def matchesText (glob : Glob) (text : String) : Bool :=
  match glob.tokens with
  | [.anyParents] => true
  | tokens => (restsAll [text.toUTF8.toList] tokens).contains []

end Glob

end GoAtlas
