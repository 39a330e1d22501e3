import GoAtlas.Json.Token

/-! Reading JSON as a value: one value, and nothing after it. -/

namespace GoAtlas.Json

inductive Value where
  | null
  | flag (value : Bool)
  /-- A number as it is written. -/
  | number (literal : List Char)
  /-- A text, unless its escapes spell none. -/
  | text (value : Option String)
  | list (items : List Value)
  | object (members : List (Option String × Value))
  deriving Inhabited

namespace Value

mutual

/-- The value at the start of tokens, and the tokens after it. Every round takes a token. -/
def ofTokens? : Nat → List Token → Option (Value × List Token)
  | 0, _ => none
  | rounds + 1, tokens =>
      match tokens with
      | .null :: rest => some (.null, rest)
      | .flag value :: rest => some (.flag value, rest)
      | .number literal :: rest => some (.number literal, rest)
      | .text value :: rest => some (.text value, rest)
      | .mark '[' :: .mark ']' :: rest => some (.list [], rest)
      | .mark '[' :: rest =>
          (itemsOf? rounds rest).map fun (items, rest) => (.list items, rest)
      | .mark '{' :: .mark '}' :: rest => some (.object [], rest)
      | .mark '{' :: rest =>
          (membersOf? rounds rest).map fun (members, rest) => (.object members, rest)
      | _ => none

/-- Items up to the closing bracket. -/
def itemsOf? : Nat → List Token → Option (List Value × List Token)
  | 0, _ => none
  | rounds + 1, tokens =>
      match ofTokens? rounds tokens with
      | some (item, .mark ']' :: rest) => some ([item], rest)
      | some (item, .mark ',' :: rest) =>
          (itemsOf? rounds rest).map fun (items, rest) => (item :: items, rest)
      | _ => none

/-- Members up to the closing brace. -/
def membersOf? : Nat → List Token → Option (List (Option String × Value) × List Token)
  | 0, _ => none
  | rounds + 1, tokens =>
      match tokens with
      | .text name :: .mark ':' :: rest =>
          match ofTokens? rounds rest with
          | some (value, .mark '}' :: rest) => some ([(name, value)], rest)
          | some (value, .mark ',' :: rest) =>
              (membersOf? rounds rest).map fun (members, rest) => ((name, value) :: members, rest)
          | _ => none
      | _ => none

end

/-! ### Views -/

def text? : Value → Option String
  | text value => value
  | _ => none

def texts? : Value → Option (List String)
  | list items => items.mapM text?
  | _ => none

def flag? : Value → Option Bool
  | flag value => some value
  | _ => none

/-- A whole number without a sign, if it fits into 64 bits. -/
def word? : Value → Option Nat
  | number literal => Text.word? literal
  | _ => none

end Value

def read? (text : String) : Option Value := do
  let tokens ← tokens? text.toList
  match ← Value.ofTokens? (2 * tokens.length) tokens with
  | (value, []) => some value
  | _ => none

end GoAtlas.Json
