/-!
Reading bytes as UTF-8 when they may not be: every byte that belongs to no well-formed character
stands alone and is read as `none`.
-/

namespace GoAtlas.Text.Utf8

/-- The payload of a continuation byte. -/
def continuation? (byte : UInt8) : Option Nat :=
  if 0x80 ≤ byte && byte < 0xC0 then some (byte.toNat % 0x40) else none

/-- A code point, provided that it is a character and needs at least `least`, the smallest
value that its number of bytes may spell. -/
def character? (least point : Nat) : Option Char :=
  if least ≤ point && (point < 0xD800 || (0xE000 ≤ point && point < 0x110000)) then
    some (Char.ofNat point)
  else none

/-- The character that `byte` opens, with the number of bytes it takes from `rest`. -/
def opening? (byte : UInt8) (rest : List UInt8) : Option (Char × Nat) :=
  if byte < 0x80 then some (Char.ofNat byte.toNat, 0)
  else if byte < 0xC0 then none
  else if byte < 0xE0 then do
    let second ← rest[0]? >>= continuation?
    let character ← character? 0x80 (byte.toNat % 0x20 * 0x40 + second)
    return (character, 1)
  else if byte < 0xF0 then do
    let second ← rest[0]? >>= continuation?
    let third ← rest[1]? >>= continuation?
    let character ← character? 0x800 ((byte.toNat % 0x10 * 0x40 + second) * 0x40 + third)
    return (character, 2)
  else if byte < 0xF8 then do
    let second ← rest[0]? >>= continuation?
    let third ← rest[1]? >>= continuation?
    let fourth ← rest[2]? >>= continuation?
    let character ← character? 0x10000
      (((byte.toNat % 8 * 0x40 + second) * 0x40 + third) * 0x40 + fourth)
    return (character, 3)
  else none

/-- Read on after passing over `pending` bytes that the last character has taken. -/
def decodeAfter : Nat → List UInt8 → List (Option Char)
  | _, [] => []
  | pending + 1, _ :: rest => decodeAfter pending rest
  | 0, byte :: rest =>
      match opening? byte rest with
      | some (character, taken) => some character :: decodeAfter taken rest
      | none => none :: decodeAfter 0 rest

def decode (bytes : List UInt8) : List (Option Char) :=
  decodeAfter 0 bytes

@[simp]
theorem decode_nil : decode [] = [] := rfl

/-- The text that characters spell, if each of them is one. -/
def text? (characters : List (Option Char)) : Option String :=
  (characters.mapM id).map String.ofList

/-- The text that bytes spell, if they are well formed throughout. -/
def read? (bytes : List UInt8) : Option String :=
  text? (decode bytes)

end GoAtlas.Text.Utf8
