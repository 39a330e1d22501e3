import GoAtlas.Text.Numeral
import GoAtlas.Text.Pieces

/-!
Plain scalars that readers take for something else than a text: nothing, a truth value or a number.
-/

namespace GoAtlas.Yaml

def isNull (text : String) : Bool :=
  ["", "~", "null", "Null", "NULL"].contains text

def isFlag (text : String) : Bool :=
  ["true", "True", "TRUE", "false", "False", "FALSE"].contains text

/-- Words for truth values that only older readers know. -/
def isOldFlag (text : String) : Bool :=
  ["y", "Y", "yes", "Yes", "YES", "n", "N", "no", "No", "NO", "on", "On", "ON", "off", "Off",
    "OFF"].contains text

/-! ### Numbers -/

/-- A text without one sign at its start. -/
def withoutSign : List Char → List Char
  | '+' :: rest => rest
  | '-' :: rest => rest
  | text => text

/-- Digits with a needless zero before them are no number. -/
def hasNeedlessZero (text : List Char) : Bool :=
  match withoutSign text with
  | '0' :: digit :: rest => (digit :: rest).all Char.isDigit
  | _ => false

def isInteger (text : List Char) : Bool :=
  match withoutSign text with
  | '0' :: 'x' :: digits => Text.areDigitsOf 16 digits
  | '0' :: 'o' :: digits => Text.areDigitsOf 8 digits
  | '0' :: 'b' :: digits => Text.areDigitsOf 2 digits
  | digits => Text.areDigitsOf 10 digits && !hasNeedlessZero text

/-- The exponent that a text after the digits gives: none if there is no text, and no result if it
is not an exponent. -/
def exponent? : List Char → Option Int
  | [] => some 0
  | mark :: digits =>
      if (mark == 'e' || mark == 'E') && Text.areDigitsOf 10 (withoutSign digits) then
        let size : Int := Text.numberOf 10 (withoutSign digits)
        some (if digits.head? = some '-' then -size else size)
      else none

/-- From this number on, a decimal is too large for 64 bits of floating point. -/
def firstTooLarge : Nat := (1 <<< 1024) - (1 <<< 970)

/-- Is `digits · 10 ^ exponent` small enough for 64 bits of floating point? -/
def isFinite (digits : List Char) (exponent : Int) : Bool :=
  let significant := digits.dropWhile (· == '0')
  let places := significant.length + exponent
  if significant.isEmpty || places < 300 then true
  else if 320 < places then false
  else
    Text.numberOf 10 significant * Nat.pow 10 exponent.toNat <
      firstTooLarge * Nat.pow 10 (-exponent).toNat

/-- Digits, perhaps with a point among them, and perhaps with an exponent. -/
def isDecimal (text : List Char) : Bool :=
  let whole := text.takeWhile Char.isDigit
  let rest := text.dropWhile Char.isDigit
  let afterPoint := if rest.head? = some '.' then rest.drop 1 else []
  let parts := afterPoint.takeWhile Char.isDigit
  let left := if rest.head? = some '.' then afterPoint.dropWhile Char.isDigit else rest
  match exponent? left with
  | none => false
  | some exponent =>
      !(whole.isEmpty && parts.isEmpty) && isFinite (whole ++ parts) (exponent - parts.length)

def isFloat (text : List Char) : Bool :=
  let word := String.ofList text
  [".nan", ".NaN", ".NAN"].contains word ||
    [".inf", ".Inf", ".INF"].contains (String.ofList (withoutSign text)) ||
    (isDecimal (withoutSign text) && !hasNeedlessZero text)

/-- Would a reader take the text, written plainly, for something else than a text? -/
def isOtherThanText (text : String) : Bool :=
  isNull text || isFlag text || isOldFlag text || isInteger text.toList || isFloat text.toList ||
    hasNeedlessZero text.toList

end GoAtlas.Yaml
