/-! Numbers written in digits, and which of them are words of 64 bits. -/

namespace GoAtlas.Text

/-- What a digit is worth. Letters go on where the decimal digits end. -/
def digitValue? (character : Char) : Option Nat :=
  if character.isDigit then some (character.toNat - 48)
  else if 'a' ≤ character && character ≤ 'f' then some (character.toNat - 87)
  else if 'A' ≤ character && character ≤ 'F' then some (character.toNat - 55)
  else none

def isDigitOf (base : Nat) (character : Char) : Bool :=
  (digitValue? character).any (· < base)

/-- At least one digit, and nothing else. -/
def areDigitsOf (base : Nat) (text : List Char) : Bool :=
  !text.isEmpty && text.all (isDigitOf base)

/-- The number that digits write. -/
def numberOf (base : Nat) (digits : List Char) : Nat :=
  digits.foldl (fun number digit => base * number + (digitValue? digit).getD 0) 0

@[simp]
theorem numberOf_nil (base : Nat) : numberOf base [] = 0 := rfl

/-- A further digit moves the others up by one place. -/
theorem numberOf_concat (base : Nat) (digits : List Char) (last : Char) :
    numberOf base (digits ++ [last]) =
      base * numberOf base digits + (digitValue? last).getD 0 := by
  simp [numberOf]

/-- The first number that takes more than 64 bits. -/
def wordLimit : Nat := 1 <<< 64

/-- A number in decimal digits, if it takes at most 64 bits. -/
def word? (digits : List Char) : Option Nat :=
  if areDigitsOf 10 digits then
    let value := numberOf 10 digits
    if value < wordLimit then some value else none
  else none

end GoAtlas.Text
