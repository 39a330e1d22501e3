import GoAtlas.Text.Numeral

/-!
Numbers in decimal digits. The digits of a number write that number, and the first of them is a zero
only where it is the only one.
-/

namespace GoAtlas.Text

theorem digitValue?_digitChar : ∀ digit < 10, digitValue? (Nat.digitChar digit) = some digit := by
  decide

theorem digitChar_ne_zero : ∀ digit < 10, 0 < digit → Nat.digitChar digit ≠ '0' := by
  decide

theorem numberOf_toDigits (number : Nat) : numberOf 10 (Nat.toDigits 10 number) = number := by
  induction number using Nat.strongRecOn with
  | ind number inductionHypothesis =>
      by_cases single : number < 10
      · rw [Nat.toDigits_of_lt_base single]
        simp [numberOf, digitValue?_digitChar number single]
      · rw [Nat.toDigits_of_base_le (by decide) (Nat.le_of_not_lt single), numberOf_concat,
          inductionHypothesis (number / 10) (by omega),
          digitValue?_digitChar (number % 10) (Nat.mod_lt _ (by decide))]
        exact Nat.div_add_mod number 10

theorem toDigits_injective {number other : Nat}
    (same : Nat.toDigits 10 number = Nat.toDigits 10 other) : number = other := by
  rw [← numberOf_toDigits number, same, numberOf_toDigits]

theorem head?_toDigits_ne_zero {number : Nat} (positive : 0 < number) :
    (Nat.toDigits 10 number).head? ≠ some '0' := by
  induction number using Nat.strongRecOn with
  | ind number inductionHypothesis =>
      by_cases single : number < 10
      · rw [Nat.toDigits_of_lt_base single]
        simpa using digitChar_ne_zero number single positive
      · have filled : Nat.toDigits 10 (number / 10) ≠ [] := Nat.toDigits_ne_nil
        rw [Nat.toDigits_of_base_le (by decide) (Nat.le_of_not_lt single), List.head?_append,
          List.head?_eq_some_head filled, Option.some_or, ← List.head?_eq_some_head filled]
        exact inductionHypothesis (number / 10) (by omega) (by omega)

theorem isDigitOf_of_isDigit {character : Char} (digit : character.isDigit = true) :
    isDigitOf 10 character = true := by
  have bounds : 48 ≤ character.toNat ∧ character.toNat ≤ 57 := by
    simpa [Char.isDigit, UInt32.le_iff_toNat_le] using digit
  have small : character.toNat - 48 < 10 := by omega
  simp [isDigitOf, digitValue?, digit, small]

/-- A number that fits into a word is read from its digits. -/
theorem word?_toDigits {number : Nat} (fits : number < wordLimit) :
    word? (Nat.toDigits 10 number) = some number := by
  have digits : areDigitsOf 10 (Nat.toDigits 10 number) = true := by
    simp only [areDigitsOf, Bool.and_eq_true, Bool.not_eq_true', List.isEmpty_eq_false_iff,
      List.all_eq_true]
    exact ⟨Nat.toDigits_ne_nil, fun character member => isDigitOf_of_isDigit
      (Nat.isDigit_of_mem_toDigits (by decide) (by decide) member)⟩
  simp [word?, digits, numberOf_toDigits, fits]

end GoAtlas.Text
