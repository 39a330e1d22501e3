import GoAtlas.Json.Token

/-!
How tokens can be written. Blanks may stand before each of them and at the end, and a character of a
text can be written as it is, by a letter or by number. The lexer finds the tokens in every such
text.
-/

namespace GoAtlas.Json

/-! ### Characters of texts -/

/-- Four hexadecimal digits that write a number. -/
def SpellsCode (number : Nat) (digits : List Char) : Prop :=
  digits.length = 4 ∧ digits.all (Text.isDigitOf 16) = true ∧ Text.numberOf 16 digits = number

/-- The ways to write a character between quotation marks. -/
inductive SpellsCharacter : Char → List Char → Prop where
  | plain {character : Char} (unmarked : character ≠ '"') (unescaped : character ≠ '\\')
      (printable : 0x20 ≤ character.toNat) : SpellsCharacter character [character]
  | letter {character letter : Char} (escaped : escapedCharacter? letter = some character) :
      SpellsCharacter character ['\\', letter]
  | code {character : Char} {digits : List Char} (spelled : SpellsCode character.toNat digits) :
      SpellsCharacter character ('\\' :: 'u' :: digits)
  | halves {character : Char} {high low : Nat} {highDigits lowDigits : List Char}
      (isHigh : isHighHalf high = true) (isLow : isLowHalf low = true)
      (whole : 0x10000 + (high - 0xD800) * 0x400 + (low - 0xDC00) = character.toNat)
      (highSpelled : SpellsCode high highDigits) (lowSpelled : SpellsCode low lowDigits) :
      SpellsCharacter character ('\\' :: 'u' :: highDigits ++ '\\' :: 'u' :: lowDigits)

/-- The ways to write characters in turn. -/
inductive SpellsText : List Char → List Char → Prop where
  | nil : SpellsText [] []
  | cons {character : Char} {characters written rest : List Char}
      (first : SpellsCharacter character written) (others : SpellsText characters rest) :
      SpellsText (character :: characters) (written ++ rest)

theorem not_half (character : Char) :
    isHighHalf character.toNat = false ∧ isLowHalf character.toNat = false := by
  have valid : character.toNat < 0xD800 ∨ 0xDFFF < character.toNat :=
    character.valid.imp_right And.left
  simp only [isHighHalf, isLowHalf, Bool.and_eq_false_iff, decide_eq_false_iff_not]
  omega

theorem spelled?_toNat (character : Char) (codes : List Nat) :
    spelled? (character.toNat :: codes) = (spelled? codes).map (character :: ·) := by
  obtain ⟨notHigh, notLow⟩ := not_half character
  cases codes <;> simp [spelled?, notHigh, notLow, Char.ofNat_toNat]

theorem spelled?_halves {character : Char} {high low : Nat} (isHigh : isHighHalf high = true)
    (isLow : isLowHalf low = true)
    (whole : 0x10000 + (high - 0xD800) * 0x400 + (low - 0xDC00) = character.toNat)
    (codes : List Nat) :
    spelled? (high :: low :: codes) = (spelled? codes).map (character :: ·) := by
  simp [spelled?, isHigh, isLow, whole, Char.ofNat_toNat]

namespace Lexer

/-- The lexer after further characters. -/
def after? (lexer : Lexer) (text : List Char) : Option Lexer :=
  text.foldlM step lexer

@[simp]
theorem after?_nil (lexer : Lexer) : lexer.after? [] = some lexer := rfl

@[simp]
theorem after?_cons (lexer : Lexer) (character : Char) (text : List Char) :
    lexer.after? (character :: text) = (lexer.step character).bind (·.after? text) := rfl

theorem after?_append (lexer : Lexer) (first second : List Char) :
    lexer.after? (first ++ second) = (lexer.after? first).bind (·.after? second) :=
  List.foldlM_append

variable (tokens : List Token) (read : List Nat)

theorem after?_code {number : Nat} {digits : List Char} (spelled : SpellsCode number digits) :
    after? ⟨tokens, .text read⟩ ('\\' :: 'u' :: digits) =
      some ⟨tokens, .text (number :: read)⟩ := by
  obtain ⟨four, hexadecimal, rfl⟩ := spelled
  match digits, four with
  | [first, second, third, fourth], _ =>
      simp only [List.all_cons, List.all_nil, Bool.and_true, Bool.and_eq_true,
        Text.isDigitOf, Option.any_eq_true] at hexadecimal
      obtain ⟨⟨a, firstValue, -⟩, ⟨b, secondValue, -⟩, ⟨c, thirdValue, -⟩,
        ⟨d, fourthValue, -⟩⟩ := hexadecimal
      simp [step, Text.numberOf, firstValue, secondValue, thirdValue, fourthValue]

/-- A written character leaves codes that spell it, whatever is spelled after them. -/
theorem exists_codes {character : Char} {written : List Char}
    (spelled : SpellsCharacter character written) :
    ∃ codes, after? ⟨tokens, .text read⟩ written =
        some ⟨tokens, .text (codes.reverse ++ read)⟩ ∧
      ∀ others, spelled? (codes ++ others) = (spelled? others).map (character :: ·) := by
  cases spelled with
  | plain unmarked unescaped printable =>
      refine ⟨[character.toNat], ?_, spelled?_toNat character⟩
      simp [step, unmarked, unescaped, printable]
  | @letter letter escaped =>
      refine ⟨[character.toNat], ?_, spelled?_toNat character⟩
      have notCode : letter ≠ 'u' := by
        rintro rfl
        cases escaped
      simp [step, notCode, escaped]
  | code spelled =>
      exact ⟨[character.toNat], after?_code tokens read spelled, spelled?_toNat character⟩
  | @halves high low _ _ isHigh isLow whole highSpelled lowSpelled =>
      refine ⟨[high, low], ?_, spelled?_halves isHigh isLow whole⟩
      rw [after?_append, after?_code tokens read highSpelled, Option.bind_some,
        after?_code tokens (high :: read) lowSpelled]
      rfl

theorem exists_codes_of_spellsText {characters written : List Char}
    (spelled : SpellsText characters written) :
    ∃ codes, after? ⟨tokens, .text read⟩ written =
        some ⟨tokens, .text (codes.reverse ++ read)⟩ ∧ spelled? codes = some characters := by
  induction spelled generalizing read with
  | nil => exact ⟨[], rfl, rfl⟩
  | cons first others inductionHypothesis =>
      obtain ⟨codes, firstRead, firstSpells⟩ := exists_codes tokens read first
      obtain ⟨otherCodes, othersRead, othersSpell⟩ := inductionHypothesis (codes.reverse ++ read)
      refine ⟨codes ++ otherCodes, ?_, ?_⟩
      · rw [after?_append, firstRead, Option.bind_some, othersRead, List.reverse_append,
          List.append_assoc]
      · rw [firstSpells, othersSpell, Option.map_some]

end Lexer

/-! ### Words -/

/-- Can the character stand in a word? -/
def continuesWord (character : Char) : Bool :=
  !isSpace character && !isMark character && character != '"'

/-- The text is at its end, or it goes on with a character that stands in no word. -/
def EndsWord (text : List Char) : Prop :=
  ∀ character ∈ text.head?, continuesWord character = false

/-- Can the character stand in a number? -/
def isNumeric (character : Char) : Bool :=
  character.isDigit || character == '+' || character == '-' || character == '.' ||
    character == 'e' || character == 'E'

theorem isNumeric_of_isDigit {character : Char} (digit : character.isDigit = true) :
    isNumeric character = true := by
  simp [isNumeric, digit]

theorem allNumeric_of_areDigits {text : List Char} (digits : areDigits text = true) :
    text.all isNumeric = true := by
  simp only [areDigits, Bool.and_eq_true, List.all_eq_true] at digits
  exact List.all_eq_true.mpr fun character member =>
    isNumeric_of_isDigit (digits.2 character member)

theorem allNumeric_of_isExponent {text : List Char} (exponent : isExponent text = true) :
    text.all isNumeric = true := by
  unfold isExponent at exponent
  split at exponent
  · rfl
  · rename_i mark rest
    simp only [Bool.and_eq_true, Bool.or_eq_true, beq_iff_eq] at exponent
    obtain ⟨isMark, digits⟩ := exponent
    have markNumeric : isNumeric mark = true := by
      rcases isMark with rfl | rfl <;> rfl
    split at digits <;> simp [markNumeric, allNumeric_of_areDigits digits] <;> decide

/-- Digits at the start of a text are numeric, so only the rest matters. -/
theorem allNumeric_of_dropWhile {text : List Char}
    (rest : (text.dropWhile Char.isDigit).all isNumeric = true) : text.all isNumeric = true := by
  rw [← List.takeWhile_append_dropWhile (p := Char.isDigit) (l := text), List.all_append, rest,
    Bool.and_true, List.all_eq_true]
  exact fun character member =>
    isNumeric_of_isDigit (List.all_eq_true.mp List.all_takeWhile character member)

theorem allNumeric_of_isFraction {text : List Char} (fraction : isFraction text = true) :
    text.all isNumeric = true := by
  unfold isFraction at fraction
  split at fraction
  · have point : isNumeric '.' = true := rfl
    rw [List.all_cons, point, Bool.true_and]
    rw [Bool.and_eq_true] at fraction
    exact allNumeric_of_dropWhile (allNumeric_of_isExponent fraction.2)
  · exact allNumeric_of_isExponent fraction

theorem allNumeric_of_isNumber {word : List Char} (number : isNumber word = true) :
    word.all isNumeric = true := by
  unfold isNumber at number
  dsimp only at number
  rw [Bool.and_eq_true] at number
  have unsigned := allNumeric_of_dropWhile (allNumeric_of_isFraction number.2)
  split at unsigned
  · have sign : isNumeric '-' = true := rfl
    rw [List.all_cons, sign, Bool.true_and]
    exact unsigned
  · exact unsigned

theorem ne_nil_of_isNumber {word : List Char} (number : isNumber word = true) : word ≠ [] := by
  rintro rfl
  cases number

theorem continuesWord_of_isNumeric {character : Char} (numeric : isNumeric character = true) :
    continuesWord character = true := by
  have marks : ∀ mark ∈ "[]\x7b\x7d:,".toList, isNumeric mark = false := by simp [isNumeric]
  simp only [continuesWord, isSpace, isMark, Bool.and_eq_true, Bool.not_eq_true',
    Bool.or_eq_false_iff, beq_eq_false_iff_ne, bne_iff_ne]
  have other {separator : Char} (separates : isNumeric separator = false) :
      character ≠ separator := by
    rintro rfl
    rw [separates] at numeric
    cases numeric
  refine ⟨⟨⟨⟨⟨other rfl, other rfl⟩, other rfl⟩, other rfl⟩, ?_⟩, other rfl⟩
  rw [← Bool.not_eq_true, List.contains_iff_mem]
  exact fun member => other (marks character member) rfl

theorem wordToken?_of_isNumber {literal : List Char} (number : isNumber literal = true) :
    wordToken? literal = some (.number literal) := by
  have other {constant : String} (isConstant : isNumber constant.toList = false) :
      String.ofList literal ≠ constant := by
    rintro rfl
    rw [String.toList_ofList, number] at isConstant
    cases isConstant
  unfold wordToken?
  split
  · exact absurd ‹_› (other (by decide))
  · exact absurd ‹_› (other (by decide))
  · exact absurd ‹_› (other (by decide))
  · exact if_pos number

/-! ### Tokens -/

/-- The ways to write a token. -/
inductive SpellsToken : Token → List Char → Prop where
  | mark {character : Char} (isMark : isMark character = true) :
      SpellsToken (.mark character) [character]
  | null : SpellsToken .null ['n', 'u', 'l', 'l']
  | true : SpellsToken (.flag true) ['t', 'r', 'u', 'e']
  | false : SpellsToken (.flag false) ['f', 'a', 'l', 's', 'e']
  | number {literal : List Char} (isNumber : isNumber literal = true) :
      SpellsToken (.number literal) literal
  | text {characters written : List Char} (spelled : SpellsText characters written) :
      SpellsToken (.text (some (String.ofList characters))) ('"' :: written ++ ['"'])

/-- Is the token written as a word? -/
def Token.isWord : Token → Bool
  | .null => true
  | .flag _ => true
  | .number _ => true
  | _ => false

theorem word_of_spellsToken {token : Token} {word : List Char} (spelled : SpellsToken token word)
    (isWord : token.isWord = true) :
    word ≠ [] ∧ word.all continuesWord = true ∧ wordToken? word = some token := by
  cases spelled with
  | mark => cases isWord
  | text => cases isWord
  | null => decide
  | true => decide
  | false => decide
  | number isNumber =>
      refine ⟨ne_nil_of_isNumber isNumber, ?_, ?_⟩
      · rw [List.all_eq_true]
        exact fun character member => continuesWord_of_isNumeric
          (List.all_eq_true.mp (allNumeric_of_isNumber isNumber) character member)
      · exact wordToken?_of_isNumber isNumber

/-- The ways to write tokens: blanks may stand before each of them and at the end, and a word does
not run into what follows it. -/
inductive Spells : List Token → List Char → Prop where
  | nil {blank : List Char} (isBlank : blank.all isSpace = true) : Spells [] blank
  | cons {blank written text : List Char} {token : Token} {tokens : List Token}
      (isBlank : blank.all isSpace = true) (first : SpellsToken token written)
      (others : Spells tokens text) (apart : token.isWord = true → EndsWord text) :
      Spells (token :: tokens) (blank ++ written ++ text)

namespace Lexer

/-- The tokens of what has been read and of a text after it. -/
def tokensAfter? (lexer : Lexer) (text : List Char) : Option (List Token) :=
  (lexer.after? text).bind finish?

theorem tokensAfter?_append {lexer next : Lexer} {first : List Char}
    (reads : lexer.after? first = some next) (second : List Char) :
    lexer.tokensAfter? (first ++ second) = next.tokensAfter? second := by
  simp [tokensAfter?, after?_append, reads]

variable (tokens : List Token)

theorem after?_blank {blank : List Char} (isBlank : blank.all isSpace = true) :
    after? ⟨tokens, .between⟩ blank = some ⟨tokens, .between⟩ := by
  induction blank with
  | nil => rfl
  | cons space blank inductionHypothesis =>
      simp only [List.all_cons, Bool.and_eq_true] at isBlank
      simp [step, outside, isBlank.1, endWord, inductionHypothesis isBlank.2]

theorem step_word {character : Char} (continues : continuesWord character = true) :
    step ⟨tokens, .between⟩ character = some ⟨tokens, .word [character]⟩ ∧
      ∀ read, step ⟨tokens, .word read⟩ character = some ⟨tokens, .word (character :: read)⟩ := by
  simp only [continuesWord, Bool.and_eq_true, Bool.not_eq_true', bne_iff_ne] at continues
  obtain ⟨⟨notSpace, notMark⟩, notQuoted⟩ := continues
  simp [step, outside, notSpace, notMark, notQuoted]

theorem after?_inWord {word : List Char} (continues : word.all continuesWord = true)
    (read : List Char) :
    after? ⟨tokens, .word read⟩ word = some ⟨tokens, .word (word.reverse ++ read)⟩ := by
  induction word generalizing read with
  | nil => rfl
  | cons character word inductionHypothesis =>
      simp only [List.all_cons, Bool.and_eq_true] at continues
      simp [(step_word tokens continues.1).2 read, inductionHypothesis continues.2]

theorem after?_word {word : List Char} (filled : word ≠ [])
    (continues : word.all continuesWord = true) :
    after? ⟨tokens, .between⟩ word = some ⟨tokens, .word word.reverse⟩ := by
  cases word with
  | nil => exact absurd rfl filled
  | cons character word =>
      simp only [List.all_cons, Bool.and_eq_true] at continues
      simp [(step_word tokens continues.1).1, after?_inWord tokens continues.2]

/-- A word is a token once it has ended. -/
theorem tokensAfter?_word {word text : List Char} {token : Token}
    (reads : wordToken? word = some token) (apart : EndsWord text) :
    tokensAfter? ⟨tokens, .word word.reverse⟩ text =
      tokensAfter? ⟨token :: tokens, .between⟩ text := by
  have ended : endWord ⟨tokens, .word word.reverse⟩ = some ⟨token :: tokens, .between⟩ := by
    simp [endWord, reads, push]
  have still : endWord ⟨token :: tokens, .between⟩ = some ⟨token :: tokens, .between⟩ := rfl
  cases text with
  | nil => simp only [tokensAfter?, after?_nil, Option.bind_some, finish?, ended, still]
  | cons character text =>
      -- What ends a word is a blank, a mark or a quotation mark, and each of them ends it first.
      have same : step ⟨tokens, .word word.reverse⟩ character =
          step ⟨token :: tokens, .between⟩ character := by
        have separates := apart character rfl
        simp only [step, outside, ended, still]
        split
        · rfl
        split
        · rfl
        split
        · rfl
        · rename_i notSpace notMark notQuoted
          simp [continuesWord, notSpace, notMark, bne, notQuoted] at separates
      rw [tokensAfter?, tokensAfter?, after?_cons, after?_cons, same]

theorem after?_mark {character : Char} (marks : isMark character = true) :
    after? ⟨tokens, .between⟩ [character] = some ⟨.mark character :: tokens, .between⟩ := by
  have notSpace : isSpace character = false := by
    have spaceless : ∀ mark ∈ "[]\x7b\x7d:,".toList, isSpace mark = false := by simp [isSpace]
    exact spaceless character (by simpa [isMark] using marks)
  simp [step, outside, notSpace, marks, endWord, push]

theorem after?_text {characters written : List Char} (spelled : SpellsText characters written) :
    after? ⟨tokens, .between⟩ ('"' :: written ++ ['"']) =
      some ⟨.text (some (String.ofList characters)) :: tokens, .between⟩ := by
  obtain ⟨codes, reads, spells⟩ := exists_codes_of_spellsText tokens [] spelled
  have opens : step ⟨tokens, .between⟩ '"' = some ⟨tokens, .text []⟩ := rfl
  have closes : step ⟨tokens, .text codes.reverse⟩ '"' =
      some ⟨.text (some (String.ofList characters)) :: tokens, .between⟩ := by
    simp [step, push, spells]
  rw [List.append_nil] at reads
  simp [after?_append, opens, reads, closes]

theorem tokensAfter?_of_spells {tokens : List Token} {text : List Char}
    (spelled : Spells tokens text) (before : List Token) :
    tokensAfter? ⟨before, .between⟩ text = some (before.reverse ++ tokens) := by
  induction spelled generalizing before with
  | nil isBlank =>
      rw [tokensAfter?, after?_blank before isBlank]
      simp [finish?, endWord]
  | @cons blank written text token tokens isBlank first others apart inductionHypothesis =>
      rw [List.append_assoc, tokensAfter?_append (after?_blank before isBlank)]
      have next := inductionHypothesis (token :: before)
      rw [List.reverse_cons, List.append_assoc, List.singleton_append] at next
      cases isWord : token.isWord with
      | true =>
          obtain ⟨filled, continues, reads⟩ := word_of_spellsToken first isWord
          rw [tokensAfter?_append (after?_word before filled continues),
            tokensAfter?_word before reads (apart isWord), next]
      | false =>
          cases first with
          | mark isMark => rw [tokensAfter?_append (after?_mark before isMark), next]
          | text spelled => rw [tokensAfter?_append (after?_text before spelled), next]
          | null => cases isWord
          | true => cases isWord
          | false => cases isWord
          | number => cases isWord

end Lexer

/-- The lexer finds the tokens, however they are written. -/
theorem tokens?_of_spells {tokens : List Token} {text : List Char}
    (spelled : Spells tokens text) : tokens? text = some tokens :=
  Lexer.tokensAfter?_of_spells spelled []

end GoAtlas.Json
