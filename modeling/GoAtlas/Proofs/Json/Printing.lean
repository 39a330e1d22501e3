import GoAtlas.Json.Printer
import GoAtlas.Proofs.Json.Values
import GoAtlas.Proofs.Text.Numerals
import Mathlib.Data.List.TakeWhile

/-!
Printed documents. What is printed spells the tokens of the document's value, so that value is read
back; and a value has no second document, so no two documents are printed alike.
-/

namespace GoAtlas

namespace Document

mutual

/-- The value that is printed for a document. -/
def value : Document → Json.Value
  | .text value => .text (some value)
  | .number value => .number (Nat.toDigits 10 value)
  | .flag value => .flag value
  | .list items => .list (values items)
  | .record fields => .object (members fields)

def values : List Document → List Json.Value
  | [] => []
  | item :: rest => item.value :: values rest

def members : List (String × Document) → List (Option String × Json.Value)
  | [] => []
  | (name, field) :: rest => (some name, field.value) :: members rest

end

mutual

theorem value_injective (document other : Document) (same : document.value = other.value) :
    document = other := by
  match document with
  | .text content =>
      cases other <;> simp [value] at same
      rw [same]
  | .number content =>
      cases other <;> simp [value] at same
      rw [Text.toDigits_injective same]
  | .flag content =>
      cases other <;> simp [value] at same
      rw [same]
  | .list items =>
      cases other <;> simp [value] at same
      rw [values_injective items _ same]
  | .record fields =>
      cases other <;> simp [value] at same
      rw [members_injective fields _ same]

theorem values_injective (items others : List Document) (same : values items = values others) :
    items = others := by
  match items, others with
  | [], [] => rfl
  | item :: items, other :: others =>
      simp only [values, List.cons.injEq] at same
      rw [value_injective item other same.1, values_injective items others same.2]

theorem members_injective (fields others : List (String × Document))
    (same : members fields = members others) : fields = others := by
  match fields, others with
  | [], [] => rfl
  | (name, field) :: fields, (otherName, other) :: others =>
      simp only [members, List.cons.injEq, Prod.mk.injEq, Option.some.injEq] at same
      rw [same.1.1, value_injective field other same.1.2, members_injective fields others same.2]

end

end Document

namespace Json

open Document (value values members)

/-! ### Numbers and texts -/

theorem isNumber_toDigits (number : Nat) : isNumber (Nat.toDigits 10 number) = true := by
  have digits : ∀ character ∈ Nat.toDigits 10 number, character.isDigit = true := fun character =>
    Nat.isDigit_of_mem_toDigits (by decide) (by decide)
  have whole : isWhole (Nat.toDigits 10 number) = true := by
    have leading : (Nat.toDigits 10 number).length = 1 ∨
        (Nat.toDigits 10 number).head? ≠ some '0' := by
      rcases Nat.eq_zero_or_pos number with rfl | positive
      · exact .inl rfl
      · exact .inr (Text.head?_toDigits_ne_zero positive)
    simpa [isWhole, areDigits, Nat.toDigits_ne_nil, List.all_eq_true] using ⟨digits, leading⟩
  have unsigned : ∀ rest, Nat.toDigits 10 number ≠ '-' :: rest := by
    intro rest begins
    have sign := digits '-' (by simp [begins])
    cases sign
  unfold isNumber
  dsimp only
  split
  · rename_i rest begins
    exact absurd begins (unsigned rest)
  · rw [List.takeWhile_eq_self_iff.mpr digits, List.dropWhile_eq_nil_iff.mpr digits, whole]
    rfl

theorem spellsCode_control :
    ∀ number < 0x20, SpellsCode number (['0', '0'] ++ twoHexDigits number) := by
  unfold SpellsCode
  decide

theorem spellsCharacter_quotedCharacter (character : Char) :
    SpellsCharacter character (quotedCharacter character) := by
  unfold quotedCharacter
  split
  · exact .letter rfl
  · exact .letter rfl
  · exact .letter rfl
  · exact .letter rfl
  · exact .letter rfl
  · exact .letter rfl
  · exact .letter rfl
  · rename_i unmarked unescaped _ _ _ _ _
    split
    · rename_i control
      exact .code (spellsCode_control character.toNat control)
    · rename_i printable
      exact .plain unmarked unescaped (Nat.le_of_not_lt printable)

theorem spellsText_quoted (characters : List Char) :
    SpellsText characters (characters.flatMap quotedCharacter) := by
  induction characters with
  | nil => exact .nil
  | cons character characters inductionHypothesis =>
      exact .cons (spellsCharacter_quotedCharacter character) inductionHypothesis

/-! ### Documents -/

theorem Spells.token {token : Token} {tokens : List Token} {written text : List Char}
    (first : SpellsToken token written) (others : Spells tokens text)
    (apart : token.isWord = true → EndsWord text) : Spells (token :: tokens) (written ++ text) := by
  have noBlank : ([] : List Char).all isSpace = true := rfl
  exact .cons noBlank first others apart

theorem Spells.mark {character : Char} {tokens : List Token} {text : List Char}
    (isMark : isMark character = true) (others : Spells tokens text) :
    Spells (.mark character :: tokens) (character :: text) :=
  .token (.mark isMark) others (by simp [Token.isWord])

theorem Spells.blank {tokens : List Token} {blank text : List Char}
    (isBlank : blank.all isSpace = true) (spelled : Spells tokens text) :
    Spells tokens (blank ++ text) := by
  have together {other : List Char} (isOther : other.all isSpace = true) :
      (blank ++ other).all isSpace = true := by
    rw [List.all_append, isBlank, isOther, Bool.and_self]
  cases spelled with
  | nil isOther => exact .nil (together isOther)
  | cons isOther first others apart =>
      rw [← List.append_assoc, ← List.append_assoc]
      exact .cons (together isOther) first others apart

/-- A text, as it is quoted. -/
theorem spellsToken_quoted (content : String) :
    SpellsToken (.text (some content)) (quoted content.toList) := by
  have spelled := SpellsToken.text (spellsText_quoted content.toList)
  rw [String.ofList_toList] at spelled
  exact spelled

theorem Spells.field (name : String) {tokens : List Token} {text : List Char}
    (spelled : Spells tokens text) : Spells (.text (some name) :: .mark ':' :: tokens)
      (quoted name.toList ++ ':' :: ' ' :: text) := by
  have space : [' '].all isSpace = true := rfl
  have spaced : Spells tokens ([' '] ++ text) := spelled.blank space
  exact .token (spellsToken_quoted name) (.mark rfl spaced) (by simp [Token.isWord])

theorem allSpace_newLine (depth : Nat) : (newLine depth).all isSpace = true := by
  simp [newLine, isSpace]

theorem endsWord_mark {character : Char} {text : List Char} (marks : isMark character = true) :
    EndsWord (character :: text) := by
  intro first isFirst
  cases isFirst
  simp [continuesWord, marks]

theorem endsWord_newLine (depth : Nat) (text : List Char) : EndsWord (newLine depth ++ text) := by
  intro first isFirst
  cases isFirst
  rfl

mutual

/-- A printed document spells the tokens of its value, before anything that does not prolong it. -/
theorem spells_printAt (document : Document) (depth : Nat) {tokens : List Token} {text : List Char}
    (others : Spells tokens text) (apart : EndsWord text) :
    Spells (document.value.tokens ++ tokens) (printAt depth document ++ text) := by
  match document with
  | .text content => exact .token (spellsToken_quoted content) others (by simp [Token.isWord])
  | .number content => exact .token (.number (isNumber_toDigits content)) others fun _ => apart
  | .flag true => exact .token .true others fun _ => apart
  | .flag false => exact .token .false others fun _ => apart
  | .list [] => exact .mark rfl (.mark rfl others)
  | .list (item :: items) =>
      have inside := spells_printItems (item :: items) (by simp) (depth + 1) depth others
      simpa [value, Value.tokens, printAt, bracketed, printItems] using Spells.mark rfl inside
  | .record [] => exact .mark rfl (.mark rfl others)
  | .record (field :: fields) =>
      have inside := spells_printFields (field :: fields) (by simp) (depth + 1) depth others
      simpa [value, Value.tokens, printAt, bracketed, printFields] using Spells.mark rfl inside

theorem spells_printItems (items : List Document) (filled : items ≠ []) (depth outer : Nat)
    {tokens : List Token} {text : List Char} (others : Spells tokens text) :
    Spells (Value.itemTokens (values items) ++ tokens)
      (onLines depth (printItems depth items) ++ (newLine outer ++ ']' :: text)) := by
  match items with
  | [] => exact absurd rfl filled
  | [item] =>
      have closing : Spells (.mark ']' :: tokens) (newLine outer ++ ']' :: text) :=
        (Spells.mark rfl others).blank (allSpace_newLine outer)
      have last := spells_printAt item depth closing (endsWord_newLine outer _)
      simpa [values, Value.itemTokens, printItems, onLines] using
        last.blank (allSpace_newLine depth)
  | item :: next :: items =>
      have rest := spells_printItems (next :: items) (by simp) depth outer others
      have comma : Spells (.mark ',' :: _) (',' :: _) := .mark rfl rest
      have first := spells_printAt item depth comma (endsWord_mark rfl)
      simpa [values, Value.itemTokens, printItems, onLines] using
        first.blank (allSpace_newLine depth)

theorem spells_printFields (fields : List (String × Document)) (filled : fields ≠ [])
    (depth outer : Nat) {tokens : List Token} {text : List Char} (others : Spells tokens text) :
    Spells (Value.memberTokens (members fields) ++ tokens)
      (onLines depth (printFields depth fields) ++ (newLine outer ++ '}' :: text)) := by
  match fields with
  | [] => exact absurd rfl filled
  | [(name, field)] =>
      have closing : Spells (.mark '}' :: tokens) (newLine outer ++ '}' :: text) :=
        (Spells.mark rfl others).blank (allSpace_newLine outer)
      have last := (spells_printAt field depth closing (endsWord_newLine outer _)).field name
      simpa [members, Value.memberTokens, printFields, onLines] using
        last.blank (allSpace_newLine depth)
  | (name, field) :: next :: fields =>
      have rest := spells_printFields (next :: fields) (by simp) depth outer others
      have comma : Spells (.mark ',' :: _) (',' :: _) := .mark rfl rest
      have first := (spells_printAt field depth comma (endsWord_mark rfl)).field name
      simpa [members, Value.memberTokens, printFields, onLines] using
        first.blank (allSpace_newLine depth)

end

/-- A printed document is one of the texts that spell its value. -/
theorem spells_print (document : Document) :
    Spells document.value.tokens (print document).toList := by
  have noBlank : ([] : List Char).all isSpace = true := rfl
  have ended : EndsWord [] := by
    intro first isFirst
    cases isFirst
  simpa [print] using spells_printAt document 0 (.nil noBlank) ended

/-- What is printed for a document is read as its value. -/
theorem read?_print (document : Document) : read? (print document) = some document.value :=
  read?_of_spells (spells_print document)

/-- No two documents are printed alike. -/
theorem print_injective {document other : Document} (same : print document = print other) :
    document = other := by
  have values : some document.value = some other.value := by
    rw [← read?_print, same, read?_print]
  exact Document.value_injective document other (Option.some.inj values)

end Json

end GoAtlas
