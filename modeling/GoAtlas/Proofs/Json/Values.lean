import GoAtlas.Json.Value
import GoAtlas.Proofs.Json.Lexemes

/-!
The tokens of a value, and how the value is read back from them. So whatever text spells the tokens
of a value is read as that value.
-/

namespace GoAtlas.Json

namespace Value

mutual

/-- The tokens of a value. -/
def tokens : Value → List Token
  | null => [.null]
  | flag value => [.flag value]
  | number literal => [.number literal]
  | text value => [.text value]
  | list items => .mark '[' :: itemTokens items
  | object members => .mark '{' :: memberTokens members

/-- The tokens of items, with commas between them and the closing bracket after them. -/
def itemTokens : List Value → List Token
  | [] => [.mark ']']
  | [item] => item.tokens ++ [.mark ']']
  | item :: rest => item.tokens ++ .mark ',' :: itemTokens rest

/-- The tokens of members, with commas between them and the closing brace after them. -/
def memberTokens : List (Option String × Value) → List Token
  | [] => [.mark '}']
  | [(name, value)] => .text name :: .mark ':' :: (value.tokens ++ [.mark '}'])
  | (name, value) :: rest =>
      .text name :: .mark ':' :: (value.tokens ++ .mark ',' :: memberTokens rest)

end

theorem exists_first_token (value : Value) :
    ∃ token others, value.tokens = token :: others ∧ token ≠ .mark ']' := by
  cases value <;> simp [tokens]

theorem itemTokens_ne_closing (item : Value) (items : List Value) (rest : List Token) :
    (itemTokens (item :: items) ++ rest).head? ≠ some (.mark ']') := by
  obtain ⟨token, others, begins, notClosing⟩ := item.exists_first_token
  cases items <;> simp [itemTokens, begins, notClosing]

theorem memberTokens_ne_closing (member : Option String × Value)
    (members : List (Option String × Value)) (rest : List Token) :
    (memberTokens (member :: members) ++ rest).head? ≠ some (.mark '}') := by
  obtain ⟨name, value⟩ := member
  cases members <;> simp [memberTokens]

theorem ofTokens?_list {rounds : Nat} {tokens rest : List Token} {items : List Value}
    (notClosing : tokens.head? ≠ some (.mark ']'))
    (read : itemsOf? rounds tokens = some (items, rest)) :
    ofTokens? (rounds + 1) (.mark '[' :: tokens) = some (list items, rest) := by
  cases tokens with
  | nil => simp [ofTokens?, read]
  | cons token tokens => simp_all [ofTokens?]

theorem ofTokens?_object {rounds : Nat} {tokens rest : List Token}
    {members : List (Option String × Value)} (notClosing : tokens.head? ≠ some (.mark '}'))
    (read : membersOf? rounds tokens = some (members, rest)) :
    ofTokens? (rounds + 1) (.mark '{' :: tokens) = some (object members, rest) := by
  cases tokens with
  | nil => simp [ofTokens?, read]
  | cons token tokens => simp_all [ofTokens?]

mutual

/-- A value is read from its tokens, whatever follows them. -/
theorem ofTokens?_tokens (value : Value) (rest : List Token) (rounds : Nat)
    (enough : 2 * value.tokens.length ≤ rounds) :
    ofTokens? rounds (value.tokens ++ rest) = some (value, rest) := by
  obtain ⟨first, others, begins, -⟩ := value.exists_first_token
  obtain ⟨rounds, rfl⟩ : ∃ less, rounds = less + 1 :=
    Nat.exists_eq_add_one.mpr (by simp [begins] at enough; omega)
  match value with
  | null => simp [tokens, ofTokens?]
  | flag value => simp [tokens, ofTokens?]
  | number literal => simp [tokens, ofTokens?]
  | text value => simp [tokens, ofTokens?]
  | list [] => simp [tokens, itemTokens, ofTokens?]
  | list (item :: items) =>
      exact ofTokens?_list (itemTokens_ne_closing item items rest)
        (itemsOf?_itemTokens (item :: items) (by simp) rest rounds
          (by simp [tokens] at enough; omega))
  | object [] => simp [tokens, memberTokens, ofTokens?]
  | object (member :: members) =>
      exact ofTokens?_object (memberTokens_ne_closing member members rest)
        (membersOf?_memberTokens (member :: members) (by simp) rest rounds
          (by simp [tokens] at enough; omega))

theorem itemsOf?_itemTokens (items : List Value) (filled : items ≠ []) (rest : List Token)
    (rounds : Nat) (enough : 2 * (itemTokens items).length ≤ rounds) :
    itemsOf? rounds (itemTokens items ++ rest) = some (items, rest) := by
  match items with
  | [] => exact absurd rfl filled
  | [item] =>
      simp only [itemTokens, List.length_append, List.length_singleton] at enough
      obtain ⟨rounds, rfl⟩ : ∃ less, rounds = less + 1 := Nat.exists_eq_add_one.mpr (by omega)
      have read := ofTokens?_tokens item (.mark ']' :: rest) rounds (by omega)
      simp [itemTokens, itemsOf?, read]
  | item :: next :: items =>
      simp only [itemTokens, List.length_append, List.length_cons] at enough
      obtain ⟨rounds, rfl⟩ : ∃ less, rounds = less + 1 := Nat.exists_eq_add_one.mpr (by omega)
      have read := ofTokens?_tokens item (.mark ',' :: (itemTokens (next :: items) ++ rest))
        rounds (by omega)
      have others := itemsOf?_itemTokens (next :: items) (by simp) rest rounds (by omega)
      simp [itemTokens, itemsOf?, read, others]

theorem membersOf?_memberTokens (members : List (Option String × Value)) (filled : members ≠ [])
    (rest : List Token) (rounds : Nat) (enough : 2 * (memberTokens members).length ≤ rounds) :
    membersOf? rounds (memberTokens members ++ rest) = some (members, rest) := by
  match members with
  | [] => exact absurd rfl filled
  | [(name, value)] =>
      simp only [memberTokens, List.length_append, List.length_cons, List.length_nil] at enough
      obtain ⟨rounds, rfl⟩ : ∃ less, rounds = less + 1 := Nat.exists_eq_add_one.mpr (by omega)
      have read := ofTokens?_tokens value (.mark '}' :: rest) rounds (by omega)
      simp [memberTokens, membersOf?, read]
  | (name, value) :: next :: members =>
      simp only [memberTokens, List.length_append, List.length_cons] at enough
      obtain ⟨rounds, rfl⟩ : ∃ less, rounds = less + 1 := Nat.exists_eq_add_one.mpr (by omega)
      have read := ofTokens?_tokens value (.mark ',' :: (memberTokens (next :: members) ++ rest))
        rounds (by omega)
      have others := membersOf?_memberTokens (next :: members) (by simp) rest rounds (by omega)
      simp [memberTokens, membersOf?, read, others]

end

end Value

/-- Every text that spells the tokens of a value is read as the value. -/
theorem read?_of_spells {value : Value} {text : String}
    (spelled : Spells value.tokens text.toList) : read? text = some value := by
  have values := Value.ofTokens?_tokens value [] _ (Nat.le_refl (2 * value.tokens.length))
  rw [List.append_nil] at values
  simp [read?, tokens?_of_spells spelled, values]

end GoAtlas.Json
