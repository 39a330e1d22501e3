import GoAtlas.Text.Utf8

/-!
Reading what was written in UTF-8. The bytes of a character open with one that says how many follow,
so they are read as that character whatever comes after them, and the bytes of a text as the text.
-/

namespace GoAtlas.Text.Utf8

theorem toNat_ofNat_of_lt {number : Nat} (small : number < 0x100) :
    (UInt8.ofNat number).toNat = number := by
  simp only [UInt8.toNat_ofNat']
  omega

theorem continuation?_ofNat {payload : Nat} (small : payload < 0x40) :
    continuation? (UInt8.ofNat (payload + 0x80)) = some payload := by
  have value : (UInt8.ofNat (payload + 0x80)).toNat = payload + 0x80 :=
    toNat_ofNat_of_lt (by omega)
  have follows : 0x80 ≤ UInt8.ofNat (payload + 0x80) ∧ UInt8.ofNat (payload + 0x80) < 0xC0 := by
    constructor
    · rw [UInt8.le_iff_toNat_le, value]
      exact Nat.le_add_left _ _
    · rw [UInt8.lt_iff_toNat_lt, value]
      change payload + 0x80 < 0xC0
      omega
  simp only [continuation?, follows, decide_true, Bool.and_self, if_true, value]
  congr 1
  omega

theorem character?_toNat {least : Nat} {character : Char} (enough : least ≤ character.toNat) :
    character? least character.toNat = some character := by
  have valid : character.toNat < 0xD800 ∨
      0xE000 ≤ character.toNat ∧ character.toNat < 0x110000 := by
    rcases character.valid with low | ⟨high, bounded⟩
    · exact .inl low
    · exact .inr ⟨high, bounded⟩
  simp [character?, enough, valid, Char.ofNat_toNat]

/-! ### The bytes of one character -/

section

variable {byte byte₂ byte₃ byte₄ : UInt8} {lead second third fourth : Nat} {rest : List UInt8}
  {character : Char}

theorem opening?_one (leads : byte.toNat = character.toNat) (small : character.toNat < 0x80) :
    opening? byte rest = some (character, 0) := by
  simp [opening?, UInt8.lt_iff_toNat_lt, leads, small, Char.ofNat_toNat]

theorem opening?_two (leads : byte.toNat = lead + 0xC0) (small : lead < 0x20)
    (follows : continuation? byte₂ = some second)
    (spells : lead * 0x40 + second = character.toNat) (needed : 0x80 ≤ character.toNat) :
    opening? byte (byte₂ :: rest) = some (character, 1) := by
  have payload : (lead + 0xC0) % 0x20 = lead := by omega
  have ranges : ¬lead + 0xC0 < 0x80 ∧ ¬lead + 0xC0 < 0xC0 ∧ lead + 0xC0 < 0xE0 := by omega
  simp [opening?, UInt8.lt_iff_toNat_lt, leads, ranges, payload, follows, spells,
    character?_toNat needed]

theorem opening?_three (leads : byte.toNat = lead + 0xE0) (small : lead < 0x10)
    (follows : continuation? byte₂ = some second) (follows₃ : continuation? byte₃ = some third)
    (spells : (lead * 0x40 + second) * 0x40 + third = character.toNat)
    (needed : 0x800 ≤ character.toNat) :
    opening? byte (byte₂ :: byte₃ :: rest) = some (character, 2) := by
  have payload : (lead + 0xE0) % 0x10 = lead := by omega
  have ranges : ¬lead + 0xE0 < 0x80 ∧ ¬lead + 0xE0 < 0xC0 ∧ ¬lead + 0xE0 < 0xE0 ∧
      lead + 0xE0 < 0xF0 := by omega
  simp [opening?, UInt8.lt_iff_toNat_lt, leads, ranges, payload, follows, follows₃, spells,
    character?_toNat needed]

theorem opening?_four (leads : byte.toNat = lead + 0xF0) (small : lead < 8)
    (follows : continuation? byte₂ = some second) (follows₃ : continuation? byte₃ = some third)
    (follows₄ : continuation? byte₄ = some fourth)
    (spells : ((lead * 0x40 + second) * 0x40 + third) * 0x40 + fourth = character.toNat)
    (needed : 0x10000 ≤ character.toNat) :
    opening? byte (byte₂ :: byte₃ :: byte₄ :: rest) = some (character, 3) := by
  have payload : (lead + 0xF0) % 8 = lead := by omega
  have ranges : ¬lead + 0xF0 < 0x80 ∧ ¬lead + 0xF0 < 0xC0 ∧ ¬lead + 0xF0 < 0xE0 ∧
      ¬lead + 0xF0 < 0xF0 ∧ lead + 0xF0 < 0xF8 := by omega
  simp [opening?, UInt8.lt_iff_toNat_lt, leads, ranges, payload, follows, follows₃, follows₄,
    spells, character?_toNat needed]

end

/-- The first byte of a character opens it, and the others are what it takes. -/
theorem exists_opening (character : Char) (rest : List UInt8) :
    ∃ first others, String.utf8EncodeChar character = first :: others ∧
      opening? first (others ++ rest) = some (character, others.length) := by
  have bounded : character.toNat < 0x110000 := by
    rcases character.valid with low | ⟨-, high⟩
    · exact Nat.lt_trans low (by decide)
    · exact high
  have same : character.val.toNat = character.toNat := rfl
  unfold String.utf8EncodeChar
  dsimp only
  rw [same]
  have lead {number : Nat} (small : number < 0x100) := toNat_ofNat_of_lt small
  have tail {number : Nat} : continuation? (UInt8.ofNat (number % 0x40 + 0x80)) =
      some (number % 0x40) := continuation?_ofNat (Nat.mod_lt _ (by decide))
  split
  · exact ⟨_, _, rfl, opening?_one (lead (by omega)) (by omega)⟩
  split
  · exact ⟨_, _, rfl, opening?_two (lead (by omega)) (by omega) tail (by omega) (by omega)⟩
  split
  · exact ⟨_, _, rfl,
      opening?_three (lead (by omega)) (by omega) tail tail (by omega) (by omega)⟩
  · exact ⟨_, _, rfl,
      opening?_four (lead (by omega)) (by omega) tail tail tail (by omega) (by omega)⟩

/-! ### The bytes of a text -/

theorem decodeAfter_append (taken rest : List UInt8) :
    decodeAfter taken.length (taken ++ rest) = decodeAfter 0 rest := by
  induction taken with
  | nil => rfl
  | cons byte taken inductionHypothesis => exact inductionHypothesis

theorem decode_encoded (characters : List Char) :
    decode (characters.flatMap String.utf8EncodeChar) = characters.map some := by
  induction characters with
  | nil => rfl
  | cons character rest inductionHypothesis =>
      obtain ⟨first, others, encoded, opens⟩ :=
        exists_opening character (rest.flatMap String.utf8EncodeChar)
      rw [List.flatMap_cons, encoded, List.cons_append, decode, decodeAfter, opens]
      simp only [decodeAfter_append, List.map_cons]
      exact congrArg _ inductionHypothesis

theorem bytes_eq_flatMap (text : String) :
    text.toUTF8.data.toList = text.toList.flatMap String.utf8EncodeChar := by
  rw [String.toUTF8_eq_toByteArray, ← String.utf8Encode_toList, List.utf8Encode,
    List.toList_data_toByteArray]

/-- The bytes of a text are read as the text. -/
theorem read?_toUTF8 (text : String) : read? text.toUTF8.data.toList = some text := by
  have each : (text.toList.map some).mapM id = some (text.toList.map id) := by
    rw [List.mapM_map]
    exact List.mapM_pure
  rw [read?, bytes_eq_flatMap, decode_encoded, text?, each, List.map_id, Option.map_some,
    String.ofList_toList]

end GoAtlas.Text.Utf8
