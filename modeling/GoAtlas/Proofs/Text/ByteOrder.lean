import GoAtlas.Proofs.Text.Utf8
import Mathlib.Data.String.Basic
import Mathlib.Order.Basic

/-!
The order of texts is the order of their bytes. Of two characters the smaller one has the smaller
bytes, and neither's bytes begin the other's, so the first character in which two texts differ
decides between their bytes, too.
-/

namespace GoAtlas.Text.Utf8

theorem ofNat_lt_ofNat_iff {number other : Nat} (small : number < 0x100)
    (otherSmall : other < 0x100) : UInt8.ofNat number < UInt8.ofNat other ↔ number < other := by
  rw [UInt8.lt_iff_toNat_lt, toNat_ofNat_of_lt small, toNat_ofNat_of_lt otherSmall]

theorem ofNat_eq_ofNat_iff {number other : Nat} (small : number < 0x100)
    (otherSmall : other < 0x100) : UInt8.ofNat number = UInt8.ofNat other ↔ number = other := by
  rw [← UInt8.toNat_inj, toNat_ofNat_of_lt small, toNat_ofNat_of_lt otherSmall]

theorem toNat_val_lt (character : Char) : character.val.toNat < 0x110000 := by
  rcases character.valid with low | ⟨-, high⟩
  · exact Nat.lt_trans low (by decide)
  · exact high

/-- A smaller character has smaller bytes, whatever comes after them. -/
theorem encoded_lt_encoded {character other : Char} (smaller : character < other)
    (rest otherRest : List UInt8) :
    String.utf8EncodeChar character ++ rest < String.utf8EncodeChar other ++ otherRest := by
  have points : character.val.toNat < other.val.toNat := smaller
  have bounded := toNat_val_lt other
  unfold String.utf8EncodeChar
  dsimp only
  generalize character.val.toNat = point at *
  generalize other.val.toNat = otherPoint at *
  -- The payload of the first of four bytes is cut to three bits, which loses nothing.
  have lead : point / 262144 % 8 = point / 262144 := by omega
  have otherLead : otherPoint / 262144 % 8 = otherPoint / 262144 := by omega
  -- With different numbers of bytes the first bytes differ; with the same number, the payloads
  -- are digits to the base 64, of which the first different one decides.
  split <;> split <;> (try split) <;> (try split) <;> (try split) <;> (try split) <;>
    first
    | omega
    | simp (disch := omega) only [List.cons_append, List.nil_append, List.cons_lt_cons_iff,
        ofNat_lt_ofNat_iff, ofNat_eq_ofNat_iff, lead, otherLead]
      omega

theorem encoded_ne_nil (character : Char) : String.utf8EncodeChar character ≠ [] := by
  obtain ⟨first, others, encoded, -⟩ := exists_opening character []
  simp [encoded]

theorem flatMap_lt_flatMap {characters others : List Char} (smaller : characters < others) :
    characters.flatMap String.utf8EncodeChar < others.flatMap String.utf8EncodeChar := by
  change List.Lex (· < ·) characters others at smaller
  induction smaller with
  | @nil first rest =>
      obtain ⟨byte, bytes, encoded⟩ := List.exists_cons_of_ne_nil (encoded_ne_nil first)
      rw [List.flatMap_nil, List.flatMap_cons, encoded]
      exact List.nil_lt_cons _ _
  | @cons first rest otherRest _ inductionHypothesis =>
      simp only [List.flatMap_cons]
      exact List.append_left_lt inductionHypothesis
  | @rel first rest other otherRest less =>
      simp only [List.flatMap_cons]
      exact encoded_lt_encoded less _ _

/-- Texts are ordered as their bytes are. -/
theorem lt_iff_bytes_lt {text other : String} :
    text < other ↔ text.toUTF8.data.toList < other.toUTF8.data.toList := by
  have grows {text other : String} (smaller : text < other) :
      text.toUTF8.data.toList < other.toUTF8.data.toList := by
    rw [bytes_eq_flatMap, bytes_eq_flatMap]
    exact flatMap_lt_flatMap (String.lt_iff_toList_lt.mp smaller)
  refine ⟨grows, fun bytes => ?_⟩
  by_contra notSmaller
  rcases (not_lt.mp notSmaller).eq_or_lt with rfl | larger
  · exact List.lt_irrefl _ bytes
  · exact List.lt_asymm bytes (grows larger)

end GoAtlas.Text.Utf8
