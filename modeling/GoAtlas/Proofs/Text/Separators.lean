import GoAtlas.Symbol

/-!
Separators of one character: where they occur, what follows the last one, and why an identifier
that ends in a name without dots is an identifier of that name only. So the end of an identifier can
be compared piece by piece.
-/

namespace GoAtlas

namespace Text

theorem occurs_singleton (separator : Char) (text : List Char) :
    occurs [separator] text = true ↔ separator ∈ text := by
  induction text with
  | nil => simp [occurs]
  | cons character rest inductionHypothesis =>
      simp only [occurs, Bool.or_eq_true, inductionHypothesis, List.mem_cons]
      simp [List.isPrefixOf]

theorem contains_dot (text : String) : contains text "." = true ↔ '.' ∈ text.toList :=
  occurs_singleton '.' text.toList

theorem contains_slash (text : String) : contains text "/" = true ↔ '/' ∈ text.toList :=
  occurs_singleton '/' text.toList

theorem contains_dot_eq_false {text : String} (plain : '.' ∉ text.toList) :
    contains text "." = false := by
  rw [Bool.eq_false_iff, Ne, contains_dot]
  exact plain

theorem contains_slash_eq_false {text : String} (slashless : '/' ∉ text.toList) :
    contains text "/" = false := by
  rw [Bool.eq_false_iff, Ne, contains_slash]
  exact slashless

theorem splitLast?_eq_none {first : Char} {more text : List Char} (absent : first ∉ text) :
    splitLast? (first :: more) text = none := by
  induction text with
  | nil => rfl
  | cons character rest inductionHypothesis =>
      simp only [List.mem_cons, not_or] at absent
      simp [splitLast?, inductionHypothesis absent.2, List.isPrefixOf, absent.1]

/-- The last occurrence of a pattern is the one behind whose first character that character does not
stand again. -/
theorem splitLast?_append {first : Char} {more after : List Char} (before : List Char)
    (absent : first ∉ more ++ after) :
    splitLast? (first :: more) (before ++ first :: (more ++ after)) = some (before, after) := by
  induction before with
  | nil => simp [splitLast?, splitLast?_eq_none absent, List.isPrefixOf_iff_prefix]
  | cons character rest inductionHypothesis => simp [splitLast?, inductionHypothesis]

/-- What stands before and after an occurrence of a pattern makes up the text with it. -/
theorem eq_append_of_splitLast? {pattern text before after : List Char}
    (cut : splitLast? pattern text = some (before, after)) :
    text = before ++ pattern ++ after := by
  induction text generalizing before with
  | nil => cases cut
  | cons character rest inductionHypothesis =>
      rw [splitLast?] at cut
      split at cut
      · rename_i earlier later found
        cases cut
        rw [inductionHypothesis found]
        rfl
      · split at cut
        · rename_i begins
          obtain ⟨behind, same⟩ := List.isPrefixOf_iff_prefix.mp begins
          cases cut
          rw [← same]
          simp
        · cases cut

/-- The last separator is the one after which none stands. -/
theorem splitLast?_singleton_append {separator : Char} (before : List Char) {after : List Char}
    (absent : separator ∉ after) :
    splitLast? [separator] (before ++ separator :: after) = some (before, after) :=
  splitLast?_append before absent

theorem lastPiece_of_plain {text : String} (plain : '.' ∉ text.toList) :
    lastPiece "." text = text := by
  have dot : ".".toList = ['.'] := by decide
  simp [lastPiece, splitAtLast?, dot, splitLast?_eq_none plain]

theorem endsWith_iff {text ending : String} :
    endsWith text ending = true ↔ ∃ beginning, text = beginning ++ ending := by
  unfold endsWith
  rw [List.isSuffixOf_iff_suffix]
  constructor
  · rintro ⟨beginning, same⟩
    exact ⟨String.ofList beginning, String.toList_inj.mp (by simp [same])⟩
  · rintro ⟨beginning, rfl⟩
    exact ⟨beginning.toList, by simp⟩

end Text

theorem toList_memberId (owner name : String) :
    (memberId owner name).toList = owner.toList ++ '.' :: name.toList := by
  simp [memberId]

theorem dot_mem_memberId (owner name : String) : '.' ∈ (memberId owner name).toList := by
  simp [toList_memberId]

theorem contains_dot_memberId (owner name : String) :
    Text.contains (memberId owner name) "." = true :=
  (Text.contains_dot _).mpr (dot_mem_memberId owner name)

/-- What follows the last dot of an identifier is the name it ends in. -/
theorem lastPiece_memberId (owner : String) {name : String} (plain : '.' ∉ name.toList) :
    Text.lastPiece "." (memberId owner name) = name := by
  have cut := Text.splitLast?_singleton_append owner.toList plain
  rw [← toList_memberId] at cut
  have dot : ".".toList = ['.'] := by decide
  simp [Text.lastPiece, Text.splitAtLast?, dot, cut]

theorem memberId_inj {owner other name otherName : String} (plain : '.' ∉ name.toList)
    (otherPlain : '.' ∉ otherName.toList) (same : memberId owner name = memberId other otherName) :
    owner = other ∧ name = otherName := by
  have names : name = otherName := by
    rw [← lastPiece_memberId owner plain, same, lastPiece_memberId other otherPlain]
  subst names
  refine ⟨?_, rfl⟩
  have lists := congrArg String.toList same
  rw [toList_memberId, toList_memberId] at lists
  exact String.toList_inj.mp (List.append_cancel_right lists)

theorem memberId_memberId (owner receiver name : String) :
    memberId owner (memberId receiver name) = memberId (memberId owner receiver) name := by
  simp [memberId, String.append_assoc]

/-- An identifier that ends like another one ends in its name, after an owner that ends alike. -/
theorem exists_of_endsWith_memberId {owner receiver name otherName : String}
    (plain : '.' ∉ name.toList) (otherPlain : '.' ∉ otherName.toList)
    (ends : Text.endsWith (memberId owner name) ("." ++ memberId receiver otherName) = true) :
    name = otherName ∧ ∃ beginning, owner = memberId beginning receiver := by
  obtain ⟨beginning, same⟩ := Text.endsWith_iff.mp ends
  have regrouped : beginning ++ ("." ++ memberId receiver otherName) =
      memberId (memberId beginning receiver) otherName := by
    simp [memberId, String.append_assoc]
  rw [regrouped] at same
  obtain ⟨owners, names⟩ := memberId_inj plain otherPlain same
  exact ⟨names, beginning, owners⟩

end GoAtlas
