import GoAtlas.Go.Lexer

/-!
Names as Go spells them, and the words of a source: whatever bytes are read, every word among the
lexemes that is no keyword is a name. The letters of names are neither dots nor slashes nor angle
brackets, on which the identifiers of symbols rely.
-/

namespace GoAtlas.Go

/-- A letter or an underscore, and then letters, digits and marks. -/
def isWord (text : String) : Bool :=
  match text.toList with
  | [] => false
  | first :: rest => Text.startsName first && rest.all Text.continuesName

/-- A word that is no keyword. -/
def isName (text : String) : Bool :=
  isWord text && !keywords.contains text

theorem continuesName_of_startsName {character : Char}
    (starts : Text.startsName character = true) : Text.continuesName character = true := by
  simp [Text.continuesName, starts]

theorem isWord_of_isName {text : String} (name : isName text = true) : isWord text = true :=
  (Bool.and_eq_true_iff.mp name).1

theorem continuesName_of_mem_word {text : String} (word : isWord text = true) {character : Char}
    (member : character ∈ text.toList) : Text.continuesName character = true := by
  unfold isWord at word
  split at word
  · simp at word
  · rename_i first rest spelled
    rw [spelled] at member
    simp only [Bool.and_eq_true, List.all_eq_true] at word
    rcases List.mem_cons.mp member with rfl | inRest
    · exact continuesName_of_startsName word.1
    · exact word.2 character inRest

/-- A character that continues no name stands in none. -/
theorem isName.not_mem {text : String} (name : isName text = true) {character : Char}
    (foreign : Text.continuesName character = false) : character ∉ text.toList := by
  intro member
  have continues := continuesName_of_mem_word (isWord_of_isName name) member
  simp [foreign] at continues

theorem continuesName_dot : Text.continuesName '.' = false := by decide

theorem continuesName_slash : Text.continuesName '/' = false := by decide

theorem continuesName_angle : Text.continuesName '<' = false := by decide

/-! ### The words of a source -/

/-- A token that is a word spells a name. -/
def Token.NamesOnly (token : Token) : Prop :=
  ∀ name, token = .word name → isName name = true

namespace Lexer

theorem all_run (accepts : Char → Bool) (letters : List Letter) :
    (run accepts letters).all accepts = true := by
  induction letters with
  | nil => rfl
  | cons letter rest inductionHypothesis =>
      cases letter with
      | none => rfl
      | some character =>
          by_cases accepted : accepts character = true
          · simpa [run, accepted] using inductionHypothesis
          · simp [run, accepted]

/-- The run of letters that a name opens is a word. -/
theorem isWord_run {first : Char} {rest : List Letter}
    (starts : Text.startsName first = true) :
    isWord (String.ofList (run Text.continuesName (some first :: rest))) = true := by
  have continues := continuesName_of_startsName starts
  simp only [isWord, run, continues, if_true, String.toList_ofList, starts, Bool.true_and]
  exact all_run Text.continuesName rest

theorem namesOnly_ofName {text : String} (spelled : isWord text = true) :
    (Token.ofName text).NamesOnly := by
  intro name same
  unfold Token.ofName at same
  split at same
  · cases same
  · rename_i ordinary
    cases same
    rw [isName, spelled, Bool.eq_false_iff.mpr ordinary]
    rfl

theorem namesOnly_mark (text : String) : (Token.mark text).NamesOnly := by
  intro name same
  cases same

theorem namesOnly_of_map_mark? {letters : List Letter} {result : Token × Nat × List Letter}
    {read : String × List Letter → Token × Nat × List Letter}
    (marks : ∀ found, (read found).1 = .mark found.1)
    (mapped : (mark? letters).map read = some result) : result.1.NamesOnly := by
  obtain ⟨found, -, rfl⟩ := Option.map_eq_some_iff.mp mapped
  rw [marks found]
  exact namesOnly_mark found.1

theorem namesOnly_of_token? {letters rest : List Letter} {token : Token} {lines : Nat}
    (found : token? letters = some (token, lines, rest)) : token.NamesOnly := by
  unfold token? at found
  dsimp only at found
  split at found
  case h_1 | h_2 => cases found
  case h_3 | h_4 | h_5 =>
    -- Strings and runes are no words.
    obtain ⟨⟨taken, after⟩, -, same⟩ := Option.map_eq_some_iff.mp found
    cases same
    intro name same
    cases same
  case h_6 =>
    split at found
    · rename_i starts
      cases found
      exact namesOnly_ofName (isWord_run starts)
    · split at found
      · split at found
        · cases found
          intro name same
          cases same
        · exact namesOnly_of_map_mark? (fun _ => rfl) found
      · exact namesOnly_of_map_mark? (fun _ => rfl) found

/-- What ends a gap is the lexeme of its token. -/
theorem namesOnly_of_mem_close {gap : Gap} {token : Token} (names : token.NamesOnly)
    {lexeme : Lexeme} (member : lexeme ∈ [gap.close token]) : lexeme.token.NamesOnly := by
  rw [List.mem_singleton.mp member]
  exact names

theorem namesOnly_of_mem_lexemes {rounds : Nat} {gap : Gap} {letters : List Letter}
    {lexeme : Lexeme} (member : lexeme ∈ lexemes rounds gap letters) :
    lexeme.token.NamesOnly := by
  have ends : Token.endOfSource.NamesOnly := fun name same => by cases same
  have strays : Token.stray.NamesOnly := fun name same => by cases same
  fun_induction lexemes rounds gap letters with
  | case1 | case2 => exact namesOnly_of_mem_close ends member
  | case3 rounds gap rest inductionHypothesis => exact inductionHypothesis member
  | case4 rounds gap rest inductionHypothesis => exact inductionHypothesis member
  | case5 => exact namesOnly_of_mem_close strays member
  | case6 rounds gap rest lines after closed inductionHypothesis =>
      exact inductionHypothesis member
  | case7 rounds gap letter rest _ _ _ blank inductionHypothesis =>
      exact inductionHypothesis member
  | case8 rounds gap letter rest _ _ _ _ unreadable =>
      rw [unreadable] at member
      exact namesOnly_of_mem_close strays member
  | case9 rounds gap letter rest _ _ _ _ token lines after found inductionHypothesis =>
      rw [found] at member
      rcases List.mem_cons.mp member with rfl | later
      · exact namesOnly_of_token? found
      · exact inductionHypothesis later

end Lexer

/-- Every word of a source is a name. -/
theorem namesOnly_of_mem_lex {source : List UInt8} {lexeme : Lexeme}
    (member : lexeme ∈ lex source) : lexeme.token.NamesOnly :=
  Lexer.namesOnly_of_mem_lexemes member

end GoAtlas.Go
