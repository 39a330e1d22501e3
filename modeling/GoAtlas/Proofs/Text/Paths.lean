import GoAtlas.FileTree
import GoAtlas.Proofs.Text.Separators

/-!
Paths that lead into a directory. A name that is put behind the path of a directory is the last name
of the path that results.
-/

namespace GoAtlas

namespace Text

theorem pieces_append (separator : Char) (before after : List Char) :
    pieces separator (before ++ separator :: after) =
      pieces separator before ++ pieces separator after := by
  induction before with
  | nil => simp
  | cons character rest inductionHypothesis =>
      by_cases same : character = separator
      · simp [pieces, same, inductionHypothesis]
      · cases cut : pieces separator rest with
        | nil => exact absurd cut (pieces_ne_nil separator rest)
        | cons piece more => simp [pieces, same, inductionHypothesis, cut]

theorem pieces_of_absent {separator : Char} {text : List Char} (absent : separator ∉ text) :
    pieces separator text = [text] := by
  induction text with
  | nil => rfl
  | cons character rest inductionHypothesis =>
      obtain ⟨different, restAbsent⟩ := not_or.mp (mt List.mem_cons.mpr absent)
      simp [pieces, Ne.symm different, inductionHypothesis restAbsent]

theorem split_of_absent {text : String} (slashless : '/' ∉ text.toList) :
    split '/' text = [text] := by
  simp [split, pieces_of_absent slashless]

theorem split_append {name : String} (slashless : '/' ∉ name.toList) (directory : String) :
    split '/' (directory ++ "/" ++ name) = split '/' directory ++ [name] := by
  have slash : "/".toList = ['/'] := by decide
  simp [split, slash, pieces_append, pieces_of_absent slashless]

theorem not_mem_of_mem_pieces {separator : Char} {text piece : List Char}
    (member : piece ∈ pieces separator text) : separator ∉ piece := by
  induction text generalizing piece with
  | nil => simp_all
  | cons character rest inductionHypothesis =>
      by_cases same : character = separator
      · rw [same, pieces_separator] at member
        rcases List.mem_cons.mp member with rfl | later
        · exact List.not_mem_nil
        · exact inductionHypothesis later
      · cases cut : pieces separator rest with
        | nil => exact absurd cut (pieces_ne_nil separator rest)
        | cons first more =>
            rw [cut] at inductionHypothesis
            simp only [pieces, same, if_false, cut] at member
            rcases List.mem_cons.mp member with rfl | later
            · simpa [Ne.symm same] using inductionHypothesis List.mem_cons_self
            · exact inductionHypothesis (List.mem_cons_of_mem _ later)

theorem slashless_of_mem_split {text piece : String} (member : piece ∈ split '/' text) :
    '/' ∉ piece.toList := by
  obtain ⟨characters, isPiece, rfl⟩ := List.mem_map.mp member
  rw [String.toList_ofList]
  exact not_mem_of_mem_pieces isPiece

theorem split_ne_nil (text : String) : split '/' text ≠ [] := by
  simp [split, pieces_ne_nil]

theorem toList_join_cons (first second : String) (more : List String) :
    (join "/" (first :: second :: more)).toList =
      first.toList ++ '/' :: (join "/" (second :: more)).toList := by
  simp [join]

/-- Pieces without separators are found again in what they are joined to. -/
theorem split_join {parts : List String} (filled : parts ≠ [])
    (slashless : ∀ part ∈ parts, '/' ∉ part.toList) : split '/' (join "/" parts) = parts := by
  induction parts with
  | nil => exact absurd rfl filled
  | cons first rest inductionHypothesis =>
      obtain ⟨firstSlashless, restSlashless⟩ := List.forall_mem_cons.mp slashless
      cases rest with
      | nil => simpa [join] using split_of_absent firstSlashless
      | cons second more =>
          have restSplit := inductionHypothesis (List.cons_ne_nil _ _) restSlashless
          unfold split at restSplit ⊢
          rw [toList_join_cons, pieces_append, pieces_of_absent firstSlashless, List.map_append,
            restSplit]
          simp

end Text

namespace Path

/-- The names that entries of directories have. -/
structure IsName (name : String) : Prop where
  nonempty : name ≠ ""
  notDot : name ≠ "."
  slashless : '/' ∉ name.toList

instance (name : String) : Decidable (IsName name) :=
  decidable_of_iff (name ≠ "" ∧ name ≠ "." ∧ '/' ∉ name.toList)
    ⟨fun ⟨nonempty, notDot, slashless⟩ => ⟨nonempty, notDot, slashless⟩,
      fun ⟨nonempty, notDot, slashless⟩ => ⟨nonempty, notDot, slashless⟩⟩

variable {name : String}

theorem exists_within (directory name : String) :
    ∃ beginning, within directory name = beginning ++ "/" ++ name := by
  unfold within
  split
  · rename_i ends
    obtain ⟨beginning, rfl⟩ := Text.endsWith_iff.mp ends
    exact ⟨beginning, rfl⟩
  · exact ⟨directory, rfl⟩

/-- The pieces at the end that are cut off are no segments. -/
theorem filter_trimmed (pieces : List String) :
    (trimmed pieces).filter (fun piece => piece != "" && piece != ".") =
      pieces.filter fun piece => piece != "" && piece != "." := by
  have filter_dropWhile : ∀ rest : List String,
      (rest.dropWhile fun piece => piece == "" || piece == ".").filter
          (fun piece => piece != "" && piece != ".") =
        rest.filter fun piece => piece != "" && piece != "." := by
    intro rest
    induction rest with
    | nil => rfl
    | cons piece more inductionHypothesis =>
        rw [List.dropWhile_cons]
        split
        · rename_i idle
          have isIdle : piece = "" ∨ piece = "." := by simpa using idle
          rw [inductionHypothesis, List.filter_cons_of_neg]
          rcases isIdle with rfl | rfl <;> decide
        · rfl
  cases pieces with
  | nil => rfl
  | cons first rest =>
      simp only [trimmed, List.filter_cons, List.filter_reverse, filter_dropWhile,
        List.reverse_reverse]

theorem trimmed_subset (pieces : List String) : trimmed pieces ⊆ pieces := by
  cases pieces with
  | nil => exact List.Subset.refl _
  | cons first rest =>
      refine List.cons_subset_cons first fun piece member => ?_
      exact List.mem_reverse.mp ((List.dropWhile_sublist _).subset (List.mem_reverse.mp member))

theorem trimmed_ne_nil {pieces : List String} (filled : pieces ≠ []) : trimmed pieces ≠ [] := by
  cases pieces with
  | nil => exact absurd rfl filled
  | cons first rest => exact List.cons_ne_nil _ _

theorem trimmed_append (isName : IsName name) {pieces : List String} (filled : pieces ≠ []) :
    trimmed (pieces ++ [name]) = pieces ++ [name] := by
  cases pieces with
  | nil => exact absurd rfl filled
  | cons first rest => simp [trimmed, isName.nonempty, isName.notDot]

theorem slashless_fileName (path : String) : '/' ∉ (fileName path).toList := by
  obtain none | ⟨front, last, pieces⟩ := List.eq_nil_or_concat (trimmed (Text.split '/' path))
  · simp [fileName, none]
  · rw [List.concat_eq_append] at pieces
    have member : last ∈ trimmed (Text.split '/' path) := by simp [pieces]
    rw [fileName, pieces, List.getLastD_concat]
    exact Text.slashless_of_mem_split (trimmed_subset _ member)

theorem fileName_within (isName : IsName name) (directory : String) :
    fileName (within directory name) = name := by
  obtain ⟨beginning, same⟩ := exists_within directory name
  rw [same, fileName, Text.split_append isName.slashless,
    trimmed_append isName (Text.split_ne_nil beginning), List.getLastD_concat]

end Path

end GoAtlas
