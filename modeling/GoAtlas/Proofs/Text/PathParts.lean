import GoAtlas.Proofs.Text.Paths
import Mathlib.Data.List.DropRight

/-!
The parts of a path, read off its text: the directory, the name in it, and the slashes and dots
around them that lead nowhere.
-/

namespace GoAtlas

namespace Text

/-- The pieces of a text are joined to the text again. -/
theorem join_split (text : String) : join "/" (split '/' text) = text := by
  suffices joined : ∀ characters : List Char,
      (join "/" ((pieces '/' characters).map String.ofList)).toList = characters from
    String.toList_inj.mp (joined text.toList)
  intro characters
  -- A character more begins a piece if it is a separator, and else stands at the first one.
  induction characters with
  | nil => simp [join]
  | cons character rest inductionHypothesis =>
      cases cut : pieces '/' rest with
      | nil => exact absurd cut (pieces_ne_nil '/' rest)
      | cons piece more =>
          rw [cut] at inductionHypothesis
          by_cases same : character = '/'
          · subst same
            rw [pieces_separator, cut, List.map_cons, List.map_cons, toList_join_cons,
              ← List.map_cons, inductionHypothesis]
            simp
          · simp only [pieces, same, if_false, cut, List.map_cons] at inductionHypothesis ⊢
            cases more with
            | nil => simpa [join] using inductionHypothesis
            | cons next others =>
                rw [List.map_cons, toList_join_cons] at inductionHypothesis ⊢
                rw [← inductionHypothesis]
                simp

theorem join_concat {parts : List String} (filled : parts ≠ []) (last : String) :
    join "/" (parts ++ [last]) = join "/" parts ++ "/" ++ last := by
  induction parts with
  | nil => exact absurd rfl filled
  | cons first rest inductionHypothesis =>
      apply String.toList_inj.mp
      cases rest with
      | nil => simp [join]
      | cons second more =>
          have joined : join "/" (second :: (more ++ [last])) =
              join "/" (second :: more) ++ "/" ++ last := inductionHypothesis (List.cons_ne_nil _ _)
          rw [List.cons_append, List.cons_append, toList_join_cons, joined]
          simp [toList_join_cons]

end Text

namespace Path

variable {name directory ending path text : String} {names pieces : List String}

/-- Slashes, and dots behind them: what leads nowhere in a path. -/
inductive IsIdle : String → Prop
  | empty : IsIdle ""
  | slash {rest : String} (idle : IsIdle rest) : IsIdle ("/" ++ rest)
  | dot {rest : String} (idle : IsIdle rest) : IsIdle ("/." ++ rest)

/-- There is something, and nothing at its end that leads nowhere. -/
structure IsTrim (text : String) : Prop where
  filled : text ≠ ""
  trim : ∀ {before ending}, IsIdle ending → text = before ++ ending → ending = ""

/-- The path leads to a name in a directory. A single name lies in the directory `""`, and `/` is
the directory of a name with nothing but slashes and dots before it. -/
inductive Denotes : String → String → String → Prop
  | alone {name ending : String} (isName : IsName name) (idle : IsIdle ending) :
      Denotes (name ++ ending) "" name
  | root {passed name ending : String} (passedIdle : IsIdle passed) (isName : IsName name)
      (idle : IsIdle ending) : Denotes (passed ++ "/" ++ name ++ ending) "/" name
  | inside {directory passed name ending : String} (isTrim : IsTrim directory)
      (passedIdle : IsIdle passed) (isName : IsName name) (idle : IsIdle ending) :
      Denotes (directory ++ passed ++ "/" ++ name ++ ending) directory name

/-- The paths that stand for standard input. -/
def IsDash (path : String) : Prop :=
  ∃ ending, IsIdle ending ∧ path = "-" ++ ending

/-! ### Slashes and dots at the end -/

theorem trimmed_concat_idle {piece : String} (idle : piece = "" ∨ piece = ".")
    (filled : pieces ≠ []) : trimmed (pieces ++ [piece]) = trimmed pieces := by
  cases pieces with
  | nil => exact absurd rfl filled
  | cons first rest =>
      exact congrArg (first :: ·) (List.rdropWhile_concat_pos _ rest piece (by simpa using idle))

theorem trimmed_split_idle (idle : IsIdle ending) (text : String) :
    trimmed (Text.split '/' (text ++ ending)) = trimmed (Text.split '/' text) := by
  induction idle generalizing text with
  | empty => rw [String.append_empty]
  | @slash rest _ inductionHypothesis =>
      have cut := Text.split_append (by decide : '/' ∉ "".toList) text
      have parts : text ++ ("/" ++ rest) = text ++ "/" ++ "" ++ rest :=
        String.toList_inj.mp (by simp)
      rw [parts, inductionHypothesis, cut, trimmed_concat_idle (.inl rfl) (Text.split_ne_nil text)]
  | @dot rest _ inductionHypothesis =>
      have cut := Text.split_append (by decide : '/' ∉ ".".toList) text
      have parts : text ++ ("/." ++ rest) = text ++ "/" ++ "." ++ rest :=
        String.toList_inj.mp (by simp)
      rw [parts, inductionHypothesis, cut, trimmed_concat_idle (.inr rfl) (Text.split_ne_nil text)]

theorem exists_idle_of_append {idle : List String} (filled : pieces ≠ [])
    (idles : ∀ piece ∈ idle, piece = "" ∨ piece = ".") :
    ∃ ending, IsIdle ending ∧ Text.join "/" (pieces ++ idle) = Text.join "/" pieces ++ ending := by
  induction idle generalizing pieces with
  | nil => exact ⟨"", .empty, by simp⟩
  | cons piece rest inductionHypothesis =>
      obtain ⟨isIdle, restIdle⟩ := List.forall_mem_cons.mp idles
      have nextFilled : pieces ++ [piece] ≠ [] := by simp
      obtain ⟨ending, endingIdle, joined⟩ := inductionHypothesis nextFilled restIdle
      rw [List.append_assoc, List.singleton_append, Text.join_concat filled] at joined
      rcases isIdle with rfl | rfl
      · exact ⟨"/" ++ ending, .slash endingIdle, joined.trans (String.toList_inj.mp (by simp))⟩
      · exact ⟨"/." ++ ending, .dot endingIdle, joined.trans (String.toList_inj.mp (by simp))⟩

/-- What is cut off the end of a path leads nowhere. -/
theorem exists_idle (filled : pieces ≠ []) : ∃ ending, IsIdle ending ∧
    Text.join "/" pieces = Text.join "/" (trimmed pieces) ++ ending := by
  cases pieces with
  | nil => exact absurd rfl filled
  | cons first rest =>
      have parts : trimmed (first :: rest) ++
          rest.rtakeWhile (fun piece => piece == "" || piece == ".") = first :: rest :=
        congrArg (first :: ·) List.rdropWhile_append_rtakeWhile
      have idles : ∀ piece ∈ rest.rtakeWhile (fun piece => piece == "" || piece == "."),
          piece = "" ∨ piece = "." :=
        fun piece member => by simpa using List.mem_rtakeWhile_imp member
      obtain ⟨ending, idle, joined⟩ := exists_idle_of_append (trimmed_ne_nil filled) idles
      rw [parts] at joined
      exact ⟨ending, idle, joined⟩

theorem IsTrim.join_trimmed (isTrim : IsTrim text) :
    Text.join "/" (trimmed (Text.split '/' text)) = text := by
  obtain ⟨ending, idle, joined⟩ := exists_idle (Text.split_ne_nil text)
  rw [Text.join_split] at joined
  rw [isTrim.trim idle joined, String.append_empty] at joined
  exact joined.symm

theorem isTrim_join {pieces : List String} (filled : pieces ≠ [])
    (slashless : ∀ piece ∈ pieces, '/' ∉ piece.toList) (isTrimmed : trimmed pieces = pieces)
    (notRoot : pieces ≠ [""]) : IsTrim (Text.join "/" pieces) where
  filled := by
    intro none
    have cut := Text.split_join filled slashless
    rw [none] at cut
    exact notRoot (cut.symm.trans (by decide))
  trim := by
    intro before ending idle parts
    have kept : trimmed (Text.split '/' before) = pieces := by
      rw [← trimmed_split_idle idle before, ← parts, Text.split_join filled slashless, isTrimmed]
    obtain ⟨passed, -, joined⟩ := exists_idle (Text.split_ne_nil before)
    -- The pieces are kept from what stands before the ending, so there is nothing more to it.
    rw [Text.join_split, kept] at joined
    rw [joined, String.append_assoc] at parts
    exact (String.append_eq_empty_iff.mp (String.append_eq_left_iff.mp parts.symm)).2

theorem trimmed_idem (pieces : List String) : trimmed (trimmed pieces) = trimmed pieces := by
  cases pieces with
  | nil => rfl
  | cons first rest => exact congrArg (first :: ·) (List.rdropWhile_idempotent _ rest)

/-! ### Directory and name -/

/-- The pieces of a path up to its name. -/
theorem trimmed_split_name (isName : IsName name) (idle : IsIdle ending) (before : String) :
    trimmed (Text.split '/' (before ++ "/" ++ name ++ ending)) =
      Text.split '/' before ++ [name] := by
  rw [trimmed_split_idle idle, Text.split_append isName.slashless,
    trimmed_append isName (Text.split_ne_nil before)]

theorem parent_of_root (isRoot : trimmed (trimmed (Text.split '/' path)).dropLast = [""]) :
    parent path = "/" := by
  rw [parent, isRoot]
  rfl

theorem parent_of_ne_root (isParent : trimmed (trimmed (Text.split '/' path)).dropLast = pieces)
    (notRoot : pieces ≠ [""]) : parent path = Text.join "/" pieces := by
  unfold parent
  rw [isParent]
  split
  · exact absurd rfl notRoot
  · rfl

theorem IsTrim.trimmed_ne_root (isTrim : IsTrim text) : trimmed (Text.split '/' text) ≠ [""] := by
  intro isRoot
  have joined := isTrim.join_trimmed
  rw [isRoot] at joined
  exact isTrim.filled joined.symm

theorem Denotes.isName (denotes : Denotes path directory name) : IsName name := by
  cases denotes <;> assumption

theorem Denotes.fileName (denotes : Denotes path directory name) : Path.fileName path = name := by
  cases denotes with
  | alone isName idle =>
      rw [Path.fileName, trimmed_split_idle idle, Text.split_of_absent isName.slashless]
      rfl
  | root passedIdle isName idle =>
      rw [Path.fileName, trimmed_split_name isName idle, List.getLastD_concat]
  | inside isTrim passedIdle isName idle =>
      rw [Path.fileName, trimmed_split_name isName idle, List.getLastD_concat]

theorem Denotes.parent (denotes : Denotes path directory name) : Path.parent path = directory := by
  cases denotes with
  | alone isName idle =>
      have notRoot : ([] : List String) ≠ [""] := nofun
      refine parent_of_ne_root ?_ notRoot
      rw [trimmed_split_idle idle, Text.split_of_absent isName.slashless]
      rfl
  | root passedIdle isName idle =>
      apply parent_of_root
      have nothing := trimmed_split_idle passedIdle ""
      rw [String.empty_append] at nothing
      rw [trimmed_split_name isName idle, List.dropLast_concat, nothing]
      decide
  | inside isTrim passedIdle isName idle =>
      rw [parent_of_ne_root ?_ isTrim.trimmed_ne_root, isTrim.join_trimmed]
      rw [trimmed_split_name isName idle, List.dropLast_concat, trimmed_split_idle passedIdle]

/-- A path with a name at its end leads to that name in some directory. -/
theorem exists_denotes (isName : IsName (Path.fileName path)) :
    ∃ directory, Denotes path directory (Path.fileName path) := by
  obtain ⟨ending, idle, joined⟩ := exists_idle (Text.split_ne_nil path)
  obtain none | ⟨front, name, pieces⟩ :=
    List.eq_nil_or_concat' (trimmed (Text.split '/' path))
  · exact absurd none (trimmed_ne_nil (Text.split_ne_nil path))
  have isLast : Path.fileName path = name := by
    rw [Path.fileName, pieces, List.getLastD_concat]
  rw [isLast] at isName ⊢
  rw [Text.join_split, pieces] at joined
  -- Before the name stands nothing, or nothing but slashes and dots, or a directory.
  cases filled : front with
  | nil =>
      have alone : path = name ++ ending := by simpa [filled, Text.join] using joined
      exact ⟨"", alone ▸ .alone isName idle⟩
  | cons first rest =>
      have frontFilled : front ≠ [] := filled ▸ List.cons_ne_nil first rest
      obtain ⟨passed, passedIdle, before⟩ := exists_idle frontFilled
      rw [Text.join_concat frontFilled, before] at joined
      by_cases isRoot : trimmed front = [""]
      · have root : path = passed ++ "/" ++ name ++ ending := by
          simpa [isRoot, Text.join] using joined
        exact ⟨"/", root ▸ .root passedIdle isName idle⟩
      · have isTrim : IsTrim (Text.join "/" (trimmed front)) := by
          refine isTrim_join (trimmed_ne_nil frontFilled) (fun piece member => ?_)
            (trimmed_idem front) isRoot
          have inPath : piece ∈ trimmed (Text.split '/' path) := by
            rw [pieces]
            exact List.mem_append_left _ (trimmed_subset front member)
          exact Text.slashless_of_mem_split (trimmed_subset _ inPath)
        exact ⟨_, joined.symm ▸ Denotes.inside isTrim passedIdle isName idle⟩

/-- The directory and the name of a path are the ones to which it leads. -/
theorem denotes_iff : Denotes path directory name ↔
    IsName name ∧ Path.fileName path = name ∧ Path.parent path = directory := by
  constructor
  · intro denotes
    exact ⟨denotes.isName, denotes.fileName, denotes.parent⟩
  · rintro ⟨isName, rfl, rfl⟩
    obtain ⟨directory, denotes⟩ := exists_denotes isName
    exact denotes.parent.symm ▸ denotes

/-- Files directly below the root of the file system lie in `/`. -/
example : parent "/./a.go" = "/" ∧ parent "x/./a.go" = "x" ∧ parent "a.go" = "" := by decide

theorem isDash_iff : IsDash path ↔ trimmed (Text.split '/' path) = ["-"] := by
  constructor
  · rintro ⟨ending, idle, rfl⟩
    rw [trimmed_split_idle idle]
    decide
  · intro dash
    obtain ⟨ending, idle, joined⟩ := exists_idle (Text.split_ne_nil path)
    rw [Text.join_split, dash] at joined
    exact ⟨ending, idle, joined⟩

/-! ### Names below a root -/

/-- The path to which names lead from a root. A slash stands before each of them, but where the root
ends in one. -/
def below (root : String) : List String → String
  | [] => root
  | first :: rest =>
      (if root.toList.getLast? = some '/' then root else root ++ "/") ++
        Text.join "/" (first :: rest)

theorem endsWith_slash_iff : Text.endsWith text "/" = true ↔ text.toList.getLast? = some '/' := by
  rw [Text.endsWith_iff, List.getLast?_eq_some_iff]
  constructor
  · rintro ⟨beginning, rfl⟩
    exact ⟨beginning.toList, by simp⟩
  · rintro ⟨beginning, ends⟩
    exact ⟨String.ofList beginning, String.toList_inj.mp (by simp [ends])⟩

theorem not_endsWith_slash (isName : IsName name) (before : String) :
    ¬Text.endsWith (before ++ name) "/" = true := by
  have filled : name.toList ≠ [] := by simpa using isName.nonempty
  rw [endsWith_slash_iff, String.toList_append, List.getLast?_append_of_ne_nil _ filled]
  intro ends
  exact isName.slashless (List.mem_of_getLast? ends)

/-- The first name can as well be part of the root. -/
theorem below_within (isName : IsName name) (root : String) (names : List String) :
    below (within root name) names = below root (name :: names) := by
  have first : within root name =
      (if root.toList.getLast? = some '/' then root else root ++ "/") ++ name := by
    simp only [within, endsWith_slash_iff]
    split <;> rfl
  cases names with
  | nil => simpa [below, Text.join] using first
  | cons second rest =>
      have slashed := not_endsWith_slash isName
        (if root.toList.getLast? = some '/' then root else root ++ "/")
      rw [← first, endsWith_slash_iff] at slashed
      rw [below, below, if_neg slashed, first]
      apply String.toList_inj.mp
      simp [Text.toList_join_cons]

theorem foldl_within (named : ∀ name ∈ names, IsName name) (root : String) :
    names.foldl within root = below root names := by
  induction names generalizing root with
  | nil => rfl
  | cons first rest inductionHypothesis =>
      obtain ⟨isName, restNamed⟩ := List.forall_mem_cons.mp named
      rw [List.foldl_cons, inductionHypothesis restNamed, below_within isName]

theorem fileName_below (named : ∀ name ∈ names, IsName name) (root : String) :
    fileName (below root names) = names.getLastD (fileName root) := by
  rw [← foldl_within named]
  obtain rfl | ⟨before, last, rfl⟩ := List.eq_nil_or_concat' names
  · rfl
  · rw [List.foldl_append, List.foldl_cons, List.foldl_nil, fileName_within (named last (by simp)),
      List.getLastD_concat]

end Path

end GoAtlas
