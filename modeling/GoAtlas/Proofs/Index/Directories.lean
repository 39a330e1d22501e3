import GoAtlas.Indexing
import GoAtlas.Proofs.Index.Tables
import GoAtlas.Proofs.Text.PathParts

/-!
Indexing a directory. Its files are listed by the names that lead to them, in the order of those
names, and the index reads the units among them one by one, up to the first that fails.
-/

namespace GoAtlas

/-- A file by the names that lead to it, with its content or the reason why it cannot be read. -/
abbrev NamedFile := List String × Except String (List UInt8)

namespace FileTree

variable {tree : FileTree} {entries rest : List (String × FileTree)} {skipDirs names : List String}
  {name : String} {content : Except String (List UInt8)}

/-- A tree as disks have them: directories keep their entries in the order of the names. -/
inductive IsOrdered : FileTree → Prop
  | file (content : List UInt8) : IsOrdered (.file content)
  | unreadable (reason : String) : IsOrdered (.unreadable reason)
  | link (target : String) : IsOrdered (.link target)
  | directory {entries : List (String × FileTree)} (sorted : SortedByKey entries)
      (named : ∀ entry ∈ entries, Path.IsName entry.1)
      (inner : ∀ entry ∈ entries, IsOrdered entry.2) : IsOrdered (.directory entries)

theorem IsOrdered.single (isName : Path.IsName name) (inner : tree.IsOrdered) :
    (FileTree.directory [(name, tree)]).IsOrdered :=
  .directory (List.pairwise_singleton _ _) (by simpa using isName) (by simpa using inner)

/-- The file to which names lead, without following links. -/
def fileAt? (tree : FileTree) (names : List String) : Option (Except String (List UInt8)) :=
  match tree.at? names with
  | some (.file content) => some (.ok content)
  | some (.unreadable reason) => some (.error reason)
  | _ => none

/-- Names that lead to a file, not by way of a directory that is to be skipped. -/
structure Reaches (skipDirs : List String) (tree : FileTree) (names : List String)
    (content : Except String (List UInt8)) : Prop where
  file : tree.fileAt? names = some content
  entered : ∀ name ∈ names.dropLast, name ∉ skipDirs

theorem fileAt?_cons (tree : FileTree) (name : String) (names : List String) :
    tree.fileAt? (name :: names) =
      (lookupValue? name tree.entries).bind fun inner => inner.fileAt? names := by
  rw [fileAt?, at?]
  cases lookupValue? name tree.entries <;> rfl

theorem isDirectory_of_fileAt?_cons (found : tree.fileAt? (name :: names) = some content) :
    tree.isDirectory = true := by
  rw [fileAt?_cons] at found
  cases tree with
  | directory entries => rfl
  | _ => cases found

theorem not_reaches_nil : ¬(directory entries).Reaches skipDirs [] content := by
  rintro ⟨found, -⟩
  cases found

theorem reaches_cons_iff : (directory entries).Reaches skipDirs (name :: names) content ↔
    ∃ inner, lookupValue? name entries = some inner ∧
      (inner.isDirectory && skipDirs.contains name) = false ∧
        inner.Reaches skipDirs names content := by
  constructor
  · rintro ⟨found, entered⟩
    rw [fileAt?_cons] at found
    obtain ⟨inner, isInner, innerFound⟩ := Option.bind_eq_some_iff.mp found
    refine ⟨inner, isInner, ?_, innerFound, ?_⟩
    · cases names with
      | nil => cases inner <;> first | rfl | cases innerFound
      | cons next names =>
          have notSkipped : name ∉ skipDirs := entered name List.mem_cons_self
          simp [notSkipped]
    · intro other member
      cases names with
      | nil => cases member
      | cons next names => exact entered other (List.mem_cons_of_mem _ member)
  · rintro ⟨inner, isInner, notSkipped, innerFound, entered⟩
    refine ⟨?_, ?_⟩
    · rw [fileAt?_cons]
      exact Option.bind_eq_some_iff.mpr ⟨inner, isInner, innerFound⟩
    · cases names with
      | nil => simp
      | cons next names =>
          have isDirectory := isDirectory_of_fileAt?_cons innerFound
          intro other member
          rcases List.mem_cons.mp member with rfl | later
          · simpa [isDirectory] using notSkipped
          · exact entered other later

/-- The files that are reached, in the order of the names that lead to them. -/
structure Lists (skipDirs : List String) (tree : FileTree) (files : List NamedFile) : Prop where
  ordered : files.Pairwise fun earlier later => earlier.1 < later.1
  complete : ∀ file, file ∈ files ↔ tree.Reaches skipDirs file.1 file.2

theorem lists_leaf (isLeaf : tree.entries = []) :
    tree.Lists skipDirs ((tree.fileAt? []).toList.map fun content => ([], content)) := by
  constructor
  · cases tree.fileAt? [] <;> simp
  · rintro ⟨names, content⟩
    cases names with
    | nil =>
        constructor
        · intro member
          exact ⟨by simpa using member, by simp⟩
        · rintro ⟨found, -⟩
          simp [found]
    | cons name names =>
        constructor
        · intro member
          simp at member
        · rintro ⟨found, -⟩
          rw [fileAt?_cons, isLeaf] at found
          cases found

/-- What an entry of a directory adds to the files that are listed. -/
def filesOf (skipDirs : List String) (name : String) (tree : FileTree) (files : List NamedFile) :
    List NamedFile :=
  if tree.isDirectory && skipDirs.contains name then []
  else files.map fun file => (name :: file.1, file.2)

theorem Lists.mem_filesOf {files : List NamedFile} (inner : tree.Lists skipDirs files)
    {file : NamedFile} : file ∈ filesOf skipDirs name tree files ↔ ∃ names, file.1 = name :: names ∧
      (tree.isDirectory && skipDirs.contains name) = false ∧
        tree.Reaches skipDirs names file.2 := by
  unfold filesOf
  split
  · rename_i skipped
    rw [skipped]
    simp
  · rename_i entered
    rw [List.mem_map]
    constructor
    · rintro ⟨own, member, rfl⟩
      exact ⟨own.1, rfl, Bool.eq_false_iff.mpr entered, (inner.complete own).mp member⟩
    · rintro ⟨names, leads, -, reached⟩
      exact ⟨(names, file.2), (inner.complete (names, file.2)).mpr reached, Prod.ext leads.symm rfl⟩

/-- The files below the first entry come before those of the other entries. -/
theorem Lists.cons {files others : List NamedFile} (sorted : SortedByKey ((name, tree) :: rest))
    (inner : tree.Lists skipDirs files) (later : (directory rest).Lists skipDirs others) :
    (directory ((name, tree) :: rest)).Lists skipDirs
      (filesOf skipDirs name tree files ++ others) := by
  obtain ⟨isFirst, restSorted⟩ := List.pairwise_cons.mp sorted
  have isLater : ∀ {other found}, lookupValue? other rest = some found → name < other :=
    fun found => isFirst _ ((Table.lookupValue?_eq_some_iff restSorted).mp found)
  constructor
  -- the first names decide between entries, the names behind them within one
  · refine List.pairwise_append.mpr ⟨?_, later.ordered, ?_⟩
    · unfold filesOf
      split
      · exact List.Pairwise.nil
      · refine List.pairwise_map.mpr (inner.ordered.imp fun isBefore => ?_)
        exact List.cons_lt_cons_iff.mpr (.inr ⟨rfl, isBefore⟩)
    · intro file member other otherMember
      obtain ⟨names, leads, -⟩ := inner.mem_filesOf.mp member
      have reached := (later.complete other).mp otherMember
      cases otherNames : other.1 with
      | nil =>
          rw [otherNames] at reached
          exact absurd reached not_reaches_nil
      | cons otherName rest =>
          rw [otherNames] at reached
          obtain ⟨found, isFound, -⟩ := reaches_cons_iff.mp reached
          rw [leads]
          exact List.cons_lt_cons_iff.mpr (.inl (isLater isFound))
  · rintro ⟨names, content⟩
    rw [List.mem_append, inner.mem_filesOf, later.complete]
    cases names with
    | nil => simp [not_reaches_nil]
    | cons next names =>
        simp only [reaches_cons_iff, List.cons.injEq, lookupValue?]
        by_cases same : name = next
        · subst same
          rw [if_pos rfl]
          constructor
          · rintro (⟨_, ⟨-, rfl⟩, own⟩ | ⟨found, isFound, -⟩)
            · exact ⟨tree, rfl, own⟩
            · exact absurd (isLater isFound) (String.lt_irrefl name)
          · rintro ⟨_, ⟨⟩, own⟩
            exact .inl ⟨names, ⟨rfl, rfl⟩, own⟩
        · rw [if_neg same]
          constructor
          · rintro (⟨_, ⟨isName, -⟩, -⟩ | found)
            · exact absurd isName.symm same
            · exact found
          · exact .inr

end FileTree

/-! ### Walks -/

/-- A file by the path that leads to it from a root. -/
def NamedFile.below (root : String) (file : NamedFile) : WalkedFile :=
  ⟨Path.below root file.1, file.2⟩

namespace FileTree

variable {tree : FileTree} {entries : List (String × FileTree)} {skipDirs names : List String}
  {name : String} {content : Except String (List UInt8)}

/-- A walk meets the files that a list has, in the order of the list. -/
def IsWalked (skipDirs : List String) (tree : FileTree) (files : List NamedFile) : Prop :=
  ∀ path, filesBelow skipDirs path tree = files.map (NamedFile.below path)

theorem exists_walked_among (sorted : SortedByKey entries)
    (named : ∀ entry ∈ entries, Path.IsName entry.1)
    (each : ∀ entry ∈ entries, ∃ files, entry.2.Lists skipDirs files ∧
      entry.2.IsWalked skipDirs files) :
    ∃ files, (directory entries).Lists skipDirs files ∧
      (directory entries).IsWalked skipDirs files := by
  induction entries with
  | nil => exact ⟨[], lists_leaf rfl, fun _ => rfl⟩
  | cons first rest inductionHypothesis =>
      obtain ⟨⟨files, lists, walked⟩, eachLater⟩ := List.forall_mem_cons.mp each
      obtain ⟨isName, restNamed⟩ := List.forall_mem_cons.mp named
      obtain ⟨-, restSorted⟩ := List.pairwise_cons.mp sorted
      obtain ⟨others, otherLists, otherWalked⟩ := inductionHypothesis restSorted restNamed eachLater
      refine ⟨filesOf skipDirs first.1 first.2 files ++ others, lists.cons sorted otherLists, ?_⟩
      intro path
      have among : filesAmong skipDirs path rest = others.map (NamedFile.below path) :=
        otherWalked path
      rw [filesBelow, filesAmong, among, walked, filesOf, List.map_append]
      split <;> simp [NamedFile.below, Path.below_within isName]

theorem exists_walked (skipDirs : List String) (ordered : tree.IsOrdered) :
    ∃ files, tree.Lists skipDirs files ∧ tree.IsWalked skipDirs files := by
  induction ordered with
  | file content => exact ⟨_, lists_leaf rfl, fun _ => rfl⟩
  | unreadable reason => exact ⟨_, lists_leaf rfl, fun _ => rfl⟩
  | link target => exact ⟨_, lists_leaf rfl, fun _ => rfl⟩
  | directory sorted named _ inductionHypothesis =>
      exact exists_walked_among sorted named inductionHypothesis

/-- The names on the way to anything are names of entries. -/
theorem IsOrdered.isName_of_at? (ordered : tree.IsOrdered) {inner : FileTree}
    (found : tree.at? names = some inner) : ∀ name ∈ names, Path.IsName name := by
  induction names generalizing tree with
  | nil => simp
  | cons name names inductionHypothesis =>
      obtain ⟨next, isNext, nextFound⟩ := Option.bind_eq_some_iff.mp found
      cases ordered with
      | directory sorted named inner =>
          have member := (Table.lookupValue?_eq_some_iff sorted).mp isNext
          exact List.forall_mem_cons.mpr
            ⟨named _ member, inductionHypothesis (inner _ member) nextFound⟩
      | _ => cases isNext

theorem IsOrdered.isName (ordered : tree.IsOrdered) (found : tree.fileAt? names = some content) :
    ∀ name ∈ names, Path.IsName name := by
  unfold fileAt? at found
  split at found
  · exact ordered.isName_of_at? ‹_›
  · exact ordered.isName_of_at? ‹_›
  · cases found

end FileTree

/-! ### Units -/

/-- The names of units: something before `.go`, and not a test. -/
def Go.IsUnitName (name : String) : Prop :=
  (∃ stem, stem ≠ "" ∧ name = stem ++ ".go") ∧ ¬∃ stem, name = stem ++ "_test.go"

theorem Go.isPrimaryUnit_iff {name : String} : isPrimaryUnit name = true ↔ IsUnitName name := by
  rw [isPrimaryUnit, Bool.and_eq_true, Bool.and_eq_true, Bool.not_eq_true', bne_iff_ne,
    Text.endsWith_iff, ← Bool.not_eq_true, Text.endsWith_iff, IsUnitName]
  constructor
  · rintro ⟨⟨notTest, stem, rfl⟩, notBare⟩
    refine ⟨⟨stem, ?_, rfl⟩, notTest⟩
    rintro rfl
    exact notBare rfl
  · rintro ⟨⟨stem, filled, rfl⟩, notTest⟩
    refine ⟨⟨notTest, stem, rfl⟩, ?_⟩
    intro bare
    exact filled (by simpa using congrArg String.toList bare)

/-- What lies at the end of a path and is called like a unit has a proper name. -/
theorem Path.isName_of_isUnitName {path : String} (isUnit : Go.IsUnitName (fileName path)) :
    IsName (fileName path) := by
  obtain ⟨⟨stem, filled, same⟩, -⟩ := isUnit
  refine ⟨?_, ?_, slashless_fileName path⟩ <;> rw [same] <;> intro short <;>
    simpa using congrArg (·.toList.length) short

namespace FileTree

/-- The last of the names is one of a unit; where there are none, the last name of the root is. -/
inductive EndsInUnit (root : String) : List String → Prop
  | itself {directory name : String} (denotes : Path.Denotes root directory name)
      (isUnit : Go.IsUnitName name) : EndsInUnit root []
  | inside {before : List String} {name : String} (isUnit : Go.IsUnitName name) :
      EndsInUnit root (before ++ [name])

/-- The units under a root, by the names that lead to them. The root itself may be one. -/
structure ListsUnits (skipDirs : List String) (root : String) (tree : FileTree)
    (files : List NamedFile) : Prop where
  ordered : files.Pairwise fun earlier later => earlier.1 < later.1
  complete : ∀ file, file ∈ files ↔
    tree.Reaches skipDirs file.1 file.2 ∧ EndsInUnit root file.1

variable {tree : FileTree} {skipDirs names : List String} {root : String} {file : NamedFile}
  {files : List NamedFile}

theorem endsInUnit_iff :
    EndsInUnit root names ↔ Go.IsUnitName (names.getLastD (Path.fileName root)) := by
  constructor
  · rintro (⟨denotes, isUnit⟩ | ⟨isUnit⟩)
    · rwa [List.getLastD_nil, denotes.fileName]
    · rwa [List.getLastD_concat]
  · intro isUnit
    obtain rfl | ⟨before, name, rfl⟩ := List.eq_nil_or_concat' names
    · have isName := Path.isName_of_isUnitName isUnit
      exact .itself (Path.denotes_iff.mpr ⟨isName, rfl, rfl⟩) isUnit
    · rw [List.getLastD_concat] at isUnit
      exact .inside isUnit

theorem ListsUnits.unique {others : List NamedFile} (lists : tree.ListsUnits skipDirs root files)
    (otherLists : tree.ListsUnits skipDirs root others) : files = others :=
  eq_of_ordered (fun _ _ isBefore => List.lt_asymm isBefore) lists.ordered otherLists.ordered
    fun file => (lists.complete file).trans (otherLists.complete file).symm

theorem Lists.listsUnits (lists : tree.Lists skipDirs files) (root : String) :
    tree.ListsUnits skipDirs root
      (files.filter fun file => Go.isPrimaryUnit (file.1.getLastD (Path.fileName root))) := by
  refine ⟨lists.ordered.filter _, ?_⟩
  intro file
  rw [List.mem_filter, lists.complete, Go.isPrimaryUnit_iff, endsInUnit_iff]

theorem Reaches.fileName_below (reaches : tree.Reaches skipDirs file.1 file.2)
    (ordered : tree.IsOrdered) (root : String) :
    Path.fileName (file.below root).path = file.1.getLastD (Path.fileName root) := by
  exact Path.fileName_below (ordered.isName reaches.file) root

theorem ListsUnits.isName_below (lists : tree.ListsUnits skipDirs root files)
    (ordered : tree.IsOrdered) :
    ∀ walked ∈ files.map (NamedFile.below root), Path.IsName (Path.fileName walked.path) := by
  intro walked member
  obtain ⟨file, isFile, rfl⟩ := List.mem_map.mp member
  obtain ⟨reaches, ends⟩ := (lists.complete file).mp isFile
  apply Path.isName_of_isUnitName
  rw [reaches.fileName_below ordered]
  exact endsInUnit_iff.mp ends

theorem exists_listsUnits (skipDirs : List String) (ordered : tree.IsOrdered)
    (notDash : ¬Path.IsDash root) : ∃ files, tree.ListsUnits skipDirs root files ∧
      primaryUnits skipDirs root tree = files.map (NamedFile.below root) := by
  obtain ⟨files, lists, walked⟩ := exists_walked skipDirs ordered
  have sameName : ∀ file ∈ files, Go.isPrimaryUnit (Path.fileName (file.below root).path) =
      Go.isPrimaryUnit (file.1.getLastD (Path.fileName root)) := by
    intro file member
    rw [((lists.complete file).mp member).fileName_below ordered]
  refine ⟨_, lists.listsUnits root, ?_⟩
  rw [Path.isDash_iff] at notDash
  rw [primaryUnits, if_neg (mt beq_iff_eq.mp notDash), walked, List.filter_map]
  exact congrArg _ (List.filter_congr sameName)

end FileTree

/-! ### The files in turn -/

/-- The path as it is shown: with a slash for each backslash. -/
def Path.ShownAs (path shown : String) : Prop :=
  List.Forall₂ (fun written character =>
    written = '\\' ∧ character = '/' ∨ written ≠ '\\' ∧ character = written)
    path.toList shown.toList

theorem Path.shownAs_iff {path shown : String} : ShownAs path shown ↔ displayPath path = shown := by
  have shows (written character : Char) :
      (written = '\\' ∧ character = '/' ∨ written ≠ '\\' ∧ character = written) ↔
        (if written == '\\' then '/' else written) = character := by
    by_cases backslash : written = '\\' <;> simp [backslash, @eq_comm Char character]
  rw [ShownAs, displayPath, ← String.toList_inj, String.toList_ofList]
  simp only [shows]
  rw [← List.forall₂_map_left_iff, List.forall₂_eq_eq_eq]

namespace Index

variable {index : Index} {options : IndexOptions} {root : String}

/-- A file is read as a source of the directory in which it lies, under its path as it is shown, and
what it says is added. -/
inductive AddsFile (options : IndexOptions) (index : Index) :
    WalkedFile → Except IndexError Index → Prop
  | unreadable {path shown reason : String} (shows : Path.ShownAs path shown) :
      AddsFile options index ⟨path, .error reason⟩ (.error (.read shown reason))
  | source {path directory name shown : String} {content : List UInt8}
      (denotes : Path.Denotes path directory name) (shows : Path.ShownAs path shown) :
      AddsFile options index ⟨path, .ok content⟩ (index.addSource options directory shown content)

/-- The files are added in turn, up to the first that fails. -/
inductive AddsInTurn (options : IndexOptions) :
    Index → List WalkedFile → Index × Option IndexError → Prop
  | done {index : Index} : AddsInTurn options index [] (index, none)
  | added {index next : Index} {file : WalkedFile} {rest : List WalkedFile}
      {result : Index × Option IndexError} (adds : AddsFile options index file (.ok next))
      (later : AddsInTurn options next rest result) : AddsInTurn options index (file :: rest) result
  | failed {index : Index} {file : WalkedFile} {rest : List WalkedFile} {error : IndexError}
      (fails : AddsFile options index file (.error error)) :
      AddsInTurn options index (file :: rest) (index, some error)

theorem addsFile_iff {file : WalkedFile} {outcome : Except IndexError Index}
    (isName : Path.IsName (Path.fileName file.path)) :
    AddsFile options index file outcome ↔ index.addFile options file = outcome := by
  constructor
  · rintro (⟨shows⟩ | ⟨denotes, shows⟩)
    · rw [addFile, Path.shownAs_iff.mp shows]
    · rw [addFile, Path.shownAs_iff.mp shows, denotes.parent]
  · rintro rfl
    obtain ⟨path, content⟩ := file
    have shows : Path.ShownAs path (displayPath path) := Path.shownAs_iff.mpr rfl
    cases content with
    | error reason => exact .unreadable shows
    | ok source => exact .source (Path.denotes_iff.mpr ⟨isName, rfl, rfl⟩) shows

theorem addsInTurn_iff {files : List WalkedFile} {result : Index × Option IndexError}
    (named : ∀ file ∈ files, Path.IsName (Path.fileName file.path)) :
    AddsInTurn options index files result ↔ index.addFiles options files = result := by
  induction files generalizing index with
  | nil =>
      constructor
      · rintro ⟨⟩
        rfl
      · rintro rfl
        exact .done
  | cons file rest inductionHypothesis =>
      obtain ⟨isName, restNamed⟩ := List.forall_mem_cons.mp named
      have adds {outcome : Except IndexError Index} :
          AddsFile options index file outcome ↔ index.addFile options file = outcome :=
        addsFile_iff isName
      rw [addFiles]
      cases outcome : index.addFile options file with
      | error error =>
          constructor
          · intro inTurn
            cases inTurn with
            | added added later => cases outcome.symm.trans (adds.mp added)
            | failed fails =>
                cases outcome.symm.trans (adds.mp fails)
                rfl
          · rintro rfl
            exact .failed (adds.mpr outcome)
      | ok next =>
          constructor
          · intro inTurn
            cases inTurn with
            | added added later =>
                cases outcome.symm.trans (adds.mp added)
                exact (inductionHypothesis restNamed).mp later
            | failed fails => cases outcome.symm.trans (adds.mp fails)
          · intro later
            exact .added (adds.mpr outcome) ((inductionHypothesis restNamed).mpr later)

theorem addDirectory_of_found {lookup : PathLookup} {tree : FileTree}
    (found : lookup root = .ok tree) : index.addDirectory options lookup root =
      index.addFiles options (primaryUnits options.skipDirs root tree) := by
  rw [addDirectory, found]

theorem addDirectory_of_isDash {lookup : PathLookup} {tree : FileTree}
    (found : lookup root = .ok tree) (dash : Path.IsDash root) :
    index.addDirectory options lookup root = (index, none) := by
  rw [addDirectory_of_found found, primaryUnits,
    if_pos (beq_iff_eq.mpr (Path.isDash_iff.mp dash)), addFiles]

/-- A directory is indexed by adding its units in turn, unless its path stands for standard
input. -/
theorem addsInTurn_addDirectory (index : Index) (options : IndexOptions) (lookup : PathLookup)
    (root : String) :
    (∀ reason, lookup root = .error reason →
      index.addDirectory options lookup root = (index, some (.missingRoot root))) ∧
    ∀ tree, lookup root = .ok tree →
      (Path.IsDash root → index.addDirectory options lookup root = (index, none)) ∧
      (¬Path.IsDash root → tree.IsOrdered →
        (∃ files, tree.ListsUnits options.skipDirs root files) ∧
        ∀ files, tree.ListsUnits options.skipDirs root files →
          ∀ result, AddsInTurn options index (files.map (NamedFile.below root)) result ↔
            index.addDirectory options lookup root = result) := by
  refine ⟨?_, fun tree found => ⟨addDirectory_of_isDash found, ?_⟩⟩
  · intro reason missing
    rw [addDirectory, missing]
  · intro notDash ordered
    obtain ⟨files, lists, walked⟩ := FileTree.exists_listsUnits options.skipDirs ordered notDash
    refine ⟨⟨files, lists⟩, ?_⟩
    intro others otherLists result
    rw [addDirectory_of_found found, walked, lists.unique otherLists]
    exact addsInTurn_iff (otherLists.isName_below ordered)

/-- A unit, a test, a unit that cannot be read, a link, and a directory to be skipped. -/
def sourceTree : FileTree :=
  .directory
    [("a.go", .file "package p\n".toUTF8.toList), ("a_test.go", .file []),
      ("b.go", .unreadable "denied"), ("c.go", .link "a.go"),
      ("vendor", .directory [("v.go", .file [])])]

theorem isOrdered_sourceTree : sourceTree.IsOrdered := by
  have vendor : (FileTree.directory [("v.go", .file [])]).IsOrdered :=
    .single (by decide) (.file _)
  refine .directory ?_ (by decide) ?_
  · unfold SortedByKey
    decide
  · simpa [List.forall_mem_cons] using ⟨.file _, .file _, .unreadable _, .link _, vendor⟩

theorem addsInTurn_addDirectory_sourceTree :
    sourceTree.IsOrdered ∧ ¬Path.IsDash "src" ∧
      ∃ files result, sourceTree.ListsUnits IndexOptions.standard.skipDirs "src" files ∧
        AddsInTurn .standard .empty (files.map (NamedFile.below "src")) result ∧
        Index.empty.addDirectory .standard (fun _ => .ok sourceTree) "src" = result ∧
        result.1.units = 1 ∧ result.2 = some (.read "src/b.go" "denied") := by
  have notDash : ¬Path.IsDash "src" := by
    rw [Path.isDash_iff]
    decide +kernel
  obtain ⟨-, found⟩ :=
    addsInTurn_addDirectory .empty .standard (fun _ => .ok sourceTree) "src"
  obtain ⟨-, lists⟩ := found sourceTree rfl
  obtain ⟨⟨files, isList⟩, inTurn⟩ := lists notDash isOrdered_sourceTree
  exact ⟨isOrdered_sourceTree, notDash, files, _, isList, (inTurn files isList _).mpr rfl, rfl,
    by decide +kernel, by decide +kernel⟩

def dashSource : List UInt8 :=
  "package p\nfunc A() \x7b\n\x7d\n".toUTF8.toList

def dashTree : FileTree :=
  .directory [("a.go", .file dashSource)]

theorem isOrdered_dashTree : dashTree.IsOrdered :=
  .single (by decide) (.file _)

theorem listsUnits_dashTree : dashTree.ListsUnits IndexOptions.standard.skipDirs "-"
    [(["a.go"], .ok dashSource)] := by
  have lists : dashTree.Lists IndexOptions.standard.skipDirs [(["a.go"], .ok dashSource)] :=
    FileTree.Lists.cons (List.pairwise_singleton _ _) (FileTree.lists_leaf rfl)
      (FileTree.lists_leaf rfl)
  have isUnit : Go.isPrimaryUnit "a.go" = true := by decide
  simpa [isUnit] using lists.listsUnits "-"

/-- Units below a directory whose path stands for standard input are not indexed. -/
theorem not_indexed_dash :
    ¬∀ (index : Index) (options : IndexOptions) (lookup : PathLookup) (root : String)
      (tree : FileTree), lookup root = .ok tree → tree.IsOrdered →
        ∀ files, tree.ListsUnits options.skipDirs root files →
          AddsInTurn options index (files.map (NamedFile.below root))
            (index.addDirectory options lookup root) := by
  intro always
  have dash : Path.IsDash "-" := ⟨"", .empty, rfl⟩
  have inTurn := always .empty .standard (fun _ => .ok dashTree) "-" dashTree rfl
    isOrdered_dashTree _ listsUnits_dashTree
  rw [addDirectory_of_isDash rfl dash,
    addsInTurn_iff (listsUnits_dashTree.isName_below isOrdered_dashTree)] at inTurn
  have counted : (addFiles .empty .standard
      (([(["a.go"], .ok dashSource)] : List NamedFile).map (NamedFile.below "-"))).1.units = 1 := by
    decide +kernel
  rw [inTurn] at counted
  cases counted

end Index

end GoAtlas
