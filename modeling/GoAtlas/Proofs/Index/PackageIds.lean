import GoAtlas.Proofs.Index.Directories

/-!
Identifiers of packages as names of directories. Segments hold no slash and are joined with slashes,
so an identifier can be taken apart again: two directories share one exactly if the segments that it
keeps agree, and two directories below one root only if segments are cut off.
-/

namespace GoAtlas

namespace PackageIds

variable {directory name : String} {names : List String}

/-! ### Segments -/

/-- What stands between the slashes of a path and leads somewhere. -/
theorem mem_segments_iff {segment : String} : segment ∈ segments directory ↔
    segment ∈ Text.split '/' directory ∧ segment ≠ "" ∧ segment ≠ "." := by
  simp [segments]

theorem slashless_of_mem_segments {segment : String} (member : segment ∈ segments directory) :
    '/' ∉ segment.toList :=
  Text.slashless_of_mem_split (mem_segments_iff.mp member).1

/-- A name that is put behind the path of a directory is one more segment. -/
theorem segments_within (isName : Path.IsName name) (directory : String) :
    segments (Path.within directory name) = segments directory ++ [name] := by
  have kept : ([name] : List String).filter (fun segment => segment != "" && segment != ".") =
      [name] := by
    simp [isName.nonempty, isName.notDot]
  unfold Path.within segments
  split
  · rename_i ends
    obtain ⟨beginning, rfl⟩ := Text.endsWith_iff.mp ends
    have slash : Text.split '/' (beginning ++ "/") = Text.split '/' beginning ++ [""] := by
      simpa using Text.split_append (by decide : '/' ∉ "".toList) beginning
    rw [Text.split_append isName.slashless, slash, List.filter_append, List.filter_append, kept]
    simp
  · rw [Text.split_append isName.slashless, List.filter_append, kept]

/-- Segments stand in the order of the pieces of which a path is made. -/
theorem segments_join {pieces : List String} (filled : pieces ≠ [])
    (slashless : ∀ piece ∈ pieces, '/' ∉ piece.toList) :
    segments (Text.join "/" pieces) = pieces.filter fun piece => piece != "" && piece != "." := by
  rw [segments, Text.split_join filled slashless]

theorem segments_foldl_within (named : ∀ name ∈ names, Path.IsName name) (root : String) :
    segments (names.foldl Path.within root) = segments root ++ names := by
  induction names generalizing root with
  | nil => simp
  | cons first rest inductionHypothesis =>
      obtain ⟨firstNamed, restNamed⟩ := List.forall_mem_cons.mp named
      rw [List.foldl_cons, inductionHypothesis restNamed, segments_within firstNamed,
        List.append_assoc, List.singleton_append]

/-- The directory in which a path lies has the segments of the directory behind which its last name
was put. -/
theorem segments_parent_within (isName : Path.IsName name) (directory : String) :
    segments (Path.parent (Path.within directory name)) = segments directory := by
  obtain ⟨beginning, same⟩ := Path.exists_within directory name
  have cut := Text.split_append isName.slashless beginning
  have filled := Text.split_ne_nil beginning
  have sameSegments : segments beginning = segments directory := by
    have behind := segments_within isName directory
    rw [same, segments, cut, List.filter_append,
      List.filter_cons_of_pos (by simp [isName.nonempty, isName.notDot])] at behind
    exact List.append_cancel_right behind
  have parent : Path.trimmed (Path.trimmed (Text.split '/' (Path.within directory name))).dropLast =
      Path.trimmed (Text.split '/' beginning) := by
    rw [same, cut, Path.trimmed_append isName filled, List.dropLast_concat]
  have kept := Path.filter_trimmed (Text.split '/' beginning)
  rw [← sameSegments]
  by_cases isRoot : Path.trimmed (Text.split '/' beginning) = [""]
  · rw [isRoot] at kept
    rw [Path.parent_of_root (parent.trans isRoot), segments, segments, ← kept]
    decide
  · rw [Path.parent_of_ne_root parent isRoot, segments_join (Path.trimmed_ne_nil filled), kept,
      segments]
    intro piece member
    exact Text.slashless_of_mem_split (Path.trimmed_subset _ member)

/-! ### Identifiers -/

/-- The last elements, so many or as many as there are. -/
def lastSegments (count : Nat) (names : List String) : List String :=
  names.drop (names.length - min count names.length)

theorem kept_ofDepth (depth : Nat) (names : List String) :
    (ofDepth depth).kept names = if depth = 0 then names else lastSegments depth names := by
  cases depth with
  | zero => rfl
  | succ depth =>
      rw [if_neg (Nat.succ_ne_zero depth), lastSegments, ofDepth, kept]
      congr 1
      omega

theorem kept_subset (scheme : PackageIds) (names : List String) : scheme.kept names ⊆ names := by
  cases scheme with
  | full => exact List.Subset.refl _
  | truncated count => exact List.drop_subset _ _

/-- A depth never cuts all segments off. -/
theorem kept_ofDepth_eq_nil_iff {depth : Nat} : (ofDepth depth).kept names = [] ↔ names = [] := by
  cases depth with
  | zero => rfl
  | succ depth =>
      rw [ofDepth, kept, List.drop_eq_nil_iff, ← List.length_eq_zero_iff]
      omega

theorem packageId_eq (scheme : PackageIds) (directory : String) : scheme.packageId directory =
    if segments directory = [] then "." else Text.join "/" (scheme.kept (segments directory)) := by
  unfold packageId
  split
  · rename_i none
    rw [if_pos none]
  · rename_i some
    rw [if_neg some]

/-- The pieces of an identifier are the segments it keeps, and a dot if there are none. -/
theorem split_packageId (depth : Nat) (directory : String) :
    Text.split '/' ((ofDepth depth).packageId directory) =
      if segments directory = [] then ["."] else (ofDepth depth).kept (segments directory) := by
  rw [packageId_eq]
  split
  · decide
  · rename_i some
    refine Text.split_join (mt kept_ofDepth_eq_nil_iff.mp some) fun segment member => ?_
    exact slashless_of_mem_segments (kept_subset _ _ member)

theorem dot_not_mem_kept (scheme : PackageIds) (directory : String) :
    "." ∉ scheme.kept (segments directory) :=
  fun member => (mem_segments_iff.mp (kept_subset _ _ member)).2.2 rfl

/-- No directory has the identifier that stands for no segments, unless it has none. -/
theorem packageId_eq_dot_iff {depth : Nat} :
    (ofDepth depth).packageId directory = "." ↔ segments directory = [] := by
  constructor
  · intro same
    by_contra some
    have cut := split_packageId depth directory
    rw [if_neg some, same] at cut
    refine dot_not_mem_kept (ofDepth depth) directory ?_
    rw [← cut]
    decide
  · intro none
    rw [packageId_eq, if_pos none]

theorem packageId_ne_empty (depth : Nat) (directory : String) :
    (ofDepth depth).packageId directory ≠ "" := by
  intro same
  have cut := split_packageId depth directory
  rw [same] at cut
  have empty : Text.split '/' "" = [""] := by decide
  rw [empty] at cut
  split at cut
  · exact absurd cut (by decide)
  · have member : "" ∈ segments directory :=
      kept_subset _ _ (cut ▸ List.mem_singleton_self "")
    exact (mem_segments_iff.mp member).2.1 rfl

/-- Identifiers agree exactly if they keep the same segments. -/
theorem packageId_eq_iff_kept (depth : Nat) {first second : String} :
    (ofDepth depth).packageId first = (ofDepth depth).packageId second ↔
      (ofDepth depth).kept (segments first) = (ofDepth depth).kept (segments second) := by
  constructor
  · intro same
    by_cases none : segments first = []
    · have otherNone := packageId_eq_dot_iff.mp (same ▸ packageId_eq_dot_iff.mpr none)
      rw [none, otherNone]
    · have otherSome : segments second ≠ [] := fun otherNone =>
        none (packageId_eq_dot_iff.mp (same ▸ packageId_eq_dot_iff.mpr otherNone))
      have cut := congrArg (Text.split '/') same
      rwa [split_packageId, split_packageId, if_neg none, if_neg otherSome] at cut
  · intro same
    have noneKept : ∀ directory, (ofDepth depth).kept (segments directory) = [] ↔
        segments directory = [] := fun _ => kept_ofDepth_eq_nil_iff
    have sameNone : segments first = [] ↔ segments second = [] := by
      rw [← noneKept, same, noneKept]
    rw [packageId_eq, packageId_eq, same]
    exact if_congr sameNone rfl rfl

end PackageIds

/-! ### Directories below a root -/

namespace FileTree

variable {tree : FileTree} {skipDirs names others : List String} {name root : String}
  {content : Except String (List UInt8)}

/-- Names that lead to a directory which a walk visits: none on the way is to be skipped. -/
structure Visits (skipDirs : List String) (tree : FileTree) (names : List String) : Prop where
  directory : ∃ entries, tree.at? names = some (.directory entries)
  entered : ∀ name ∈ names, name ∉ skipDirs

theorem Visits.isName (visits : tree.Visits skipDirs names) (ordered : tree.IsOrdered) :
    ∀ name ∈ names, Path.IsName name := by
  obtain ⟨entries, found⟩ := visits.directory
  exact ordered.isName_of_at? found

end FileTree

namespace PackageIds

variable {tree : FileTree} {skipDirs names others : List String} {name root : String}
  {content : Except String (List UInt8)}

/-- No two directories that a walk visits below a root have one identifier, and the files of a
directory are read under the identifier of that directory. -/
structure Separates (scheme : PackageIds) (skipDirs : List String) (root : String)
    (tree : FileTree) : Prop where
  directories : ∀ {names others}, tree.Visits skipDirs names → tree.Visits skipDirs others →
    names ≠ others → scheme.packageId (names.foldl Path.within root) ≠
      scheme.packageId (others.foldl Path.within root)
  files : ∀ {names name content}, tree.Reaches skipDirs (names ++ [name]) content →
    scheme.packageId (Path.parent ((names ++ [name]).foldl Path.within root)) =
      scheme.packageId (names.foldl Path.within root)

theorem packageId_congr (scheme : PackageIds) {first second : String}
    (same : segments first = segments second) :
    scheme.packageId first = scheme.packageId second := by
  rw [packageId_eq, packageId_eq, same]

theorem separates_full (skipDirs : List String) (root : String) (ordered : tree.IsOrdered) :
    full.Separates skipDirs root tree where
  directories := by
    intro names others visits otherVisits different same
    have sameSegments := (packageId_eq_iff_kept 0).mp same
    rw [kept_ofDepth, kept_ofDepth, if_pos rfl, if_pos rfl,
      segments_foldl_within (visits.isName ordered),
      segments_foldl_within (otherVisits.isName ordered)] at sameSegments
    exact different (List.append_cancel_left sameSegments)
  files := by
    intro names name content reaches
    have isName : Path.IsName name := ordered.isName reaches.file name (by simp)
    apply packageId_congr
    rw [List.foldl_append]
    exact segments_parent_within isName _

/-- Segments are the pieces of a path that lead somewhere, in their order, and names below a root
are further segments. Under every depth, two directories have one identifier exactly if the segments
that the depth keeps agree. An identifier is a dot where there are no segments, and is never empty.
Where every segment is kept, the directories below a root are told apart. -/
theorem identifies_segments (depth : Nat) :
    (∀ pieces, pieces ≠ [] → (∀ piece ∈ pieces, '/' ∉ piece.toList) →
      segments (Text.join "/" pieces) = pieces.filter fun piece => piece != "" && piece != ".") ∧
    (∀ root names, (∀ name ∈ names, Path.IsName name) →
      segments (Path.below root names) = segments root ++ names) ∧
    (∀ first second, (ofDepth depth).packageId first = (ofDepth depth).packageId second ↔
      if depth = 0 then segments first = segments second
      else lastSegments depth (segments first) = lastSegments depth (segments second)) ∧
    (∀ directory, (ofDepth depth).packageId directory ≠ "" ∧
      ((ofDepth depth).packageId directory = "." ↔ segments directory = [])) ∧
    ∀ (skipDirs : List String) (root : String) (tree : FileTree), tree.IsOrdered →
      (ofDepth 0).Separates skipDirs root tree := by
  refine ⟨fun pieces => segments_join, fun root names named => ?_, fun first second => ?_,
    fun directory => ?_, fun skipDirs root tree ordered => ?_⟩
  · rw [← Path.foldl_within named, segments_foldl_within named]
  · rw [packageId_eq_iff_kept, kept_ofDepth, kept_ofDepth]
    split <;> rfl
  · exact ⟨packageId_ne_empty depth directory, packageId_eq_dot_iff⟩
  · exact separates_full skipDirs root ordered

/-- Two directories that are called alike. -/
def twinTree : FileTree :=
  .directory
    [("app", .directory [("store", .directory [("a.go", .file [])])]),
      ("lib", .directory [("store", .directory [])])]

theorem isOrdered_twinTree : twinTree.IsOrdered := by
  have inner : (FileTree.directory [("a.go", .file [])]).IsOrdered :=
    .single (by decide) (.file _)
  have empty : (FileTree.directory []).IsOrdered := .directory List.Pairwise.nil (by simp) (by simp)
  refine .directory ?_ (by decide) ?_
  · unfold SortedByKey
    decide
  · simpa [List.forall_mem_cons] using
      ⟨.single (by decide) inner, .single (by decide) empty⟩

theorem identifies_segments_twins :
    twinTree.IsOrdered ∧ twinTree.Visits ["vendor"] ["app", "store"] ∧
      twinTree.Visits ["vendor"] ["lib", "store"] ∧
      segments "src/./app//store" = ["src", "app", "store"] ∧
      segments (Path.below "src" ["app", "store"]) = ["src", "app", "store"] ∧
      (ofDepth 0).packageId "src/app/store" ≠ (ofDepth 0).packageId "src/lib/store" ∧
      (ofDepth 1).packageId "src/app/store" = (ofDepth 1).packageId "src/lib/store" := by
  have first : twinTree.Visits ["vendor"] ["app", "store"] :=
    ⟨⟨[("a.go", .file [])], rfl⟩, by decide⟩
  have second : twinTree.Visits ["vendor"] ["lib", "store"] := ⟨⟨[], rfl⟩, by decide⟩
  obtain ⟨inOrder, further, -, -, separates⟩ := identifies_segments 0
  obtain ⟨-, -, agree, -, -⟩ := identifies_segments 1
  have apart := separates ["vendor"] "src" twinTree isOrdered_twinTree
  refine ⟨isOrdered_twinTree, first, second, ?_, ?_, ?_, (agree _ _).mpr (by decide)⟩
  · exact inOrder ["src", ".", "app", "", "store"] (List.cons_ne_nil _ _) (by decide)
  · exact further "src" ["app", "store"] (by decide)
  · have different := apart.directories first second (by decide)
    have firstPath : ["app", "store"].foldl Path.within "src" = "src/app/store" := by decide
    have secondPath : ["lib", "store"].foldl Path.within "src" = "src/lib/store" := by decide
    rwa [firstPath, secondPath] at different

end PackageIds

end GoAtlas
