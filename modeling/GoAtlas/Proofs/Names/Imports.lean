import GoAtlas.Go.Names
import GoAtlas.Proofs.Text.Paths
import Mathlib.Logic.ExistsUnique

/-!
The name of an import to which the source gives none. It comes from the last segment of the path, or
from the one before it if the last is a version, and a version at the end of that segment is no part
of it. So a package keeps its name in every way in which its versions are spelled. A mark of a
version counts also where the number is missing, and the name of a package that ends in one is
kept in one spelling only.
-/

namespace GoAtlas.Go

variable {path segment name number digits : String}

/-! ### Versions -/

/-- Nothing but decimal digits, if anything. -/
def AllDigits (digits : String) : Prop :=
  ∀ digit ∈ digits.toList, Text.isAsciiDigit digit = true

structure IsVersionNumber (number : String) : Prop where
  nonempty : number ≠ ""
  allDigits : AllDigits number

instance (number : String) : Decidable (IsVersionNumber number) :=
  decidable_of_iff (number ≠ "" ∧ number.toList.all Text.isAsciiDigit = true)
    ⟨fun ⟨nonempty, all⟩ => ⟨nonempty, List.all_eq_true.mp all⟩,
      fun ⟨nonempty, allDigits⟩ => ⟨nonempty, List.all_eq_true.mpr allDigits⟩⟩

/-- The segment says which version of a package is meant and nothing else. -/
def IsVersion (segment : String) : Prop :=
  ∃ number, IsVersionNumber number ∧ segment = "v" ++ number

/-- A name with the mark of a version, and with what stands behind the mark. -/
def versioned (name number : String) : String :=
  name ++ ".v" ++ number

/-- The segment ends in a version behind a name. -/
def EndsInVersion (segment : String) : Prop :=
  ∃ name number, name ≠ "" ∧ IsVersionNumber number ∧ segment = versioned name number

/-- The segment ends in the mark of a version behind a name, and no number follows. -/
def LacksNumber (segment : String) : Prop :=
  ∃ name, name ≠ "" ∧ segment = versioned name ""

theorem toList_version (number : String) : ("v" ++ number).toList = 'v' :: number.toList := by
  have mark : "v".toList = ['v'] := by decide
  simp [mark]

theorem toList_versioned (name number : String) :
    (versioned name number).toList = name.toList ++ '.' :: (['v'] ++ number.toList) := by
  have mark : ".v".toList = ['.', 'v'] := by decide
  simp [versioned, mark]

theorem AllDigits.not_mem {character : Char} (allDigits : AllDigits digits)
    (noDigit : Text.isAsciiDigit character = false) : character ∉ digits.toList := by
  intro member
  rw [allDigits character member] at noDigit
  cases noDigit

theorem slashless_versioned (slashless : '/' ∉ name.toList) (numbered : AllDigits number) :
    '/' ∉ (versioned name number).toList := by
  have inNumber : '/' ∉ number.toList := numbered.not_mem (by decide)
  simp [toList_versioned, slashless, inNumber]

theorem versioned_ne_empty (name number : String) : versioned name number ≠ "" := by
  intro same
  have lists := congrArg String.toList same
  simp [toList_versioned] at lists

theorem versioned_ne_self (name number : String) : versioned name number ≠ name := by
  intro same
  have lists := congrArg String.toList same
  simp [toList_versioned] at lists

theorem versioned_right_inj : versioned name number = versioned name digits ↔ number = digits :=
  String.append_right_inj (name ++ ".v")

theorem isMajorVersion_iff : isMajorVersion segment = true ↔ IsVersion segment := by
  unfold isMajorVersion
  constructor
  · intro checked
    split at checked
    · rename_i digits same
      rw [Bool.and_eq_true, Bool.not_eq_true', List.isEmpty_eq_false_iff, List.all_eq_true]
        at checked
      obtain ⟨filled, allDigits⟩ := checked
      refine ⟨String.ofList digits, ⟨?_, ?_⟩, String.toList_inj.mp ?_⟩
      · simpa [String.ext_iff] using filled
      · simpa [AllDigits] using allDigits
      · rw [toList_version, String.toList_ofList, same]
    · cases checked
  · rintro ⟨number, ⟨nonempty, allDigits⟩, rfl⟩
    have filled : number.toList ≠ [] := mt String.toList_eq_nil_iff.mp nonempty
    have all : number.toList.all Text.isAsciiDigit = true := List.all_eq_true.mpr allDigits
    rw [toList_version]
    simp [filled, all]

instance (segment : String) : Decidable (IsVersion segment) :=
  decidable_of_iff _ isMajorVersion_iff

/-- A dot is in no version that stands alone. -/
theorem not_isVersion_versioned (name number : String) : ¬IsVersion (versioned name number) := by
  rintro ⟨digits, numbered, same⟩
  have dotted : '.' ∈ (versioned name number).toList := by simp [toList_versioned]
  have dotless : '.' ∉ digits.toList := numbered.allDigits.not_mem (by decide)
  rw [same, toList_version] at dotted
  simp [dotless] at dotted

/-! ### The segment that names a package -/

/-- What a path says between its slashes. -/
def importSegments (path : String) : List String :=
  (Text.split '/' path).filter (· != "")

/-- The package of a path is named by the last segment, or by the one before if the last is a
version. -/
inductive NamedBy (path : String) : String → Prop where
  | last {before last} (segments : importSegments path = before ++ [last])
      (alone : before = [] ∨ ¬IsVersion last) : NamedBy path last
  | beforeVersion {before last version} (segments : importSegments path = before ++ [last, version])
      (isVersion : IsVersion version) : NamedBy path last

theorem slashless_of_mem_importSegments (member : segment ∈ importSegments path) :
    '/' ∉ segment.toList :=
  Text.slashless_of_mem_split (List.mem_filter.mp member).1

theorem importSegments_append (path : String) (nonempty : name ≠ "")
    (slashless : '/' ∉ name.toList) :
    importSegments (path ++ "/" ++ name) = importSegments path ++ [name] := by
  rw [importSegments, Text.split_append slashless, List.filter_append, importSegments]
  simp [nonempty]

theorem namingSegment_of_single (segments : importSegments path = [segment]) :
    namingSegment path = segment := by
  unfold importSegments at segments
  unfold namingSegment
  rw [segments]
  rfl

theorem namingSegment_of_append {before : List String} {last : String}
    (segments : importSegments path = before ++ [segment, last]) :
    namingSegment path = if IsVersion last then segment else last := by
  unfold importSegments at segments
  unfold namingSegment
  rw [segments]
  simp only [List.reverse_append, List.reverse_cons, List.reverse_nil, List.nil_append,
    List.cons_append, isMajorVersion_iff]

theorem NamedBy.mem_importSegments (named : NamedBy path segment) :
    segment ∈ importSegments path := by
  cases named with
  | last segments => simp [segments]
  | beforeVersion segments => simp [segments]

theorem NamedBy.namingSegment_eq (named : NamedBy path segment) : namingSegment path = segment := by
  cases named with
  | @last before _ segments alone =>
      rcases List.eq_nil_or_concat before with rfl | ⟨earlier, previous, rfl⟩
      · exact namingSegment_of_single segments
      · have noVersion : ¬IsVersion segment := alone.resolve_left (by simp)
        rw [namingSegment_of_append (by simpa using segments), if_neg noVersion]
  | beforeVersion segments isVersion =>
      rw [namingSegment_of_append segments, if_pos isVersion]

/-- A path that says anything is named by one of its segments. -/
theorem exists_namedBy (filled : importSegments path ≠ []) : ∃ segment, NamedBy path segment := by
  obtain ⟨before, last, segments⟩ := (List.eq_nil_or_concat _).resolve_left filled
  rw [List.concat_eq_append] at segments
  rcases List.eq_nil_or_concat before with rfl | ⟨earlier, previous, rfl⟩
  · exact ⟨last, .last segments (.inl rfl)⟩
  · by_cases isVersion : IsVersion last
    · exact ⟨previous, .beforeVersion (by simpa using segments) isVersion⟩
    · exact ⟨last, .last segments (.inr isVersion)⟩

theorem existsUnique_namedBy (filled : importSegments path ≠ []) :
    ∃! segment, NamedBy path segment := by
  obtain ⟨segment, named⟩ := exists_namedBy filled
  refine ⟨segment, named, fun other otherNamed => ?_⟩
  rw [← named.namingSegment_eq, otherNamed.namingSegment_eq]

/-! ### The name that a segment gives -/

/-- A version behind a name is no part of the name that a segment gives. -/
inductive GivesName (segment : String) : String → Prop where
  | cut {name number : String} (nonempty : name ≠ "") (numbered : IsVersionNumber number)
      (ends : segment = versioned name number) : GivesName segment name
  | whole (unversioned : ¬EndsInVersion segment) : GivesName segment segment

/-- The mark is sought from the end, and in digits there is none. -/
theorem withoutVersion_versioned (nonempty : name ≠ "") (allDigits : AllDigits digits) :
    withoutVersion (versioned name digits) = name := by
  have mark : ".v".toList = ['.', 'v'] := by decide
  have dotless : '.' ∉ ['v'] ++ digits.toList := by
    simpa using allDigits.not_mem (by decide)
  have cut := Text.splitLast?_append name.toList dotless
  rw [← toList_versioned] at cut
  have all : digits.toList.all Text.isAsciiDigit = true := List.all_eq_true.mpr allDigits
  simp [withoutVersion, Text.splitAtLast?, mark, cut, nonempty, all]

theorem withoutVersion_eq_self
    (unmarked : ∀ name digits, name ≠ "" → AllDigits digits → segment ≠ versioned name digits) :
    withoutVersion segment = segment := by
  unfold withoutVersion
  split
  · rename_i base version cut
    split
    · rename_i accepted
      obtain ⟨nonempty, all⟩ := Bool.and_eq_true_iff.mp accepted
      obtain ⟨⟨before, after⟩, found, same⟩ := Option.map_eq_some_iff.mp cut
      cases same
      have whole := Text.eq_append_of_splitLast? found
      refine absurd ?_ (unmarked _ _ (bne_iff_ne.mp nonempty) (List.all_eq_true.mp all))
      exact String.toList_inj.mp (by simp [versioned, whole])
    · rfl
  · rfl

/-- What is cut off a segment is a mark and the digits behind it, and it is not all of it. -/
theorem withoutVersion_cases (segment : String) :
    (∃ name digits, name ≠ "" ∧ AllDigits digits ∧ segment = versioned name digits ∧
      withoutVersion segment = name) ∨
    ((∀ name digits, name ≠ "" → AllDigits digits → segment ≠ versioned name digits) ∧
      withoutVersion segment = segment) := by
  by_cases marked : ∃ name digits, name ≠ "" ∧ AllDigits digits ∧ segment = versioned name digits
  · obtain ⟨name, digits, nonempty, allDigits, same⟩ := marked
    have cut := withoutVersion_versioned nonempty allDigits
    exact .inl ⟨name, digits, nonempty, allDigits, same, same ▸ cut⟩
  · have unmarked : ∀ name digits, name ≠ "" → AllDigits digits →
        segment ≠ versioned name digits := fun name digits nonempty allDigits same =>
      marked ⟨name, digits, nonempty, allDigits, same⟩
    exact .inr ⟨unmarked, withoutVersion_eq_self unmarked⟩

theorem toList_withoutVersion_subset (segment : String) :
    (withoutVersion segment).toList ⊆ segment.toList := by
  rcases withoutVersion_cases segment with ⟨name, digits, -, -, same, cut⟩ | ⟨-, whole⟩
  · rw [cut, same, toList_versioned]
    exact List.subset_append_left _ _
  · rw [whole]
    exact List.Subset.refl _

/-- Digits that follow a mark are a number, except where there are none. -/
theorem endsInVersion_or_lacksNumber (nonempty : name ≠ "") (allDigits : AllDigits digits) :
    EndsInVersion (versioned name digits) ∨ LacksNumber (versioned name digits) := by
  by_cases none : digits = ""
  · subst none
    exact .inr ⟨name, nonempty, rfl⟩
  · exact .inl ⟨name, digits, nonempty, ⟨none, allDigits⟩, rfl⟩

theorem GivesName.withoutVersion_eq (gives : GivesName segment name)
    (numbered : ¬LacksNumber segment) : withoutVersion segment = name := by
  cases gives with
  | cut nonempty isNumber ends =>
      rw [ends, withoutVersion_versioned nonempty isNumber.allDigits]
  | whole unversioned =>
      refine withoutVersion_eq_self fun name digits nonempty allDigits same => ?_
      subst same
      rcases endsInVersion_or_lacksNumber nonempty allDigits with ends | lacks
      · exact unversioned ends
      · exact numbered lacks

theorem exists_givesName (segment : String) : ∃ name, GivesName segment name := by
  by_cases ends : EndsInVersion segment
  · obtain ⟨name, number, nonempty, numbered, same⟩ := ends
    exact ⟨name, .cut nonempty numbered same⟩
  · exact ⟨segment, .whole ends⟩

theorem withoutVersion_eq_iff (numbered : ¬LacksNumber segment) :
    withoutVersion segment = name ↔ GivesName segment name := by
  constructor
  · rintro rfl
    obtain ⟨name, gives⟩ := exists_givesName segment
    rwa [gives.withoutVersion_eq numbered]
  · intro gives
    exact gives.withoutVersion_eq numbered

/-- Where the number is missing, the mark is cut off all the same. -/
theorem LacksNumber.eq_versioned (lacks : LacksNumber segment) :
    segment = versioned (withoutVersion segment) "" := by
  obtain ⟨name, nonempty, rfl⟩ := lacks
  have none : AllDigits "" := by simp [AllDigits]
  rw [withoutVersion_versioned nonempty none]

theorem EndsInVersion.not_lacksNumber (ends : EndsInVersion segment) : ¬LacksNumber segment := by
  intro lacks
  obtain ⟨name, number, nonempty, numbered, rfl⟩ := ends
  have same := lacks.eq_versioned
  rw [withoutVersion_versioned nonempty numbered.allDigits, versioned_right_inj] at same
  exact numbered.nonempty same

theorem lacksNumber_iff :
    LacksNumber segment ↔ segment = versioned (withoutVersion segment) "" := by
  refine ⟨LacksNumber.eq_versioned, fun same => ⟨withoutVersion segment, fun empty => ?_, same⟩⟩
  rw [empty] at same
  rw [same] at empty
  exact absurd empty (by decide)

instance (segment : String) : Decidable (LacksNumber segment) :=
  decidable_of_iff _ lacksNumber_iff.symm

theorem endsInVersion_iff :
    EndsInVersion segment ↔ withoutVersion segment ≠ segment ∧ ¬LacksNumber segment := by
  constructor
  · intro ends
    refine ⟨?_, ends.not_lacksNumber⟩
    obtain ⟨name, number, nonempty, numbered, rfl⟩ := ends
    rw [withoutVersion_versioned nonempty numbered.allDigits]
    exact (versioned_ne_self name number).symm
  · rintro ⟨shorter, numbered⟩
    rcases withoutVersion_cases segment with
      ⟨name, digits, nonempty, allDigits, rfl, -⟩ | ⟨-, whole⟩
    · exact (endsInVersion_or_lacksNumber nonempty allDigits).resolve_right numbered
    · exact absurd whole shorter

instance (segment : String) : Decidable (EndsInVersion segment) :=
  decidable_of_iff _ endsInVersion_iff.symm

theorem GivesName.endsInVersion (gives : GivesName segment name) (shorter : name ≠ segment) :
    EndsInVersion segment := by
  cases gives with
  | cut nonempty numbered ends => exact ⟨name, _, nonempty, numbered, ends⟩
  | whole => exact absurd rfl shorter

/-! ### The name of an import -/

theorem NamedBy.defaultImportName_eq (named : NamedBy path segment) :
    defaultImportName path = withoutVersion segment := by
  rw [defaultImportName, named.namingSegment_eq]

theorem NamedBy.slashless (named : NamedBy path segment) :
    '/' ∉ (defaultImportName path).toList := by
  intro member
  rw [named.defaultImportName_eq] at member
  exact slashless_of_mem_importSegments named.mem_importSegments
    (toList_withoutVersion_subset segment member)

/-- A segment that names a package and is no version, nor ends in one. -/
structure IsPackageName (name : String) : Prop where
  nonempty : name ≠ ""
  slashless : '/' ∉ name.toList
  notVersion : ¬IsVersion name
  unversioned : ¬EndsInVersion name

instance (name : String) : Decidable (IsPackageName name) :=
  decidable_of_iff (name ≠ "" ∧ '/' ∉ name.toList ∧ ¬IsVersion name ∧ ¬EndsInVersion name)
    ⟨fun ⟨nonempty, slashless, notVersion, unversioned⟩ =>
        ⟨nonempty, slashless, notVersion, unversioned⟩,
      fun ⟨nonempty, slashless, notVersion, unversioned⟩ =>
        ⟨nonempty, slashless, notVersion, unversioned⟩⟩

namespace IsPackageName

theorem namedBy (isName : IsPackageName name) (path : String) :
    NamedBy (path ++ "/" ++ name) name :=
  .last (importSegments_append path isName.nonempty isName.slashless) (.inr isName.notVersion)

theorem namedBy_directory (isName : IsPackageName name) (numbered : IsVersionNumber number)
    (path : String) : NamedBy (path ++ "/" ++ name ++ "/" ++ ("v" ++ number)) name := by
  have nonempty : "v" ++ number ≠ "" := by simp [String.ext_iff]
  have inNumber : '/' ∉ number.toList := numbered.allDigits.not_mem (by decide)
  have slashless : '/' ∉ ("v" ++ number).toList := by
    rw [toList_version]
    simp [inNumber]
  have segments := importSegments_append (path ++ "/" ++ name) nonempty slashless
  rw [importSegments_append path isName.nonempty isName.slashless, List.append_assoc,
    List.singleton_append] at segments
  exact .beforeVersion segments ⟨number, numbered, rfl⟩

theorem namedBy_versioned (isName : IsPackageName name) (numbered : IsVersionNumber number)
    (path : String) : NamedBy (path ++ "/" ++ versioned name number) (versioned name number) := by
  have slashless := slashless_versioned isName.slashless numbered.allDigits
  exact .last (importSegments_append path (versioned_ne_empty name number) slashless)
    (.inr (not_isVersion_versioned name number))

theorem withoutVersion_eq_self_iff (isName : IsPackageName name) :
    withoutVersion name = name ↔ ¬LacksNumber name := by
  constructor
  · intro whole lacks
    have same := lacks.eq_versioned
    rw [whole] at same
    exact versioned_ne_self name "" same.symm
  · exact (GivesName.whole isName.unversioned).withoutVersion_eq

end IsPackageName

/-- The name of an import is the one that its naming segment gives, and it holds no slash. Only a
segment that ends in a mark without a number gives what stands in front of the mark. Under versions
in segments of their own a package is called as it is without them, and under versions behind its
name it is called by its name. These agree exactly if the name does not end in such a mark. -/
theorem versions_defaultImportName (path : String) :
    (importSegments path ≠ [] → ∃! segment, NamedBy path segment) ∧
    (∀ segment, NamedBy path segment →
      '/' ∉ (defaultImportName path).toList ∧
      (¬LacksNumber segment → ∀ name, defaultImportName path = name ↔ GivesName segment name) ∧
      (LacksNumber segment → segment = versioned (defaultImportName path) "")) ∧
    ∀ name number, IsPackageName name → IsVersionNumber number →
      defaultImportName (path ++ "/" ++ name ++ "/" ++ ("v" ++ number)) =
        defaultImportName (path ++ "/" ++ name) ∧
      defaultImportName (path ++ "/" ++ versioned name number) = name ∧
      (defaultImportName (path ++ "/" ++ name) = name ↔ ¬LacksNumber name) := by
  refine ⟨existsUnique_namedBy, ?_, ?_⟩
  · intro segment named
    refine ⟨named.slashless, fun numbered name => ?_, fun lacks => ?_⟩
    · rw [named.defaultImportName_eq]
      exact withoutVersion_eq_iff numbered
    · rw [named.defaultImportName_eq]
      exact lacks.eq_versioned
  · intro name number isName numbered
    rw [(isName.namedBy_directory numbered path).defaultImportName_eq,
      (isName.namedBy path).defaultImportName_eq,
      (isName.namedBy_versioned numbered path).defaultImportName_eq]
    exact ⟨rfl, withoutVersion_versioned isName.nonempty numbered.allDigits,
      isName.withoutVersion_eq_self_iff⟩

theorem versions_defaultImportName_store :
    (∃! segment, NamedBy "gopkg.in//yaml.v3" segment) ∧
      NamedBy "gopkg.in//yaml.v3" "yaml.v3" ∧ ¬LacksNumber "yaml.v3" ∧
      defaultImportName "gopkg.in//yaml.v3" = "yaml" ∧
      NamedBy "a/b.v" "b.v" ∧ LacksNumber "b.v" ∧ "b.v" = versioned (defaultImportName "a/b.v") "" ∧
      IsPackageName "store" ∧ IsVersionNumber "12" ∧ ¬LacksNumber "store" ∧
      defaultImportName "example.com/store" = "store" ∧
      defaultImportName "example.com/store/v12" = "store" ∧
      defaultImportName "example.com/store.v12" = "store" := by
  have segments : importSegments "gopkg.in//yaml.v3" = ["gopkg.in"] ++ ["yaml.v3"] := by decide
  have named : NamedBy "gopkg.in//yaml.v3" "yaml.v3" := .last segments (.inr (by decide))
  have numbered : ¬LacksNumber "yaml.v3" := by decide
  have given : GivesName "yaml.v3" "yaml" :=
    .cut (by decide) (by decide : IsVersionNumber "3") (by decide)
  obtain ⟨existsUnique, gives, -⟩ := versions_defaultImportName "gopkg.in//yaml.v3"
  have markSegments : importSegments "a/b.v" = ["a"] ++ ["b.v"] := by decide
  have markNamed : NamedBy "a/b.v" "b.v" := .last markSegments (.inr (by decide))
  have lacks : LacksNumber "b.v" := by decide
  obtain ⟨-, givesFront, -⟩ := versions_defaultImportName "a/b.v"
  have isName : IsPackageName "store" := by decide
  have isNumber : IsVersionNumber "12" := by decide
  have plain : ¬LacksNumber "store" := by decide
  obtain ⟨-, -, spelled⟩ := versions_defaultImportName "example.com"
  obtain ⟨ownSegment, behind, alone⟩ := spelled "store" "12" isName isNumber
  have whole : defaultImportName "example.com/store" = "store" := alone.mpr plain
  exact ⟨existsUnique (by rw [segments]; decide), named, numbered,
    ((gives _ named).2.1 numbered "yaml").mpr given, markNamed, lacks,
    (givesFront _ markNamed).2.2 lacks, isName, isNumber, plain, whole, ownSegment.trans whole,
    behind⟩

/-- Not every import is called by what its segment gives: the number of a version can be missing. -/
theorem not_givesName_defaultImportName :
    ¬∀ path segment, NamedBy path segment → GivesName segment (defaultImportName path) := by
  intro law
  have segments : importSegments "a/b.v" = ["a"] ++ ["b.v"] := by decide
  have gives := law "a/b.v" "b.v" (.last segments (.inr (by decide)))
  have shorter : defaultImportName "a/b.v" ≠ "b.v" := by decide
  exact absurd (gives.endsInVersion shorter) (by decide)

end GoAtlas.Go
