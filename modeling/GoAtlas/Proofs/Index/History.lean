import GoAtlas.Proofs.Index.Tables
import GoAtlas.Proofs.Names.Index
import Mathlib.Data.List.Induction

/-!
An index as what its sources declare. Of symbols with one identifier the last declaration counts; a
package keeps the name and the directory of its first unit and lists every import where it was first
seen. Sources that cannot be read leave no trace.
-/

namespace GoAtlas

/-- A unit that was read, with the package and the directory under which it is entered. -/
structure EnteredUnit where
  packageId : String
  directory : String
  unit : Go.SourceUnit
  deriving DecidableEq, Repr

/-- The paths of imports from outside the standard library, as often as they are written. -/
def externalPaths (imports : List Go.Import) : List String :=
  (imports.map (·.path)).filter fun path => !Go.isStandardImport path

/-- What adding the source enters, if it can be read. -/
def Source.entered? (options : IndexOptions) (source : Source) : Option EnteredUnit :=
  let packageId := options.packageIds.packageId source.directory
  match Go.SourceUnit.read source.content packageId source.file with
  | .ok unit => some ⟨packageId, source.directory, unit⟩
  | .error _ => none

def enteredBy (options : IndexOptions) (sources : List Source) : List EnteredUnit :=
  sources.filterMap (·.entered? options)

/-- The package that the units of an identifier make up. -/
def declaredPackage? (id : String) (units : List EnteredUnit) : Option Package :=
  (units.find? (·.packageId == id)).map fun first =>
    { id
      name := first.unit.packageName
      directory := first.directory
      imports := ((units.filter (·.packageId == id)).flatMap fun entered =>
        externalPaths entered.unit.imports).eraseDups }

/-! ### First occurrences -/

theorem eraseDups_concat (paths : List String) (path : String) :
    (paths ++ [path]).eraseDups =
      if path ∈ paths then paths.eraseDups else paths.eraseDups ++ [path] := by
  rw [List.eraseDups_append]
  by_cases known : path ∈ paths <;> simp [List.removeAll, known, List.eraseDups_cons]

theorem nodup_eraseDups (paths : List String) : paths.eraseDups.Nodup := by
  induction paths using List.reverseRecOn with
  | nil => simp
  | append_singleton paths path inductionHypothesis =>
      rw [eraseDups_concat]
      split
      · exact inductionHypothesis
      · rename_i fresh
        rw [← List.concat_eq_append]
        exact inductionHypothesis.concat (by simpa using fresh)

theorem eraseDups_append_self (paths others : List String) :
    (paths ++ others ++ others).eraseDups = (paths ++ others).eraseDups := by
  rw [List.eraseDups_append]
  have nothingNew : others.removeAll (paths ++ others) = [] := by
    simp only [List.removeAll, List.filter_eq_nil_iff]
    intro path member
    simp [member]
  simp [nothingNew]

/-- Adding imports to those that are known continues the list of first occurrences. -/
theorem Index.addImports_eraseDups (paths : List String) (imports : List Go.Import) :
    addImports paths.eraseDups imports = (paths ++ externalPaths imports).eraseDups := by
  induction imports generalizing paths with
  | nil => simp [addImports, externalPaths]
  | cons first rest inductionHypothesis =>
      have continued := inductionHypothesis (paths ++ [first.path])
      rw [eraseDups_concat] at continued
      by_cases standard : Go.isStandardImport first.path = true
      · have unchanged := inductionHypothesis paths
        simpa [addImports, externalPaths, standard] using unchanged
      · by_cases known : first.path ∈ paths <;>
          simpa [addImports, externalPaths, standard, known] using continued

namespace Index

/-! ### What an index holds -/

def withUnit (index : Index) (entered : EnteredUnit) : Index :=
  index.addUnit entered.packageId entered.directory entered.unit

def ofUnits (units : List EnteredUnit) : Index :=
  units.foldl withUnit .empty

theorem ofUnits_concat (units : List EnteredUnit) (last : EnteredUnit) :
    ofUnits (units ++ [last]) = (ofUnits units).withUnit last := by
  simp [ofUnits]

variable {options : IndexOptions} {index next : Index} {source : Source} {entered : EnteredUnit}
  {units : List EnteredUnit}

/-- Whether a source can be added, and what it adds, depends on the source alone. -/
theorem addSource_eq (index : Index) (options : IndexOptions) (source : Source) :
    (∃ entered, source.entered? options = some entered ∧
      index.addSource options source.directory source.file source.content =
        .ok (index.withUnit entered)) ∨
      source.entered? options = none ∧ ∃ failure,
        index.addSource options source.directory source.file source.content = .error failure := by
  unfold addSource Source.entered?
  dsimp only
  cases Go.SourceUnit.read source.content (options.packageIds.packageId source.directory)
      source.file with
  | ok unit => exact .inl ⟨_, rfl, rfl⟩
  | error line => exact .inr ⟨rfl, _, rfl⟩

theorem withSource_of_entered (isEntered : source.entered? options = some entered) :
    index.withSource options source = index.withUnit entered := by
  unfold withSource
  rcases index.addSource_eq options source with ⟨own, isOwn, added⟩ | ⟨unread, -⟩
  · rw [isEntered] at isOwn
    cases isOwn
    rw [added]
  · rw [isEntered] at unread
    cases unread

theorem withSource_of_unread (unread : source.entered? options = none) :
    index.withSource options source = index := by
  unfold withSource
  rcases index.addSource_eq options source with ⟨own, isOwn, -⟩ | ⟨-, failure, failed⟩
  · rw [unread] at isOwn
    cases isOwn
  · rw [failed]

theorem ofSources_concat (options : IndexOptions) (sources : List Source) (source : Source) :
    ofSources options (sources ++ [source]) =
      (ofSources options sources).withSource options source := by
  simp [ofSources]

theorem ofSources_eq_ofUnits (options : IndexOptions) (sources : List Source) :
    ofSources options sources = ofUnits (enteredBy options sources) := by
  induction sources using List.reverseRecOn with
  | nil => rfl
  | append_singleton sources source inductionHypothesis =>
      rw [ofSources_concat, inductionHypothesis]
      cases isEntered : source.entered? options with
      | none => simp [enteredBy, isEntered, withSource_of_unread isEntered]
      | some entered =>
          simp [enteredBy, isEntered, withSource_of_entered isEntered, ofUnits_concat]

theorem buildable_ofUnits {options : IndexOptions} {sources : List Source}
    {units : List EnteredUnit} (entered : enteredBy options sources = units) :
    (ofUnits units).Buildable :=
  ⟨options, sources, by rw [ofSources_eq_ofUnits, entered]⟩

/-- The index holds what the units declare, and nothing else. -/
structure Holds (index : Index) (units : List EnteredUnit) : Prop where
  count : index.units = units.length
  types : ∀ id, index.types.get? id =
    lastWith? TypeSymbol.id id (units.flatMap (·.unit.types))
  functions : ∀ id, index.functions.get? id =
    lastWith? FunctionSymbol.id id (units.flatMap (·.unit.functions))
  methods : ∀ id, index.methods.get? id =
    lastWith? MethodSymbol.id id (units.flatMap (·.unit.methods))
  packages : ∀ id, index.packages.get? id = declaredPackage? id units

theorem holds_empty : empty.Holds [] where
  count := rfl
  types := fun _ => rfl
  functions := fun _ => rfl
  methods := fun _ => rfl
  packages := fun _ => rfl

theorem declaredPackage?_concat (units : List EnteredUnit) (last : EnteredUnit) (id : String) :
    declaredPackage? id (units ++ [last]) =
      if last.packageId = id then
        let package := (declaredPackage? id units).getD
          { id, name := last.unit.packageName, directory := last.directory, imports := [] }
        some { package with imports := addImports package.imports last.unit.imports }
      else declaredPackage? id units := by
  by_cases own : last.packageId = id
  · unfold declaredPackage?
    cases first : units.find? (·.packageId == id) with
    | none =>
        have noneBefore : units.filter (·.packageId == id) = [] := by
          simpa [List.filter_eq_nil_iff] using first
        have fromNothing := addImports_eraseDups [] last.unit.imports
        simp only [List.eraseDups_nil] at fromNothing
        simp [first, own, noneBefore, fromNothing]
    | some entered => simp [first, own, addImports_eraseDups]
  · unfold declaredPackage?
    simp [own]

theorem Holds.withUnit (holds : index.Holds units) (last : EnteredUnit) :
    (index.withUnit last).Holds (units ++ [last]) where
  count := by simp [Index.withUnit, addUnit, holds.count]
  types := by
    intro id
    simp [Index.withUnit, addUnit, lookup_insertAll, lastWith?_append, holds.types]
  functions := by
    intro id
    simp [Index.withUnit, addUnit, lookup_insertAll, lastWith?_append, holds.functions]
  methods := by
    intro id
    simp [Index.withUnit, addUnit, lookup_insertAll, lastWith?_append, holds.methods]
  packages := by
    intro id
    rw [declaredPackage?_concat]
    by_cases own : last.packageId = id
    · simp [Index.withUnit, addUnit, packageWith, own, holds.packages]
    · simp [Index.withUnit, addUnit, own, holds.packages]

theorem holds_ofUnits (units : List EnteredUnit) : (ofUnits units).Holds units := by
  induction units using List.reverseRecOn with
  | nil => exact holds_empty
  | append_singleton units last inductionHypothesis =>
      rw [ofUnits_concat]
      exact inductionHypothesis.withUnit last

theorem holds_ofSources (options : IndexOptions) (sources : List Source) :
    (ofSources options sources).Holds (enteredBy options sources) := by
  rw [ofSources_eq_ofUnits]
  exact holds_ofUnits _

structure SameSymbols (index other : Index) : Prop where
  types : other.types = index.types
  functions : other.functions = index.functions
  methods : other.methods = index.methods

theorem Holds.sameSymbols {other : Index} {others : List EnteredUnit} (holds : index.Holds units)
    (otherHolds : other.Holds others)
    (types : ∀ id, lastWith? TypeSymbol.id id (others.flatMap (·.unit.types)) =
      lastWith? TypeSymbol.id id (units.flatMap (·.unit.types)))
    (functions : ∀ id, lastWith? FunctionSymbol.id id (others.flatMap (·.unit.functions)) =
      lastWith? FunctionSymbol.id id (units.flatMap (·.unit.functions)))
    (methods : ∀ id, lastWith? MethodSymbol.id id (others.flatMap (·.unit.methods)) =
      lastWith? MethodSymbol.id id (units.flatMap (·.unit.methods))) :
    index.SameSymbols other where
  types := Table.eq_of_get? fun id => by rw [otherHolds.types, holds.types, types]
  functions := Table.eq_of_get? fun id => by rw [otherHolds.functions, holds.functions, functions]
  methods := Table.eq_of_get? fun id => by rw [otherHolds.methods, holds.methods, methods]

theorem eq_of_tables {other : Index} (packages : other.packages = index.packages)
    (symbols : index.SameSymbols other) (count : other.units = index.units) : other = index := by
  obtain ⟨types, functions, methods⟩ := symbols
  cases index
  cases other
  simp_all

/-! ### Repeating the last unit -/

theorem lastWith?_again {Value : Type} {id : Value → String} {key : String}
    (values others : List Value) :
    lastWith? id key (values ++ others ++ others) = lastWith? id key (values ++ others) := by
  simp only [lastWith?_append, ← Option.or_assoc, Option.or_self]

theorem declaredPackage?_again (units : List EnteredUnit) (last : EnteredUnit) (id : String) :
    declaredPackage? id (units ++ [last] ++ [last]) = declaredPackage? id (units ++ [last]) := by
  unfold declaredPackage?
  simp only [List.filter_append, List.flatMap_append, eraseDups_append_self]
  simp only [List.find?_append, Option.or_assoc, Option.or_self]

theorem withUnit_again (units : List EnteredUnit) (last : EnteredUnit) :
    (ofUnits (units ++ [last])).withUnit last =
      { ofUnits (units ++ [last]) with units := (ofUnits (units ++ [last])).units + 1 } := by
  have once := holds_ofUnits (units ++ [last])
  have twice := once.withUnit last
  have packages : ((ofUnits (units ++ [last])).withUnit last).packages =
      (ofUnits (units ++ [last])).packages :=
    Table.eq_of_get? fun id => by rw [twice.packages, once.packages, declaredPackage?_again]
  have symbols : (ofUnits (units ++ [last])).SameSymbols
      ((ofUnits (units ++ [last])).withUnit last) := by
    apply once.sameSymbols twice <;>
    · intro id
      simp only [List.flatMap_append, lastWith?_again]
  exact eq_of_tables packages ⟨symbols.types, symbols.functions, symbols.methods⟩ rfl

theorem enteredBy_eq_nil {sources : List Source}
    (unread : ∀ source ∈ sources, source.entered? options = none) :
    enteredBy options sources = [] :=
  List.filterMap_eq_nil_iff.mpr unread

/-- An index holds what the sources that can be read declare, in their order. A source that cannot
be read changes nothing, and the last one that could be read, if it is read again, changes nothing
but the count. -/
theorem history_ofSources (options : IndexOptions) (sources : List Source) :
    (ofSources options sources).Holds (enteredBy options sources) ∧
      (∀ (source : Source) (next : Index),
        (ofSources options sources).addSource options source.directory source.file
            source.content = .ok next →
          (source.entered? options).isSome = true ∧
            ofSources options (sources ++ [source]) = next) ∧
      (∀ (source : Source) (failure : IndexError),
        (ofSources options sources).addSource options source.directory source.file
            source.content = .error failure →
          source.entered? options = none ∧
            ofSources options (sources ++ [source]) = ofSources options sources) ∧
      ∀ (before : List Source) (source : Source) (after : List Source),
        sources = before ++ source :: after → (source.entered? options).isSome = true →
          (∀ later ∈ after, later.entered? options = none) →
            ofSources options (sources ++ [source]) =
              { ofSources options sources with
                units := (ofSources options sources).units + 1 } := by
  refine ⟨holds_ofSources options sources, ?_, ?_, ?_⟩
  · intro source next added
    rw [ofSources_concat]
    rcases (ofSources options sources).addSource_eq options source with
      ⟨entered, isEntered, own⟩ | ⟨-, failure, failed⟩
    · rw [own] at added
      cases added
      exact ⟨by simp [isEntered], withSource_of_entered isEntered⟩
    · rw [failed] at added
      cases added
  · intro source failure failed
    rw [ofSources_concat]
    rcases (ofSources options sources).addSource_eq options source with
      ⟨entered, -, added⟩ | ⟨unread, -⟩
    · rw [added] at failed
      cases failed
    · exact ⟨unread, withSource_of_unread unread⟩
  · rintro before source after rfl isEntered unread
    obtain ⟨last, isLast⟩ := Option.isSome_iff_exists.mp isEntered
    have entered : enteredBy options (before ++ source :: after) =
        enteredBy options before ++ [last] := by
      have nothingAfter := enteredBy_eq_nil unread
      unfold enteredBy at nothingAfter ⊢
      simp [isLast, nothingAfter]
    rw [ofSources_concat, withSource_of_entered isLast, ofSources_eq_ofUnits, entered,
      withUnit_again]

end Index

/-! ### A function declared twice -/

def firstDraft : Source where
  directory := "p"
  file := "a.go"
  content :=
    ("package p\nimport \"example.com/lib\"\n" ++
      "func A() \x7b\n\x7d\nfunc B() \x7b\n\x7d\n").toUTF8.toList

def firstDraftUnit : Go.SourceUnit where
  packageName := "p"
  imports := [⟨none, "example.com/lib"⟩]
  types := []
  functions := [⟨"A", "p", "a.go", 3, []⟩, ⟨"B", "p", "a.go", 5, []⟩]
  methods := []

/-- Declares a function of the first draft anew, for a package of another name. -/
def secondDraft : Source where
  directory := "./p"
  file := "b.go"
  content :=
    ("package q\nimport \"fmt\"\nimport \"example.com/other\"\nimport \"example.com/lib\"\n" ++
      "func A() \x7b\n\x7d\n").toUTF8.toList

def secondDraftUnit : Go.SourceUnit where
  packageName := "q"
  imports := [⟨none, "fmt"⟩, ⟨none, "example.com/other"⟩, ⟨none, "example.com/lib"⟩]
  types := []
  functions := [⟨"A", "p", "b.go", 5, []⟩]
  methods := []

def unfinishedDraft : Source where
  directory := "p"
  file := "c.go"
  content := "func (".toUTF8.toList

def drafts : List Source := [firstDraft, secondDraft, unfinishedDraft]

theorem entered_firstDraft :
    firstDraft.entered? .standard = some ⟨"p", "p", firstDraftUnit⟩ := by
  decide +kernel

theorem entered_secondDraft :
    secondDraft.entered? .standard = some ⟨"p", "./p", secondDraftUnit⟩ := by
  decide +kernel

theorem unread_unfinishedDraft : unfinishedDraft.entered? .standard = none := by
  decide +kernel

theorem enteredBy_drafts :
    enteredBy .standard drafts = [⟨"p", "p", firstDraftUnit⟩, ⟨"p", "./p", secondDraftUnit⟩] := by
  simp [enteredBy, drafts, entered_firstDraft, entered_secondDraft, unread_unfinishedDraft]

theorem Index.history_ofSources_drafts :
    (ofSources .standard drafts).units = 2 ∧
      (ofSources .standard drafts).packages.get? "p" =
        some ⟨"p", "p", "p", ["example.com/lib", "example.com/other"]⟩ ∧
      (ofSources .standard drafts).functions.get? "p.A" = some ⟨"A", "p", "b.go", 5, []⟩ ∧
      (ofSources .standard (drafts ++ [secondDraft])).functions =
        (ofSources .standard drafts).functions := by
  obtain ⟨holds, -, -, again⟩ := history_ofSources .standard drafts
  rw [enteredBy_drafts] at holds
  have repeated := again [firstDraft] secondDraft [unfinishedDraft] rfl
    (by simp [entered_secondDraft]) (by simp [unread_unfinishedDraft])
  have sameFunctions := congrArg Index.functions repeated
  refine ⟨holds.count, (holds.packages "p").trans ?_, (holds.functions "p.A").trans ?_,
    sameFunctions⟩
  · decide +kernel
  · decide +kernel

end GoAtlas
