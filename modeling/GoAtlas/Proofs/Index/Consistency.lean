import GoAtlas.Proofs.Index.Declarations
import GoAtlas.Proofs.Index.History
import GoAtlas.Proofs.Index.Registration

/-!
The invariant of an index. Whatever sources and directories are added to it, in whatever order and
with whatever failures, every symbol stands under its own identifier beside its package, types have
only what their kinds can have, and every method that an interface declares can be looked up.
-/

namespace GoAtlas

namespace Index

variable {index : Index} {options : IndexOptions} {packageId directory : String}
  {unit : Go.SourceUnit}

/-! ### Packages -/

structure KeepsPackages (index : Index) : Prop where
  own : ∀ {id package}, index.packages.get? id = some package → package.id = id
  distinct : ∀ {id package}, index.packages.get? id = some package → package.imports.Nodup
  external : ∀ {id package}, index.packages.get? id = some package →
    ∀ path ∈ package.imports, Go.isStandardImport path = false

theorem Holds.keepsPackages {units : List EnteredUnit} (holds : index.Holds units) :
    index.KeepsPackages := by
  constructor <;> intro id package found <;> rw [holds.packages] at found <;>
    obtain ⟨first, -, rfl⟩ := Option.map_eq_some_iff.mp found
  · rfl
  · exact nodup_eraseDups _
  · intro path member
    obtain ⟨entered, -, imported⟩ := List.mem_flatMap.mp (List.mem_eraseDups.mp member)
    simpa using (List.mem_filter.mp imported).2

theorem Buildable.keepsPackages (built : index.Buildable) : index.KeepsPackages := by
  obtain ⟨options, sources, rfl⟩ := built
  exact (holds_ofSources options sources).keepsPackages

/-! ### Types and their methods -/

structure Dispatches (index : Index) : Prop where
  wellFormed : ∀ {id type}, index.types.get? id = some type → type.WellFormed
  declared : ∀ {id type}, index.types.get? id = some type →
    ∀ name ∈ type.methods, index.methods.contains (memberId type.id name) = true

theorem dispatches_empty : empty.Dispatches := by
  constructor <;> intro id type found <;> cases found

theorem Dispatches.addUnit (dispatches : index.Dispatches) (coherent : unit.Coherent) :
    (index.addUnit packageId directory unit).Dispatches := by
  -- a later declaration may replace a method, but it never leaves the identifier empty
  have methods : ∀ id, (index.addUnit packageId directory unit).methods.contains id = true ↔
      id ∈ unit.methods.map MethodSymbol.id ∨ index.methods.contains id = true :=
    fun id => contains_insertAll
  constructor
  · exact get?_insertAll dispatches.wellFormed coherent.types
  · intro id type found name declared
    apply (methods _).mpr
    rcases mem_or_get?_of_insertAll found with member | before
    · obtain ⟨method, methodMember, same⟩ := coherent.dispatch type member name declared
      exact .inl (List.mem_map.mpr ⟨method, methodMember, same⟩)
    · exact .inr (dispatches.declared before name declared)

theorem Buildable.dispatches (built : index.Buildable) : index.Dispatches := by
  obtain ⟨options, sources, rfl⟩ := built
  exact ofSources_induction options dispatches_empty
    (fun read dispatches => dispatches.addUnit (Go.SourceUnit.coherent_of_read read)) sources

/-! ### Additions -/

/-- What can be added to an index. Each directory is read as its tree is at that time. -/
inductive Addition where
  | source (source : Source)
  | directory (lookup : PathLookup) (root : String)

/-- The index after an addition, whether it succeeds or not. -/
def withAddition (index : Index) (options : IndexOptions) : Addition → Index
  | .source source => index.withSource options source
  | .directory lookup root => (index.addDirectory options lookup root).1

def ofAdditions (options : IndexOptions) (additions : List Addition) : Index :=
  additions.foldl (withAddition · options) .empty

theorem exists_sources_of_addFiles (options : IndexOptions) (index : Index)
    (files : List WalkedFile) :
    ∃ sources, (index.addFiles options files).1 =
      List.foldl (withSource · options) index sources := by
  induction files generalizing index with
  | nil => exact ⟨[], rfl⟩
  | cons file rest inductionHypothesis =>
      rw [addFiles]
      cases outcome : index.addFile options file with
      | error failure => exact ⟨[], rfl⟩
      | ok next =>
          unfold addFile at outcome
          split at outcome
          · cases outcome
          · rename_i content _
            obtain ⟨sources, restAdded⟩ := inductionHypothesis next
            refine ⟨⟨Path.parent file.path, displayPath file.path, content⟩ :: sources, ?_⟩
            rw [List.foldl_cons, withSource, outcome]
            exact restAdded

theorem exists_sources_of_withAddition (options : IndexOptions) (index : Index)
    (addition : Addition) :
    ∃ sources, index.withAddition options addition =
      List.foldl (withSource · options) index sources := by
  cases addition with
  | source source => exact ⟨[source], rfl⟩
  | directory lookup root =>
      simp only [withAddition, addDirectory]
      cases lookup root with
      | error reason => exact ⟨[], rfl⟩
      | ok tree => exact exists_sources_of_addFiles options index _

theorem buildable_ofAdditions (options : IndexOptions) (additions : List Addition) :
    (ofAdditions options additions).Buildable := by
  suffices ∃ sources, ofAdditions options additions = ofSources options sources by
    obtain ⟨sources, same⟩ := this
    exact ⟨options, sources, same.symm⟩
  induction additions using List.reverseRecOn with
  | nil => exact ⟨[], rfl⟩
  | append_singleton additions last inductionHypothesis =>
      obtain ⟨before, same⟩ := inductionHypothesis
      obtain ⟨sources, added⟩ :=
        exists_sources_of_withAddition options (ofAdditions options additions) last
      refine ⟨before ++ sources, ?_⟩
      unfold ofAdditions at added ⊢
      unfold ofSources at same ⊢
      unfold ofAdditions at same
      rw [List.foldl_append, List.foldl_append, ← same]
      exact added

/-! ### The invariant -/

/-- What the readers of an index rely on. -/
structure Consistent (index : Index) : Prop where
  packages : index.KeepsPackages
  typeIds : ∀ {id symbol}, index.types.get? id = some symbol → symbol.id = id
  functionIds : ∀ {id symbol}, index.functions.get? id = some symbol → symbol.id = id
  methodIds : ∀ {id symbol}, index.methods.get? id = some symbol → symbol.id = id
  registered : index.Registered
  types : ∀ {id type}, index.types.get? id = some type → type.WellFormed
  dispatch : ∀ {id type}, index.types.get? id = some type → type.kind = .interface →
    ∀ name ∈ type.methods, index.methods.contains (memberId type.id name) = true

theorem consistent_ofAdditions (options : IndexOptions) (additions : List Addition) :
    (ofAdditions options additions).Consistent := by
  have built := buildable_ofAdditions options additions
  exact {
    packages := built.keepsPackages
    typeIds := fun found => (built.namesOnly.types found).1
    functionIds := fun found => (built.namesOnly.functions found).1
    methodIds := fun found => (built.namesOnly.methods found).1
    registered := built.registered
    types := built.dispatches.wellFormed
    dispatch := fun found _ => built.dispatches.declared found }

end Index

end GoAtlas
