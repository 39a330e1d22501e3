import GoAtlas.Indexing
import GoAtlas.Proofs.Names.Units
import GoAtlas.Proofs.Text.Separators

/-!
The indexes that sources can build. Whatever is read, in whatever order and under whatever
identifiers for packages, every symbol stands under its own identifier, and symbols, receivers and
call sites are well named.
-/

namespace GoAtlas

/-- A source that is added to an index, with the directory in which it lies and the file that is
recorded with its symbols. -/
structure Source where
  directory : String
  file : String
  content : List UInt8

namespace Index

/-- The index after a further source; one with a syntax error changes nothing. -/
def withSource (index : Index) (options : IndexOptions) (source : Source) : Index :=
  match index.addSource options source.directory source.file source.content with
  | .ok next => next
  | .error _ => index

theorem withSource_of_read {options : IndexOptions} {index : Index} {source : Source}
    {packageId : String} {unit : Go.SourceUnit}
    (kept : options.packageIds.packageId source.directory = packageId)
    (read : Go.SourceUnit.read source.content packageId source.file = .ok unit) :
    index.withSource options source = index.addUnit packageId source.directory unit := by
  unfold withSource addSource
  dsimp only
  rw [kept, read]

/-- The index after adding sources in turn, from the empty one. -/
def ofSources (options : IndexOptions) (sources : List Source) : Index :=
  sources.foldl (withSource · options) .empty

/-- What holds of the empty index and is kept by every unit holds of every index. -/
theorem ofSources_induction {holds : Index → Prop} (options : IndexOptions)
    (start : holds .empty)
    (step : ∀ {index : Index} {packageId directory file : String} {content : List UInt8}
      {unit : Go.SourceUnit}, Go.SourceUnit.read content packageId file = .ok unit →
        holds index → holds (index.addUnit packageId directory unit))
    (sources : List Source) : holds (ofSources options sources) := by
  apply List.foldlRecOn sources _ start
  intro index indexHolds source _
  unfold withSource addSource
  dsimp only
  cases read : Go.SourceUnit.read source.content
      (options.packageIds.packageId source.directory) source.file with
  | error line => exact indexHolds
  | ok unit => exact step read indexHolds

/-- Every symbol stands under its identifier and is well named. -/
structure NamesOnly (index : Index) : Prop where
  types : ∀ {id symbol}, index.types.get? id = some symbol → symbol.id = id ∧ symbol.NamesOnly
  functions : ∀ {id symbol}, index.functions.get? id = some symbol →
    symbol.id = id ∧ symbol.NamesOnly
  methods : ∀ {id symbol}, index.methods.get? id = some symbol →
    symbol.id = id ∧ symbol.NamesOnly

/-- What holds of all values of a table and of all that are inserted holds afterwards. -/
theorem get?_insertAll {Value : Type} {id : Value → String} {holds : String → Value → Prop}
    {table : Table Value} {values : List Value}
    (before : ∀ {key value}, table.get? key = some value → holds key value)
    (inserted : ∀ value ∈ values, holds (id value) value) {key : String} {value : Value}
    (found : (insertAll id table values).get? key = some value) : holds key value := by
  induction values generalizing table with
  | nil => exact before found
  | cons first rest inductionHypothesis =>
      obtain ⟨own, later⟩ := List.forall_mem_cons.mp inserted
      refine inductionHypothesis ?_ later found
      intro other stored otherFound
      rw [Table.get?_insert] at otherFound
      split at otherFound
      · rename_i same
        cases otherFound
        exact same ▸ own
      · exact before otherFound

theorem NamesOnly.addUnit {index : Index} (names : index.NamesOnly) {packageId directory : String}
    {unit : Go.SourceUnit} (unitNames : unit.NamesOnly) :
    (index.addUnit packageId directory unit).NamesOnly where
  types := get?_insertAll names.types fun symbol member => ⟨rfl, unitNames.types symbol member⟩
  functions := get?_insertAll names.functions fun symbol member =>
    ⟨rfl, unitNames.functions symbol member⟩
  methods := get?_insertAll names.methods fun symbol member =>
    ⟨rfl, unitNames.methods symbol member⟩

theorem namesOnly_empty : empty.NamesOnly where
  types := by
    intro id symbol found
    cases found
  functions := by
    intro id symbol found
    cases found
  methods := by
    intro id symbol found
    cases found

/-- Can sources build the index? -/
def Buildable (index : Index) : Prop :=
  ∃ options sources, ofSources options sources = index

theorem buildable_of_read {options : IndexOptions} {source : Source} {packageId : String}
    {unit : Go.SourceUnit} (kept : options.packageIds.packageId source.directory = packageId)
    (read : Go.SourceUnit.read source.content packageId source.file = .ok unit) :
    (empty.addUnit packageId source.directory unit).Buildable := by
  refine ⟨options, [source], ?_⟩
  rw [ofSources, List.foldl_cons, List.foldl_nil, withSource_of_read kept read]

/-- Every index that sources build is well named. -/
theorem Buildable.namesOnly {index : Index} (built : index.Buildable) : index.NamesOnly := by
  obtain ⟨options, sources, rfl⟩ := built
  exact ofSources_induction options namesOnly_empty
    (fun read names => names.addUnit (Go.SourceUnit.namesOnly_of_read read)) sources

/-! ### Callables of a well-named index -/

/-- The identifier of a callable is that of its owner, a dot and a name. -/
theorem NamesOnly.callable {index : Index} (names : index.NamesOnly) {id : String}
    {callable : Callable} (found : index.callable? id = some callable) :
    (∃ owner name, Go.isName name = true ∧ id = memberId owner name) ∧
      ∀ site ∈ callable.calls, site.Recorded := by
  unfold callable? at found
  split at found
  · rename_i symbol functionFound
    cases found
    obtain ⟨same, symbolNames⟩ := names.functions functionFound
    exact ⟨⟨symbol.package, symbol.name, symbolNames.name, same.symm⟩, symbolNames.calls⟩
  · obtain ⟨symbol, methodFound, rfl⟩ := Option.map_eq_some_iff.mp found
    obtain ⟨same, symbolNames⟩ := names.methods methodFound
    exact ⟨⟨symbol.receiverTypeId, symbol.name, symbolNames.name, same.symm⟩, symbolNames.calls⟩

/-- Nothing that can be called has the identifier of a function literal. -/
theorem NamesOnly.closure_not_callable {index : Index} (names : index.NamesOnly)
    (package : String) : index.callable? (memberId package closureTarget) = none := by
  rw [Option.eq_none_iff_forall_ne_some]
  intro callable found
  obtain ⟨⟨owner, name, spelled, same⟩, -⟩ := names.callable found
  have plain : '.' ∉ closureTarget.toList := by decide
  obtain ⟨-, rfl⟩ := memberId_inj plain (Go.isName.not_mem spelled Go.continuesName_dot) same
  exact Go.isName.not_mem spelled Go.continuesName_angle (by decide)

end Index

end GoAtlas
