import GoAtlas.Proofs.Architecture.Integrity

/-!
Links that lead back to where they begin. What is contained in something has the longer identifier,
and a symbol's links to itself are left out where types and calls are linked. Only imports may lead
back: an import path is compared with all packages, the importing one included, so a package that is
called like the library it wraps is taken for that library.
-/

namespace GoAtlas

theorem length_lt_memberId (owner name : String) : owner.length < (memberId owner name).length := by
  rw [← String.length_toList, ← String.length_toList, toList_memberId]
  simp

namespace Index

variable {index : Index} {id : String} {path : String} {link : Link} {kind : LinkKind}

/-! ### Containment, types and calls -/

theorem length_lt_ownerOf (index : Index) (symbol : MethodSymbol) :
    (index.ownerOf symbol).length < symbol.id.length := by
  have inType := length_lt_memberId symbol.receiverTypeId symbol.name
  have inPackage := length_lt_memberId symbol.package symbol.receiver
  unfold ownerOf
  split
  · exact inType
  · exact Nat.lt_trans inPackage inType

theorem length_lt_of_mem_containmentLinks (names : index.NamesOnly)
    (member : link ∈ index.containmentLinks) : link.source.length < link.target.length := by
  rcases mem_containmentLinks_iff.mp member with
    ⟨id, type, found, rfl⟩ | ⟨id, symbol, found, rfl⟩ | ⟨id, symbol, found, rfl⟩
  · obtain ⟨rfl, -⟩ := names.types found
    exact length_lt_memberId type.package type.name
  · obtain ⟨rfl, -⟩ := names.functions found
    exact length_lt_memberId symbol.package symbol.name
  · obtain ⟨rfl, -⟩ := names.methods found
    exact index.length_lt_ownerOf symbol

theorem ne_of_mem_typeLinks (member : link ∈ index.typeLinks) : link.source ≠ link.target := by
  obtain ⟨id, type, -, member⟩ := mem_typeLinks_iff.mp member
  obtain ⟨rfl, other, -⟩ := mem_linksOfType_iff.mp member
  exact other.symm

theorem ne_of_mem_callLinks {resolver : Resolver} (member : link ∈ resolver.callLinks) :
    link.source ≠ link.target := by
  obtain ⟨-, callable, -, called⟩ := Resolver.mem_callLinks_iff.mp member
  obtain ⟨site, -, target, -, -, other, same⟩ := Resolver.mem_calledSymbols_iff.mp called
  exact same ▸ other.symm

/-! ### Imports -/

/-- The package records an import path that refers to the package itself. -/
def ImportsItself (index : Index) (id : String) : Prop :=
  ∃ package, index.packages.get? id = some package ∧
    ∃ path ∈ package.imports, index.packageOfImport? path = some id

theorem packageOfImport?_of_contains (known : index.packages.contains path = true) :
    index.packageOfImport? path = some path :=
  if_pos known

theorem mem_importLinks_self_iff :
    ⟨id, id, kind⟩ ∈ index.importLinks ↔ kind = .imports ∧ index.ImportsItself id := by
  rw [mem_importLinks_iff]
  constructor
  · rintro ⟨_, package, found, path, recorded, same⟩
    obtain ⟨rfl, leads, rfl⟩ := (Link.mk.injEq ..).mp same
    refine ⟨rfl, package, found, path, recorded, ?_⟩
    cases refers : index.packageOfImport? path with
    | some target => simpa [refers] using leads.symm
    | none =>
        -- A path from outside is no package, and so not this one.
        rw [refers, Option.getD_none] at leads
        subst leads
        rw [packageOfImport?_of_contains (Table.contains_iff.mpr ⟨package, found⟩)] at refers
        cases refers
  · rintro ⟨rfl, package, found, path, recorded, leads⟩
    exact ⟨id, package, found, path, recorded, by rw [leads]; rfl⟩

theorem commonPrefixLength_self_pos {Element : Type} [DecidableEq Element] {elements : List Element}
    (filled : elements ≠ []) : 0 < commonPrefixLength elements elements := by
  cases elements with
  | nil => exact absurd rfl filled
  | cons first rest => simp [commonPrefixLength]

theorem sharedTrailingSegments_self_pos (path : String) : 0 < sharedTrailingSegments path path := by
  apply commonPrefixLength_self_pos
  simpa [Text.split] using Text.pieces_ne_nil '/' path.toList

/-- A path refers only to packages that end as it ends. -/
theorem shares_of_packageOfImport? (refers : index.packageOfImport? path = some id) :
    0 < sharedTrailingSegments path id := by
  unfold packageOfImport? at refers
  split at refers
  · cases refers
    exact sharedTrailingSegments_self_pos id
  · obtain ⟨entry, isBest, rfl⟩ := Option.map_eq_some_iff.mp refers
    exact (mem_of_foldl_betterMatch entry isBest).2

end Index

namespace Architecture

/-- Only imports lead back to where they begin. A package has such a link exactly if it records the
path of an import that refers to the package itself, and so ends as the package's identifier
ends. -/
theorem selfLinks_ofIndex {index : Index} (built : index.Buildable)
    (options : ArchitectureOptions) :
    (∀ id kind, ⟨id, id, kind⟩ ∈ (ofIndex index options).links ↔
      kind = .imports ∧ index.ImportsItself id) ∧
    ∀ path id, index.packageOfImport? path = some id →
      0 < Index.sharedTrailingSegments path id := by
  refine ⟨fun id kind => ?_, fun path id => Index.shares_of_packageOfImport?⟩
  simp only [ofIndex, mem_firstOfEach_id, List.mem_append]
  constructor
  · rintro (((contained | imported) | typed) | called)
    · exact absurd (Index.length_lt_of_mem_containmentLinks built.namesOnly contained)
        (Nat.lt_irrefl _)
    · exact Index.mem_importLinks_self_iff.mp imported
    · exact absurd rfl (Index.ne_of_mem_typeLinks typed)
    · split at called
      · exact absurd rfl (Index.ne_of_mem_callLinks called)
      · cases called
  · intro itself
    exact .inl (.inl (.inr (Index.mem_importLinks_self_iff.mpr itself)))

/-! ### A wrapper -/

/-- A package that is called like the library it imports. -/
def wrapper : Source where
  directory := "app/uuid"
  file := "a.go"
  content :=
    ("package uuid\nimport \"example.com/uuid\"\n" ++
      "func New() \x7b\nuuid.Generate()\n\x7d\n").toUTF8.toList

def wrapperUnit : Go.SourceUnit where
  packageName := "uuid"
  imports := [⟨none, "example.com/uuid"⟩]
  types := []
  functions :=
    [⟨"New", "app/uuid", "a.go", 3,
      [{ CallSite.method "uuid" "Generate" 4 with importPath := some "example.com/uuid" }]⟩]
  methods := []

def wrapperIndex : Index :=
  Index.empty.addUnit "app/uuid" wrapper.directory wrapperUnit

theorem buildable_wrapper : wrapperIndex.Buildable := by
  have kept : IndexOptions.standard.packageIds.packageId wrapper.directory = "app/uuid" := by
    decide +kernel
  have read : Go.SourceUnit.read wrapper.content "app/uuid" wrapper.file = .ok wrapperUnit := by
    decide +kernel
  exact Index.buildable_of_read kept read

theorem importsItself_wrapper : wrapperIndex.ImportsItself "app/uuid" := by
  have found : wrapperIndex.packages.get? "app/uuid" =
      some ⟨"app/uuid", "uuid", "app/uuid", ["example.com/uuid"]⟩ := by
    decide
  have refers : wrapperIndex.packageOfImport? "example.com/uuid" = some "app/uuid" := by
    decide
  exact ⟨_, found, "example.com/uuid", List.mem_singleton.mpr rfl, refers⟩

theorem selfLinks_wrapper :
    wrapperIndex.Buildable ∧
      ∀ kind, ⟨"app/uuid", "app/uuid", kind⟩ ∈ (ofIndex wrapperIndex .standard).links ↔
        kind = .imports := by
  obtain ⟨selfLinks, -⟩ := selfLinks_ofIndex buildable_wrapper .standard
  refine ⟨buildable_wrapper, fun kind => ?_⟩
  rw [selfLinks, and_iff_left importsItself_wrapper]

/-- Not every link leads to something else: a wrapper imports itself. -/
theorem not_apart_wrapper :
    ¬∀ (index : Index) (options : ArchitectureOptions), index.Buildable →
      ∀ link ∈ (ofIndex index options).links, link.source ≠ link.target := by
  intro apart
  have linked : (⟨"app/uuid", "app/uuid", .imports⟩ : Link) ∈
      (ofIndex wrapperIndex .standard).links := by
    decide +kernel
  exact apart wrapperIndex .standard buildable_wrapper _ linked rfl

end Architecture

end GoAtlas
