import GoAtlas.Architecture
import GoAtlas.Proofs.Index.References
import GoAtlas.Proofs.Index.Registration
import GoAtlas.Proofs.Resolver.Targets
import Mathlib.Data.List.Induction
import Mathlib.Data.List.Nodup

/-!
The integrity of an architecture. Components and links are listed once, and a link never leads from
or to something that is no component. Links come from four passes that look their ends up in
different ways; each way ends at a key of one of the tables, or at an imported path that is a
component because it refers to no package.
-/

namespace GoAtlas

/-! ### The first of each key -/

section FirstOfEach

variable {Element Key : Type} [DecidableEq Key] {key : Element → Key} {elements : List Element}

theorem firstOfEach_concat (key : Element → Key) (elements : List Element) (last : Element) :
    firstOfEach key (elements ++ [last]) = appendFresh key (firstOfEach key elements) last := by
  simp [firstOfEach]

theorem nodup_appendFresh {kept : List Element} {element : Element}
    (distinct : (kept.map key).Nodup) : ((appendFresh key kept element).map key).Nodup := by
  unfold appendFresh
  split
  · exact distinct
  · rename_i fresh
    rw [List.map_append, List.map_singleton, ← List.concat_eq_append]
    exact distinct.concat (by simpa using fresh)

theorem mem_map_appendFresh {kept : List Element} {element : Element} {value : Key} :
    value ∈ (appendFresh key kept element).map key ↔
      value ∈ kept.map key ∨ value = key element := by
  unfold appendFresh
  split
  · rename_i known
    have known : key element ∈ kept.map key := by simpa using known
    constructor
    · exact .inl
    · rintro (old | rfl)
      · exact old
      · exact known
  · simp

theorem nodup_firstOfEach : ((firstOfEach key elements).map key).Nodup := by
  induction elements using List.reverseRecOn with
  | nil => exact List.nodup_nil
  | append_singleton elements last inductionHypothesis =>
      rw [firstOfEach_concat]
      exact nodup_appendFresh inductionHypothesis

theorem mem_map_firstOfEach {value : Key} :
    value ∈ (firstOfEach key elements).map key ↔ value ∈ elements.map key := by
  induction elements using List.reverseRecOn with
  | nil => rfl
  | append_singleton elements last inductionHypothesis =>
      rw [firstOfEach_concat, mem_map_appendFresh, inductionHypothesis]
      simp

theorem nodup_firstOfEach_id [DecidableEq Element] : (firstOfEach id elements).Nodup := by
  have distinct : ((firstOfEach id elements).map id).Nodup := nodup_firstOfEach
  simpa using distinct

theorem mem_firstOfEach_id [DecidableEq Element] {element : Element} :
    element ∈ firstOfEach id elements ↔ element ∈ elements := by
  have same : element ∈ (firstOfEach id elements).map id ↔ element ∈ elements.map id :=
    mem_map_firstOfEach
  simpa using same

end FirstOfEach

/-! ### Components and the ends of links -/

namespace Architecture

def componentIds (architecture : Architecture) : List String :=
  architecture.components.map (·.id)

/-- No component and no link is listed twice, and every link leads from a component to one. -/
structure IsIntegral (architecture : Architecture) : Prop where
  components : architecture.componentIds.Nodup
  links : architecture.links.Nodup
  ends : ∀ link ∈ architecture.links,
    link.source ∈ architecture.componentIds ∧ link.target ∈ architecture.componentIds

end Architecture

namespace Index

variable {index : Index} {id : String} {link : Link}

/-- An imported path that refers to no indexed package. -/
def IsExternal (index : Index) (path : String) : Prop :=
  ∃ package ∈ index.packages.values, path ∈ package.imports ∧ index.packageOfImport? path = none

/-- What an architecture has components for. -/
inductive HasComponent (index : Index) (id : String) : Prop where
  | package (known : index.packages.contains id = true)
  | type (known : index.types.contains id = true)
  | callable (indexed : (index.callable? id).isSome = true)
  | external (imported : index.IsExternal id)

theorem hasComponent_iff : index.HasComponent id ↔
    index.packages.contains id = true ∨ index.types.contains id = true ∨
      (index.callable? id).isSome = true ∨ index.IsExternal id := by
  constructor
  · intro component
    cases component with
    | package known => exact .inl known
    | type known => exact .inr (.inl known)
    | callable indexed => exact .inr (.inr (.inl indexed))
    | external imported => exact .inr (.inr (.inr imported))
  · rintro (known | known | indexed | imported)
    · exact .package known
    · exact .type known
    · exact .callable indexed
    · exact .external imported

theorem mem_symbolComponents_iff : id ∈ index.symbolComponents.map (·.id) ↔
    index.packages.contains id = true ∨ index.types.contains id = true ∨
      index.functions.contains id = true ∨ index.methods.contains id = true := by
  simp only [symbolComponents, List.map_append, List.map_map, List.mem_append,
    ← Table.mem_keys_iff, Table.keys, or_assoc]
  rfl

theorem mem_externalComponents_iff :
    id ∈ index.externalComponents.map (·.id) ↔ index.IsExternal id := by
  simp only [externalComponents, List.mem_map, List.mem_flatMap, List.mem_filterMap]
  constructor
  · rintro ⟨component, ⟨package, packageMember, path, imported, isComponent⟩, rfl⟩
    split at isComponent
    · cases isComponent
    · rename_i unknown
      cases isComponent
      exact ⟨package, packageMember, imported, by simpa using unknown⟩
  · rintro ⟨package, packageMember, imported, unknown⟩
    exact ⟨⟨id, Text.lastPiece "/" id, .external⟩,
      ⟨package, packageMember, id, imported, by simp [unknown]⟩, rfl⟩

theorem mem_componentIds_iff {options : ArchitectureOptions} :
    id ∈ (Architecture.ofIndex index options).componentIds ↔ index.HasComponent id := by
  simp only [Architecture.componentIds, Architecture.ofIndex, mem_map_firstOfEach, List.map_append,
    List.mem_append, mem_symbolComponents_iff, mem_externalComponents_iff, hasComponent_iff,
    isSome_callable?_iff, or_assoc]

/-! ### The passes that link -/

def Joins (index : Index) (link : Link) : Prop :=
  index.HasComponent link.source ∧ index.HasComponent link.target

theorem hasComponent_ownerOf (registered : index.Registered) {symbol : MethodSymbol}
    (found : index.methods.get? id = some symbol) : index.HasComponent (index.ownerOf symbol) := by
  unfold ownerOf
  split
  · rename_i receiverKnown
    exact .type receiverKnown
  · exact .package (registered.methods found)

theorem mem_containmentLinks_iff : link ∈ index.containmentLinks ↔
    (∃ id type, index.types.get? id = some type ∧ link = ⟨type.package, id, .contains⟩) ∨
      (∃ id symbol, index.functions.get? id = some symbol ∧
        link = ⟨symbol.package, id, .contains⟩) ∨
      ∃ id symbol, index.methods.get? id = some symbol ∧
        link = ⟨index.ownerOf symbol, id, .contains⟩ := by
  simp only [containmentLinks, List.mem_append, List.mem_map, Prod.exists, Table.get?_eq_some_iff,
    eq_comm (a := link), or_assoc]

theorem joins_of_mem_containmentLinks (registered : index.Registered)
    (member : link ∈ index.containmentLinks) : index.Joins link := by
  rcases mem_containmentLinks_iff.mp member with
    ⟨id, type, found, rfl⟩ | ⟨id, symbol, found, rfl⟩ | ⟨id, symbol, found, rfl⟩
  · exact ⟨.package (registered.types found), .type (Table.contains_iff.mpr ⟨type, found⟩)⟩
  · have indexed := isSome_callable?_iff.mpr (.inl (Table.contains_iff.mpr ⟨symbol, found⟩))
    exact ⟨.package (registered.functions found), .callable indexed⟩
  · have indexed := isSome_callable?_iff.mpr (.inr (Table.contains_iff.mpr ⟨symbol, found⟩))
    exact ⟨hasComponent_ownerOf registered found, .callable indexed⟩

theorem mem_importLinks_iff : link ∈ index.importLinks ↔
    ∃ id package, index.packages.get? id = some package ∧ ∃ path ∈ package.imports,
      link = ⟨id, (index.packageOfImport? path).getD path, .imports⟩ := by
  simp only [importLinks, List.mem_flatMap, List.mem_map, Prod.exists, Table.get?_eq_some_iff,
    eq_comm (a := link)]

theorem joins_of_mem_importLinks (member : link ∈ index.importLinks) : index.Joins link := by
  obtain ⟨id, package, found, path, imported, rfl⟩ := mem_importLinks_iff.mp member
  refine ⟨.package (Table.contains_iff.mpr ⟨package, found⟩), ?_⟩
  have entry := Table.get?_eq_some_iff.mp found
  cases refers : index.packageOfImport? path with
  | none => exact .external ⟨package, List.mem_map_of_mem entry, imported, refers⟩
  | some target => exact .package (contains_of_packageOfImport? refers)

/-- A type is linked to the other types to which its fields refer, and to those it embeds. -/
theorem mem_linksOfType_iff {type : TypeSymbol} : link ∈ index.linksOfType id type ↔
    link.source = id ∧ link.target ≠ id ∧
      (link.kind = .uses ∧
          (∃ field ∈ type.fields, index.typeOfField? field type.package = some link.target) ∨
        link.kind = .embeds ∧
          ∃ embed ∈ type.embeds, index.typeOfEmbed? embed type.package = some link.target) := by
  obtain ⟨source, target, kind⟩ := link
  simp only [linksOfType, List.mem_append, List.mem_map, List.mem_filterMap,
    Option.filter_eq_some_iff, bne_iff_ne, exists_exists_and_eq_and, Link.mk.injEq]
  constructor
  · rintro (⟨_, ⟨field, member, refers, other⟩, rfl, rfl, rfl⟩ |
        ⟨_, ⟨embed, member, refers, other⟩, rfl, rfl, rfl⟩)
    · exact ⟨rfl, other, .inl ⟨rfl, field, member, refers⟩⟩
    · exact ⟨rfl, other, .inr ⟨rfl, embed, member, refers⟩⟩
  · rintro ⟨rfl, other, ⟨rfl, field, member, refers⟩ | ⟨rfl, embed, member, refers⟩⟩
    · exact .inl ⟨target, ⟨field, member, refers, other⟩, rfl, rfl, rfl⟩
    · exact .inr ⟨target, ⟨embed, member, refers, other⟩, rfl, rfl, rfl⟩

theorem mem_typeLinks_iff : link ∈ index.typeLinks ↔
    ∃ id type, index.types.get? id = some type ∧ link ∈ index.linksOfType id type := by
  simp only [typeLinks, List.mem_flatMap, Prod.exists, Table.get?_eq_some_iff]

theorem joins_of_mem_typeLinks (member : link ∈ index.typeLinks) : index.Joins link := by
  obtain ⟨id, type, found, member⟩ := mem_typeLinks_iff.mp member
  obtain ⟨rfl, -, refers⟩ := mem_linksOfType_iff.mp member
  refine ⟨.type (Table.contains_iff.mpr ⟨type, found⟩), .type ?_⟩
  rcases refers with ⟨-, field, -, refers⟩ | ⟨-, embed, -, refers⟩ <;>
    exact contains_of_typeOfName? refers

end Index

namespace Resolver

variable {resolver : Resolver} {id callee : String} {callable : Callable} {link : Link}

theorem mem_calledSymbols_iff : callee ∈ resolver.calledSymbols id callable ↔
    ∃ site ∈ callable.calls, ∃ target,
      resolver.resolve site (.ofCallable callable) = some target ∧
        target.kind.isLeaf = false ∧ target.id ≠ id ∧ target.id = callee := by
  simp only [calledSymbols, List.mem_filterMap]
  refine exists_congr fun site => and_congr_right fun _ => ?_
  cases resolver.resolve site (.ofCallable callable) with
  | none => simp
  | some target => simp [and_assoc]

theorem mem_callLinks_iff : link ∈ resolver.callLinks ↔ link.kind = .calls ∧
    ∃ callable, (link.source, callable) ∈ resolver.index.callables ∧
      link.target ∈ resolver.calledSymbols link.source callable := by
  simp only [callLinks, List.mem_flatMap, List.mem_map, Prod.exists]
  constructor
  · rintro ⟨id, callable, member, callee, called, rfl⟩
    exact ⟨rfl, callable, member, called⟩
  · rintro ⟨kind, callable, member, called⟩
    exact ⟨link.source, callable, member, link.target, called, by rw [← kind]⟩

theorem joins_of_mem_callLinks (member : link ∈ resolver.callLinks) :
    resolver.index.Joins link := by
  obtain ⟨-, callable, caller, called⟩ := mem_callLinks_iff.mp member
  obtain ⟨site, -, target, resolved, inner, -, isTarget⟩ := mem_calledSymbols_iff.mp called
  refine ⟨.callable (Index.isSome_callable?_of_mem caller), ?_⟩
  rw [← isTarget]
  exact .callable (isSome_callable?_of_inner resolved inner)

end Resolver

namespace Architecture

/-- The architecture of an index never lists anything twice and never links what it does not
list; and it lists all that is indexed or imported. -/
theorem isIntegral_ofIndex {index : Index} (built : index.Buildable)
    (options : ArchitectureOptions) :
    (ofIndex index options).IsIntegral ∧
      ∀ id, id ∈ (ofIndex index options).componentIds ↔ index.HasComponent id := by
  refine ⟨⟨nodup_firstOfEach, nodup_firstOfEach_id, ?_⟩, fun _ => Index.mem_componentIds_iff⟩
  intro link member
  rw [Index.mem_componentIds_iff, Index.mem_componentIds_iff]
  simp only [ofIndex, mem_firstOfEach_id, List.mem_append] at member
  rcases member with ((contained | imported) | typed) | called
  · exact Index.joins_of_mem_containmentLinks built.registered contained
  · exact Index.joins_of_mem_importLinks imported
  · exact Index.joins_of_mem_typeLinks typed
  · split at called
    · exact Resolver.joins_of_mem_callLinks called
    · cases called

end Architecture

/-! ### Links of all kinds -/

/-- A package that imports itself and a package from outside, with a structure that embeds one type,
has a field of another one and calls a method of that field. -/
def linkage : Source where
  directory := "p"
  file := "a.go"
  content :=
    ("package p\nimport \"example.com/p\"\nimport \"example.com/lib\"\n" ++
      "type Store interface \x7b\nLoad()\n\x7d\ntype Base struct \x7b\n\x7d\n" ++
      "type Handler struct \x7b\nBase\nstore Store\n\x7d\n" ++
      "func (h Handler) Serve() \x7b\nh.store.Load()\n\x7d\n").toUTF8.toList

def linkageUnit : Go.SourceUnit where
  packageName := "p"
  imports := [⟨none, "example.com/p"⟩, ⟨none, "example.com/lib"⟩]
  types :=
    [⟨"Store", "p", .interface, "a.go", 4, [], [], ["Load"]⟩,
      ⟨"Base", "p", .struct, "a.go", 7, [], [], []⟩,
      ⟨"Handler", "p", .struct, "a.go", 9, [⟨"store", "Store", none⟩], ["Base"], []⟩]
  functions := []
  methods :=
    [⟨"Load", "Store", none, "p", "a.go", 5, []⟩,
      ⟨"Serve", "Handler", some "h", "p", "a.go", 13, [.method "h.store" "Load" 14]⟩]

theorem read_linkage : Go.SourceUnit.read linkage.content "p" linkage.file = .ok linkageUnit := by
  decide +kernel

def linkageIndex : Index :=
  Index.empty.addUnit "p" linkage.directory linkageUnit

theorem buildable_linkage : linkageIndex.Buildable := by
  have kept : IndexOptions.standard.packageIds.packageId linkage.directory = "p" := by
    decide
  exact Index.buildable_of_read kept read_linkage

theorem Architecture.isIntegral_ofIndex_linkage :
    linkageIndex.Buildable ∧
      (∀ kind ∈ LinkKind.all,
        ∃ link ∈ (ofIndex linkageIndex .standard).links, link.kind = kind) ∧
      (ofIndex linkageIndex .standard).IsIntegral :=
  ⟨buildable_linkage, by decide +kernel, (isIntegral_ofIndex buildable_linkage .standard).1⟩

end GoAtlas
