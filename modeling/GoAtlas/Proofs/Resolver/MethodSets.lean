import GoAtlas.Proofs.Index.Consistency
import GoAtlas.Proofs.Names.Members
import GoAtlas.Resolver.Implementations
import Mathlib.Logic.Relation

/-!
What the method set of a type holds: the own methods of the type and of every type from which it
gets methods, over however many embeddings. Under every such method something is indexed.
-/

namespace GoAtlas.Index

variable {index : Index}

/-! ### Types that are gathered -/

/-- The sources of a type's methods are types that it embeds, of kinds from which its own kind gets
methods. -/
theorem mem_methodSources_iff {type : TypeSymbol} {inner : String} :
    inner ∈ index.methodSources type ↔
      (∃ embed ∈ type.embeds, index.typeOfEmbed? embed type.package = some inner) ∧
        ∃ innerType, index.types.get? inner = some innerType ∧
          (type.kind = .struct ∧ (innerType.kind = .struct ∨ innerType.kind = .interface) ∨
            type.kind = .interface ∧ innerType.kind = .interface) := by
  simp only [methodSources, methodSource?, Option.bind_eq_bind, List.mem_filterMap,
    Option.bind_eq_some_iff]
  constructor
  · rintro ⟨embed, member, id, embedded, innerType, found, passed⟩
    split at passed <;> cases passed <;> rename_i outerKind innerKind <;>
      exact ⟨⟨embed, member, embedded⟩, innerType, found, by simp [outerKind, innerKind]⟩
  · rintro ⟨⟨embed, member, embedded⟩, innerType, found, passes⟩
    refine ⟨embed, member, inner, embedded, innerType, found, ?_⟩
    rcases passes with ⟨outerKind, innerKind | innerKind⟩ | ⟨outerKind, innerKind⟩ <;>
      rw [outerKind, innerKind]

/-- A type gets methods from another one that it embeds. -/
def GetsFrom (index : Index) (outer inner : String) : Prop :=
  ∃ type, index.types.get? outer = some type ∧ inner ∈ index.methodSources type

theorem gather_of_known {id : String} {rest seen : List String} (known : seen.contains id = true) :
    index.gather (id :: rest) seen = index.gather rest seen := by
  rw [gather, if_pos known]

theorem gather_of_missing {id : String} {rest seen : List String} (fresh : ¬seen.contains id = true)
    (missing : index.types.get? id = none) :
    index.gather (id :: rest) seen = index.gather rest seen := by
  rw [gather, if_neg fresh]
  split
  · rfl
  · simp_all

theorem gather_of_found {id : String} {rest seen : List String} {type : TypeSymbol}
    (fresh : ¬seen.contains id = true) (found : index.types.get? id = some type) :
    index.gather (id :: rest) seen =
      index.gather (index.methodSources type ++ rest) (id :: seen) := by
  rw [gather, if_neg fresh]
  split <;> simp_all

/-- What is gathered was seen before, or some pending type gets its methods. -/
theorem exists_pending_of_mem_gather (pending seen : List String) {id : String}
    (gathered : id ∈ index.gather pending seen) :
    id ∈ seen ∨ ∃ start ∈ pending, Relation.ReflTransGen index.GetsFrom start id := by
  induction pending, seen using Index.gather.induct index with
  | case1 seen =>
      rw [gather] at gathered
      exact .inl gathered
  | case2 seen first rest known inductionHypothesis =>
      rw [gather_of_known known] at gathered
      refine (inductionHypothesis gathered).imp_right ?_
      rintro ⟨start, member, path⟩
      exact ⟨start, List.mem_cons_of_mem _ member, path⟩
  | case3 seen first rest fresh missing inductionHypothesis =>
      rw [gather_of_missing fresh missing] at gathered
      refine (inductionHypothesis gathered).imp_right ?_
      rintro ⟨start, member, path⟩
      exact ⟨start, List.mem_cons_of_mem _ member, path⟩
  | case4 seen first rest fresh type found inductionHypothesis =>
      rw [gather_of_found fresh found] at gathered
      rcases inductionHypothesis gathered with known | ⟨start, member, path⟩
      · rcases List.mem_cons.mp known with rfl | known
        · exact .inr ⟨id, List.mem_cons_self, .refl⟩
        · exact .inl known
      · rcases List.mem_append.mp member with source | member
        · exact .inr ⟨first, List.mem_cons_self, .head ⟨type, found, source⟩ path⟩
        · exact .inr ⟨start, List.mem_cons_of_mem _ member, path⟩

theorem isSome_of_getsFrom {outer inner : String} (gets : index.GetsFrom outer inner) :
    (index.types.get? inner).isSome = true := by
  obtain ⟨type, -, source⟩ := gets
  obtain ⟨-, innerType, found, -⟩ := mem_methodSources_iff.mp source
  simp [found]

/-- Whatever a type that was seen gets methods from was seen, too, or is pending. -/
def Frontier (index : Index) (pending seen : List String) : Prop :=
  ∀ outer ∈ seen, ∀ inner, index.GetsFrom outer inner → inner ∈ seen ∨ inner ∈ pending

section Frontier

variable {first : String} {rest seen : List String}

theorem Frontier.skip_seen (frontier : index.Frontier (first :: rest) seen)
    (known : first ∈ seen) : index.Frontier rest seen := by
  intro outer outerSeen inner gets
  rcases frontier outer outerSeen inner gets with innerSeen | waiting
  · exact .inl innerSeen
  · rcases List.mem_cons.mp waiting with rfl | waiting
    · exact .inl known
    · exact .inr waiting

/-- No methods come from a type that is not indexed. -/
theorem Frontier.skip_missing (frontier : index.Frontier (first :: rest) seen)
    (missing : index.types.get? first = none) : index.Frontier rest seen := by
  intro outer outerSeen inner gets
  refine (frontier outer outerSeen inner gets).imp_right fun waiting => ?_
  rcases List.mem_cons.mp waiting with rfl | waiting
  · have indexed := isSome_of_getsFrom gets
    simp [missing] at indexed
  · exact waiting

theorem Frontier.follow {type : TypeSymbol} (frontier : index.Frontier (first :: rest) seen)
    (found : index.types.get? first = some type) :
    index.Frontier (index.methodSources type ++ rest) (first :: seen) := by
  intro outer outerSeen inner gets
  rcases List.mem_cons.mp outerSeen with rfl | outerSeen
  · obtain ⟨own, ownFound, source⟩ := gets
    rw [found] at ownFound
    cases ownFound
    exact .inr (List.mem_append_left _ source)
  · rcases frontier outer outerSeen inner gets with innerSeen | waiting
    · exact .inl (List.mem_cons_of_mem _ innerSeen)
    · rcases List.mem_cons.mp waiting with rfl | waiting
      · exact .inl List.mem_cons_self
      · exact .inr (List.mem_append_right _ waiting)

end Frontier

/-- Types that hold those seen and the pending ones, and all that one of them gets methods from. -/
structure Covers (index : Index) (pending seen gathered : List String) : Prop where
  seen : ∀ id ∈ seen, id ∈ gathered
  pending : ∀ id ∈ pending, (index.types.get? id).isSome = true → id ∈ gathered
  closed : ∀ outer ∈ gathered, ∀ inner, index.GetsFrom outer inner → inner ∈ gathered

theorem covers_gather (pending seen : List String) (frontier : index.Frontier pending seen) :
    index.Covers pending seen (index.gather pending seen) := by
  induction pending, seen using Index.gather.induct index with
  | case1 seen =>
      rw [gather]
      refine ⟨fun _ known => known, by simp, fun outer known inner gets => ?_⟩
      simpa using frontier outer known inner gets
  | case2 seen first rest known inductionHypothesis =>
      rw [gather_of_known known]
      have known : first ∈ seen := by simpa using known
      have covers := inductionHypothesis (frontier.skip_seen known)
      refine ⟨covers.seen, fun id waiting indexed => ?_, covers.closed⟩
      rcases List.mem_cons.mp waiting with rfl | waiting
      · exact covers.seen id known
      · exact covers.pending id waiting indexed
  | case3 seen first rest fresh missing inductionHypothesis =>
      rw [gather_of_missing fresh missing]
      have covers := inductionHypothesis (frontier.skip_missing missing)
      refine ⟨covers.seen, fun id waiting indexed => ?_, covers.closed⟩
      rcases List.mem_cons.mp waiting with rfl | waiting
      · simp [missing] at indexed
      · exact covers.pending id waiting indexed
  | case4 seen first rest fresh type found inductionHypothesis =>
      rw [gather_of_found fresh found]
      have covers := inductionHypothesis (frontier.follow found)
      refine ⟨fun id known => covers.seen id (List.mem_cons_of_mem _ known),
        fun id waiting indexed => ?_, covers.closed⟩
      rcases List.mem_cons.mp waiting with rfl | waiting
      · exact covers.seen id List.mem_cons_self
      · exact covers.pending id (List.mem_append_right _ waiting) indexed

/-- From an indexed type exactly those are gathered from which it gets methods. -/
theorem mem_gather_iff {typeId : String} (indexed : (index.types.get? typeId).isSome = true)
    (id : String) :
    id ∈ index.gather [typeId] [] ↔ Relation.ReflTransGen index.GetsFrom typeId id := by
  constructor
  · intro gathered
    rcases exists_pending_of_mem_gather [typeId] [] gathered with known | ⟨start, member, path⟩
    · cases known
    · rwa [← List.mem_singleton.mp member]
  · intro path
    have covers := index.covers_gather [typeId] [] (by simp [Frontier])
    induction path with
    | refl => exact covers.pending typeId List.mem_cons_self indexed
    | tail _ gets inductionHypothesis => exact covers.closed _ inductionHypothesis _ gets

/-! ### Method sets -/

/-- A type has a method of a name by itself. -/
def HasOwn (index : Index) (typeId name : String) : Prop :=
  ∃ type, index.types.get? typeId = some type ∧ name ∈ index.ownMethods type

/-- The name stands among those that an interface declares. -/
def Declares (index : Index) (interfaceId name : String) : Prop :=
  ∃ type, index.types.get? interfaceId = some type ∧ type.kind = .interface ∧ name ∈ type.methods

/-- Some indexed method of this name has a structure as its receiver. -/
def HasMethod (index : Index) (structId name : String) : Prop :=
  ∃ type, index.types.get? structId = some type ∧ type.kind = .struct ∧
    ∃ methodId method, index.methods.get? methodId = some method ∧
      method.package = type.package ∧ method.receiver = type.name ∧ method.name = name

theorem hasOwn_iff {typeId name : String} :
    index.HasOwn typeId name ↔ index.HasMethod typeId name ∨ index.Declares typeId name := by
  constructor
  · rintro ⟨type, found, own⟩
    unfold ownMethods at own
    split at own
    · rename_i isStruct
      obtain ⟨method, member, rfl⟩ := List.mem_map.mp own
      obtain ⟨isValue, owned⟩ := List.mem_filter.mp member
      obtain ⟨⟨methodId, method⟩, entry, rfl⟩ := List.mem_map.mp isValue
      simp only [Bool.and_eq_true, beq_iff_eq] at owned
      exact .inl ⟨type, found, isStruct, methodId, method, Table.get?_eq_some_iff.mpr entry,
        owned.1, owned.2, rfl⟩
    · rename_i isInterface
      exact .inr ⟨type, found, isInterface, own⟩
    · cases own
  · rintro (⟨type, found, isStruct, methodId, method, stored, package, receiver, rfl⟩ |
        ⟨type, found, isInterface, declared⟩)
    · have isValue : method ∈ index.methods.values :=
        List.mem_map_of_mem (Table.get?_eq_some_iff.mp stored)
      refine ⟨type, found, ?_⟩
      rw [ownMethods, isStruct]
      exact List.mem_map_of_mem (List.mem_filter.mpr ⟨isValue, by simp [package, receiver]⟩)
    · exact ⟨type, found, by rwa [ownMethods, isInterface]⟩

theorem mem_methodSet_iff {typeId : String} (indexed : (index.types.get? typeId).isSome = true)
    (name : String) :
    name ∈ index.methodSet typeId ↔
      ∃ inner, Relation.ReflTransGen index.GetsFrom typeId inner ∧ index.HasOwn inner name := by
  unfold methodSet HasOwn
  rw [List.mem_flatMap]
  refine exists_congr fun inner => and_congr (mem_gather_iff indexed inner) ?_
  cases index.types.get? inner <;> simp

theorem exists_hasOwn_of_mem_methodSet {typeId name : String}
    (inSet : name ∈ index.methodSet typeId) : ∃ inner, index.HasOwn inner name := by
  obtain ⟨inner, -, own⟩ := List.mem_flatMap.mp inSet
  refine ⟨inner, ?_⟩
  split at own
  · rename_i type found
    exact ⟨type, found, own⟩
  · cases own

theorem Buildable.isName_of_mem_methodSet (built : index.Buildable) {typeId name : String}
    (inSet : name ∈ index.methodSet typeId) : Go.isName name = true := by
  obtain ⟨inner, own⟩ := exists_hasOwn_of_mem_methodSet inSet
  rcases hasOwn_iff.mp own with
    ⟨type, -, -, methodId, method, stored, -, -, rfl⟩ | ⟨type, found, -, declared⟩
  · exact (built.namesOnly.methods stored).2.name
  · exact built.namesMembers.declared found name declared

/-- Every own method of a type is indexed under the type's identifier. -/
theorem Buildable.contains_of_hasOwn (built : index.Buildable) {typeId name : String}
    (own : index.HasOwn typeId name) : index.methods.contains (memberId typeId name) = true := by
  have names := built.namesOnly
  rcases hasOwn_iff.mp own with
    ⟨type, found, -, methodId, method, stored, package, receiver, rfl⟩ | ⟨type, found, -, declared⟩
  · obtain ⟨rfl, -⟩ := names.types found
    obtain ⟨rfl, -⟩ := names.methods stored
    have same : memberId type.id method.name = method.id := by
      rw [MethodSymbol.id, MethodSymbol.receiverTypeId, TypeSymbol.id, package, receiver]
    rw [same]
    exact Table.contains_iff.mpr ⟨method, stored⟩
  · obtain ⟨rfl, -⟩ := names.types found
    exact built.dispatches.declared found name declared

end GoAtlas.Index
