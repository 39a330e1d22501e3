import GoAtlas.Proofs.Index.Tables
import GoAtlas.Proofs.Resolver.NestedSearches
import GoAtlas.Proofs.Resolver.Promotion

/-!
Which structures implement an interface. An interface asks for the methods that it declares and for
those of every interface that it extends, over however many embeddings; a structure offers its own
methods and all that it inherits. Embeddings may lead back to where they began: the search enters
every type at most once, and still meets all that can be reached.
-/

namespace GoAtlas.Index

variable {index : Index} {outer inner typeId interfaceId structId name : String}

/-! ### What types inherit -/

def HasKind (index : Index) (typeId : String) (kind : TypeKind) : Prop :=
  ∃ type, index.types.get? typeId = some type ∧ type.kind = kind

/-- An interface extends the interfaces that it embeds. -/
def Extends (index : Index) (outer inner : String) : Prop :=
  index.Embeds outer inner ∧ index.HasKind outer .interface ∧ index.HasKind inner .interface

/-- A structure inherits from the structures and the interfaces that it embeds, an interface from
those that it extends, and nothing from types of other kinds. -/
def Inherits (index : Index) (outer inner : String) : Prop :=
  index.Extends outer inner ∨
    index.Embeds outer inner ∧ index.HasKind outer .struct ∧
      (index.HasKind inner .struct ∨ index.HasKind inner .interface)

/-- What it takes to implement an interface. -/
def Requires (index : Index) (interfaceId name : String) : Prop :=
  ∃ inner, Relation.ReflTransGen index.Extends interfaceId inner ∧ index.Declares inner name

/-- What a type has to offer. -/
def Provides (index : Index) (typeId name : String) : Prop :=
  ∃ inner, Relation.ReflTransGen index.Inherits typeId inner ∧
    (index.HasMethod inner name ∨ index.Declares inner name)

theorem HasKind.kind_eq {kind : TypeKind} {type : TypeSymbol} (hasKind : index.HasKind typeId kind)
    (found : index.types.get? typeId = some type) : type.kind = kind := by
  obtain ⟨own, ownFound, rfl⟩ := hasKind
  rw [found] at ownFound
  cases ownFound
  rfl

theorem HasKind.unique {first second : TypeKind} (isFirst : index.HasKind typeId first)
    (isSecond : index.HasKind typeId second) : first = second := by
  obtain ⟨type, found, rfl⟩ := isFirst
  exact isSecond.kind_eq found

theorem getsFrom_iff_inherits : index.GetsFrom outer inner ↔ index.Inherits outer inner := by
  constructor
  · rintro ⟨type, found, source⟩
    obtain ⟨embedded, innerType, innerFound, passes⟩ := mem_methodSources_iff.mp source
    have embeds : index.Embeds outer inner := ⟨type, found, embedded⟩
    rcases passes with ⟨isStruct, innerKind⟩ | ⟨isInterface, innerKind⟩
    · refine .inr ⟨embeds, ⟨type, found, isStruct⟩, ?_⟩
      exact innerKind.imp (⟨innerType, innerFound, ·⟩) (⟨innerType, innerFound, ·⟩)
    · exact .inl ⟨embeds, ⟨type, found, isInterface⟩, innerType, innerFound, innerKind⟩
  · rintro (⟨⟨type, found, embedded⟩, outerKind, innerKind⟩ |
        ⟨⟨type, found, embedded⟩, outerKind, innerKind⟩) <;>
      refine ⟨type, found, mem_methodSources_iff.mpr ⟨embedded, ?_⟩⟩
    · obtain ⟨innerType, innerFound, innerKind⟩ := innerKind
      exact ⟨innerType, innerFound, .inr ⟨outerKind.kind_eq found, innerKind⟩⟩
    · rcases innerKind with ⟨innerType, innerFound, innerKind⟩ | ⟨innerType, innerFound, innerKind⟩
      · exact ⟨innerType, innerFound, .inl ⟨outerKind.kind_eq found, .inl innerKind⟩⟩
      · exact ⟨innerType, innerFound, .inl ⟨outerKind.kind_eq found, .inr innerKind⟩⟩

/-! ### Method sets of structures and of interfaces -/

theorem mem_methodSet_iff_provides (indexed : (index.types.get? typeId).isSome = true) :
    name ∈ index.methodSet typeId ↔ index.Provides typeId name := by
  have same : index.GetsFrom = index.Inherits := by
    funext outer inner
    exact propext getsFrom_iff_inherits
  rw [mem_methodSet_iff indexed, same]
  exact exists_congr fun inner => and_congr_right fun _ => hasOwn_iff

theorem Inherits.extends (inherits : index.Inherits outer inner)
    (isInterface : index.HasKind outer .interface) : index.Extends outer inner := by
  rcases inherits with extended | ⟨-, isStruct, -⟩
  · exact extended
  · cases isInterface.unique isStruct

/-- An interface inherits from those that it extends and from nothing else, and these are interfaces
again. -/
theorem extends_of_inherits (isInterface : index.HasKind interfaceId .interface)
    (path : Relation.ReflTransGen index.Inherits interfaceId inner) :
    Relation.ReflTransGen index.Extends interfaceId inner ∧ index.HasKind inner .interface := by
  induction path with
  | refl => exact ⟨.refl, isInterface⟩
  | tail _ last inductionHypothesis =>
      obtain ⟨before, middle⟩ := inductionHypothesis
      have extended := last.extends middle
      exact ⟨before.tail extended, extended.2.2⟩

theorem provides_iff_requires (isInterface : index.HasKind interfaceId .interface) :
    index.Provides interfaceId name ↔ index.Requires interfaceId name := by
  constructor
  · rintro ⟨inner, path, own⟩
    obtain ⟨extended, innerInterface⟩ := extends_of_inherits isInterface path
    refine ⟨inner, extended, ?_⟩
    rcases own with ⟨type, found, isStruct, -⟩ | declared
    · cases innerInterface.unique ⟨type, found, isStruct⟩
    · exact declared
  · rintro ⟨inner, path, declared⟩
    have inherits : index.Extends ≤ index.Inherits := fun _ _ => Or.inl
    exact ⟨inner, Relation.ReflTransGen.mono inherits _ _ path, .inr declared⟩

/-! ### The search -/

/-- No type is entered twice. -/
theorem nodup_gather (pending seen : List String) (distinct : seen.Nodup) :
    (index.gather pending seen).Nodup := by
  apply gather_induction List.Nodup _ pending seen distinct
  intro seen id type fresh _ distinct
  exact List.nodup_cons.mpr ⟨fresh, distinct⟩

/-- Only indexed types are entered. -/
theorem gather_subset (pending seen : List String) (indexed : seen ⊆ index.types.keys) :
    index.gather pending seen ⊆ index.types.keys := by
  apply gather_induction (· ⊆ index.types.keys) _ pending seen indexed
  intro seen id type _ found indexed
  exact List.cons_subset.mpr ⟨Table.mem_keys_of_get? found, indexed⟩

theorem length_gather_le (typeId : String) :
    (index.gather [typeId] []).length ≤ index.types.size := by
  have distinct : (index.gather [typeId] []).Nodup := nodup_gather [typeId] [] List.nodup_nil
  have subset : index.gather [typeId] [] ⊆ index.types.keys :=
    gather_subset [typeId] [] (List.nil_subset _)
  calc (index.gather [typeId] []).length ≤ index.types.keys.length :=
        (List.subperm_of_subset distinct subset).length_le
    _ = index.types.size := by simp [Table.keys, Table.size]

/-! ### Implementations -/

theorem any_isInterface_iff :
    (index.types.get? interfaceId).any (·.isInterface) = true ↔
      index.HasKind interfaceId .interface := by
  simp [HasKind, TypeSymbol.isInterface, Option.any_eq_true]

theorem implementationsByMethodSet_eq_nil (other : ¬index.HasKind interfaceId .interface) :
    index.implementationsByMethodSet interfaceId = [] := by
  rw [implementationsByMethodSet, if_neg (mt any_isInterface_iff.mp other)]

theorem ordered_implementationsByMethodSet (index : Index) (interfaceId : String) :
    (index.implementationsByMethodSet interfaceId).Pairwise (· < ·) := by
  unfold implementationsByMethodSet
  split
  · exact index.types.keys_ordered.sublist (List.filter_sublist.map _)
  · exact List.Pairwise.nil

/-- The method sets are compared as the lists that the searches for them give. -/
theorem mem_implementationsByMethodSet_iff (isInterface : index.HasKind interfaceId .interface) :
    structId ∈ index.implementationsByMethodSet interfaceId ↔ index.HasKind structId .struct ∧
      ∀ name, index.Requires interfaceId name → index.Provides structId name := by
  have required : ∀ name, name ∈ index.methodSet interfaceId ↔ index.Requires interfaceId name := by
    intro name
    rw [← provides_iff_requires isInterface]
    obtain ⟨type, found, -⟩ := isInterface
    exact mem_methodSet_iff_provides (by simp [found])
  rw [implementationsByMethodSet, if_pos (any_isInterface_iff.mpr isInterface)]
  simp only [List.mem_map, List.mem_filter, Bool.and_eq_true, beq_iff_eq, List.all_eq_true,
    List.contains_iff_mem, required, Prod.exists]
  constructor
  · rintro ⟨_, type, ⟨entry, isStruct, covered⟩, rfl⟩
    have found := Table.get?_eq_some_iff.mpr entry
    refine ⟨⟨type, found, isStruct⟩, fun name isRequired => ?_⟩
    exact (mem_methodSet_iff_provides (by simp [found])).mp (covered name isRequired)
  · rintro ⟨⟨type, found, isStruct⟩, covered⟩
    refine ⟨structId, type, ⟨Table.get?_eq_some_iff.mp found, isStruct, fun name isRequired => ?_⟩,
      rfl⟩
    exact (mem_methodSet_iff_provides (by simp [found])).mpr (covered name isRequired)

/-- The implementations of an interface, in the order of their identifiers, are the structures that
provide every method which the interface requires; nothing else has implementations. However the
types embed one another, the search behind a method set enters no type twice, and as searches that
are nested in one another it comes to an end. -/
theorem implementations_eq_closure (index : Index) (interfaceId : String) :
    (¬index.HasKind interfaceId .interface →
      index.implementationsByMethodSet interfaceId = []) ∧
    (index.HasKind interfaceId .interface →
      (index.implementationsByMethodSet interfaceId).Pairwise (· < ·) ∧
      ∀ structId, structId ∈ index.implementationsByMethodSet interfaceId ↔
        index.HasKind structId .struct ∧
          ∀ name, index.Requires interfaceId name → index.Provides structId name) ∧
    (∀ typeId, (index.gather [typeId] []).Nodup ∧
      (index.gather [typeId] []).length ≤ index.types.size) ∧
    (index.Buildable → ∀ nesting, index.types.size < nesting → index.SearchesMethods nesting) :=
  ⟨implementationsByMethodSet_eq_nil,
    fun isInterface => ⟨index.ordered_implementationsByMethodSet interfaceId,
      fun _ => mem_implementationsByMethodSet_iff isInterface⟩,
    fun typeId => ⟨nodup_gather [typeId] [] List.nodup_nil, length_gather_le typeId⟩,
    fun built _ enough => built.namesOnly.searchesMethods enough⟩

end GoAtlas.Index
