import GoAtlas.Indexing
import Mathlib.Data.List.Induction
import Mathlib.Data.List.Nodup
import Mathlib.Data.List.Perm.Basic

/-!
Tables as what they answer. A table is known by its look-ups, and its keys by which of them it has.
After values are inserted in turn, a look-up finds the last of them with the identifier.
-/

namespace GoAtlas

section Ordered

variable {Element : Type} {before : Element → Element → Prop}

/-- Lists in one strict order are equal once they have the same members. -/
theorem eq_of_ordered (asymmetric : ∀ first second, before first second → ¬before second first)
    {elements others : List Element} (ordered : elements.Pairwise before)
    (othersOrdered : others.Pairwise before)
    (same : ∀ element, element ∈ elements ↔ element ∈ others) : elements = others := by
  have distinct : ∀ {list : List Element}, list.Pairwise before → list.Nodup := by
    intro list listOrdered
    apply listOrdered.imp
    rintro first _ isBefore rfl
    exact asymmetric first first isBefore isBefore
  have permuted : elements.Perm others :=
    (List.perm_ext_iff_of_nodup (distinct ordered) (distinct othersOrdered)).mpr same
  refine permuted.eq_of_pairwise ?_ ordered othersOrdered
  intro first second _ _ isBefore isAfter
  exact absurd isAfter (asymmetric first second isBefore)

end Ordered

/-- Where keys are distinct, a search for the key of an element finds the element. -/
theorem find?_of_nodup_keys {Element Key : Type} [DecidableEq Key] {key : Element → Key}
    {elements : List Element} {element : Element} (distinct : (elements.map key).Nodup)
    (member : element ∈ elements) :
    elements.find? (fun other => key other == key element) = some element := by
  have isFound : (elements.find? fun other => key other == key element).isSome = true :=
    List.find?_isSome.mpr ⟨element, member, by simp⟩
  obtain ⟨found, firstFound⟩ := Option.isSome_iff_exists.mp isFound
  have same : key found = key element := by simpa using List.find?_some firstFound
  rw [firstFound, List.inj_on_of_nodup_map distinct (List.mem_of_find?_eq_some firstFound) member
    same]

section Entries

variable {Value : Type} {key : String} {value old : Value} {entries : List (String × Value)}

theorem perm_insertEntry_of_new (absent : lookupValue? key entries = none) :
    (insertEntry key value entries).Perm ((key, value) :: entries) := by
  induction entries with
  | nil => exact List.Perm.refl _
  | cons first rest inductionHypothesis =>
      rw [lookupValue?] at absent
      split at absent
      · cases absent
      · rename_i different
        unfold insertEntry
        split
        · exact List.Perm.refl _
        · rw [if_neg (Ne.symm different)]
          exact ((inductionHypothesis absent).cons first).trans (List.Perm.swap ..)

theorem perm_insertEntry_of_old (sorted : SortedByKey entries)
    (found : lookupValue? key entries = some old) :
    ((key, old) :: insertEntry key value entries).Perm ((key, value) :: entries) := by
  induction entries with
  | nil => cases found
  | cons first rest inductionHypothesis =>
      obtain ⟨first_lt, restSorted⟩ := List.pairwise_cons.mp sorted
      rw [lookupValue?] at found
      split at found
      · rename_i same
        cases found
        rw [insertEntry, if_neg (same ▸ String.lt_irrefl _), if_pos same.symm, ← same]
        exact List.Perm.swap ..
      · rename_i different
        have later : first.1 < key :=
          first_lt (key, old) ((Table.lookupValue?_eq_some_iff restSorted).mp found)
        rw [insertEntry, if_neg (String.lt_asymm later), if_neg (Ne.symm different)]
        have moved := (inductionHypothesis restSorted found).cons first
        exact ((List.Perm.swap ..).trans moved).trans (List.Perm.swap ..)

end Entries

namespace Table

variable {Value : Type} {table other : Table Value} {key : String} {old : Value}

theorem eq_of_get? (same : ∀ key, table.get? key = other.get? key) : table = other := by
  have entries : table.entries = other.entries := by
    refine eq_of_ordered (fun _ _ => String.lt_asymm) table.sorted other.sorted ?_
    rintro ⟨key, value⟩
    rw [← get?_eq_some_iff, ← get?_eq_some_iff, same key]
  cases table
  cases other
  cases entries
  rfl

theorem keys_ordered (table : Table Value) : table.keys.Pairwise (· < ·) :=
  List.pairwise_map.mpr (by exact table.sorted)

theorem nodup_keys (table : Table Value) : table.keys.Nodup :=
  table.keys_ordered.imp fun isBefore => Std.ne_of_lt isBefore

theorem keys_eq_of_contains (same : ∀ key, table.contains key = other.contains key) :
    table.keys = other.keys := by
  refine eq_of_ordered (fun _ _ => String.lt_asymm) table.keys_ordered other.keys_ordered ?_
  intro key
  rw [mem_keys_iff, mem_keys_iff, same key]

theorem contains_eq_of_keys {Other : Type} {other : Table Other} (same : table.keys = other.keys)
    (key : String) : table.contains key = other.contains key := by
  rw [Bool.eq_iff_iff, ← mem_keys_iff, ← mem_keys_iff, same]

theorem disjoint_keys {Other : Type} {other : Table Other}
    (apart : ∀ {key value otherValue}, table.get? key = some value →
      other.get? key = some otherValue → False) : table.keys.Disjoint other.keys := by
  intro key member otherMember
  obtain ⟨value, found⟩ := contains_iff.mp (mem_keys_iff.mp member)
  obtain ⟨otherValue, otherFound⟩ := contains_iff.mp (mem_keys_iff.mp otherMember)
  exact apart found otherFound

/-! ### Sizes -/

theorem values_insert_of_new (absent : table.get? key = none) (value : Value) :
    (table.insert key value).values.Perm (value :: table.values) :=
  (perm_insertEntry_of_new absent).map Prod.snd

/-- A value that is inserted takes the place of the one under its key. -/
theorem values_insert_of_old (found : table.get? key = some old) (value : Value) :
    (old :: (table.insert key value).values).Perm (value :: table.values) :=
  (perm_insertEntry_of_old table.sorted found).map Prod.snd

theorem length_values (table : Table Value) : table.values.length = table.size := by
  simp [values, size]

theorem size_insert (table : Table Value) (key : String) (value : Value) :
    (table.insert key value).size = table.size + (!table.contains key).toNat := by
  rw [← length_values, ← length_values, contains]
  cases found : table.get? key with
  | none => simpa using (values_insert_of_new found value).length_eq
  | some old => simpa using (values_insert_of_old found value).length_eq

end Table

/-! ### The last value with an identifier -/

section LastWith

variable {Value : Type} (id : Value → String) (key : String)

/-- The last of some values that has an identifier. -/
def lastWith? (values : List Value) : Option Value :=
  values.reverse.find? fun value => id value == key

variable {id key}

@[simp] theorem lastWith?_nil : lastWith? id key [] = none := rfl

theorem lastWith?_append (values others : List Value) :
    lastWith? id key (values ++ others) =
      (lastWith? id key others).or (lastWith? id key values) := by
  simp [lastWith?, List.find?_append]

theorem lastWith?_flatMap {Source : Type} (sources : List Source)
    (valuesOf : Source → List Value) : lastWith? id key (sources.flatMap valuesOf) =
      sources.reverse.findSome? fun source => lastWith? id key (valuesOf source) := by
  induction sources with
  | nil => rfl
  | cons first rest inductionHypothesis =>
      rw [List.flatMap_cons, lastWith?_append, inductionHypothesis, List.reverse_cons,
        List.findSome?_append, List.findSome?_singleton]

theorem lastWith?_singleton (value : Value) :
    lastWith? id key [value] = if id value = key then some value else none := by
  by_cases same : id value = key <;> simp [lastWith?, same]

theorem mem_of_lastWith? {values : List Value} {value : Value}
    (found : lastWith? id key values = some value) : value ∈ values ∧ id value = key := by
  have member := List.mem_of_find?_eq_some found
  exact ⟨List.mem_reverse.mp member, by simpa using List.find?_some found⟩

theorem isSome_lastWith?_iff {values : List Value} :
    (lastWith? id key values).isSome = true ↔ key ∈ values.map id := by
  simp [lastWith?]

/-- Where no identifier is borne twice, any value with the identifier is the last one. -/
theorem lastWith?_eq_some_iff {values : List Value} (distinct : (values.map id).Nodup)
    {value : Value} : lastWith? id key values = some value ↔ value ∈ values ∧ id value = key := by
  constructor
  · exact mem_of_lastWith?
  · rintro ⟨member, rfl⟩
    have reversed : (values.reverse.map id).Nodup := by
      rwa [List.map_reverse, List.nodup_reverse]
    exact find?_of_nodup_keys reversed (List.mem_reverse.mpr member)

theorem lastWith?_of_perm {values others : List Value} (permuted : values.Perm others)
    (distinct : (values.map id).Nodup) : lastWith? id key others = lastWith? id key values := by
  have othersDistinct : (others.map id).Nodup := (permuted.map id).nodup_iff.mp distinct
  apply Option.ext
  intro value
  rw [lastWith?_eq_some_iff distinct, lastWith?_eq_some_iff othersDistinct, permuted.mem_iff]

theorem Index.insertAll_append (table : Table Value) (values others : List Value) :
    insertAll id table (values ++ others) = insertAll id (insertAll id table values) others :=
  List.foldl_append

theorem Index.lookup_insertAll (table : Table Value) (values : List Value) :
    (Index.insertAll id table values).get? key = (lastWith? id key values).or (table.get? key) := by
  induction values generalizing table with
  | nil => rfl
  | cons first rest inductionHypothesis =>
      have insertedFirst : Index.insertAll id table (first :: rest) =
          Index.insertAll id (table.insert (id first) first) rest := rfl
      rw [insertedFirst, inductionHypothesis, Table.get?_insert, ← List.singleton_append,
        lastWith?_append, lastWith?_singleton]
      by_cases same : id first = key <;> simp [same]

theorem Index.contains_insertAll {table : Table Value} {values : List Value} :
    (Index.insertAll id table values).contains key = true ↔
      key ∈ values.map id ∨ table.contains key = true := by
  simp [Table.contains, lookup_insertAll, isSome_lastWith?_iff]

theorem Index.mem_keys_insertAll {values : List Value} :
    key ∈ (Index.insertAll id .empty values).keys ↔ key ∈ values.map id := by
  rw [Table.mem_keys_iff, contains_insertAll]
  exact or_iff_left Bool.false_ne_true

theorem Index.values_insertAll {values : List Value} (distinct : (values.map id).Nodup) :
    (Index.insertAll id .empty values).values.Perm values := by
  induction values using List.reverseRecOn with
  | nil => exact List.Perm.refl _
  | append_singleton before last inductionHypothesis =>
      rw [List.map_append, List.nodup_append] at distinct
      obtain ⟨beforeDistinct, -, apart⟩ := distinct
      have absent : (Index.insertAll id .empty before).get? (id last) = none := by
        rw [← Option.not_isSome_iff_eq_none]
        intro contained
        have known := mem_keys_insertAll.mp (Table.mem_keys_iff.mpr contained)
        exact apart _ known _ (List.mem_map_of_mem List.mem_cons_self) rfl
      rw [insertAll_append]
      exact (Table.values_insert_of_new absent last).trans
        (((inductionHypothesis beforeDistinct).cons last).trans
          (List.perm_append_singleton last before).symm)

/-- Only values with identifiers of their own are all held. -/
theorem Index.nodup_of_length {values : List Value}
    (allHeld : (Index.insertAll id .empty values).values.length = values.length) :
    (values.map id).Nodup := by
  have subset : (Index.insertAll id .empty values).keys ⊆ values.map id :=
    fun _ member => mem_keys_insertAll.mp member
  have asMany : (Index.insertAll id .empty values).keys.length = (values.map id).length := by
    rw [List.length_map, ← allHeld, Table.keys, Table.values, List.length_map, List.length_map]
  have permuted := (List.subperm_of_subset (Table.nodup_keys _) subset).perm_of_length_le
    (Nat.le_of_eq asMany.symm)
  exact permuted.nodup_iff.mp (Table.nodup_keys _)

theorem Index.mem_or_get?_of_insertAll {table : Table Value} {values : List Value} {value : Value}
    (found : (Index.insertAll id table values).get? key = some value) :
    value ∈ values ∨ table.get? key = some value := by
  rw [lookup_insertAll] at found
  rcases Option.or_eq_some_iff.mp found with inserted | ⟨-, before⟩
  · exact .inl (mem_of_lastWith? inserted).1
  · exact .inr before

end LastWith

end GoAtlas
