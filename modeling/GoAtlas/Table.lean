/-!
Tables keyed by identifiers. Their entries stand in the order of the keys, which for strings is the
order of their UTF-8 bytes, so every scan meets them in that order and two tables that answer all
look-ups alike are equal.
-/

namespace GoAtlas

/-- Every entry's key comes before those of the entries after it. -/
def SortedByKey {Value : Type} (entries : List (String × Value)) : Prop :=
  entries.Pairwise fun earlier later => earlier.1 < later.1

/-- Replaces the value under a key, or puts a new entry where the order wants it. -/
def insertEntry {Value : Type} (key : String) (value : Value) :
    List (String × Value) → List (String × Value)
  | [] => [(key, value)]
  | entry :: rest =>
      if key < entry.1 then (key, value) :: entry :: rest
      else if key = entry.1 then (key, value) :: rest
      else entry :: insertEntry key value rest

/-- The value under a key. -/
def lookupValue? {Value : Type} (key : String) : List (String × Value) → Option Value
  | [] => none
  | entry :: rest => if entry.1 = key then some entry.2 else lookupValue? key rest

theorem fst_mem_insertEntry {Value : Type} {key : String} {value : Value}
    {entries : List (String × Value)} {entry : String × Value}
    (member : entry ∈ insertEntry key value entries) :
    entry.1 = key ∨ ∃ old ∈ entries, old.1 = entry.1 := by
  induction entries with
  | nil => simp_all [insertEntry]
  | cons first rest inductionHypothesis =>
      unfold insertEntry at member
      split at member
      · rcases List.mem_cons.mp member with rfl | old
        · exact .inl rfl
        · exact .inr ⟨entry, old, rfl⟩
      · split at member
        · rcases List.mem_cons.mp member with rfl | old
          · exact .inl rfl
          · exact .inr ⟨entry, List.mem_cons_of_mem _ old, rfl⟩
        · rcases List.mem_cons.mp member with rfl | inserted
          · exact .inr ⟨entry, List.mem_cons_self, rfl⟩
          · rcases inductionHypothesis inserted with same | ⟨old, oldMember, same⟩
            · exact .inl same
            · exact .inr ⟨old, List.mem_cons_of_mem _ oldMember, same⟩

theorem SortedByKey.insertEntry {Value : Type} {entries : List (String × Value)}
    (sorted : SortedByKey entries) (key : String) (value : Value) :
    SortedByKey (insertEntry key value entries) := by
  induction entries with
  | nil => simp [SortedByKey, GoAtlas.insertEntry]
  | cons first rest inductionHypothesis =>
      obtain ⟨first_lt, restSorted⟩ := List.pairwise_cons.mp sorted
      unfold GoAtlas.insertEntry
      split
      · rename_i key_lt
        refine List.pairwise_cons.mpr ⟨?_, sorted⟩
        intro entry member
        rcases List.mem_cons.mp member with rfl | later
        · exact key_lt
        · exact String.lt_trans key_lt (first_lt entry later)
      · split
        · rename_i same
          exact List.pairwise_cons.mpr ⟨fun entry member => same ▸ first_lt entry member,
            restSorted⟩
        · rename_i not_lt not_same
          refine List.pairwise_cons.mpr ⟨?_, inductionHypothesis restSorted⟩
          intro entry member
          rcases fst_mem_insertEntry member with same | ⟨old, oldMember, same⟩
          · rw [same]
            exact Std.lt_of_le_of_ne not_lt (Ne.symm not_same)
          · exact same ▸ first_lt old oldMember

/-- A table from identifiers to values. -/
structure Table (Value : Type) where
  entries : List (String × Value)
  sorted : SortedByKey entries

namespace Table

variable {Value : Type}

def empty : Table Value := ⟨[], List.Pairwise.nil⟩

/-- Sets the value under a key. -/
def insert (table : Table Value) (key : String) (value : Value) : Table Value :=
  ⟨insertEntry key value table.entries, table.sorted.insertEntry key value⟩

def get? (table : Table Value) (key : String) : Option Value :=
  lookupValue? key table.entries

def contains (table : Table Value) (key : String) : Bool :=
  (table.get? key).isSome

/-- The keys in their order. -/
def keys (table : Table Value) : List String :=
  table.entries.map (·.1)

/-- The values in the order of their keys. -/
def values (table : Table Value) : List Value :=
  table.entries.map (·.2)

def size (table : Table Value) : Nat :=
  table.entries.length

def isEmpty (table : Table Value) : Bool :=
  table.entries.isEmpty

/-- The first entry, in the order of the keys, that passes a test. -/
def find? (table : Table Value) (passes : String → Value → Bool) : Option (String × Value) :=
  table.entries.find? fun entry => passes entry.1 entry.2

/-- Applies a function to every value. -/
def mapValues {Result : Type} (table : Table Value) (change : Value → Result) : Table Result :=
  ⟨table.entries.map fun entry => (entry.1, change entry.2),
    List.pairwise_map.mpr (by exact table.sorted)⟩

instance : Inhabited (Table Value) := ⟨empty⟩

instance [Repr Value] : Repr (Table Value) := ⟨fun table => reprPrec table.entries⟩

@[simp]
theorem get?_empty (key : String) : (empty : Table Value).get? key = none := rfl

theorem lookupValue?_insertEntry (key other : String) (value : Value)
    (entries : List (String × Value)) :
    lookupValue? other (insertEntry key value entries) =
      if key = other then some value else lookupValue? other entries := by
  induction entries with
  | nil => simp [insertEntry, lookupValue?]
  | cons first rest inductionHypothesis =>
      unfold insertEntry
      split
      · rfl
      · split
        · rename_i same
          by_cases asked : key = other <;> simp [lookupValue?, ← same, asked]
        · rename_i different
          simp only [lookupValue?, inductionHypothesis]
          grind

/-- A look-up finds what was inserted last under its key. -/
@[simp]
theorem get?_insert (table : Table Value) (key other : String) (value : Value) :
    (table.insert key value).get? other = if key = other then some value else table.get? other :=
  lookupValue?_insertEntry key other value table.entries

theorem lookupValue?_eq_some_iff {key : String} {value : Value}
    {entries : List (String × Value)} (sorted : SortedByKey entries) :
    lookupValue? key entries = some value ↔ (key, value) ∈ entries := by
  induction entries with
  | nil => simp [lookupValue?]
  | cons first rest inductionHypothesis =>
      obtain ⟨first_lt, restSorted⟩ := List.pairwise_cons.mp sorted
      rw [lookupValue?, List.mem_cons]
      split
      · rename_i same
        constructor
        · intro found
          cases found
          exact .inl (Prod.ext same.symm rfl)
        · rintro (rfl | later)
          · rfl
          · have key_lt : first.1 < key := first_lt _ later
            rw [same] at key_lt
            exact absurd key_lt (String.lt_irrefl key)
      · rename_i different
        rw [inductionHypothesis restSorted]
        constructor
        · exact .inr
        · rintro (rfl | later)
          · exact absurd rfl different
          · exact later

/-- The look-ups of a table are its entries. -/
theorem get?_eq_some_iff {table : Table Value} {key : String} {value : Value} :
    table.get? key = some value ↔ (key, value) ∈ table.entries :=
  lookupValue?_eq_some_iff table.sorted

theorem mem_keys_of_lookupValue? {key : String} {value : Value}
    {entries : List (String × Value)} (found : lookupValue? key entries = some value) :
    key ∈ entries.map (·.1) := by
  induction entries with
  | nil => simp [lookupValue?] at found
  | cons first rest inductionHypothesis =>
      by_cases same : first.1 = key
      · simp [same]
      · exact List.mem_cons_of_mem _
          (inductionHypothesis (by simpa [lookupValue?, same] using found))

theorem mem_keys_of_get? {table : Table Value} {key : String} {value : Value}
    (found : table.get? key = some value) : key ∈ table.keys :=
  mem_keys_of_lookupValue? found

theorem contains_iff {table : Table Value} {key : String} :
    table.contains key = true ↔ ∃ value, table.get? key = some value :=
  Option.isSome_iff_exists

theorem contains_of_mem_entries {table : Table Value} {entry : String × Value}
    (member : entry ∈ table.entries) : table.contains entry.1 = true :=
  contains_iff.mpr ⟨entry.2, get?_eq_some_iff.mpr member⟩

theorem mem_keys_iff {table : Table Value} {key : String} :
    key ∈ table.keys ↔ table.contains key = true := by
  constructor
  · intro member
    obtain ⟨entry, entryMember, rfl⟩ := List.mem_map.mp member
    exact contains_of_mem_entries entryMember
  · intro contained
    obtain ⟨value, found⟩ := contains_iff.mp contained
    exact mem_keys_of_get? found

@[simp]
theorem contains_insert (table : Table Value) (key other : String) (value : Value) :
    (table.insert key value).contains other = (key == other || table.contains other) := by
  by_cases same : key = other <;> simp [contains, same]

end Table

end GoAtlas
