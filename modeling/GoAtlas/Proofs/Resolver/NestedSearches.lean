import GoAtlas.Proofs.Resolver.MethodSets

/-!
Searches for methods that are nested in one another. The search in a type goes on in the types that
it embeds, one after the other, and all of these searches share what has been met; so what is left
for one of them depends on those before it. With a bound on how deep searches are nested, a search
is a computation that may fail. It never does, since every nested search enters a type that was not
met before, and it comes to the same as following pending types.
-/

namespace GoAtlas

/-- The names of methods and the types that a search has met, the last ones first. -/
structure MethodSearch where
  names : List String
  seen : List String

namespace MethodSearch

def start : MethodSearch := ⟨[], []⟩

def enter (search : MethodSearch) (type : TypeSymbol) (names : List String) : MethodSearch :=
  ⟨names ++ search.names, type.id :: search.seen⟩

end MethodSearch

namespace Index

/-- The indexed type that a type embeds under a written name. -/
def embedded? (index : Index) (type : TypeSymbol) (embed : String) : Option TypeSymbol := do
  index.types.get? (← index.typeOfEmbed? embed type.package)

/-- Enters a type that has not been met, and goes on in those that it embeds, one after the
other. -/
def searchType (index : Index) (goOn : TypeSymbol → MethodSearch → Option MethodSearch)
    (names : List String) (type : TypeSymbol) (search : MethodSearch) : Option MethodSearch :=
  if search.seen.contains type.id then some search
  else
    type.embeds.foldlM (fun search embed =>
        match index.embedded? type embed with
        | some inner => goOn inner search
        | none => some search)
      (search.enter type names)

/-- The search in an interface goes on in the interfaces that it embeds. -/
def searchInterface (index : Index) (nesting : Nat) (type : TypeSymbol) :
    MethodSearch → Option MethodSearch :=
  match nesting with
  | 0 => fun _ => none
  | nesting + 1 =>
      index.searchType (fun inner search =>
          if inner.isInterface then index.searchInterface nesting inner search else some search)
        type.methods type

/-- The search in a structure goes on in the structures and the interfaces that it embeds. -/
def searchStruct (index : Index) (nesting : Nat) (type : TypeSymbol) :
    MethodSearch → Option MethodSearch :=
  match nesting with
  | 0 => fun _ => none
  | nesting + 1 =>
      index.searchType (fun inner search =>
          match inner.kind with
          | .struct => index.searchStruct nesting inner search
          | .interface => index.searchInterface nesting inner search
          | .other => some search)
        (index.methodsOn type) type

variable {index : Index} {type : TypeSymbol} {id : String} {pending seen : List String}
  {nesting : Nat}

/-! ### Pending types -/

/-- What every type that is entered keeps true holds of all that are gathered. -/
theorem gather_induction (holds : List String → Prop)
    (enter : ∀ {seen id type}, id ∉ seen → index.types.get? id = some type → holds seen →
      holds (id :: seen))
    (pending seen : List String) (start : holds seen) : holds (index.gather pending seen) := by
  induction pending, seen using Index.gather.induct index with
  | case1 seen =>
      rw [gather]
      exact start
  | case2 seen first rest known inductionHypothesis =>
      rw [gather_of_known known]
      exact inductionHypothesis start
  | case3 seen first rest fresh missing inductionHypothesis =>
      rw [gather_of_missing fresh missing]
      exact inductionHypothesis start
  | case4 seen first rest fresh type found inductionHypothesis =>
      rw [gather_of_found fresh found]
      exact inductionHypothesis (enter (by simpa using fresh) found start)

/-- Pending types are followed one after the other. -/
theorem gather_append (first second seen : List String) :
    index.gather (first ++ second) seen = index.gather second (index.gather first seen) := by
  induction first, seen using Index.gather.induct index with
  | case1 seen => rw [List.nil_append, gather]
  | case2 seen id rest known inductionHypothesis =>
      rw [List.cons_append, gather_of_known known, inductionHypothesis, gather_of_known known]
  | case3 seen id rest fresh missing inductionHypothesis =>
      rw [List.cons_append, gather_of_missing fresh missing, inductionHypothesis,
        gather_of_missing fresh missing]
  | case4 seen id rest fresh type found inductionHypothesis =>
      rw [List.cons_append, gather_of_found fresh found, ← List.append_assoc, inductionHypothesis,
        gather_of_found fresh found]

/-- The indexed types that have not been met. -/
def unmet (index : Index) (seen : List String) : Nat :=
  (unseen index.types.keys seen).length

theorem unmet_gather_le (index : Index) (pending seen : List String) :
    index.unmet (index.gather pending seen) ≤ index.unmet seen := by
  refine gather_induction (fun met => index.unmet met ≤ index.unmet seen) ?_ pending seen
    (Nat.le_refl _)
  intro met id type _ _ fewer
  exact Nat.le_trans (unseen_cons_length_le _ _ _) fewer

/-! ### Nested searches come to an end -/

/-- The names of the methods that the type of an identifier has by itself. -/
def namesOf (index : Index) (id : String) : List String :=
  match index.types.get? id with
  | some type => index.ownMethods type
  | none => []

/-- A search that has met these types. -/
def searchAt (index : Index) (seen : List String) : MethodSearch :=
  ⟨seen.flatMap index.namesOf, seen⟩

@[simp]
theorem searchAt_seen (seen : List String) : (index.searchAt seen).seen = seen := rfl

theorem enter_searchAt (names : index.NamesOnly) (found : index.types.get? id = some type)
    (seen : List String) :
    (index.searchAt seen).enter type (index.ownMethods type) = index.searchAt (id :: seen) := by
  simp [MethodSearch.enter, searchAt, namesOf, found, (names.types found).1]

/-- Following the written names of embedded types comes to following the sources of methods, if
going on under each of the names does. -/
theorem foldlM_embeds {goOn : MethodSearch → String → Option MethodSearch} (embeds : List String)
    (each : ∀ embed seen, index.unmet seen < nesting → goOn (index.searchAt seen) embed =
      some (index.searchAt (index.gather (index.methodSource? type embed).toList seen)))
    (enough : index.unmet seen < nesting) :
    embeds.foldlM goOn (index.searchAt seen) =
      some (index.searchAt (index.gather (embeds.filterMap (index.methodSource? type)) seen)) := by
  induction embeds generalizing seen with
  | nil =>
      rw [List.filterMap_nil, gather]
      rfl
  | cons embed rest inductionHypothesis =>
      have sources : (embed :: rest).filterMap (index.methodSource? type) =
          (index.methodSource? type embed).toList ++
            rest.filterMap (index.methodSource? type) := by
        cases source : index.methodSource? type embed <;> simp [source]
      rw [List.foldlM_cons, each embed seen enough, sources, gather_append]
      exact inductionHypothesis (Nat.lt_of_le_of_lt (index.unmet_gather_le _ seen) enough)

/-- A search comes to following a pending type, if going on in what the type embeds does so for the
types from which it gets methods, and leaves the others alone. One type less may be unmet then. -/
theorem searchType_eq {goOn : TypeSymbol → MethodSearch → Option MethodSearch}
    (names : index.NamesOnly) (found : index.types.get? id = some type)
    (each : ∀ embed inner innerType seen, index.typeOfEmbed? embed type.package = some inner →
      index.types.get? inner = some innerType → index.unmet seen < nesting →
        goOn innerType (index.searchAt seen) =
          some (index.searchAt (index.gather (index.methodSource? type embed).toList seen)))
    (enough : index.unmet seen < nesting + 1) :
    index.searchType goOn (index.ownMethods type) type (index.searchAt seen) =
      some (index.searchAt (index.gather [id] seen)) := by
  rw [searchType, (names.types found).1, searchAt_seen]
  by_cases known : seen.contains id = true
  · rw [if_pos known, gather_of_known known, gather]
  have fewer : index.unmet (id :: seen) < nesting :=
    Nat.lt_of_lt_of_le
      (unseen_cons_length_lt (Table.mem_keys_of_get? found) (by simpa using known))
      (Nat.le_of_lt_succ enough)
  rw [if_neg known, gather_of_found known found, List.append_nil, enter_searchAt names found]
  refine foldlM_embeds type.embeds (fun embed seen few => ?_) fewer
  rw [embedded?]
  cases embedded : index.typeOfEmbed? embed type.package with
  | none => simp [methodSource?, embedded, gather]
  | some inner =>
      cases innerFound : index.types.get? inner with
      | none => simp [methodSource?, embedded, innerFound, gather]
      | some innerType =>
          simpa [innerFound] using each embed inner innerType seen embedded innerFound few

theorem searchInterface_eq (names : index.NamesOnly) (found : index.types.get? id = some type)
    (isInterface : type.kind = .interface) (enough : index.unmet seen < nesting) :
    index.searchInterface nesting type (index.searchAt seen) =
      some (index.searchAt (index.gather [id] seen)) := by
  induction nesting generalizing id type seen with
  | zero => exact absurd enough (Nat.not_lt_zero _)
  | succ nesting inductionHypothesis =>
      have own : type.methods = index.ownMethods type := by rw [ownMethods, isInterface]
      rw [searchInterface, own]
      refine searchType_eq names found ?_ enough
      intro embed inner innerType seen embedded innerFound few
      rw [methodSource?, embedded, isInterface]
      cases innerKind : innerType.kind with
      | interface =>
          simpa [innerFound, innerKind, TypeSymbol.isInterface] using
            inductionHypothesis innerFound innerKind few
      | struct => simp [innerFound, innerKind, TypeSymbol.isInterface, gather]
      | other => simp [innerFound, innerKind, TypeSymbol.isInterface, gather]

theorem searchStruct_eq (names : index.NamesOnly) (found : index.types.get? id = some type)
    (isStruct : type.kind = .struct) (enough : index.unmet seen < nesting) :
    index.searchStruct nesting type (index.searchAt seen) =
      some (index.searchAt (index.gather [id] seen)) := by
  induction nesting generalizing id type seen with
  | zero => exact absurd enough (Nat.not_lt_zero _)
  | succ nesting inductionHypothesis =>
      have own : index.methodsOn type = index.ownMethods type := by rw [ownMethods, isStruct]
      rw [searchStruct, own]
      refine searchType_eq names found ?_ enough
      intro embed inner innerType seen embedded innerFound few
      rw [methodSource?, embedded, isStruct]
      cases innerKind : innerType.kind with
      | struct => simpa [innerFound, innerKind] using inductionHypothesis innerFound innerKind few
      | interface =>
          simpa [innerFound, innerKind] using searchInterface_eq names innerFound innerKind few
      | other => simp [innerFound, innerKind, gather]

/-- Nested searches come to an end, with the method sets of the types in which they begin. -/
structure SearchesMethods (index : Index) (nesting : Nat) : Prop where
  interface : ∀ {id type}, index.types.get? id = some type → type.kind = .interface →
    index.searchInterface nesting type .start = some ⟨index.methodSet id, index.gather [id] []⟩
  struct : ∀ {id type}, index.types.get? id = some type → type.kind = .struct →
    index.searchStruct nesting type .start = some ⟨index.methodSet id, index.gather [id] []⟩

/-- However types embed one another, searches are nested no deeper than there are types and one
more. -/
theorem NamesOnly.searchesMethods (names : index.NamesOnly) (enough : index.types.size < nesting) :
    index.SearchesMethods nesting := by
  have fewUnmet : index.unmet [] < nesting := by
    have all : index.unmet [] = index.types.size := by
      simp [unmet, unseen, Table.keys, Table.size]
    rwa [all]
  exact ⟨fun found isInterface => searchInterface_eq names found isInterface fewUnmet,
    fun found isStruct => searchStruct_eq names found isStruct fewUnmet⟩

end Index

end GoAtlas
