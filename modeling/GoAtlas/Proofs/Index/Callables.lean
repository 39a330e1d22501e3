import GoAtlas.Proofs.Names.Index

/-!
The two tables of callables. A look-up asks the functions first, so what is listed under an
identifier is what a look-up finds there, unless a function and a method share the identifier.
-/

namespace GoAtlas.Index

variable {index : Index} {id : String} {callable : Callable}

theorem callable?_eq_none_iff : index.callable? id = none ↔
    index.functions.get? id = none ∧ index.methods.get? id = none := by
  unfold callable?
  cases index.functions.get? id <;> simp

theorem isSome_callable?_iff : (index.callable? id).isSome = true ↔
    index.functions.contains id = true ∨ index.methods.contains id = true := by
  unfold callable? Table.contains
  cases index.functions.get? id <;> simp

theorem mem_callables_iff : (id, callable) ∈ index.callables ↔
    (∃ symbol, index.functions.get? id = some symbol ∧ callable = .function symbol) ∨
      ∃ symbol, index.methods.get? id = some symbol ∧ callable = .method symbol := by
  simp only [callables, List.mem_append, List.mem_map, Prod.mk.injEq, Prod.exists,
    Table.get?_eq_some_iff]
  constructor
  · rintro (⟨_, symbol, member, rfl, rfl⟩ | ⟨_, symbol, member, rfl, rfl⟩)
    · exact .inl ⟨symbol, member, rfl⟩
    · exact .inr ⟨symbol, member, rfl⟩
  · rintro (⟨symbol, member, rfl⟩ | ⟨symbol, member, rfl⟩)
    · exact .inl ⟨id, symbol, member, rfl, rfl⟩
    · exact .inr ⟨id, symbol, member, rfl, rfl⟩

theorem mem_callables_of_found (found : index.callable? id = some callable) :
    (id, callable) ∈ index.callables := by
  rw [mem_callables_iff]
  unfold callable? at found
  split at found
  · rename_i symbol functionFound
    cases found
    exact .inl ⟨symbol, functionFound, rfl⟩
  · obtain ⟨symbol, methodFound, rfl⟩ := Option.map_eq_some_iff.mp found
    exact .inr ⟨symbol, methodFound, rfl⟩

theorem isSome_callable?_of_mem (member : (id, callable) ∈ index.callables) :
    (index.callable? id).isSome = true := by
  rw [isSome_callable?_iff, Table.contains_iff, Table.contains_iff]
  rcases mem_callables_iff.mp member with ⟨symbol, found, -⟩ | ⟨symbol, found, -⟩
  · exact .inl ⟨symbol, found⟩
  · exact .inr ⟨symbol, found⟩

theorem isEmpty_eq_false (indexed : (index.callable? id).isSome = true) :
    index.isEmpty = false := by
  obtain ⟨callable, found⟩ := Option.isSome_iff_exists.mp indexed
  have member := mem_callables_of_found found
  rw [Bool.eq_false_iff]
  intro empty
  simp only [isEmpty, Table.isEmpty, Bool.and_eq_true, List.isEmpty_iff] at empty
  simp [callables, empty] at member

/-- What is listed under an identifier is found there, unless a function takes a method's place. -/
theorem callable?_of_mem (member : (id, callable) ∈ index.callables)
    (single : ¬(index.functions.contains id = true ∧ index.methods.contains id = true)) :
    index.callable? id = some callable := by
  rcases mem_callables_iff.mp member with ⟨symbol, found, rfl⟩ | ⟨symbol, found, rfl⟩
  · simp [callable?, found]
  · have noFunction : index.functions.get? id = none := by
      rw [Option.eq_none_iff_forall_ne_some]
      intro function functionFound
      exact single ⟨Table.contains_iff.mpr ⟨function, functionFound⟩,
        Table.contains_iff.mpr ⟨symbol, found⟩⟩
    simp [callable?, noFunction, found]

theorem NamesOnly.recorded (names : index.NamesOnly) (member : (id, callable) ∈ index.callables) :
    ∀ site ∈ callable.calls, site.Recorded := by
  rcases mem_callables_iff.mp member with ⟨symbol, found, rfl⟩ | ⟨symbol, found, rfl⟩
  · exact (names.functions found).2.calls
  · exact (names.methods found).2.calls

end GoAtlas.Index
