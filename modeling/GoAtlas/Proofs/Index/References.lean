import GoAtlas.Resolver.TypeNames

/-!
Where references lead. Import paths and names of types are matched as texts, by several rules, but
only ever against the keys of a table; so whatever they lead to is indexed.
-/

namespace GoAtlas.Index

variable {index : Index} {id : String}

/-- A match is either kept, or replaced by an identifier that ends as the path ends. -/
theorem cases_of_betterMatch {path : String} {best : Option (String × Nat)} {entry : String × Nat}
    (isNext : entry ∈ betterMatch path best id) :
    entry ∈ best ∨ entry.1 = id ∧ 0 < sharedTrailingSegments path id := by
  unfold betterMatch at isNext
  dsimp only at isNext
  split at isNext
  · split at isNext
    · rename_i shares
      cases isNext
      exact .inr ⟨rfl, shares⟩
    · cases isNext
  · split at isNext
    · rename_i better
      cases isNext
      exact .inr ⟨rfl, Nat.zero_lt_of_lt better⟩
    · exact .inl isNext

/-- The best match among some identifiers is one of them, and ends as the path ends. -/
theorem mem_of_foldl_betterMatch {path : String} {ids : List String} :
    ∀ entry ∈ ids.foldl (betterMatch path) none,
      entry.1 ∈ ids ∧ 0 < sharedTrailingSegments path entry.1 := by
  apply List.foldlRecOn (motive := fun best : Option (String × Nat) =>
    ∀ entry ∈ best, entry.1 ∈ ids ∧ 0 < sharedTrailingSegments path entry.1)
  · simp
  · intro best bestHolds id member entry isNext
    rcases cases_of_betterMatch isNext with kept | ⟨rfl, shares⟩
    · exact bestHolds entry kept
    · exact ⟨member, shares⟩

theorem contains_of_packageOfImport? {path : String}
    (found : index.packageOfImport? path = some id) : index.packages.contains id = true := by
  unfold packageOfImport? at found
  split at found
  · rename_i known
    cases found
    exact known
  · obtain ⟨entry, isBest, rfl⟩ := Option.map_eq_some_iff.mp found
    exact Table.mem_keys_iff.mp (mem_of_foldl_betterMatch entry isBest).1

theorem contains_of_firstTypeNamed? {hint name : String}
    (found : index.firstTypeNamed? hint name = some id) : index.types.contains id = true := by
  obtain ⟨entry, first, rfl⟩ := Option.map_eq_some_iff.mp found
  exact Table.contains_of_mem_entries (List.mem_of_find?_eq_some first)

theorem contains_of_typeOfName? {typeName package : String} {hint : Option String}
    (found : index.typeOfName? typeName hint package = some id) :
    index.types.contains id = true := by
  unfold typeOfName? at found
  split at found
  · cases found
  split at found
  · exact contains_of_firstTypeNamed? found
  · dsimp only at found
    split at found
    · rename_i own
      cases found
      exact own
    · exact contains_of_firstTypeNamed? found

end GoAtlas.Index
