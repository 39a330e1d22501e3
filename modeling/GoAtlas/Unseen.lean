/-!
The part of a finite stock that a search has not met yet. Every fresh member makes it smaller, which
is why a search that never enters a member twice comes to an end.
-/

namespace GoAtlas

/-- The members of a stock that are not among those seen. -/
def unseen (stock seen : List String) : List String :=
  stock.filter fun id => !seen.contains id

theorem unseen_cons_eq_filter (stock seen : List String) (id : String) :
    unseen stock (id :: seen) = (unseen stock seen).filter (· != id) := by
  simp only [unseen, List.filter_filter]
  congr 1
  funext other
  by_cases same : other = id <;> simp [same]

theorem unseen_cons_length_le (stock seen : List String) (id : String) :
    (unseen stock (id :: seen)).length ≤ (unseen stock seen).length :=
  unseen_cons_eq_filter stock seen id ▸ List.length_filter_le _ _

theorem unseen_cons_length_lt {stock seen : List String} {id : String}
    (known : id ∈ stock) (fresh : id ∉ seen) :
    (unseen stock (id :: seen)).length < (unseen stock seen).length := by
  have member : id ∈ unseen stock seen := by simp [unseen, known, fresh]
  rw [unseen_cons_eq_filter]
  exact List.length_filter_lt_length_iff_exists.mpr ⟨id, member, by simp⟩

end GoAtlas
