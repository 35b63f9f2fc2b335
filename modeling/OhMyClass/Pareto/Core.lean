import Mathlib.Data.Set.Finite.List
import Mathlib.Order.Preorder.Finite

/-!
# The Pareto frontier of finitely many rows

Rows are compared by a value in a preorder.  Below every row of the frontier
nothing needs to be looked at: every row is on the frontier or strictly below
one that is.
-/

namespace OhMyClass.Pareto

universe u v

variable {α : Type u} {β : Type v} [Preorder β] (value : α → β)

/-- A row that no other row exceeds. -/
structure OnFrontier (rows : List α) (row : α) : Prop where
  mem : row ∈ rows
  undominated : ∀ other ∈ rows, ¬ value row < value other

variable {value} {rows : List α} {row : α}

theorem exists_onFrontier_ge (value : α → β) (mem : row ∈ rows) :
    ∃ best, OnFrontier value rows best ∧ value row ≤ value best := by
  have finite : (value '' {row | row ∈ rows}).Finite := rows.finite_toSet.image value
  rcases finite.exists_le_maximal (Set.mem_image_of_mem value mem)
    with ⟨_, above, ⟨best, bestMem, rfl⟩, maximal⟩
  refine ⟨best, ⟨bestMem, ?_⟩, above⟩
  intro other otherMem exceeds
  exact exceeds.not_ge (maximal (Set.mem_image_of_mem value otherMem) exceeds.le)

theorem onFrontier_or_exceeded (value : α → β) (mem : row ∈ rows) :
    OnFrontier value rows row ∨ ∃ best, OnFrontier value rows best ∧ value row < value best := by
  by_cases undominated : ∀ other ∈ rows, ¬ value row < value other
  · exact .inl ⟨mem, undominated⟩
  · push Not at undominated
    rcases undominated with ⟨other, otherMem, exceeds⟩
    rcases exists_onFrontier_ge value otherMem with ⟨best, onFrontier, above⟩
    exact .inr ⟨best, onFrontier, exceeds.trans_le above⟩

end OhMyClass.Pareto
