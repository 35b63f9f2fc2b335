import Mathlib.Data.List.MinMax
import Mathlib.Data.List.Pairwise

/-!
# Tables with unique indexes

A table is a list of rows no two of which conflict.  The conflict relation
collects every unique constraint of the stored relation at once (a primary
key, a unique column, a partial unique index), so that a table value is
already consistent: an insertion has to check for a conflict, and an update
has to show that it creates none.
-/

namespace OhMyClass

universe u

/-- Rows in storage order, pairwise free of conflicts. -/
structure Table (α : Type u) (conflict : α → α → Prop) where
  rows : List α
  consistent : rows.Pairwise fun earlier later => ¬ conflict earlier later

namespace Table

variable {α : Type u} {conflict : α → α → Prop}

/-- The table without rows. -/
def empty : Table α conflict :=
  ⟨[], List.Pairwise.nil⟩

/-- The table with exactly one row. -/
def single (row : α) : Table α conflict :=
  ⟨[row], List.pairwise_singleton _ _⟩

/-- Append a row unless it conflicts with a stored one. -/
def insert [DecidableRel conflict] (table : Table α conflict) (row : α) :
    Option (Table α conflict) :=
  if free : ∀ stored ∈ table.rows, ¬ conflict stored row then
    some ⟨table.rows ++ [row], List.pairwise_append.mpr
      ⟨table.consistent, List.pairwise_singleton _ _, fun stored member other isRow => by
        rw [List.mem_singleton.mp isRow]
        exact free stored member⟩⟩
  else
    none

/-- A row after a change that applies to the selected rows only. -/
def changeSelected (selected : α → Bool) (change : α → α) (row : α) : α :=
  if selected row then change row else row

/-- Rewrite every selected row by a change that creates no conflict. -/
def update (table : Table α conflict) (selected : α → Bool) (change : α → α)
    (safe : ∀ first second,
      conflict (changeSelected selected change first) (changeSelected selected change second) →
      conflict first second) : Table α conflict :=
  ⟨table.rows.map (changeSelected selected change),
    List.Pairwise.map _ (fun first second apart clash => apart (safe first second clash))
      table.consistent⟩

/-- Rewrite every selected row unless the result has a conflict. -/
def tryUpdate [DecidableRel conflict] (table : Table α conflict) (selected : α → Bool)
    (change : α → α) : Option (Table α conflict) :=
  if free : (table.rows.map (changeSelected selected change)).Pairwise
      fun earlier later => ¬ conflict earlier later then
    some ⟨_, free⟩
  else
    none

/-- Delete every selected row. -/
def delete (table : Table α conflict) (selected : α → Bool) : Table α conflict :=
  ⟨table.rows.filter fun row => !selected row, table.consistent.filter _⟩

variable {selected : α → Bool} {change : α → α} {row : α}

theorem changeSelected_frame {β : Type*} (column : α → β)
    (kept : column (change row) = column row) :
    column (changeSelected selected change row) = column row := by
  unfold changeSelected
  split
  · exact kept
  · rfl

theorem mem_map_changeSelected {rows : List α} :
    row ∈ rows.map (changeSelected selected change) ↔
      (∃ stored ∈ rows, selected stored = true ∧ change stored = row) ∨
        row ∈ rows ∧ selected row = false := by
  rw [List.mem_map]
  constructor
  · rintro ⟨stored, mem, rfl⟩
    unfold changeSelected
    split
    · next isSelected => exact .inl ⟨stored, mem, isSelected, rfl⟩
    · next notSelected => exact .inr ⟨mem, Bool.eq_false_of_not_eq_true notSelected⟩
  · rintro (⟨stored, mem, isSelected, rfl⟩ | ⟨mem, notSelected⟩)
    · exact ⟨stored, mem, if_pos isSelected⟩
    · exact ⟨row, mem, if_neg (Bool.eq_false_iff.mp notSelected)⟩

/-! ## Rows after an operation -/

variable {table : Table α conflict}

theorem rows_of_insert [DecidableRel conflict] {grown : Table α conflict}
    (inserted : table.insert row = some grown) : grown.rows = table.rows ++ [row] := by
  unfold insert at inserted
  split at inserted
  · simp only [Option.some.injEq] at inserted
    rw [← inserted]
  · cases inserted

theorem rows_of_tryUpdate [DecidableRel conflict] {updated : Table α conflict}
    (changed : table.tryUpdate selected change = some updated) :
    updated.rows = table.rows.map (changeSelected selected change) := by
  unfold tryUpdate at changed
  split at changed
  · simp only [Option.some.injEq] at changed
    rw [← changed]
  · cases changed

theorem insert_eq_none_iff [DecidableRel conflict] :
    table.insert row = none ↔ ∃ stored ∈ table.rows, conflict stored row := by
  unfold insert
  split
  · next free =>
    simp only [reduceCtorEq, false_iff, not_exists, not_and]
    exact free
  · next clash =>
    simpa using clash

theorem eq_of_conflict (symmetric : ∀ first second, conflict first second → conflict second first)
    (table : Table α conflict) {first second : α} (firstMem : first ∈ table.rows)
    (secondMem : second ∈ table.rows) (clash : conflict first second) : first = second := by
  by_contra different
  have apartSymm : Std.Symm fun earlier later => ¬ conflict earlier later :=
    ⟨fun _ _ free back => free (symmetric _ _ back)⟩
  exact table.consistent.forall firstMem secondMem different clash

end Table

end OhMyClass
