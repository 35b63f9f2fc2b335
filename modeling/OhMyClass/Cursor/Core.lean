import Mathlib.Data.List.Infix
import Mathlib.Order.Lattice

/-!
# Reading a growing log by a cursor

Rows join a log at its end, each with a larger key than all before it.  A reader
asks for the rows above the key it remembers.  It may pass over some of them
without remembering their keys; it then only meets them again.
-/

namespace OhMyClass.Cursor

open List

universe u v

variable {α : Type u} {κ : Type v} [LinearOrder κ] (key : α → κ)

/-- Each row has a larger key than those before it. -/
def Ascending (log : List α) : Prop :=
  log.Pairwise fun earlier later => key earlier < key later

/-- The rows above a key. -/
def above (bound : κ) (log : List α) : List α :=
  log.filter fun row => bound < key row

/-- From `start` on, what was read is followed by what is above the cursor. -/
structure ReadUpTo (log : List α) (start cursor : κ) (read : List α) : Prop where
  lower : start ≤ cursor
  upper : cursor = start ∨ ∃ row ∈ log, cursor ≤ key row
  split : read ++ above key cursor log = above key start log

/-- A reader with rows in hand: it has passed over some rows above its cursor, and
the ones in hand come next. -/
structure Reading (log : List α) (start cursor : κ) (read skipped hand : List α) : Prop where
  upTo : ReadUpTo key log start cursor read
  next : skipped ++ hand <+: above key cursor log

variable {key} {log rest skipped read hand : List α} {row : α} {origin cursor : κ}

theorem mem_above : row ∈ above key cursor log ↔ row ∈ log ∧ cursor < key row := by
  simp [above]

theorem above_append (cursor : κ) (log rest : List α) :
    above key cursor (log ++ rest) = above key cursor log ++ above key cursor rest :=
  filter_append ..

theorem above_singleton (higher : cursor < key row) : above key cursor [row] = [row] := by
  simp [above, higher]

theorem Ascending.above (ascending : Ascending key log) (cursor : κ) :
    Ascending key (above key cursor log) :=
  List.Pairwise.filter _ ascending

theorem Ascending.above_key (ascending : Ascending key log)
    (met : Cursor.above key cursor log = skipped ++ row :: rest) :
    Cursor.above key (key row) log = rest := by
  have isMet : row ∈ Cursor.above key cursor log := met ▸ by simp
  have isAbove : cursor < key row := (mem_above.mp isMet).2
  have again : Cursor.above key (key row) log =
      Cursor.above key (key row) (Cursor.above key cursor log) := by
    unfold Cursor.above
    rw [filter_filter]
    apply filter_congr
    intro other _
    by_cases higher : key row < key other
    · simp [isAbove.trans higher]
    · simp [higher]
  have ordered := ascending.above cursor
  rw [met] at ordered
  rcases pairwise_append.mp ordered with ⟨-, fromRow, before⟩
  have followed := (pairwise_cons.mp fromRow).1
  rw [again, met, above_append]
  have noneSkipped : Cursor.above key (key row) skipped = [] :=
    filter_eq_nil_iff.mpr fun other mem => by
      simpa using (before other mem row mem_cons_self).le
  have allRest : Cursor.above key (key row) rest = rest :=
    filter_eq_self.mpr fun other mem => by simpa using followed other mem
  rw [noneSkipped, ← singleton_append, above_append, allRest]
  simp [Cursor.above]

namespace ReadUpTo

theorem start (log : List α) (origin : κ) : ReadUpTo key log origin origin [] where
  lower := le_rfl
  upper := .inl rfl
  split := rfl

section

variable (upTo : ReadUpTo key log origin cursor read)

include upTo

theorem isPrefix : read <+: above key origin log :=
  ⟨_, upTo.split⟩

theorem concat (largest : ∀ earlier ∈ log, key earlier < key row) :
    ReadUpTo key (log ++ [row]) origin cursor read := by
  refine ⟨upTo.lower, ?_, ?_⟩
  · rcases upTo.upper with atStart | ⟨last, mem, reached⟩
    · exact .inl atStart
    · exact .inr ⟨last, mem_append_left _ mem, reached⟩
  · rcases upTo.upper with rfl | ⟨last, mem, reached⟩
    · have nothing : read = [] := append_left_eq_self.mp upTo.split
      rw [nothing, nil_append]
    · have higher := reached.trans_lt (largest last mem)
      rw [above_append, above_append, above_singleton higher,
        above_singleton (upTo.lower.trans_lt higher), ← append_assoc, upTo.split]

theorem moveTo (ascending : Ascending key log)
    (met : above key cursor log = skipped ++ row :: rest) :
    ReadUpTo key log origin (max cursor (key row)) (read ++ (skipped ++ [row])) := by
  have isAbove := mem_above.mp (met ▸ by simp : row ∈ above key cursor log)
  rw [max_eq_right isAbove.2.le]
  refine ⟨upTo.lower.trans isAbove.2.le, .inr ⟨row, isAbove.1, le_rfl⟩, ?_⟩
  rw [ascending.above_key met, ← upTo.split, met]
  simp

theorem ask :
    Reading key log origin cursor read [] (above key cursor log) :=
  ⟨upTo, prefix_rfl⟩

end

end ReadUpTo

namespace Reading

theorem concat (reading : Reading key log origin cursor read skipped hand)
    (largest : ∀ earlier ∈ log, key earlier < key row) :
    Reading key (log ++ [row]) origin cursor read skipped hand := by
  refine ⟨reading.upTo.concat largest, reading.next.trans ?_⟩
  rw [above_append]
  exact prefix_append _ _

theorem passOver (reading : Reading key log origin cursor read skipped (row :: hand)) :
    Reading key log origin cursor read (skipped ++ [row]) hand where
  upTo := reading.upTo
  next := by
    rw [append_assoc]
    exact reading.next

theorem take (reading : Reading key log origin cursor read skipped (row :: hand))
    (ascending : Ascending key log) :
    Reading key log origin (max cursor (key row)) (read ++ (skipped ++ [row])) [] hand := by
  rcases reading.next with ⟨later, met⟩
  have split : above key cursor log = skipped ++ row :: (hand ++ later) := by
    rw [← met]
    simp
  refine ⟨reading.upTo.moveTo ascending split, ?_⟩
  have isAbove := mem_above.mp (split ▸ by simp : row ∈ above key cursor log)
  rw [max_eq_right isAbove.2.le, ascending.above_key split]
  exact prefix_append _ _

end Reading

end OhMyClass.Cursor
