import Mathlib.Data.List.Range

/-!
# High-water marks

A reader of numbered messages keeps the largest number it has seen and drops
what is not above it.  It drops nothing new as long as every number is at most
one above the mark before it.
-/

namespace OhMyClass.HighWater

/-- The largest number seen. -/
def mark (last : Nat) (numbers : List Nat) : Nat :=
  numbers.foldl max last

/-- No number leaves a gap above the mark. -/
def Consecutive : Nat → List Nat → Prop
  | _, [] => True
  | last, number :: rest => number ≤ last + 1 ∧ Consecutive (max last number) rest

variable {last number : Nat} {numbers : List Nat}

@[simp]
theorem mark_nil : mark last [] = last :=
  rfl

@[simp]
theorem mark_cons : mark last (number :: numbers) = mark (max last number) numbers :=
  rfl

@[simp]
theorem mark_concat : mark last (numbers ++ [number]) = max (mark last numbers) number := by
  simp [mark]

theorem consecutive_concat :
    Consecutive last (numbers ++ [number]) ↔
      Consecutive last numbers ∧ number ≤ mark last numbers + 1 := by
  induction numbers generalizing last with
  | nil => simp [Consecutive]
  | cons first rest ih => simp [Consecutive, ih, and_assoc]

theorem Consecutive.head_cases (consecutive : Consecutive last (number :: numbers)) :
    (number ≤ last ∧ Consecutive last numbers) ∨
      (number = last + 1 ∧ Consecutive (last + 1) numbers) := by
  obtain ⟨near, rest⟩ := consecutive
  by_cases known : number ≤ last
  · rw [Nat.max_eq_left known] at rest
    exact .inl ⟨known, rest⟩
  · have next : number = last + 1 := by omega
    rw [next, Nat.max_eq_right (Nat.le_succ last)] at rest
    exact .inr ⟨next, rest⟩

theorem filter_lt_range' (bound length : Nat) :
    (List.range' 1 length).filter (fun number => bound < number) =
      List.range' (bound + 1) (length - bound) := by
  induction length with
  | zero => simp
  | succ length ih =>
    rw [List.range'_1_concat, List.filter_append, ih]
    by_cases above : bound ≤ length
    · rw [Nat.succ_sub above, List.range'_1_concat]
      have isAbove : bound < 1 + length := by omega
      have isEnd : bound + 1 + (length - bound) = 1 + length := by omega
      simp [isAbove, isEnd]
    · have notAbove : ¬ bound < 1 + length := by omega
      have noRoom : length - bound = 0 ∧ length + 1 - bound = 0 := by omega
      simp [notAbove, noRoom]

theorem mark_range' (last length : Nat) :
    mark last (List.range' (last + 1) length) = last + length := by
  induction length with
  | zero => rfl
  | succ length ih =>
    rw [List.range'_1_concat, mark_concat]
    omega

end OhMyClass.HighWater
