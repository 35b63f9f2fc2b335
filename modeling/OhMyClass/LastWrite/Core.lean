import Mathlib.Tactic.ByContra

/-!
# Registers that keep the last write

Every event of a log writes some fields and leaves the others alone.  The
current value of a field is the last one written to it, so it can be read off
a suffix of the log as soon as the suffix writes the field at all.
-/

namespace OhMyClass.LastWrite

universe u v w

variable {ε : Type u} {φ : Type v} {ν : Type w}

/-- The last value a log writes to a field. -/
def current (writes : ε → φ → Option ν) (log : List ε) (field : φ) : Option ν :=
  log.foldl (fun value event => (writes event field).or value) none

/-- Some event of the log writes the field. -/
def Written (writes : ε → φ → Option ν) (log : List ε) (field : φ) : Prop :=
  ∃ event ∈ log, writes event field ≠ none

variable {writes : ε → φ → Option ν} {log : List ε} {field : φ}

@[simp]
theorem current_nil : current writes [] field = none :=
  rfl

@[simp]
theorem written_nil : ¬ Written writes [] field := by
  rintro ⟨_, mem, _⟩
  cases mem

theorem written_cons {event : ε} :
    Written writes (event :: log) field ↔ writes event field ≠ none ∨ Written writes log field := by
  simp [Written]

theorem foldl_eq_or (value : Option ν) :
    log.foldl (fun value event => (writes event field).or value) value =
      (current writes log field).or value := by
  induction log generalizing value with
  | nil => rfl
  | cons event rest ih =>
    unfold current
    simp only [List.foldl_cons]
    rw [ih, ih ((writes event field).or none), Option.or_assoc]
    simp

theorem current_append (older newer : List ε) :
    current writes (older ++ newer) field =
      (current writes newer field).or (current writes older field) := by
  unfold current
  rw [List.foldl_append, foldl_eq_or]
  rfl

theorem current_singleton (event : ε) : current writes [event] field = writes event field := by
  simp [current]

theorem current_eq_none_iff :
    current writes log field = none ↔ ¬ Written writes log field := by
  induction log with
  | nil => simp
  | cons event rest ih =>
    have split : current writes (event :: rest) field =
        (current writes rest field).or (writes event field) := by
      rw [← List.singleton_append, current_append, current_singleton]
    rw [split, Option.or_eq_none_iff, ih, written_cons]
    simp [and_comm]

/-- A suffix tells the current value of a field unless only the dropped part
writes it. -/
theorem current_suffix_iff (older newer : List ε) :
    current writes newer field = current writes (older ++ newer) field ↔
      (Written writes older field → Written writes newer field) := by
  rw [current_append]
  cases newest : current writes newer field with
  | none =>
    have unwritten := current_eq_none_iff.mp newest
    rw [Option.none_or, eq_comm, current_eq_none_iff]
    simp [unwritten]
  | some value =>
    have written : Written writes newer field := by
      by_contra unwritten
      cases newest.symm.trans (current_eq_none_iff.mpr unwritten)
    simp [written]

end OhMyClass.LastWrite
