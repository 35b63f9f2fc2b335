import Mathlib.Data.List.Induction
import Mathlib.Algebra.Order.Group.Int

/-!
# Sliding windows

Attempts on keys are admitted or refused by the full record of what was admitted
before: an attempt is admitted while fewer than a number of admitted attempts of
its key lie within the window before it.
-/

namespace OhMyClass.SlidingWindow

open List

universe u

structure Attempt (κ : Type u) where
  key : κ
  now : Int

/-- At most `count` in every interval of length `window`. -/
structure Limit where
  count : Int
  window : Int

/-- Attempts and whether they were admitted, oldest first. -/
abbrev Record (κ : Type u) := List (Attempt κ × Bool)

variable {κ : Type u} [DecidableEq κ]

/-- The admitted attempts of a key from a moment on. -/
def admittedSince (record : Record κ) (key : κ) (since : Int) : Nat :=
  record.countP fun entry => entry.2 ∧ entry.1.key = key ∧ since ≤ entry.1.now

/-- The admitted attempts of a key in a closed interval. -/
def admittedWithin (record : Record κ) (key : κ) (first last : Int) : Nat :=
  record.countP fun entry =>
    entry.2 ∧ entry.1.key = key ∧ first ≤ entry.1.now ∧ entry.1.now ≤ last

def admits (limit : Limit) (record : Record κ) (attempt : Attempt κ) : Bool :=
  admittedSince record attempt.key (attempt.now - limit.window) < limit.count

/-- Every attempt was decided by what was admitted before it. -/
inductive Decided (limit : Limit) : Record κ → Prop
  | nil : Decided limit []
  | concat {record : Record κ} (attempt : Attempt κ) :
    Decided limit record → Decided limit (record ++ [(attempt, admits limit record attempt)])

variable {limit : Limit} {key : κ}

@[simp]
theorem admittedSince_append {first second : Record κ} {since : Int} :
    admittedSince (first ++ second) key since =
      admittedSince first key since + admittedSince second key since :=
  countP_append

variable {attempt : Attempt κ}

theorem admittedSince_of_refused {since : Int} :
    admittedSince [(attempt, false)] key since = 0 := by
  simp [admittedSince]

variable {record : Record κ}

theorem admittedSince_eq_admittedWithin {first last : Int}
    (before : ∀ entry ∈ record, entry.1.now ≤ last) :
    admittedSince record key first = admittedWithin record key first last := by
  refine countP_congr fun entry mem => ?_
  simp [before entry mem]

theorem Decided.unique {first second : Record κ} (decidedFirst : Decided limit first)
    (decidedSecond : Decided limit second) (same : first.map Prod.fst = second.map Prod.fst) :
    first = second := by
  induction decidedFirst generalizing second with
  | nil =>
    cases decidedSecond with
    | nil => rfl
    | concat => simp at same
  | @concat record attempt _ ih =>
    cases decidedSecond with
    | nil => simp at same
    | @concat other otherAttempt decidedOther =>
      simp only [map_append, map_cons, map_nil] at same
      rcases append_inj' same rfl with ⟨earlier, last⟩
      obtain rfl := ih decidedOther earlier
      simp only [List.cons.injEq, and_true] at last
      rw [last]

theorem Decided.admittedWithin_le (nonneg : 0 ≤ limit.count) (decided : Decided limit record)
    (key : κ) (first : Int) :
    admittedWithin record key first (first + limit.window) ≤ limit.count := by
  induction decided with
  | nil => exact nonneg
  | @concat record attempt _ ih =>
    rw [admittedWithin, countP_append, countP_singleton, ← admittedWithin]
    split
    next counted =>
      simp only [decide_eq_true_eq] at counted
      rcases counted with ⟨admitted, rfl, after, before⟩
      have fewer : admittedWithin record attempt.key first (first + limit.window) ≤
          admittedSince record attempt.key (attempt.now - limit.window) := by
        refine countP_mono_left fun entry _ inInterval => ?_
        simp only [decide_eq_true_eq] at inInterval ⊢
        exact ⟨inInterval.1, inInterval.2.1, by omega⟩
      have below := of_decide_eq_true admitted
      omega
    next => simpa using ih

theorem decided_concat_iff {entry : Attempt κ × Bool} :
    Decided limit (record ++ [entry]) ↔
      Decided limit record ∧ entry.2 = admits limit record entry.1 := by
  constructor
  · intro decided
    generalize whole : record ++ [entry] = all at decided
    cases decided with
    | nil => simp at whole
    | concat attempt decided =>
      rcases append_inj' whole rfl with ⟨rfl, last⟩
      simp only [List.cons.injEq, and_true] at last
      rw [last]
      exact ⟨decided, rfl⟩
  · rintro ⟨decided, isDecision⟩
    have isEntry : entry = (entry.1, admits limit record entry.1) := Prod.ext rfl isDecision
    rw [isEntry]
    exact .concat entry.1 decided

variable {later : Record κ}

theorem Decided.of_append (decided : Decided limit (record ++ later)) :
    Decided limit record := by
  induction later using List.reverseRecOn with
  | nil => simpa using decided
  | append_singleton later entry ih =>
    rw [← append_assoc] at decided
    exact ih (decided_concat_iff.mp decided).1

theorem Decided.le_of_refused (decided : Decided limit (record ++ (attempt, false) :: later)) :
    limit.count ≤ admittedSince record attempt.key (attempt.now - limit.window) := by
  rw [append_cons] at decided
  have refused := (decided_concat_iff.mp decided.of_append).2
  exact Int.not_lt.mp (of_decide_eq_false refused.symm)

theorem Decided.drop_refused (decided : Decided limit (record ++ (attempt, false) :: later)) :
    Decided limit (record ++ later) := by
  induction later using List.reverseRecOn with
  | nil =>
    rw [append_nil]
    exact (decided_concat_iff.mp decided).1
  | append_singleton later entry ih =>
    rw [← cons_append, ← append_assoc, decided_concat_iff] at decided
    rw [← append_assoc, decided_concat_iff]
    refine ⟨ih decided.1, ?_⟩
    rw [decided.2, admits, admits, append_cons, admittedSince_append, admittedSince_append,
      admittedSince_of_refused, Nat.add_zero, admittedSince_append]

theorem Decided.filter_key (decided : Decided limit record) (key : κ) :
    Decided limit (record.filter fun entry => entry.1.key = key) := by
  have keepsCount (record : Record κ) (since : Int) :
      admittedSince (record.filter fun entry => entry.1.key = key) key since =
        admittedSince record key since := by
    rw [admittedSince, countP_filter]
    exact countP_congr fun entry _ => by simp; tauto
  induction decided with
  | nil => exact .nil
  | @concat record attempt _ ih =>
    rw [filter_append]
    by_cases same : attempt.key = key
    · subst same
      rw [filter_cons_of_pos (by simp)]
      refine decided_concat_iff.mpr ⟨ih, ?_⟩
      rw [admits, admits, keepsCount]
    · rw [filter_cons_of_neg (by simpa using same), filter_nil, append_nil]
      exact ih

end OhMyClass.SlidingWindow
