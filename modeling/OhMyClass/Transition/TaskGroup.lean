import Mathlib.Data.List.Forall2
import Mathlib.Data.Set.List
import Mathlib.Order.WellFounded

/-!
# Task groups

Tasks start while a limiter has a place left, pause as often as they like, and
then return or raise.  The group answers with all results in the order of the
tasks; the first exception ends it.
-/

namespace OhMyClass.Transition

open List

universe u v

/-- How often a task pauses, and what it ends with. -/
structure Task (ε : Type u) (α : Type v) where
  pauses : Nat
  result : Except ε α

inductive TaskState (α : Type v) where
  | waiting
  | running (pauses : Nat)
  | returned (value : α)

structure TaskGroup (ε : Type u) (α : Type v) where
  states : List (TaskState α)
  raised : Option ε

namespace TaskState

variable {ε : Type u} {α : Type v}

def isRunning : TaskState α → Bool
  | running _ => true
  | _ => false

/-- The states in which a task can be. -/
def OfTask (task : Task ε α) : TaskState α → Prop
  | returned value => task.result = .ok value
  | _ => True

/-- At most so many steps are left. -/
def work (task : Task ε α) : TaskState α → Nat
  | waiting => task.pauses + 2
  | running pauses => pauses + 1
  | returned _ => 0

/-- All values, if every state has one. -/
def values : List (TaskState α) → Option (List α)
  | [] => some []
  | returned value :: rest => (values rest).map (value :: ·)
  | _ :: _ => none

theorem values_eq_some_iff {states : List (TaskState α)} {results : List α} :
    values states = some results ↔ states = results.map returned := by
  induction states generalizing results with
  | nil => cases results <;> simp [values]
  | cons state rest ih =>
    cases state with
    | returned value => cases results <;> simp [values, ih, and_comm]
    | waiting | running => cases results <;> simp [values]

end TaskState

namespace TaskGroup

variable {ε : Type u} {α : Type v}

def start (tasks : List (Task ε α)) : TaskGroup ε α where
  states := tasks.map fun _ => .waiting
  raised := none

def put (group : TaskGroup ε α) (index : Nat) (state : TaskState α) : TaskGroup ε α :=
  { group with states := group.states.set index state }

def running (group : TaskGroup ε α) : Nat :=
  group.states.countP TaskState.isRunning

/-- The task at the index goes on. -/
def step (limit : Nat) (tasks : List (Task ε α)) (group : TaskGroup ε α) (index : Nat) :
    Option (TaskGroup ε α) :=
  if group.raised.isSome then
    none
  else
    match tasks[index]?, group.states[index]? with
    | some task, some .waiting =>
      if group.running < limit then some (group.put index (.running task.pauses)) else none
    | some _, some (.running (pauses + 1)) => some (group.put index (.running pauses))
    | some task, some (.running 0) =>
      match task.result with
      | .ok value => some (group.put index (.returned value))
      | .error exception => some { group with raised := some exception }
    | _, _ => none

/-- The exception, or all results once every task has returned. -/
def answer (group : TaskGroup ε α) : Option (Except ε (List α)) :=
  match group.raised with
  | some exception => some (.error exception)
  | none => (TaskState.values group.states).map .ok

/-- Groups that steps lead to, in any order of the tasks. -/
inductive Run (limit : Nat) (tasks : List (Task ε α)) : TaskGroup ε α → Prop
  | start : Run limit tasks (start tasks)
  | next {group after : TaskGroup ε α} (index : Nat) :
      Run limit tasks group → step limit tasks group index = some after → Run limit tasks after

/-- Some run ends with the answer. -/
def Answers (limit : Nat) (tasks : List (Task ε α)) (answer : Except ε (List α)) : Prop :=
  ∃ group, Run limit tasks group ∧ group.answer = some answer

/-- No run goes on forever, and one that cannot go on has its answer. -/
def Terminates (limit : Nat) (tasks : List (Task ε α)) : Prop :=
  (WellFounded fun after group : TaskGroup ε α => ∃ index, step limit tasks group index = some after) ∧
    ∀ group, Run limit tasks group → (∀ index, step limit tasks group index = none) →
      group.answer.isSome = true

variable {limit : Nat} {tasks : List (Task ε α)} {group after : TaskGroup ε α} {index : Nat}

theorem step_cases (stepped : step limit tasks group index = some after) :
    group.raised = none ∧ ∃ task state, tasks[index]? = some task ∧
      group.states[index]? = some state ∧
      ((∃ next : TaskState α, after = group.put index next ∧ next.OfTask task ∧
          next.work task < state.work task) ∨
        ∃ exception, task.result = .error exception ∧
          after = { group with raised := some exception }) := by
  unfold step at stepped
  split at stepped
  · cases stepped
  next notRaised =>
    refine ⟨Option.not_isSome_iff_eq_none.mp notRaised, ?_⟩
    split at stepped
    · next task taskAt stateAt =>
      split at stepped
      · cases stepped
        exact ⟨task, _, taskAt, stateAt, .inl ⟨_, rfl, trivial, Nat.lt_succ_self _⟩⟩
      · cases stepped
    · next task pauses taskAt stateAt =>
      cases stepped
      exact ⟨task, _, taskAt, stateAt, .inl ⟨_, rfl, trivial, Nat.lt_succ_self _⟩⟩
    · next task taskAt stateAt =>
      split at stepped
      · next value isOk =>
        cases stepped
        exact ⟨task, _, taskAt, stateAt, .inl ⟨_, rfl, isOk, Nat.succ_pos _⟩⟩
      · next exception isError =>
        cases stepped
        exact ⟨task, _, taskAt, stateAt, .inr ⟨exception, isError, rfl⟩⟩
    · cases stepped

/-- What the group holds comes from its tasks. -/
structure Sound (tasks : List (Task ε α)) (group : TaskGroup ε α) : Prop where
  states : List.Forall₂ TaskState.OfTask tasks group.states
  raised : ∀ exception ∈ group.raised, ∃ task ∈ tasks, task.result = .error exception

theorem sound_start (tasks : List (Task ε α)) : Sound tasks (start tasks) where
  states := by
    induction tasks with
    | nil => exact .nil
    | cons task rest ih => exact .cons trivial ih
  raised := nofun

theorem Sound.step (sound : Sound tasks group) (stepped : step limit tasks group index = some after) :
    Sound tasks after := by
  obtain ⟨_, task, state, taskAt, stateAt, ⟨next, rfl, ofTask, _⟩ | ⟨exception, isError, rfl⟩⟩ :=
    step_cases stepped
  · refine ⟨?_, sound.raised⟩
    rw [forall₂_iff_get]
    refine ⟨?_, fun other inTasks inStates => ?_⟩
    · rw [put, length_set]
      exact sound.states.length_eq
    · have kept := (forall₂_iff_get.mp sound.states).2 other inTasks
      obtain ⟨inRange, rfl⟩ := List.getElem?_eq_some_iff.mp taskAt
      simp only [put, get_eq_getElem, getElem_set]
      split
      · next same =>
        subst same
        exact ofTask
      · exact kept _
  · refine ⟨sound.states, fun other isOther => ?_⟩
    cases isOther
    exact ⟨task, mem_of_getElem? taskAt, isError⟩

theorem Run.sound (run : Run limit tasks group) : Sound tasks group := by
  induction run with
  | start => exact sound_start tasks
  | next index _ stepped ih => exact ih.step stepped

theorem answer_eq_ok_iff {results : List α} :
    group.answer = some (.ok results) ↔
      group.raised = none ∧ group.states = results.map .returned := by
  unfold answer
  cases group.raised with
  | none => simp [TaskState.values_eq_some_iff]
  | some exception => simp

theorem answer_eq_error_iff {exception : ε} :
    group.answer = some (.error exception) ↔ group.raised = some exception := by
  unfold answer
  cases group.raised with
  | none => simp
  | some other => simp

theorem Answers.ok {results : List α} (answers : Answers limit tasks (.ok results)) :
    List.Forall₂ (fun task value => task.result = .ok value) tasks results := by
  obtain ⟨group, run, answer⟩ := answers
  have states := run.sound.states
  rw [(answer_eq_ok_iff.mp answer).2, forall₂_map_right_iff] at states
  exact states

theorem Answers.error {exception : ε} (answers : Answers limit tasks (.error exception)) :
    ∃ task ∈ tasks, task.result = .error exception := by
  obtain ⟨group, run, answer⟩ := answers
  exact run.sound.raised exception (answer_eq_error_iff.mp answer)

/-! ## Ends of runs -/

/-- The steps that are left of all tasks, at most. -/
def workLeft : List (Task ε α) → List (TaskState α) → Nat
  | task :: tasks, state :: states => state.work task + workLeft tasks states
  | _, _ => 0

theorem workLeft_set {states : List (TaskState α)} {task : Task ε α} {state next : TaskState α}
    (taskAt : tasks[index]? = some task) (stateAt : states[index]? = some state)
    (less : next.work task < state.work task) :
    workLeft tasks (states.set index next) < workLeft tasks states := by
  induction tasks generalizing states index with
  | nil => simp at taskAt
  | cons first tasks ih =>
    cases states with
    | nil => simp at stateAt
    | cons head states =>
      cases index with
      | zero =>
        cases taskAt
        cases stateAt
        exact Nat.add_lt_add_right less _
      | succ index =>
        exact Nat.add_lt_add_left (ih taskAt stateAt) _

/-- What is left of the group: raising ends it. -/
def left (tasks : List (Task ε α)) (group : TaskGroup ε α) : Nat :=
  if group.raised.isSome then 0 else workLeft tasks group.states + 1

theorem left_step (stepped : step limit tasks group index = some after) :
    left tasks after < left tasks group := by
  obtain ⟨notRaised, task, state, taskAt, stateAt,
    ⟨next, rfl, _, less⟩ | ⟨exception, _, rfl⟩⟩ := step_cases stepped
  · have fewer := workLeft_set taskAt stateAt less
    simpa [left, put, notRaised] using fewer
  · simp [left, notRaised]

theorem answered_of_stuck (positive : 0 < limit) (sound : Sound tasks group)
    (stuck : ∀ index, step limit tasks group index = none) : group.answer.isSome = true := by
  cases raised : group.raised with
  | some exception => simp [answer, raised]
  | none =>
    -- A running task could go on.
    have noneRuns : ∀ state ∈ group.states, ¬ state.isRunning = true := by
      intro state mem isRunning
      obtain ⟨index, inRange, rfl⟩ := mem_iff_getElem.mp mem
      have inTasks : index < tasks.length := sound.states.length_eq ▸ inRange
      have here := stuck index
      rw [step, raised, List.getElem?_eq_getElem inTasks, List.getElem?_eq_getElem inRange] at here
      cases at_ : group.states[index] with
      | waiting | returned => simp [at_, TaskState.isRunning] at isRunning
      | running pauses =>
        rw [at_] at here
        cases pauses with
        | succ pauses => simp at here
        | zero => cases result : tasks[index].result <;> simp [result] at here
    -- So there is a place for a waiting one.
    have noneWaits : ∀ state ∈ group.states, ∃ value, state = .returned value := by
      intro state mem
      cases isState : state with
      | returned value => exact ⟨value, rfl⟩
      | running pauses =>
        subst isState
        exact absurd rfl (noneRuns _ mem)
      | waiting =>
        subst isState
        obtain ⟨index, inRange, at_⟩ := mem_iff_getElem.mp mem
        have inTasks : index < tasks.length := sound.states.length_eq ▸ inRange
        have here := stuck index
        have idle : group.running = 0 := countP_eq_zero.mpr noneRuns
        rw [step, raised, List.getElem?_eq_getElem inTasks, List.getElem?_eq_getElem inRange,
          at_] at here
        simp [idle, positive] at here
    obtain ⟨results, isResults⟩ : group.states ∈ Set.range (List.map .returned) := by
      rw [Set.range_list_map]
      exact fun state mem => (noneWaits state mem).imp fun _ => Eq.symm
    rw [answer_eq_ok_iff.mpr ⟨raised, isResults.symm⟩]
    rfl

theorem terminates (positive : 0 < limit) : Terminates limit tasks := by
  constructor
  · refine Subrelation.wf ?_ (measure (left tasks)).wf
    rintro after group ⟨index, stepped⟩
    exact left_step stepped
  · intro group run stuck
    exact answered_of_stuck positive run.sound stuck

theorem Terminates.exists_answer (terminates : Terminates limit tasks) :
    ∃ answer, Answers limit tasks answer := by
  have general (group : TaskGroup ε α) : Run limit tasks group → ∃ answer, Answers limit tasks answer := by
    induction group using terminates.1.induction with
    | _ group ih =>
      intro run
      by_cases stuck : ∀ index, step limit tasks group index = none
      · obtain ⟨answer, isAnswer⟩ := Option.isSome_iff_exists.mp (terminates.2 group run stuck)
        exact ⟨answer, group, run, isAnswer⟩
      · push Not at stuck
        obtain ⟨index, steps⟩ := stuck
        obtain ⟨after, stepped⟩ := Option.ne_none_iff_exists'.mp steps
        exact ih after ⟨index, stepped⟩ (run.next index stepped)
  exact general _ .start

end TaskGroup

end OhMyClass.Transition
