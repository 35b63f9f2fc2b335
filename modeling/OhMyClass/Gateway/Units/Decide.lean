import Mathlib.Data.Finmap
import OhMyClass.Contracts.Plans
import OhMyClass.Gateway.Runs.Status
import OhMyClass.Precedence.Core

/-!
# What a unit does next

`decide` looks at the plan of a unit and the status of each child run, and
lists what the orchestrator has to do now.
-/

namespace OhMyClass.Gateway.Units

open List OhMyClass.Contracts OhMyClass.Precedence

inductive OrchestratorAction where
  | spawn
  | block
  | markPartiallyComplete
  | markComplete
  deriving DecidableEq

structure SessionAction where
  sessionId : String
  action : OrchestratorAction
  reason : String

def completedStatus : List RunStatus :=
  [.completed]

def failedStatus : List RunStatus :=
  [.failed, .cancelled]

def activeStatuses : List RunStatus :=
  [.pending, .planning, .researching, .generating, .reviewing, .awaitingApproval, .exporting]

def isCompleted (status : RunStatus) : Bool :=
  completedStatus.contains status

def isFailed (status : RunStatus) : Bool :=
  failedStatus.contains status

theorem status_cases (status : RunStatus) :
    status = .completed ∨ isFailed status ∨ status ∈ activeStatuses := by
  cases status <;> decide

@[simp]
theorem isCompleted_iff {status : RunStatus} : isCompleted status ↔ status = .completed := by
  cases status <;> decide

/-- The session ids of the existing children with their statuses. -/
abbrev ChildrenStates := Finmap fun _ : String => RunStatus

/-- The children in one of the statuses. -/
def idsWith (statuses : List RunStatus) (childrenStates : ChildrenStates) : Finset String :=
  childrenStates.keys.filter fun sessionId =>
    (childrenStates.lookup sessionId).any statuses.contains

theorem mem_idsWith {statuses : List RunStatus} {childrenStates : ChildrenStates}
    {sessionId : String} :
    sessionId ∈ idsWith statuses childrenStates ↔
      ∃ status ∈ statuses, childrenStates.lookup sessionId = some status := by
  simp only [idsWith, Finset.mem_filter, Finmap.mem_keys, Option.any_eq_true,
    contains_iff_mem]
  constructor
  · rintro ⟨_, status, isStatus, mem⟩
    exact ⟨status, mem, isStatus⟩
  · rintro ⟨status, mem, isStatus⟩
    exact ⟨Finmap.mem_of_lookup_eq_some isStatus, status, isStatus, mem⟩

/-- `dag.predecessors(session_id)`, in the order the edges were added. -/
def predecessors (sequence : LessonSequence) (sessionId : String) : List String :=
  ((sequence.sessions.filter fun session => session.sessionId == sessionId).flatMap
    SessionPlan.prerequisiteSessions).eraseDups

/-- The edges of the graph. -/
def Requires (sequence : LessonSequence) (required sessionId : String) : Prop :=
  required ∈ predecessors sequence sessionId

variable {sequence : LessonSequence} {childrenStates : ChildrenStates} {sessionId : String}

theorem requires_iff {required : String} :
    Requires sequence required sessionId ↔
      ∃ session ∈ sequence.sessions, session.sessionId = sessionId ∧
        required ∈ session.prerequisiteSessions := by
  simp [Requires, predecessors, and_assoc]

theorem Requires.known {required : String} (isRequired : Requires sequence required sessionId) :
    required ∈ sequence.sessionIds := by
  rcases requires_iff.mp isRequired with ⟨session, mem, _, isListed⟩
  exact LessonSequence.prerequisite_known mem isListed

theorem acyclic_of_ordered
    (ordered : ∀ session ∈ sequence.sessions, ∀ required ∈ session.prerequisiteSessions,
      sequence.sessionIds.idxOf required < sequence.sessionIds.idxOf session.sessionId) :
    Acyclic (Requires sequence) := by
  apply acyclic_of_rank fun sessionId => sequence.sessionIds.idxOf sessionId
  intro required sessionId isRequired
  rcases requires_iff.mp isRequired with ⟨session, mem, rfl, isListed⟩
  exact ordered session mem required isListed

/-- What is known of one session. -/
inductive Verdict where
  | spawned
  | blocked (failedPrereq : String)
  | waiting
  | ready

def verdict (sequence : LessonSequence) (childrenStates : ChildrenStates) (sessionId : String) :
    Verdict :=
  if sessionId ∈ childrenStates then
    .spawned
  else
    let prereqs := predecessors sequence sessionId
    match prereqs.find? fun prereq => (childrenStates.lookup prereq).any isFailed with
    | some failedPrereq => .blocked failedPrereq
    | none =>
      if prereqs.all fun prereq => (childrenStates.lookup prereq).any isCompleted then .ready
      else .waiting

/-- The actions for single sessions, with the spawn slots that are left. -/
def sessionActions (sequence : LessonSequence) (childrenStates : ChildrenStates) :
    List SessionPlan → Int → List SessionAction
  | [], _ => []
  | session :: rest, spawnSlots =>
    match verdict sequence childrenStates session.sessionId with
    | .blocked failedPrereq =>
      ⟨session.sessionId, .block, s!"prerequisite {failedPrereq} failed"⟩ ::
        sessionActions sequence childrenStates rest spawnSlots
    | .ready =>
      if 0 < spawnSlots then
        ⟨session.sessionId, .spawn, "prerequisites satisfied"⟩ ::
          sessionActions sequence childrenStates rest (spawnSlots - 1)
      else
        sessionActions sequence childrenStates rest spawnSlots
    | .spawned | .waiting => sessionActions sequence childrenStates rest spawnSlots

def spawnedIds (actions : List SessionAction) : List String :=
  (actions.filter fun action => action.action = .spawn).map SessionAction.sessionId

def markComplete : SessionAction :=
  ⟨"", .markComplete, "all sessions completed"⟩

def markPartiallyComplete : SessionAction :=
  ⟨"", .markPartiallyComplete, "some sessions failed, no active or spawnable sessions remain"⟩

protected def decide (sequence : LessonSequence) (childrenStates : ChildrenStates)
    (unitFanoutConcurrency : Int) : List SessionAction :=
  let actions := sessionActions sequence childrenStates sequence.sessions unitFanoutConcurrency
  let completedIds := idsWith completedStatus childrenStates
  let failedIds := idsWith failedStatus childrenStates
  let activeIds := idsWith activeStatuses childrenStates
  if sequence.sessionIds.toFinset = completedIds then
    actions ++ [markComplete]
  else if failedIds ≠ ∅ ∧ spawnedIds actions = [] ∧ activeIds = ∅ ∧ completedIds ≠ ∅ then
    actions ++ [markPartiallyComplete]
  else
    actions

/-! ## What is spawned -/

/-- A session that has no child yet and whose prerequisites have completed. -/
def Ready (sequence : LessonSequence) (childrenStates : ChildrenStates) (sessionId : String) :
    Prop :=
  sessionId ∉ childrenStates ∧
    ∀ required, Requires sequence required sessionId →
      childrenStates.lookup required = some .completed

theorem verdict_eq_ready_iff :
    verdict sequence childrenStates sessionId = .ready ↔
      Ready sequence childrenStates sessionId := by
  have completed_iff (required : String) :
      (childrenStates.lookup required).any isCompleted ↔
        childrenStates.lookup required = some .completed := by
    cases childrenStates.lookup required <;> simp
  unfold verdict Ready Requires
  split
  · next isChild => simp [isChild]
  · next noChild =>
    dsimp only
    split
    · next failedPrereq found =>
      -- a failed prerequisite has not completed
      have isFailed := List.find?_some found
      have member := mem_of_find?_eq_some found
      simp only [reduceCtorEq, false_iff, not_and, not_forall]
      intro _
      refine ⟨failedPrereq, member, fun isCompleted => ?_⟩
      rw [isCompleted] at isFailed
      revert isFailed
      decide
    · split
      · next allDone =>
        simp only [all_eq_true, completed_iff] at allDone
        simpa [noChild] using allDone
      · next notDone =>
        simp only [all_eq_true, completed_iff] at notDone
        simpa [noChild] using notDone

variable {sessions : List SessionPlan} {spawnSlots : Int}

/-- Sessions are spawned in the order of the sequence, each where it is listed. -/
theorem spawnedIds_sessionActions_sublist :
    (spawnedIds (sessionActions sequence childrenStates sessions spawnSlots)).Sublist
      (sessions.map SessionPlan.sessionId) := by
  induction sessions generalizing spawnSlots with
  | nil => exact .slnil
  | cons session rest ih =>
    rw [sessionActions]
    split
    · exact .cons _ ih
    · split
      · exact .cons_cons _ ih
      · exact .cons _ ih
    · exact .cons _ ih
    · exact .cons _ ih

theorem ready_of_mem_spawnedIds
    (spawned : sessionId ∈ spawnedIds (sessionActions sequence childrenStates sessions spawnSlots)) :
    Ready sequence childrenStates sessionId := by
  induction sessions generalizing spawnSlots with
  | nil => simp [sessionActions, spawnedIds] at spawned
  | cons session rest ih =>
    rw [sessionActions] at spawned
    split at spawned
    · exact ih spawned
    · next isReady =>
      split at spawned
      · rcases mem_cons.mp spawned with rfl | later
        · exact verdict_eq_ready_iff.mp isReady
        · exact ih later
      · exact ih spawned
    · exact ih spawned
    · exact ih spawned

theorem spawnedIds_ne_nil_of_ready (free : 0 < spawnSlots) {session : SessionPlan}
    (mem : session ∈ sessions) (isReady : Ready sequence childrenStates session.sessionId) :
    spawnedIds (sessionActions sequence childrenStates sessions spawnSlots) ≠ [] := by
  induction sessions generalizing spawnSlots with
  | nil => cases mem
  | cons first rest ih =>
    rw [sessionActions]
    split
    · next failedPrereq isBlocked =>
      rcases mem_cons.mp mem with rfl | later
      · rw [verdict_eq_ready_iff.mpr isReady] at isBlocked
        cases isBlocked
      · exact ih free later
    · rw [if_pos free]
      exact cons_ne_nil _ _
    · next isSpawned =>
      rcases mem_cons.mp mem with rfl | later
      · rw [verdict_eq_ready_iff.mpr isReady] at isSpawned
        cases isSpawned
      · exact ih free later
    · next isWaiting =>
      rcases mem_cons.mp mem with rfl | later
      · rw [verdict_eq_ready_iff.mpr isReady] at isWaiting
        cases isWaiting
      · exact ih free later

theorem spawnedIds_decide (sequence : LessonSequence) (childrenStates : ChildrenStates)
    (cap : Int) :
    spawnedIds (Units.decide sequence childrenStates cap) =
      spawnedIds (sessionActions sequence childrenStates sequence.sessions cap) := by
  unfold Units.decide
  dsimp only
  split
  · simp [spawnedIds, markComplete]
  · split
    · simp [spawnedIds, markPartiallyComplete]
    · rfl

theorem action_of_mem_sessionActions {action : SessionAction}
    (mem : action ∈ sessionActions sequence childrenStates sessions spawnSlots) :
    action.action = .spawn ∨ action.action = .block := by
  induction sessions generalizing spawnSlots with
  | nil => simp [sessionActions] at mem
  | cons session rest ih =>
    rw [sessionActions] at mem
    split at mem
    · rcases mem_cons.mp mem with rfl | later
      · exact .inr rfl
      · exact ih later
    · split at mem
      · rcases mem_cons.mp mem with rfl | later
        · exact .inl rfl
        · exact ih later
      · exact ih mem
    · exact ih mem
    · exact ih mem

/-- The actions contain one of the kind. -/
def Emits (actions : List SessionAction) (kind : OrchestratorAction) : Prop :=
  ∃ action ∈ actions, action.action = kind
  deriving Decidable

theorem emits_spawn_iff {actions : List SessionAction} :
    Emits actions .spawn ↔ spawnedIds actions ≠ [] := by
  simp [Emits, spawnedIds]

theorem emits_markComplete_iff {cap : Int} :
    Emits (Units.decide sequence childrenStates cap) .markComplete ↔
      sequence.sessionIds.toFinset = idsWith completedStatus childrenStates := by
  have noMark : ¬ Emits (sessionActions sequence childrenStates sequence.sessions cap)
      .markComplete := by
    rintro ⟨action, mem, isMark⟩
    rcases action_of_mem_sessionActions mem with isSpawn | isBlock
    · simp [isMark] at isSpawn
    · simp [isMark] at isBlock
  unfold Units.decide
  dsimp only
  split
  · next allCompleted => simp [Emits, markComplete, allCompleted]
  · next notAll =>
    simp only [notAll, iff_false]
    split
    · rintro ⟨action, mem, isMark⟩
      rcases mem_append.mp mem with earlier | last
      · exact noMark ⟨action, earlier, isMark⟩
      · simp only [mem_singleton] at last
        subst last
        cases isMark
    · exact noMark

instance decidableReady (sessionId : String) : Decidable (Ready sequence childrenStates sessionId) :=
  inferInstanceAs (Decidable (_ ∧ ∀ required ∈ predecessors sequence sessionId, _ = _))

theorem spawnedIds_sessionActions (spawnSlots : Int) :
    spawnedIds (sessionActions sequence childrenStates sessions spawnSlots) =
      ((sessions.map SessionPlan.sessionId).filter fun sessionId =>
        Ready sequence childrenStates sessionId).take spawnSlots.toNat := by
  induction sessions generalizing spawnSlots with
  | nil => simp [sessionActions, spawnedIds]
  | cons session rest ih =>
    rw [sessionActions, map_cons, filter_cons]
    by_cases isReady : Ready sequence childrenStates session.sessionId
    · rw [verdict_eq_ready_iff.mpr isReady, if_pos (decide_eq_true isReady)]
      by_cases free : 0 < spawnSlots
      · have slots : spawnSlots.toNat = (spawnSlots - 1).toNat + 1 := by omega
        simp only [if_pos free, slots, take_succ_cons, ← ih]
        rfl
      · have noSlot : spawnSlots.toNat = 0 := by omega
        simp only [if_neg free, ih, noSlot, take_zero]
    · rw [if_neg (mt of_decide_eq_true isReady), ← ih]
      split
      · rfl
      · next ready => exact absurd (verdict_eq_ready_iff.mp ready) isReady
      · rfl
      · rfl

/-- A tick spawns the first sessions of the plan that are ready, as many as the
cap allows, whatever became of the children. -/
theorem decide_spawns_first_ready (sequence : LessonSequence) (childrenStates : ChildrenStates)
    (cap : Int) :
    spawnedIds (Units.decide sequence childrenStates cap) =
      (sequence.sessionIds.filter fun sessionId =>
        Ready sequence childrenStates sessionId).take cap.toNat := by
  rw [spawnedIds_decide, spawnedIds_sessionActions]
  rfl

end OhMyClass.Gateway.Units
