import Mathlib.Data.Nat.Basic

/-!
# Healing of a run

The breaker of a run, and the ladder of strategies before it.
-/

namespace OhMyClass.Healing

/-!
## The circuit breaker of a run

A store keeps the breaker's state under the key of the run and drops it when
its time to live is over.  A store that cannot be reached answers like one
without the key and stores nothing.
-/

section

inductive BreakerStatus where
  | closed
  | opened
  | halfOpen
  deriving DecidableEq

structure BreakerState where
  failures : Nat
  state : BreakerStatus
  lastFailureTime : Nat

/-- A breaker that has seen no failure. -/
def BreakerState.initial : BreakerState :=
  ⟨0, .closed, 0⟩

structure StoredBreaker where
  state : BreakerState
  expiresAt : Nat

/-- What is stored under the key of a run. -/
abbrev BreakerStore := Option StoredBreaker

/-- When the store is asked, and whether it answers. -/
structure StoreAccess where
  now : Nat
  reachable : Bool

/-- `max(1, int(ttl_seconds))`. -/
def timeToLive (recoveryTimeout : Nat) : Nat :=
  max 1 recoveryTimeout

def loadState (access : StoreAccess) (store : BreakerStore) : BreakerState :=
  if access.reachable then
    match store with
    | none => .initial
    | some stored => if access.now < stored.expiresAt then stored.state else .initial
  else
    .initial

def saveState (recoveryTimeout : Nat) (access : StoreAccess) (store : BreakerStore)
    (state : BreakerState) : BreakerStore :=
  if access.reachable then some ⟨state, access.now + timeToLive recoveryTimeout⟩ else store

def recordFailure (threshold recoveryTimeout : Nat) (access : StoreAccess) (store : BreakerStore) :
    BreakerStore :=
  let failures := (loadState access store).failures + 1
  saveState recoveryTimeout access store
    { failures := failures
      state := if threshold ≤ failures then .opened else .closed
      lastFailureTime := access.now }

def exhausted (threshold : Nat) (access : StoreAccess) (store : BreakerStore) : Bool :=
  (loadState access store).state = .opened ∧ threshold ≤ (loadState access store).failures

/-! ## One failure after another -/

variable {threshold recoveryTimeout : Nat} {access : StoreAccess} {store : BreakerStore}

@[simp]
theorem loadState_saveState {state : BreakerState} :
    loadState access (saveState recoveryTimeout access store state) =
      if access.reachable then state else .initial := by
  unfold loadState saveState
  cases access.reachable with
  | false => rfl
  | true =>
    have live : access.now < access.now + timeToLive recoveryTimeout := by
      unfold timeToLive
      omega
    simp [live]

theorem failures_recordFailure (reachable : access.reachable = true) :
    (loadState access (recordFailure threshold recoveryTimeout access store)).failures =
      (loadState access store).failures + 1 := by
  simp [recordFailure, reachable]

/-- A failure exhausts the breaker as soon as the failures reach its threshold,
and never while the store cannot be reached. -/
theorem exhausted_recordFailure_iff :
    exhausted threshold access (recordFailure threshold recoveryTimeout access store) = true ↔
      access.reachable = true ∧ threshold ≤ (loadState access store).failures + 1 := by
  unfold exhausted recordFailure
  simp only [loadState_saveState, decide_eq_true_eq]
  cases access.reachable with
  | false => simp [BreakerState.initial]
  | true =>
    simp only [if_true, true_and]
    split
    · next reached => simp [reached]
    · next below => simp [below]

end

/-!
## The healing ladder

The orchestrator answers a failure with the strategy for its count, unless the
breaker of the run is exhausted.
-/

section

inductive HealingStrategy where
  | retry
  | rewrite
  | reroute
  | replan
  | escalate
  deriving DecidableEq

inductive FailType where
  | transient
  | validation
  | score
  | content
  deriving DecidableEq

/-- What the orchestrator reads of the state it is given. -/
structure HealingState where
  runId : String
  failCount : Nat
  failType : FailType
  generationModel : Option String

/-- The fields a strategy sets.  A replan clears the chunks, snapshots, scores
and issues of the state. -/
structure HealingResult where
  failCount : Nat
  healingStrategy : HealingStrategy
  escalate : Bool
  generationModel : Option String
  cleared : Bool

def defaultGenerationModel : String :=
  "4omc"

/-- `value or DEFAULT_GENERATION_MODEL`. -/
def orDefaultModel (model : String) : String :=
  if model = "" then defaultGenerationModel else model

namespace HealingResult

def retry (failCount : Nat) : HealingResult :=
  ⟨failCount, .retry, false, none, false⟩

def rewrite (failCount : Nat) : HealingResult :=
  ⟨failCount, .rewrite, false, none, false⟩

def reroute (strongDefault : String) (state : HealingState) (failCount : Nat) : HealingResult :=
  let currentModel := orDefaultModel (state.generationModel.getD "")
  let strong := orDefaultModel strongDefault
  let fallback := if currentModel ≠ strong then strong else currentModel
  ⟨failCount, .reroute, false, some fallback, false⟩

/-- The full replan; the context of a quality failure names neither a stage
nor an artifact. -/
def replan (failCount : Nat) : HealingResult :=
  ⟨failCount, .replan, false, none, true⟩

def escalated (failCount : Nat) : HealingResult :=
  ⟨failCount, .escalate, true, none, false⟩

end HealingResult

structure HealingOrchestrator where
  maxRetries : Nat
  recoveryTimeout : Nat
  strongDefault : String

/-- The strategy for a count, once the breaker is passed. -/
def HealingOrchestrator.strategy (orchestrator : HealingOrchestrator) (state : HealingState)
    (failCount : Nat) : HealingResult :=
  if orchestrator.maxRetries < failCount then .escalated failCount
  else if failCount = 1 ∧ state.failType = .transient then .retry failCount
  else if failCount = 1 ∧ state.failType ∈ [FailType.validation, .score, .content] then
    .rewrite failCount
  else if failCount = 2 then .reroute orchestrator.strongDefault state failCount
  else if failCount = 3 then .replan failCount
  else .escalated failCount

/-- `heal`; a run without an id has no breaker. -/
def HealingOrchestrator.heal (orchestrator : HealingOrchestrator) (state : HealingState)
    (access : StoreAccess) (store : BreakerStore) : HealingResult × BreakerStore :=
  let failCount := state.failCount + 1
  if state.runId = "" then
    (orchestrator.strategy state failCount, store)
  else
    let threshold := orchestrator.maxRetries + 1
    let recorded := recordFailure threshold orchestrator.recoveryTimeout access store
    if exhausted threshold access recorded then
      (.escalated failCount, recorded)
    else
      (orchestrator.strategy state failCount, recorded)

/-- The strategy of a row; there are three. -/
def ladderRow (failCount : Nat) : HealingStrategy :=
  match failCount with
  | 1 => .rewrite
  | 2 => .reroute
  | 3 => .replan
  | _ => .escalate

variable {orchestrator : HealingOrchestrator} {state : HealingState} {failCount : Nat}

theorem strategy_of_row (persistent : state.failType ≠ .transient) (positive : 1 ≤ failCount)
    (inLadder : failCount ≤ min orchestrator.maxRetries 3) :
    (orchestrator.strategy state failCount).healingStrategy = ladderRow failCount ∧
      (orchestrator.strategy state failCount).escalate = false := by
  have allowed : ¬ orchestrator.maxRetries < failCount := by omega
  have rows : failCount = 1 ∨ failCount = 2 ∨ failCount = 3 := by omega
  unfold HealingOrchestrator.strategy
  rw [if_neg allowed]
  rcases rows with rfl | rfl | rfl
  · cases isType : state.failType with
    | transient => exact absurd isType persistent
    | validation | score | content => exact ⟨rfl, rfl⟩
  · exact ⟨rfl, rfl⟩
  · exact ⟨rfl, rfl⟩

theorem strategy_above_ladder (above : min orchestrator.maxRetries 3 < failCount) :
    orchestrator.strategy state failCount = .escalated failCount := by
  unfold HealingOrchestrator.strategy
  split
  · rfl
  · next allowed =>
    rw [if_neg (by omega), if_neg (by omega), if_neg (by omega), if_neg (by omega)]

theorem failCount_strategy :
    (orchestrator.strategy state failCount).failCount = failCount := by
  unfold HealingOrchestrator.strategy HealingResult.reroute
  repeat' split
  all_goals rfl

variable {access : StoreAccess} {store : BreakerStore}

theorem failCount_heal :
    (orchestrator.heal state access store).1.failCount = state.failCount + 1 := by
  unfold HealingOrchestrator.heal
  simp only
  repeat' split
  · exact failCount_strategy
  · rfl
  · exact failCount_strategy

theorem heal_of_runId (hasId : state.runId ≠ "") :
    orchestrator.heal state access store =
      (if access.reachable = true ∧ orchestrator.maxRetries ≤ (loadState access store).failures then
          .escalated (state.failCount + 1)
        else orchestrator.strategy state (state.failCount + 1),
      recordFailure (orchestrator.maxRetries + 1) orchestrator.recoveryTimeout access store) := by
  unfold HealingOrchestrator.heal
  simp only [hasId, if_false, exhausted_recordFailure_iff, Nat.add_le_add_iff_right]
  split
  · rfl
  · rfl

theorem heal_above_ladder (above : min orchestrator.maxRetries 3 < state.failCount + 1) :
    (orchestrator.heal state access store).1 = .escalated (state.failCount + 1) := by
  unfold HealingOrchestrator.heal
  simp only [strategy_above_ladder above]
  split
  · rfl
  · split <;> rfl

theorem cleared_strategy_iff :
    (orchestrator.strategy state failCount).cleared = true ↔
      failCount = 3 ∧ 3 ≤ orchestrator.maxRetries := by
  by_cases above : min orchestrator.maxRetries 3 < failCount
  · rw [strategy_above_ladder above]
    simp only [HealingResult.escalated, Bool.false_eq_true, false_iff]
    omega
  · unfold HealingOrchestrator.strategy HealingResult.reroute
    repeat' split
    all_goals
      simp only [HealingResult.retry, HealingResult.rewrite, HealingResult.replan,
        HealingResult.escalated, Bool.false_eq_true, false_iff, true_iff]
      omega

end

end OhMyClass.Healing
