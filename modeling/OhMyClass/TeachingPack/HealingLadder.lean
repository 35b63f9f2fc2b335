import OhMyClass.TeachingPack.Quality
import OhMyClass.Transition.Machine

/-!
# One failure after another

A run fails at the injected gate again and again.  Between two calls other
stages may change the state, but not the run, its count and what healing said
of it.  Each call heals twice, so the breaker counts two failures where the
state counts one.
-/

namespace OhMyClass.TeachingPack

open OhMyClass.Healing OhMyClass.Keyed OhMyClass.Transition

/-- A call that fails at the injected gate, with the state that the stages
before it leave. -/
structure FailingCall where
  seen : TeachingPackState
  checks : QualityChecks
  access : StoreAccess
  issues : List String
  classes : List QualityFailureClass
  fails : qualityOutcome true checks seen = .failedAtGate issues classes

/-- The state of the call: what the last one said of the run is kept. -/
def FailingCall.before (call : FailingCall) (state : TeachingPackState) : TeachingPackState :=
  { call.seen with
    runId := state.runId
    failCount := state.failCount
    escalate := state.escalate
    healingStrategy := state.healingStrategy }

/-- The first failure of a run whose breaker key is absent. -/
structure FirstFailure (run : TeachingPackState × BreakerStore) : Prop where
  hasId : run.1.runId ≠ ""
  uncounted : run.1.failCount = 0
  calm : run.1.escalate = false
  keyAbsent : run.2 = none

def FailingCall.healing (config : HealingConfig) (call : FailingCall)
    (run : TeachingPackState × BreakerStore) : HealingUpdate × BreakerStore :=
  healAtGate config (call.before run.1) call.classes call.access run.2

/-- What the call itself returns. -/
def FailingCall.answer (config : HealingConfig) (call : FailingCall)
    (run : TeachingPackState × BreakerStore) : TeachingPackState :=
  (call.healing config run).1.apply ((call.before run.1).failQuality call.issues
    (call.healing config run).1.qualityRecoveryRoute)

def ladderMachine (config : HealingConfig) :
    Machine (TeachingPackState × BreakerStore) FailingCall
      (Except StageError TeachingPackState) where
  initial := FirstFailure
  step run call :=
    let answered := renderQuality true config (call.before run.1) call.checks call.access run.2
    ((answered.1.toOption.getD run.1, answered.2), answered.1)

/-- A call answers with its row of the ladder, or escalates above it. -/
structure LadderRow (maxHealingAttempts call : Nat) (answer : TeachingPackState) : Prop where
  count : answer.failCount = call
  onLadder : call ≤ min maxHealingAttempts 3 →
    answer.healingStrategy = some (ladderRow call) ∧ answer.escalate = false ∧
      answer.qualityRecoveryRoute ≠ some .teacherApproval
  aboveLadder : min maxHealingAttempts 3 < call →
    answer.healingStrategy = some .escalate ∧ answer.escalate = true ∧
      answer.qualityRecoveryRoute = some .teacherApproval

/-- The forced escalation is off, and the breaker has room for the two failures
of the call or cannot be reached. -/
def HasRoom (config : HealingConfig) (run : TeachingPackState × BreakerStore)
    (call : FailingCall) : Prop :=
  config.forceEscalate = false ∧ (call.access.reachable = true →
    (loadState call.access run.2).failures + 2 ≤ config.maxHealingAttempts)

/-! ## What one failure does -/

section OneFailure

variable {config : HealingConfig} {state : TeachingPackState}
  {classes : List QualityFailureClass} {access : StoreAccess} {store : BreakerStore}

theorem healQualityFailure_of_ladder (calm : config.forceEscalate = false)
    (heals : 1 ≤ config.maxHealingAttempts) :
    healQualityFailure config state classes access store =
      (healingUpdateOf classes
        (config.orchestrator.heal (healingState state classes) access store).1,
      (config.orchestrator.heal (healingState state classes) access store).2) := by
  have attempts : config.maxHealingAttempts ≠ 0 := by omega
  simp only [healQualityFailure, calm, attempts, if_false, Bool.false_eq_true]

/-- The answer of a call is that of its second healing, for which the breaker
already holds the failure of the first. -/
theorem healAtGate_eq (calm : config.forceEscalate = false)
    (heals : 1 ≤ config.maxHealingAttempts) (hasId : state.runId ≠ "") :
    (healAtGate config state classes access store).1 =
      healingUpdateOf classes
        (if access.reachable = true ∧
            config.maxHealingAttempts ≤ (loadState access store).failures + 1 then
          .escalated (state.failCount + 1)
        else
          config.orchestrator.strategy (healingState state classes) (state.failCount + 1)) := by
  have named : (healingState state classes).runId ≠ "" := hasId
  unfold healAtGate
  rw [healQualityFailure_of_ladder calm heals, healQualityFailure_of_ladder calm heals,
    heal_of_runId named, heal_of_runId named]
  simp only [HealingConfig.orchestrator, healingState]
  congr 1
  apply if_congr _ rfl rfl
  apply and_congr_right
  intro reachable
  rw [failures_recordFailure reachable]

theorem failType_ne_transient : failType classes ≠ .transient := by
  unfold failType
  split
  · simp
  · split <;> simp

theorem healAtGate_of_room (calm : config.forceEscalate = false) (hasId : state.runId ≠ "")
    (room : access.reachable = true →
      (loadState access store).failures + 2 ≤ config.maxHealingAttempts)
    (onLadder : state.failCount < min config.maxHealingAttempts 3) :
    (healAtGate config state classes access store).1.failCount = some (state.failCount + 1) ∧
      (healAtGate config state classes access store).1.healingStrategy =
        some (ladderRow (state.failCount + 1)) ∧
      (healAtGate config state classes access store).1.escalate = false ∧
      (healAtGate config state classes access store).1.qualityRecoveryRoute ≠ .teacherApproval := by
  have heals : 1 ≤ config.maxHealingAttempts := by omega
  have hasRoom : ¬ (access.reachable = true ∧
      config.maxHealingAttempts ≤ (loadState access store).failures + 1) := by
    rintro ⟨reachable, full⟩
    have fits := room reachable
    omega
  have row : (config.orchestrator.strategy (healingState state classes)
      (state.failCount + 1)).healingStrategy = ladderRow (state.failCount + 1) ∧
      (config.orchestrator.strategy (healingState state classes)
        (state.failCount + 1)).escalate = false :=
    strategy_of_row failType_ne_transient (Nat.succ_pos _) onLadder
  rw [healAtGate_eq calm heals hasId, if_neg hasRoom]
  refine ⟨congrArg some failCount_strategy, congrArg some row.1, row.2, ?_⟩
  rcases routeForHealing_cases (config.orchestrator.strategy (healingState state classes)
    (state.failCount + 1)) classes with ⟨escalates, _⟩ | ⟨_, planning | artifacts⟩
  · simp [row.2] at escalates
  · simp [healingUpdateOf, planning]
  · simp [healingUpdateOf, artifacts]

/-- What makes a call escalate: the switch, the breaker or the end of the
ladder. -/
theorem healAtGate_of_cause (heals : 1 ≤ config.maxHealingAttempts) (hasId : state.runId ≠ "")
    (cause : config.forceEscalate = true ∨
      (access.reachable = true ∧
        config.maxHealingAttempts ≤ (loadState access store).failures + 1) ∨
      min config.maxHealingAttempts 3 ≤ state.failCount) :
    (healAtGate config state classes access store).1 =
      healingUpdateOf classes (.escalated (state.failCount + 1)) := by
  cases isForced : config.forceEscalate with
  | true => simp [healAtGate, healQualityFailure, isForced, healingUpdateOf,
      HealingResult.escalated, routeForHealing]
  | false =>
    rw [healAtGate_eq isForced heals hasId]
    split
    · rfl
    · next passed =>
      have above : min config.maxHealingAttempts 3 < state.failCount + 1 := by
        rcases cause with forced | full | atEnd
        · exact absurd forced (by simp [isForced])
        · exact absurd full passed
        · omega
      exact congrArg (healingUpdateOf classes) (strategy_above_ladder above)

end OneFailure

/-! ## One step -/

section OneStep

variable {config : HealingConfig} {run : TeachingPackState × BreakerStore} {call : FailingCall}

theorem step_ladderMachine :
    (ladderMachine config).step run call =
      ((call.answer config run, (call.healing config run).2), .ok (call.answer config run)) := by
  have fails : qualityOutcome true call.checks (call.before run.1) =
      .failedAtGate call.issues call.classes := call.fails
  simp only [ladderMachine, renderQuality, fails]
  rfl

theorem healing_of_room (room : HasRoom config run call) (hasId : run.1.runId ≠ "")
    (onLadder : run.1.failCount < min config.maxHealingAttempts 3) :
    (call.healing config run).1.failCount = some (run.1.failCount + 1) ∧
      (call.healing config run).1.healingStrategy = some (ladderRow (run.1.failCount + 1)) ∧
      (call.healing config run).1.escalate = false ∧
      (call.healing config run).1.qualityRecoveryRoute ≠ .teacherApproval := by
  have named : (call.before run.1).runId ≠ "" := hasId
  exact healAtGate_of_room room.1 named room.2 onLadder

theorem healing_escalates (heals : 1 ≤ config.maxHealingAttempts) (hasId : run.1.runId ≠ "")
    (cause : ¬ HasRoom config run call ∨ min config.maxHealingAttempts 3 ≤ run.1.failCount) :
    (call.healing config run).1 =
      healingUpdateOf call.classes (.escalated (run.1.failCount + 1)) := by
  have named : (call.before run.1).runId ≠ "" := hasId
  refine healAtGate_of_cause heals named ?_
  rcases cause with noRoom | atEnd
  · rw [HasRoom, Classical.not_and_iff_not_or_not, Bool.not_eq_false, Classical.not_imp] at noRoom
    rcases noRoom with forced | ⟨reachable, full⟩
    · exact .inl forced
    · exact .inr (.inl ⟨reachable, by omega⟩)
  · exact .inr (.inr atEnd)

theorem failCount_answer (heals : 1 ≤ config.maxHealingAttempts) (hasId : run.1.runId ≠ "") :
    (call.answer config run).failCount = run.1.failCount + 1 := by
  have counted : (call.healing config run).1.failCount = some (run.1.failCount + 1) := by
    by_cases room : HasRoom config run call
    · rcases Nat.lt_or_ge run.1.failCount (min config.maxHealingAttempts 3) with onLadder | atEnd
      · exact (healing_of_room room hasId onLadder).1
      · rw [healing_escalates heals hasId (.inr atEnd)]
        rfl
    · rw [healing_escalates heals hasId (.inl room)]
      rfl
  simp [FailingCall.answer, HealingUpdate.apply, counted]

theorem ladderRow_of_room (room : HasRoom config run call) (hasId : run.1.runId ≠ "")
    (onLadder : run.1.failCount < min config.maxHealingAttempts 3)
    (calm : run.1.escalate = false) :
    LadderRow config.maxHealingAttempts (run.1.failCount + 1) (call.answer config run) := by
  rcases healing_of_room room hasId onLadder with ⟨counted, isRow, stays, route⟩
  constructor
  · exact failCount_answer (by omega) hasId
  · intro _
    simp [FailingCall.answer, HealingUpdate.apply, isRow, stays, route, FailingCall.before, calm,
      TeachingPackState.failQuality]
  · intro above
    omega

theorem ladderRow_of_above (heals : 1 ≤ config.maxHealingAttempts) (hasId : run.1.runId ≠ "")
    (atEnd : min config.maxHealingAttempts 3 ≤ run.1.failCount) :
    LadderRow config.maxHealingAttempts (run.1.failCount + 1) (call.answer config run) := by
  constructor
  · exact failCount_answer heals hasId
  · intro onLadder
    omega
  · intro _
    simp [FailingCall.answer, HealingUpdate.apply, healing_escalates heals hasId (.inr atEnd),
      healingUpdateOf, HealingResult.escalated, routeForHealing]

theorem hasRoom_of_ladderRow (heals : 1 ≤ config.maxHealingAttempts) (hasId : run.1.runId ≠ "")
    (onLadder : run.1.failCount < min config.maxHealingAttempts 3)
    (isRow : LadderRow config.maxHealingAttempts (run.1.failCount + 1) (call.answer config run)) :
    HasRoom config run call := by
  by_contra noRoom
  have calm := (isRow.onLadder onLadder).2.1
  simp [FailingCall.answer, HealingUpdate.apply, healing_escalates heals hasId (.inl noRoom),
    healingUpdateOf, HealingResult.escalated] at calm

end OneStep

section Sequence

variable {config : HealingConfig} {start : TeachingPackState × BreakerStore}

/-- The run and its breaker before each call of a sequence. -/
abbrev beforeCall (config : HealingConfig) (start : TeachingPackState × BreakerStore)
    (calls : ℕ → FailingCall) (n : Nat) : TeachingPackState × BreakerStore :=
  ((ladderMachine config).trajectory start calls n).1

theorem beforeCall_succ (calls : ℕ → FailingCall) (n : Nat) :
    (beforeCall config start calls (n + 1)).1 =
      (calls n).answer config (beforeCall config start calls n) := by
  simp only [beforeCall, Machine.trajectory, Machine.advance, step_ladderMachine]

theorem counted_beforeCall (heals : 1 ≤ config.maxHealingAttempts) (first : FirstFailure start)
    (calls : ℕ → FailingCall) (n : Nat) :
    (beforeCall config start calls n).1.runId ≠ "" ∧
      (beforeCall config start calls n).1.failCount = n := by
  induction n with
  | zero => exact ⟨first.hasId, first.uncounted⟩
  | succ n ih =>
    rw [beforeCall_succ]
    exact ⟨ih.1, (failCount_answer heals ih.1).trans (congrArg (· + 1) ih.2)⟩

theorem calm_beforeCall (heals : 1 ≤ config.maxHealingAttempts) (first : FirstFailure start)
    (calls : ℕ → FailingCall) {n : Nat} (onLadder : n ≤ min config.maxHealingAttempts 3)
    (rooms : ∀ earlier < n, HasRoom config (beforeCall config start calls earlier)
      (calls earlier)) :
    (beforeCall config start calls n).1.escalate = false := by
  induction n with
  | zero => exact first.calm
  | succ n ih =>
    rcases counted_beforeCall heals first calls n with ⟨hasId, counted⟩
    have calm := ih (by omega) fun earlier before => rooms earlier (by omega)
    rw [beforeCall_succ]
    exact ((ladderRow_of_room (rooms n n.lt_succ_self) hasId (by omega) calm).onLadder
      (by omega)).2.1

/-- The calls of a run follow the ladder exactly as long as each call of the
ladder finds room in the breaker. -/
theorem failing_calls_follow_ladder_iff (heals : 1 ≤ config.maxHealingAttempts)
    (first : FirstFailure start) (calls : ℕ → FailingCall) (m : Nat) :
    (∀ n < m, ∃ answer,
      ((ladderMachine config).step (beforeCall config start calls n) (calls n)).2 = .ok answer ∧
        LadderRow config.maxHealingAttempts (n + 1) answer) ↔
      ∀ n < m, n < min config.maxHealingAttempts 3 →
        HasRoom config (beforeCall config start calls n) (calls n) := by
  constructor
  · intro rows n inRange onLadder
    rcases counted_beforeCall heals first calls n with ⟨hasId, counted⟩
    rcases rows n inRange with ⟨answer, isAnswer, isRow⟩
    rw [step_ladderMachine, Except.ok.injEq] at isAnswer
    subst isAnswer
    exact hasRoom_of_ladderRow heals hasId (by omega) (by rwa [counted])
  · intro rooms n inRange
    rcases counted_beforeCall heals first calls n with ⟨hasId, counted⟩
    refine ⟨_, congrArg Prod.snd step_ladderMachine, ?_⟩
    rcases Nat.lt_or_ge n (min config.maxHealingAttempts 3) with onLadder | atEnd
    · have calm := calm_beforeCall heals first calls onLadder.le
        fun earlier before => rooms earlier (by omega) (by omega)
      have isRow := ladderRow_of_room (rooms n inRange onLadder) hasId (by omega) calm
      rwa [counted] at isRow
    · have isRow : LadderRow config.maxHealingAttempts
          ((beforeCall config start calls n).1.failCount + 1)
          ((calls n).answer config (beforeCall config start calls n)) :=
        ladderRow_of_above heals hasId (by omega)
      rwa [counted] at isRow

end Sequence

/-- Three attempts, the forced escalation switched off. -/
def threeAttempts : HealingConfig :=
  ⟨3, false, 3600, ""⟩

def lessonWithoutDoctype : TeachingPackState :=
  { TeachingPackState.initial "run" ⟨none, ["lesson"]⟩ with
    artifactReferences := Channel.empty.merge
      [⟨"lesson-1", "lesson", "lesson", "generation", none⟩] }

/-- The gate finds the doctype missing, at a given time. -/
def doctypeMissing (access : StoreAccess) : FailingCall where
  seen := lessonWithoutDoctype
  checks :=
    { coherenceIssues := []
      layer1Issues := []
      strategyIssues := []
      report := fun _ => ⟨false, [⟨.missingDoctype, "lesson", "doctype missing"⟩]⟩
      judgePassed := true
      judgeIssues := []
      middlewareWarnings := false }
  access := access
  issues := ["lesson: missing_doctype: doctype missing"]
  classes := [.missingDoctype]
  fails := by decide +kernel

theorem firstFailure_lessonWithoutDoctype : FirstFailure (lessonWithoutDoctype, none) :=
  ⟨by decide, rfl, rfl, rfl⟩

/-- Three calls against a store that cannot be reached. -/
theorem failing_calls_follow_ladder_unreachable :
    FirstFailure (lessonWithoutDoctype, none) ∧
    ∀ n < 3, ∃ answer,
      ((ladderMachine threeAttempts).step (beforeCall threeAttempts (lessonWithoutDoctype, none)
        (fun call => doctypeMissing ⟨call, false⟩) n) (doctypeMissing ⟨n, false⟩)).2 = .ok answer ∧
        LadderRow 3 (n + 1) answer :=
  ⟨firstFailure_lessonWithoutDoctype,
    (failing_calls_follow_ladder_iff (by decide : 1 ≤ threeAttempts.maxHealingAttempts)
      firstFailure_lessonWithoutDoctype (fun call => doctypeMissing ⟨call, false⟩) 3).mpr
      fun _ _ _ => ⟨rfl, nofun⟩⟩

/-- With three attempts and a store that answers, the second call escalates
instead of rerouting. -/
theorem second_call_escalates :
    ¬ ∃ answer,
      ((ladderMachine threeAttempts).step (beforeCall threeAttempts (lessonWithoutDoctype, none)
        (fun call => doctypeMissing ⟨call, true⟩) 1) (doctypeMissing ⟨1, true⟩)).2 = .ok answer ∧
        LadderRow 3 2 answer := by
  rintro ⟨answer, isAnswer, isRow⟩
  have calm := (isRow.onLadder (by decide)).2.1
  rw [step_ladderMachine, Except.ok.injEq] at isAnswer
  rw [← isAnswer] at calm
  revert calm
  decide +kernel

end OhMyClass.TeachingPack
