import OhMyClass.TeachingPack.Graph
import OhMyClass.TeachingPack.HealingLadder

/-!
# What healing leaves

A replan stores `None` where the stages read an object or a list.  Every other
answer of the ladder leaves a state that the stages can read.
-/

namespace OhMyClass.TeachingPack

open OhMyClass.Healing OhMyClass.Transition QualityOutcome

/-- Every field holds what the state declares; the workflow states are a list
in any case, since their channel merges nothing for `None`. -/
structure Readable (state : TeachingPackState) : Prop where
  qualityScores : state.qualityScores ≠ .null
  qualityIssues : state.qualityIssues ≠ .null
  renderedSnapshots : state.renderedSnapshots ≠ .null

theorem Readable.of_same {state after : TeachingPackState} (readable : Readable state)
    (scores : after.qualityScores = state.qualityScores)
    (issues : after.qualityIssues = state.qualityIssues)
    (snapshots : after.renderedSnapshots = state.renderedSnapshots) : Readable after where
  qualityScores := scores ▸ readable.qualityScores
  qualityIssues := issues ▸ readable.qualityIssues
  renderedSnapshots := snapshots ▸ readable.renderedSnapshots

/-- The stages of a run can go on with its state, and none has failed to. -/
structure RunsOn (run : GraphRun) : Prop where
  readable : Readable run.state
  noTypeError : run.position ≠ .raised .typeError
  noAttributeError : run.position ≠ .raised .attributeError

/-- A failure is the third one, the ladder has a row for it, and the breaker
has room for it or is not asked. -/
def replans (config : HealingConfig) (state : TeachingPackState) (access : StoreAccess)
    (store : BreakerStore) : Prop :=
  config.forceEscalate = false ∧ state.failCount = 2 ∧ 3 ≤ config.maxHealingAttempts ∧
    (state.runId ≠ "" → access.reachable = true →
      (loadState access store).failures + 2 ≤ config.maxHealingAttempts)
  deriving Decidable

/-- The injected gate finds the failure. -/
def QualityOutcome.isFailedAtGate : QualityOutcome → Bool
  | .failedAtGate _ _ => true
  | _ => false

/-- Render quality is about to run. -/
def rendersNext (run : GraphRun) : Prop :=
  run.position = .stage .renderQuality ∧
    (.renderQuality ∈ run.state.completedStages →
      canReenterStage run.state .renderQuality = true)
  deriving Decidable

/-- The next step fails at the injected gate and is answered by a replan. -/
def replansNext (config : GraphConfig) (run : GraphRun) (input : GraphInput) : Prop :=
  rendersNext run ∧
    (qualityOutcome config.qualityGateInjected input.outcome.checks
      run.state).isFailedAtGate = true ∧
    replans config.healing run.state input.outcome.access run.store
  deriving Decidable

section Calls

variable {config : GraphConfig} {outcome : StageOutcome} {stage : StageEnum}
  {state merged : TeachingPackState} {store after : BreakerStore}

theorem healAtGate_of_noId {healing : HealingConfig} {classes : List QualityFailureClass}
    {access : StoreAccess} (calm : healing.forceEscalate = false)
    (heals : 1 ≤ healing.maxHealingAttempts) (noId : state.runId = "") :
    (healAtGate healing state classes access store).1 =
      healingUpdateOf classes
        (healing.orchestrator.strategy (healingState state classes) (state.failCount + 1)) := by
  have unnamed : (healingState state classes).runId = "" := noId
  unfold healAtGate
  rw [healQualityFailure_of_ladder calm heals]
  unfold HealingOrchestrator.heal
  simp only [unnamed, if_true]
  rfl

theorem cleared_healAtGate_iff {healing : HealingConfig} {classes : List QualityFailureClass}
    {access : StoreAccess} :
    (healAtGate healing state classes access store).1.cleared = true ↔
      replans healing state access store := by
  unfold replans
  cases isForced : healing.forceEscalate with
  | true => simp [healAtGate, healQualityFailure, isForced]
  | false =>
    by_cases heals : 1 ≤ healing.maxHealingAttempts
    · have isRow : (healing.orchestrator.strategy (healingState state classes)
          (state.failCount + 1)).cleared = true ↔
            state.failCount = 2 ∧ 3 ≤ healing.maxHealingAttempts := by
        rw [cleared_strategy_iff]
        simp [HealingConfig.orchestrator]
      by_cases noId : state.runId = ""
      · rw [healAtGate_of_noId isForced heals noId]
        simpa [healingUpdateOf, noId] using isRow
      · rw [healAtGate_eq isForced heals noId]
        split
        · next full =>
          simp only [healingUpdateOf, HealingResult.escalated, Bool.false_eq_true, false_iff]
          rintro ⟨_, _, _, hasRoom⟩
          have fits := hasRoom noId full.1
          omega
        · next notFull =>
          have hasRoom : access.reachable = true →
              (loadState access store).failures + 2 ≤ healing.maxHealingAttempts := by
            intro reachable
            by_contra noRoom
            exact notFull ⟨reachable, by omega⟩
          simp only [healingUpdateOf, isRow, true_and]
          constructor
          · rintro ⟨isThird, onLadder⟩
            exact ⟨isThird, onLadder, fun _ => hasRoom⟩
          · rintro ⟨isThird, onLadder, _⟩
            exact ⟨isThird, onLadder⟩
    · have none : healing.maxHealingAttempts = 0 := by omega
      simp [healAtGate, healQualityFailure, isForced, none]

theorem readable_failQuality {issues : List String} {route : RecoveryRoute}
    (readable : Readable state) : Readable (state.failQuality issues route) :=
  ⟨nofun, nofun, readable.renderedSnapshots⟩

theorem readable_apply_iff {update : HealingUpdate} (readable : Readable state) :
    Readable (update.apply state) ↔ update.cleared = false := by
  cases isCleared : update.cleared with
  | true =>
    simp only [Bool.true_eq_false, iff_false]
    intro stillReadable
    exact stillReadable.qualityScores (by simp [HealingUpdate.apply, isCleared])
  | false =>
    simp only [iff_true]
    apply readable.of_same
    all_goals simp [HealingUpdate.apply, isCleared]

/-- A body returns what can be read, or raises something else than a reading
error. -/
def SafeAnswer : Except StageError TeachingPackState → Prop
  | .ok merged => Readable merged
  | .error error => error ≠ .typeError ∧ error ≠ .attributeError

theorem safeAnswer_renderQualityStage_iff (readable : Readable state) :
    SafeAnswer (state.renderQualityStage config outcome store).1 ↔
      ¬ ((qualityOutcome config.qualityGateInjected outcome.checks state).isFailedAtGate = true ∧
        replans config.healing state outcome.access store) := by
  unfold TeachingPackState.renderQualityStage
  rw [if_neg readable.qualityScores]
  cases isOutcome : qualityOutcome config.qualityGateInjected outcome.checks state with
  | passed =>
    simp only [renderQuality, isOutcome, isFailedAtGate, Bool.false_eq_true,
      false_and, not_false_iff, iff_true, TeachingPackState.passQuality, reduceCtorEq, and_false,
      if_false]
    exact ⟨by simp, readable.qualityIssues, by simp⟩
  | failed issues =>
    simp only [renderQuality, isOutcome, isFailedAtGate, Bool.false_eq_true,
      false_and, not_false_iff, iff_true, TeachingPackState.failQuality, reduceCtorEq, and_false,
      if_false]
    exact readable_failQuality readable
  | raised issues =>
    simp [renderQuality, isOutcome, SafeAnswer, isFailedAtGate]
  | failedAtGate issues classes =>
    rcases healing : healAtGate config.healing state classes outcome.access store with
      ⟨update, saved⟩
    have isSafe : Readable (update.apply (state.failQuality issues update.qualityRecoveryRoute)) ↔
        ¬ replans config.healing state outcome.access store := by
      rw [readable_apply_iff (readable_failQuality readable), ← cleared_healAtGate_iff, healing,
        Bool.not_eq_true]
    simp only [renderQuality, isOutcome, healing, isFailedAtGate, true_and]
    split
    · next unreadable =>
      rw [← isSafe]
      constructor
      · rintro ⟨noTypeError, _⟩
        exact absurd rfl noTypeError
      · intro stillReadable
        exact absurd unreadable.2 stillReadable.qualityScores
    · exact isSafe

/-- No other stage stores `None`. -/
theorem safeAnswer_stageBody (noRender : stage ≠ .renderQuality) (readable : Readable state) :
    SafeAnswer (stageBody config outcome stage state store).1 := by
  cases stage with
  | renderQuality => exact absurd rfl noRender
  | artifactWorkflow =>
    simp only [stageBody, TeachingPackState.artifactWorkflow]
    split
    · split
      · exact readable
      · exact ⟨nofun, nofun⟩
    · exact readable.of_same rfl rfl rfl
  | complianceGate =>
    simp only [stageBody, TeachingPackState.complianceGate, if_neg readable.renderedSnapshots]
    split
    · exact readable.of_same rfl rfl rfl
    · exact ⟨readable.qualityScores, nofun, readable.renderedSnapshots⟩
  | teacherApproval =>
    simp only [stageBody, TeachingPackState.teacherApproval, if_neg readable.qualityScores]
    exact readable.of_same rfl rfl rfl
  | exportFinalize =>
    simp only [stageBody, TeachingPackState.exportFinalize]
    split
    · exact ⟨readable.qualityScores, nofun, readable.renderedSnapshots⟩
    · exact readable
  | setupContract | triage | unitPlanning | unitPrep | preplanningSearch
  | provisionalComponentStrategy | postBlueprintResearch | unitApproval | planningBlueprint
  | finalizeComponentStrategy =>
    exact readable.of_same rfl rfl rfl

end Calls

/-! ## Steps and runs -/

section Runs

variable {config : GraphConfig} {run : GraphRun} {input : GraphInput}

/-- A stage that is entered leaves a run that goes on if and only if the answer
of its body is safe. -/
theorem runsOn_visit_iff {stage : StageEnum} {state : TeachingPackState}
    {store after : BreakerStore} {answer : Except StageError TeachingPackState} {visit : Visit}
    (readable : Readable state)
    (visited : Visited config input.outcome stage state store (visit, after))
    (isExecuted : visit.executed = true)
    (body : (stageBody config input.outcome stage state store).1 = answer) :
    RunsOn ⟨visit.after, after, visit.next⟩ ↔ SafeAnswer answer := by
  cases visited with
  | skipped => cases isExecuted
  | @executed merged _ enters ret =>
    rw [ret] at body
    subst body
    constructor
    · intro runsOn
      exact runsOn.readable.of_same rfl rfl rfl
    · intro safe
      exact ⟨Readable.of_same safe rfl rfl rfl, nextPosition_ne_raised, nextPosition_ne_raised⟩
  | @raised error _ enters ret =>
    rw [ret] at body
    subst body
    constructor
    · intro runsOn
      exact ⟨fun isType => runsOn.noTypeError (congrArg _ isType),
        fun isAttribute => runsOn.noAttributeError (congrArg _ isAttribute)⟩
    · rintro ⟨noTypeError, noAttributeError⟩
      exact ⟨readable, fun isType => noTypeError (GraphPosition.raised.inj isType),
        fun isAttribute => noAttributeError (GraphPosition.raised.inj isAttribute)⟩

theorem RunsOn.step_of_other (runsOn : RunsOn run) (noRender : ¬ rendersNext run) :
    RunsOn (run.step config input).1 := by
  have stepped : GraphStep config input run (run.step config input) := graphStep run input
  generalize run.step config input = result at stepped ⊢
  cases stepped with
  | @visits state store stage visit after visited =>
    have readable : Readable state := runsOn.readable
    cases isExecuted : visit.executed with
    | true =>
      rw [runsOn_visit_iff readable visited isExecuted rfl]
      apply safeAnswer_stageBody _ readable
      rintro rfl
      apply noRender
      cases visited with
      | skipped => cases isExecuted
      | executed enters | raised enters => exact ⟨rfl, enters⟩
    | false =>
      cases visited with
      | skipped => exact ⟨readable, nextPosition_ne_raised, nextPosition_ne_raised⟩
      | executed | raised => cases isExecuted
  | branchEnds =>
    refine ⟨runsOn.readable.of_same rfl rfl rfl, ?_, ?_⟩
    · split <;> nofun
    · split <;> nofun
  | noBranch => exact ⟨runsOn.readable, nofun, nofun⟩
  | rests => exact runsOn

theorem RunsOn.step_iff (runsOn : RunsOn run) :
    RunsOn (run.step config input).1 ↔ ¬ replansNext config run input := by
  by_cases renders : rendersNext run
  · have stepped : GraphStep config input run (run.step config input) := graphStep run input
    generalize run.step config input = result at stepped ⊢
    cases stepped with
    | @visits state store stage visit after visited =>
      rcases GraphPosition.stage.inj renders.1 with rfl
      have readable : Readable state := runsOn.readable
      rw [runsOn_visit_iff readable visited (visited.executed_of_enters renders.2) rfl]
      change SafeAnswer (state.renderQualityStage config input.outcome store).1 ↔ _
      rw [safeAnswer_renderQualityStage_iff readable]
      exact not_congr (and_iff_right renders).symm
    | branchEnds | noBranch => cases renders.1
    | rests ended =>
      rw [renders.1] at ended
      rcases ended with isFinished | ⟨error, isRaised⟩
      · cases isFinished
      · cases isRaised
  · have notHere : ¬ replansNext config run input := fun here => renders here.1
    exact iff_of_true (runsOn.step_of_other renders) notHere

/-- From every state with readable fields a run goes on with what its stages
can read, exactly as long as no failure is answered by a replan. -/
theorem healed_runs_go_on_iff (runsOn : RunsOn run) (inputs : List GraphInput) :
    (∀ visit ∈ (graphMachine config).visits run inputs,
      RunsOn (visit.1.step config visit.2).1) ↔
      ∀ visit ∈ (graphMachine config).visits run inputs, ¬ replansNext config visit.1 visit.2 :=
  @Machine.forall_visits_congr _ _ _ (graphMachine config) run RunsOn
    (fun run input => RunsOn (run.step config input).1)
    (fun run input => ¬ replansNext config run input)
    (fun _ _ _ goesOn => goesOn) (fun _ _ runsOn => runsOn.step_iff) runsOn inputs

end Runs

theorem runsOn_lessonRun : RunsOn lessonRun :=
  ⟨⟨nofun, nofun, nofun⟩, nofun, nofun⟩

/-- The gate fails the lesson twice, and the second failure escalates. -/
theorem healed_lesson_goes_on :
    RunsOn lessonRun ∧
      ∀ visit ∈ (graphMachine defaultGraph).visits lessonRun
        (List.replicate 20 (failingAtGate ⟨0, true⟩)),
        RunsOn (visit.1.step defaultGraph visit.2).1 := by
  refine ⟨runsOn_lessonRun, (healed_runs_go_on_iff runsOn_lessonRun _).mpr ?_⟩
  decide +kernel

/-- Without a store the third failure replans, and render quality cannot read
what that leaves. -/
theorem replanned_lesson_raises :
    ((graphMachine defaultGraph).drive (lessonRun, [])
        (List.replicate 23 (failingAtGate ⟨0, false⟩))).1.position = .raised .typeError ∧
      ((graphMachine defaultGraph).drive (lessonRun, [])
        (List.replicate 23 (failingAtGate ⟨0, false⟩))).1.state.healingStrategy =
        some .replan := by
  decide +kernel

end OhMyClass.TeachingPack
