import Mathlib.Data.List.Infix
import OhMyClass.TeachingPack.State

/-!
# Quality of a pack

The checks on a rendered pack, and the healing of their failures.
-/

namespace OhMyClass.TeachingPack

/-!
## Healing a quality failure

A failure of the injected quality gate goes through the healing ladder, which
counts it and chooses the route on which the run goes on.
-/

section

open OhMyClass.Healing

inductive QualityFailureClass where
  | schemaInvalid
  | placeholderContent
  | answerKeyLeakage
  | piiLeakage
  | externalAsset
  | missingDoctype
  | missingAccessibility
  | unsupportedComponent
  | factualUncertainty
  | pedagogicalMismatch
  | exportNotReady
  deriving DecidableEq

def QualityFailureClass.value : QualityFailureClass → String
  | .schemaInvalid => "schema_invalid"
  | .placeholderContent => "placeholder_content"
  | .answerKeyLeakage => "answer_key_leakage"
  | .piiLeakage => "pii_leakage"
  | .externalAsset => "external_asset"
  | .missingDoctype => "missing_doctype"
  | .missingAccessibility => "missing_accessibility"
  | .unsupportedComponent => "unsupported_component"
  | .factualUncertainty => "factual_uncertainty"
  | .pedagogicalMismatch => "pedagogical_mismatch"
  | .exportNotReady => "export_not_ready"

/-- `max_healing_attempts`, the switch that forces an escalation, the recovery
time of the breaker and the stronger model. -/
structure HealingConfig where
  maxHealingAttempts : Nat
  forceEscalate : Bool
  recoveryTimeout : Nat
  strongDefault : String

/-- What healing returns; a count or strategy is missing where it sets none. -/
structure HealingUpdate where
  failCount : Option Nat
  healingStrategy : Option HealingStrategy
  escalate : Bool
  generationModel : Option String
  cleared : Bool
  qualityRecoveryRoute : RecoveryRoute

def isPlanningFailure (failureClass : QualityFailureClass) : Bool :=
  failureClass ∈ [QualityFailureClass.pedagogicalMismatch, .factualUncertainty]

def routeWithoutHealing (failureClasses : List QualityFailureClass) : RecoveryRoute :=
  if failureClasses.any isPlanningFailure then .planningBlueprint else .artifactWorkflow

def routeForHealing (healing : HealingResult) (failureClasses : List QualityFailureClass) :
    RecoveryRoute :=
  if healing.escalate then .teacherApproval
  else if healing.healingStrategy = .replan then .planningBlueprint
  else routeWithoutHealing failureClasses

def failType (failureClasses : List QualityFailureClass) : FailType :=
  if .schemaInvalid ∈ failureClasses then .validation
  else if .factualUncertainty ∈ failureClasses then .content
  else .score

/-- `HealingOrchestrator(max_retries=max_healing_attempts)`. -/
def HealingConfig.orchestrator (config : HealingConfig) : HealingOrchestrator :=
  ⟨config.maxHealingAttempts, config.recoveryTimeout, config.strongDefault⟩

def healingState (state : TeachingPackState) (failureClasses : List QualityFailureClass) :
    HealingState :=
  { runId := state.runId
    failCount := state.failCount
    failType := failType failureClasses
    generationModel := state.generationModel }

/-- `_healing_update` with the route for a strategy. -/
def healingUpdateOf (failureClasses : List QualityFailureClass) (healing : HealingResult) :
    HealingUpdate where
  failCount := some healing.failCount
  healingStrategy := some healing.healingStrategy
  escalate := healing.escalate
  generationModel := healing.generationModel
  cleared := healing.cleared
  qualityRecoveryRoute := routeForHealing healing failureClasses

def healQualityFailure (config : HealingConfig) (state : TeachingPackState)
    (failureClasses : List QualityFailureClass) (access : StoreAccess) (store : BreakerStore) :
    HealingUpdate × BreakerStore :=
  if config.forceEscalate then
    ({ failCount := some (state.failCount + 1)
       healingStrategy := some .escalate
       escalate := true
       generationModel := none
       cleared := false
       qualityRecoveryRoute := .teacherApproval }, store)
  else if config.maxHealingAttempts = 0 then
    ({ failCount := none
       healingStrategy := none
       escalate := false
       generationModel := none
       cleared := false
       qualityRecoveryRoute := routeWithoutHealing failureClasses }, store)
  else
    let healed := config.orchestrator.heal (healingState state failureClasses) access store
    (healingUpdateOf failureClasses healed.1, healed.2)

/-- The state with the update merged over it. -/
def HealingUpdate.apply (update : HealingUpdate) (state : TeachingPackState) : TeachingPackState :=
  { state with
    failCount := update.failCount.getD state.failCount
    healingStrategy := update.healingStrategy <|> state.healingStrategy
    escalate := update.escalate || state.escalate
    generationModel := update.generationModel <|> state.generationModel
    qualityRecoveryRoute := some update.qualityRecoveryRoute
    renderedSnapshots := if update.cleared then .null else state.renderedSnapshots
    qualityScores := if update.cleared then .null else state.qualityScores
    qualityIssues := if update.cleared then .null else state.qualityIssues }

theorem routeWithoutHealing_cases (failureClasses : List QualityFailureClass) :
    routeWithoutHealing failureClasses = .planningBlueprint ∨
      routeWithoutHealing failureClasses = .artifactWorkflow := by
  unfold routeWithoutHealing
  split
  · exact .inl rfl
  · exact .inr rfl

theorem routeForHealing_cases (healing : HealingResult)
    (failureClasses : List QualityFailureClass) :
    (healing.escalate = true ∧ routeForHealing healing failureClasses = .teacherApproval) ∨
      (healing.escalate = false ∧
        (routeForHealing healing failureClasses = .planningBlueprint ∨
          routeForHealing healing failureClasses = .artifactWorkflow)) := by
  unfold routeForHealing
  cases healing.escalate with
  | true => exact .inl ⟨rfl, rfl⟩
  | false =>
    refine .inr ⟨rfl, ?_⟩
    rw [if_neg Bool.false_ne_true]
    split
    · exact .inl rfl
    · exact routeWithoutHealing_cases failureClasses

theorem healQualityFailure_route (config : HealingConfig) (state : TeachingPackState)
    (failureClasses : List QualityFailureClass) (access : StoreAccess) (store : BreakerStore) :
    ((healQualityFailure config state failureClasses access store).1.escalate = true ∧
        (healQualityFailure config state failureClasses access store).1.qualityRecoveryRoute =
          .teacherApproval) ∨
      ((healQualityFailure config state failureClasses access store).1.escalate = false ∧
        ((healQualityFailure config state failureClasses access store).1.qualityRecoveryRoute =
            .planningBlueprint ∨
          (healQualityFailure config state failureClasses access store).1.qualityRecoveryRoute =
            .artifactWorkflow)) := by
  unfold healQualityFailure
  split
  · exact .inl ⟨rfl, rfl⟩
  · split
    · exact .inr ⟨rfl, routeWithoutHealing_cases failureClasses⟩
    · exact routeForHealing_cases _ failureClasses

section Counting

variable {config : HealingConfig} {state : TeachingPackState}
  {failureClasses : List QualityFailureClass} {access : StoreAccess} {store : BreakerStore}

theorem failCount_healQualityFailure
    (counts : config.forceEscalate = true ∨ 1 ≤ config.maxHealingAttempts) :
    (healQualityFailure config state failureClasses access store).1.failCount =
      some (state.failCount + 1) := by
  unfold healQualityFailure
  split
  · rfl
  · next calm =>
    have attempts : config.maxHealingAttempts ≠ 0 := by
      have heals := counts.resolve_left calm
      omega
    rw [if_neg attempts]
    exact congrArg some failCount_heal

theorem escalate_healQualityFailure
    (counts : config.forceEscalate = true ∨ 1 ≤ config.maxHealingAttempts)
    (atEnd : min config.maxHealingAttempts 3 ≤ state.failCount) :
    (healQualityFailure config state failureClasses access store).1.escalate = true := by
  unfold healQualityFailure
  split
  · rfl
  · next calm =>
    have attempts : config.maxHealingAttempts ≠ 0 := by
      have heals := counts.resolve_left calm
      omega
    have above : min config.orchestrator.maxRetries 3 <
        (healingState state failureClasses).failCount + 1 := Nat.lt_succ_of_le atEnd
    simp only [if_neg attempts, healingUpdateOf, heal_above_ladder above]
    rfl

end Counting

end

/-!
## Render quality

The checks run in a fixed order and the first one that fails decides on the
route.  Only a failure of the injected gate is healed, and so counted.
-/

section

open OhMyClass.Healing

/-! ## What the checks report -/

structure QualityIssue where
  failureClass : QualityFailureClass
  location : String
  message : String

structure ArtifactQualityReport where
  passed : Bool
  issues : List QualityIssue

structure StrategyQualityIssue where
  code : String
  isHard : Bool
  location : String

/-- What the checks find in the artifacts of a call, and whether the middleware
before them leaves warnings. -/
structure QualityChecks where
  coherenceIssues : List String
  layer1Issues : List String
  strategyIssues : List StrategyQualityIssue
  report : ArtifactReference → ArtifactQualityReport
  judgePassed : Bool
  judgeIssues : List String
  middlewareWarnings : Bool

def coreArtifactTypes : List String :=
  ["lesson", "worksheet", "quiz", "drill", "recap", "flashcard_deck", "answer_key", "roadmap",
    "slide_deck", "infographic", "reading_passage", "exit_ticket"]

def coreArtifacts (references : List ArtifactReference) : List ArtifactReference :=
  references.filter fun reference => reference.artifactType ∈ coreArtifactTypes

def failedReportIssues (reports : List ArtifactQualityReport) : List String :=
  reports.flatMap fun report =>
    if report.passed then []
    else report.issues.map fun issue =>
      issue.location ++ ": " ++ issue.failureClass.value ++ ": " ++ issue.message

def failureClasses (reports : List ArtifactQualityReport) : List QualityFailureClass :=
  reports.flatMap fun report =>
    if report.passed then [] else report.issues.map QualityIssue.failureClass

def packCoherenceIssues (issues : List String) : List String :=
  issues.filter fun issue => "pack.coherence:".toList <+: issue.toList

/-- `quality_recovery_route`. -/
def recoveryRouteOf (issues : List String) : RecoveryRoute :=
  let joined := (" ".intercalate issues).toList
  if "factual_uncertainty".toList <:+: joined then .postBlueprintResearch
  else if "not_aligned_with_objectives".toList <:+: joined ∨
      "vietnamese_difficulty".toList <:+: joined then .planningBlueprint
  else .artifactWorkflow

/-- How the checks of a call end.  A failure is found by the injected gate or
by another check; some issues of the first layer are raised. -/
inductive QualityOutcome where
  | passed
  | failed (issues : List String)
  | failedAtGate (issues : List String) (classes : List QualityFailureClass)
  | raised (issues : List String)
  deriving DecidableEq

def hardStrategyIssues (issues : List StrategyQualityIssue) : List String :=
  (issues.filter StrategyQualityIssue.isHard).map fun issue =>
    "component_strategy." ++ issue.code ++ ": " ++ issue.location

/-- The checks of the reviewer, or of the gate that replaces it. -/
def reviewOutcome (gateInjected : Bool) (checks : QualityChecks)
    (references : List ArtifactReference) : QualityOutcome :=
  let reports := (coreArtifacts references).map checks.report
  let failedIssues := failedReportIssues reports
  if gateInjected then
    if failedIssues ≠ [] then .failedAtGate failedIssues (failureClasses reports) else .passed
  else if failedIssues ≠ [] then .failed failedIssues
  else if coreArtifacts references ≠ [] ∧ checks.judgePassed = false then
    .failed checks.judgeIssues
  else .passed

def qualityOutcome (gateInjected : Bool) (checks : QualityChecks) (state : TeachingPackState) :
    QualityOutcome :=
  if checks.coherenceIssues ≠ [] then .failed checks.coherenceIssues
  else if checks.layer1Issues ≠ [] then
    if packCoherenceIssues checks.layer1Issues ≠ [] then .failed checks.layer1Issues
    else .raised checks.layer1Issues
  else if state.componentStrategyPlan ∧ hardStrategyIssues checks.strategyIssues ≠ [] then
    .failed (hardStrategyIssues checks.strategyIssues)
  else reviewOutcome gateInjected checks state.artifactReferences.members

/-- The exceptions the modelled stages raise. -/
inductive StageError where
  | typeError
  | attributeError
  | qualityGateError (issues : List String)
  | runtimeError (message : String)
  deriving DecidableEq

/-- What a failed check writes. -/
def TeachingPackState.failQuality (state : TeachingPackState) (issues : List String)
    (route : RecoveryRoute) : TeachingPackState :=
  { state with
    qualityIssues := .value issues
    qualityRecoveryRoute := some route
    qualityScores := .value ⟨some false, some issues.length, none⟩ }

def TeachingPackState.passQuality (state : TeachingPackState) : TeachingPackState :=
  let snapshots := state.artifactReferences.members.map fun reference =>
    (⟨reference.artifactId, reference.artifactType, reference.documentId⟩ : SnapshotReference)
  { state with
    renderedSnapshots := .value snapshots
    qualityScores := .value ⟨some true, none, some snapshots.length⟩
    qualityRecoveryRoute := none }

/-- A failure of the injected gate is healed twice, first for the log. -/
def healAtGate (config : HealingConfig) (state : TeachingPackState)
    (classes : List QualityFailureClass) (access : StoreAccess) (store : BreakerStore) :
    HealingUpdate × BreakerStore :=
  healQualityFailure config state classes access
    (healQualityFailure config state classes access store).2

def renderQuality (gateInjected : Bool) (config : HealingConfig) (state : TeachingPackState)
    (checks : QualityChecks) (access : StoreAccess) (store : BreakerStore) :
    Except StageError TeachingPackState × BreakerStore :=
  match qualityOutcome gateInjected checks state with
  | .passed => (.ok state.passQuality, store)
  | .failed issues => (.ok (state.failQuality issues (recoveryRouteOf issues)), store)
  | .failedAtGate issues classes =>
    let healing := healAtGate config state classes access store
    (.ok (healing.1.apply (state.failQuality issues healing.1.qualityRecoveryRoute)), healing.2)
  | .raised issues => (.error (.qualityGateError issues), store)

/-! ## What comes of a call -/

section Rendered

variable {gateInjected : Bool} {config : HealingConfig} {state merged : TeachingPackState}
  {checks : QualityChecks} {access : StoreAccess} {store after : BreakerStore}

/-- The three ways a call returns. -/
inductive Rendered (gateInjected : Bool) (config : HealingConfig) (state : TeachingPackState)
    (checks : QualityChecks) (access : StoreAccess) (store : BreakerStore) :
    TeachingPackState × BreakerStore → Prop
  | passes (isPassed : qualityOutcome gateInjected checks state = .passed) :
      Rendered gateInjected config state checks access store (state.passQuality, store)
  | fails {issues : List String}
      (isFailed : qualityOutcome gateInjected checks state = .failed issues) :
      Rendered gateInjected config state checks access store
        (state.failQuality issues (recoveryRouteOf issues), store)
  | heals {issues : List String} {classes : List QualityFailureClass}
      (atGate : qualityOutcome gateInjected checks state = .failedAtGate issues classes)
      {update : HealingUpdate} {saved : BreakerStore}
      (healing : healAtGate config state classes access store = (update, saved)) :
      Rendered gateInjected config state checks access store
        (update.apply (state.failQuality issues update.qualityRecoveryRoute), saved)

theorem renderQuality_rendered
    (returns : renderQuality gateInjected config state checks access store = (.ok merged, after)) :
    Rendered gateInjected config state checks access store (merged, after) := by
  unfold renderQuality at returns
  split at returns
  · next isPassed =>
    cases returns
    exact .passes isPassed
  · next isFailed =>
    cases returns
    exact .fails isFailed
  · next issues classes atGate =>
    cases returns
    exact .heals atGate rfl
  · cases returns

/-- What the healing of a call sets: it goes to the teacher if and only if it
escalates, and a failure that counts is counted. -/
theorem healAtGate_spec {classes : List QualityFailureClass} {update : HealingUpdate}
    {saved : BreakerStore} (healing : healAtGate config state classes access store = (update, saved)) :
    ((update.escalate = true ∧ update.qualityRecoveryRoute = .teacherApproval) ∨
        (update.escalate = false ∧ (update.qualityRecoveryRoute = .planningBlueprint ∨
          update.qualityRecoveryRoute = .artifactWorkflow))) ∧
      (config.forceEscalate = true ∨ 1 ≤ config.maxHealingAttempts →
        update.failCount = some (state.failCount + 1) ∧
          (min config.maxHealingAttempts 3 ≤ state.failCount → update.escalate = true)) := by
  have isUpdate : (healAtGate config state classes access store).1 = update :=
    congrArg Prod.fst healing
  rw [← isUpdate]
  exact ⟨healQualityFailure_route _ _ _ _ _, fun counts =>
    ⟨failCount_healQualityFailure counts, escalate_healQualityFailure counts⟩⟩

theorem recoveryRouteOf_cases (issues : List String) :
    recoveryRouteOf issues = .postBlueprintResearch ∨
      recoveryRouteOf issues = .planningBlueprint ∨ recoveryRouteOf issues = .artifactWorkflow := by
  unfold recoveryRouteOf
  simp only
  split
  · exact .inl rfl
  · split
    · exact .inr (.inl rfl)
    · exact .inr (.inr rfl)

end Rendered

end

end OhMyClass.TeachingPack
