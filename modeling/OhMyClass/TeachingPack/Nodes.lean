import OhMyClass.TeachingPack.ArtifactStatus
import OhMyClass.TeachingPack.FanoutSteps
import OhMyClass.TeachingPack.Quality

/-!
# The stages of a run

A completed stage is skipped, unless the state lets it be entered again.  What
models, checks and teachers say to a stage is given with its outcome.
-/

namespace OhMyClass.TeachingPack

open OhMyClass.Healing

structure ComplianceViolation where
  code : String
  teacherReason : String
  location : String

/-- The features of a graph, whether a quality gate is injected, and how it
heals. -/
structure GraphConfig where
  parallelism : Nat
  componentStrategistV1 : Bool
  vocabularyBatchV1 : Bool
  qualityGateInjected : Bool
  healing : HealingConfig

/-- What a stage is told: the mode triage suggests, whether a component
strategy is planned, what the checks find, and the response to a gate, where
a fast lane may approve for the teacher. -/
structure StageOutcome where
  mode : Option String
  strategyPlan : Bool
  checks : QualityChecks
  access : StoreAccess
  violations : List ComplianceViolation
  response : GatePayload
  fastLane : Bool

def stringField (value : Option String) (default : String) : String :=
  match value with
  | none | some "" => default
  | some text => text

/-- `_scoped_rejections`. -/
def TeachingPackState.pendingRejections (state : TeachingPackState) : List ScopedRejection :=
  scopedRejections state.artifactReferences.members state.gatePayload

def canReenterStage (state : TeachingPackState) (stage : StageEnum) : Bool :=
  match stage with
  | .artifactWorkflow =>
    !state.artifactFanoutComplete ||
      state.qualityRecoveryRoute ∈ [some RecoveryRoute.artifactWorkflow, some .planningBlueprint] ||
      state.pendingRejections ≠ []
  | .renderQuality | .teacherApproval =>
    state.qualityRecoveryRoute = some .artifactWorkflow || state.pendingRejections ≠ []
  | .planningBlueprint => state.qualityRecoveryRoute = some .planningBlueprint
  | .postBlueprintResearch =>
    state.qualityRecoveryRoute ∈ [some RecoveryRoute.planningBlueprint, some .postBlueprintResearch]
  | _ => false

namespace TeachingPackState

variable (state : TeachingPackState)

def setupContract : TeachingPackState :=
  { state with
    artifactTypes :=
      if state.contract.artifactTypes ≠ [] then state.contract.artifactTypes
      else ["lesson", "worksheet", "quiz", "drill", "slide_deck"] }

/-- Without the feature triage suggests no mode. -/
def triage (mode : Option String) : TeachingPackState :=
  { state with contract := { state.contract with mode := mode <|> state.contract.mode } }

def unitApproval (response : GatePayload) : TeachingPackState :=
  { state with
    gatePayload := response
    teacherApproved := stringField response.action "reject" = "approve" }

def planningBlueprint : TeachingPackState :=
  { state with qualityRecoveryRoute := some .artifactWorkflow }

def finalizeComponentStrategy (strategyPlan : Bool) : TeachingPackState :=
  { state with componentStrategyPlan := strategyPlan || state.componentStrategyPlan }

/-- A vocabulary batch writes none of the fields of the fan-out. -/
def artifactWorkflow (vocabularyBatchV1 : Bool) : Except StageError TeachingPackState :=
  if state.contract.mode = some "vocabulary_batch" then
    if vocabularyBatchV1 then .ok state
    else .error (.runtimeError "vocabulary_batch mode requires FEATURE_VOCABULARY_BATCH_V1=true")
  else
    .ok state.coordinated

/-- `_render_quality`, with its middleware. -/
def renderQualityStage (config : GraphConfig) (outcome : StageOutcome) (store : BreakerStore) :
    Except StageError TeachingPackState × BreakerStore :=
  if state.qualityScores = .null then
    (.error .typeError, store)
  else
    match renderQuality config.qualityGateInjected config.healing state outcome.checks
        outcome.access store with
    | (.ok result, after) =>
      if outcome.checks.middlewareWarnings ∧ result.qualityScores = .null then
        (.error .typeError, after)
      else
        (.ok result, after)
    | (.error error, after) => (.error error, after)

def complianceGate (violations : List ComplianceViolation) :
    Except StageError TeachingPackState :=
  if state.renderedSnapshots = .null then
    .error .typeError
  else if violations = [] then
    .ok { state with compliancePassed := true }
  else
    .ok { state with
      compliancePassed := false
      qualityRecoveryRoute := some .artifactWorkflow
      qualityIssues := .value (violations.map fun violation =>
        "compliance." ++ violation.location ++ ": " ++ violation.code ++ ": " ++
          violation.teacherReason) }

end TeachingPackState

def normalizedTeacherAction (action : String) : String :=
  if action = "approve_selected" then "approve"
  else if action = "reject_selected" then "reject"
  else action

namespace TeachingPackState

variable (state : TeachingPackState)

/-- The action of a response; a fast lane approves where there is none. -/
def teacherAction (response : GatePayload) (fastLane : Bool) : String :=
  let autoApproved := fastLane && state.compliancePassed && !state.escalate
  stringField response.action (if autoApproved then "approve" else "reject")

/-- `{"action": action, **gate_response}`. -/
def teacherPayload (response : GatePayload) (fastLane : Bool) : GatePayload :=
  { response with action := response.action <|> some (state.teacherAction response fastLane) }

def teacherApproval (response : GatePayload) (fastLane : Bool) :
    Except StageError TeachingPackState :=
  if state.qualityScores = .null then
    .error .attributeError
  else
    .ok { state with
      gatePayload := state.teacherPayload response fastLane
      teacherApproved :=
        normalizedTeacherAction (state.teacherAction response fastLane) = "approve" }

/-- The pack is approved and every artifact of it is available. -/
def canExport : Bool :=
  state.teacherApproved && unavailableRequiredArtifactStatuses state = []

def exportFinalize : TeachingPackState :=
  if state.canExport then
    { state with
      qualityRecoveryRoute := some .cleared
      qualityIssues := .value []
      escalate := false }
  else
    state

end TeachingPackState

/-- The body of a stage; some bodies write no field that the model has. -/
def stageBody (config : GraphConfig) (outcome : StageOutcome) (stage : StageEnum)
    (state : TeachingPackState) (store : BreakerStore) :
    Except StageError TeachingPackState × BreakerStore :=
  match stage with
  | .setupContract => (.ok state.setupContract, store)
  | .triage => (.ok (state.triage outcome.mode), store)
  | .unitPlanning | .unitPrep | .preplanningSearch | .provisionalComponentStrategy
  | .postBlueprintResearch => (.ok state, store)
  | .unitApproval => (.ok (state.unitApproval outcome.response), store)
  | .planningBlueprint => (.ok state.planningBlueprint, store)
  | .finalizeComponentStrategy =>
    (.ok (state.finalizeComponentStrategy outcome.strategyPlan), store)
  | .artifactWorkflow => (state.artifactWorkflow config.vocabularyBatchV1, store)
  | .renderQuality => state.renderQualityStage config outcome store
  | .complianceGate => (state.complianceGate outcome.violations, store)
  | .teacherApproval => (state.teacherApproval outcome.response outcome.fastLane, store)
  | .exportFinalize => (.ok state.exportFinalize, store)

/-- `_complete_stage`, which the artifact workflow reaches with its fan-out
complete only. -/
def completeStage (stage : StageEnum) (merged : TeachingPackState) : TeachingPackState :=
  { merged with
    completedStages :=
      if stage = .artifactWorkflow ∧ merged.artifactFanoutComplete = false then
        merged.completedStages
      else
        merged.completedStages ++ [stage] }

/-! ## What the bodies leave alone -/

/-- Render quality writes the fields of quality and healing only. -/
structure SameOutsideQuality (state after : TeachingPackState) : Prop where
  runId : after.runId = state.runId
  contract : after.contract = state.contract
  completedStages : after.completedStages = state.completedStages
  artifactGenerationId : after.artifactGenerationId = state.artifactGenerationId
  artifactFanoutComplete : after.artifactFanoutComplete = state.artifactFanoutComplete
  artifactReferences : after.artifactReferences = state.artifactReferences
  compliancePassed : after.compliancePassed = state.compliancePassed
  gatePayload : after.gatePayload = state.gatePayload
  componentStrategyPlan : after.componentStrategyPlan = state.componentStrategyPlan

section Frames

variable {config : GraphConfig} {outcome : StageOutcome} {stage : StageEnum}
  {state merged : TeachingPackState} {store after : BreakerStore}

theorem renderQuality_outside {gateInjected : Bool} {healing : HealingConfig}
    {checks : QualityChecks} {access : StoreAccess}
    (passes : renderQuality gateInjected healing state checks access store = (.ok merged, after)) :
    SameOutsideQuality state merged := by
  cases renderQuality_rendered passes <;> exact ⟨rfl, rfl, rfl, rfl, rfl, rfl, rfl, rfl, rfl⟩

theorem renderQualityStage_ok
    (body : state.renderQualityStage config outcome store = (.ok merged, after)) :
    state.qualityScores ≠ .null ∧
      renderQuality config.qualityGateInjected config.healing state outcome.checks outcome.access
        store = (.ok merged, after) := by
  unfold TeachingPackState.renderQualityStage at body
  split at body
  · cases body
  · next readable =>
    refine ⟨readable, ?_⟩
    split at body
    · next result stored isResult =>
      split at body
      · cases body
      · cases body
        exact isResult
    · cases body

theorem artifactWorkflow_ok {vocabularyBatchV1 : Bool}
    (body : state.artifactWorkflow vocabularyBatchV1 = .ok merged) :
    (state.contract.mode = some "vocabulary_batch" ∧ merged = state) ∨
      (state.contract.mode ≠ some "vocabulary_batch" ∧ merged = state.coordinated) := by
  unfold TeachingPackState.artifactWorkflow at body
  split at body
  · next isBatch =>
    split at body
    · cases body
      exact .inl ⟨isBatch, rfl⟩
    · cases body
  · next noBatch =>
    cases body
    exact .inr ⟨noBatch, rfl⟩

theorem complianceGate_ok {violations : List ComplianceViolation}
    (body : state.complianceGate violations = .ok merged) :
    ∃ passed route issues, merged = { state with
      compliancePassed := passed
      qualityRecoveryRoute := route
      qualityIssues := issues } ∧
      (if passed then route = state.qualityRecoveryRoute else route = some .artifactWorkflow) := by
  unfold TeachingPackState.complianceGate at body
  split at body
  · cases body
  · split at body
    · cases body
      exact ⟨true, state.qualityRecoveryRoute, state.qualityIssues, rfl, rfl⟩
    · cases body
      exact ⟨false, _, _, rfl, rfl⟩

theorem teacherApproval_ok {response : GatePayload} {fastLane : Bool}
    (body : state.teacherApproval response fastLane = .ok merged) :
    merged = { state with
      gatePayload := state.teacherPayload response fastLane
      teacherApproved :=
        normalizedTeacherAction (state.teacherAction response fastLane) = "approve" } := by
  unfold TeachingPackState.teacherApproval at body
  split at body
  · cases body
  · cases body
    rfl

/-- What no body changes, and what only some bodies change. -/
structure BodyFrame (stage : StageEnum) (state merged : TeachingPackState) : Prop where
  runId : merged.runId = state.runId
  completedStages : merged.completedStages = state.completedStages
  artifactReferences : merged.artifactReferences = state.artifactReferences
  compliancePassed : stage ≠ .complianceGate → merged.compliancePassed = state.compliancePassed
  gatePayload : stage ≠ .unitApproval → stage ≠ .teacherApproval →
    merged.gatePayload = state.gatePayload
  fanout : stage ≠ .artifactWorkflow →
    merged.artifactGenerationId = state.artifactGenerationId ∧
      merged.artifactFanoutComplete = state.artifactFanoutComplete
  route : stage ∉ [StageEnum.planningBlueprint, .renderQuality, .complianceGate, .exportFinalize] →
    merged.qualityRecoveryRoute = state.qualityRecoveryRoute
  componentStrategyPlan : stage ≠ .finalizeComponentStrategy →
    merged.componentStrategyPlan = state.componentStrategyPlan
  failCount : stage ≠ .renderQuality → merged.failCount = state.failCount

theorem stageBody_frame (body : stageBody config outcome stage state store = (.ok merged, after)) :
    BodyFrame stage state merged := by
  cases stage with
  | setupContract | triage | unitPlanning | unitPrep | preplanningSearch
  | provisionalComponentStrategy | postBlueprintResearch | unitApproval | planningBlueprint
  | finalizeComponentStrategy =>
    cases body
    constructor <;> simp [TeachingPackState.setupContract, TeachingPackState.triage,
      TeachingPackState.unitApproval, TeachingPackState.planningBlueprint,
      TeachingPackState.finalizeComponentStrategy]
  | artifactWorkflow =>
    rcases artifactWorkflow_ok (congrArg Prod.fst body) with ⟨_, rfl⟩ | ⟨_, rfl⟩
    · constructor <;> simp
    · exact
        { runId := rfl
          completedStages := rfl
          artifactReferences := state.coordinated_artifactReferences
          compliancePassed := fun _ => rfl
          gatePayload := fun _ _ => rfl
          fanout := fun other => absurd rfl other
          route := fun _ => rfl
          componentStrategyPlan := fun _ => rfl
          failCount := fun _ => rfl }
  | renderQuality =>
    have outside := renderQuality_outside (renderQualityStage_ok body).2
    exact
      { runId := outside.runId
        completedStages := outside.completedStages
        artifactReferences := outside.artifactReferences
        compliancePassed := fun _ => outside.compliancePassed
        gatePayload := fun _ _ => outside.gatePayload
        fanout := fun _ => ⟨outside.artifactGenerationId, outside.artifactFanoutComplete⟩
        route := fun other => absurd other (by simp)
        componentStrategyPlan := fun _ => outside.componentStrategyPlan
        failCount := fun other => absurd rfl other }
  | complianceGate =>
    rcases complianceGate_ok (congrArg Prod.fst body) with ⟨passed, route, issues, rfl, _⟩
    constructor <;> simp
  | teacherApproval =>
    rw [teacherApproval_ok (congrArg Prod.fst body)]
    constructor <;> simp
  | exportFinalize =>
    cases body
    unfold TeachingPackState.exportFinalize
    split
    · constructor <;> simp
    · constructor <;> simp

end Frames

end OhMyClass.TeachingPack
