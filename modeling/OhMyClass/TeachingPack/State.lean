import Mathlib.Data.Prod.Lex
import Mathlib.Data.String.Basic
import OhMyClass.Healing.Orchestrator
import OhMyClass.Keyed.Core

/-!
# The state of a teaching pack run

What the stages of a run read and write.  Two fields are channels: a stage
writes a list, and the channel merges it by key into what is stored.
-/

namespace OhMyClass.TeachingPack

open OhMyClass.Healing OhMyClass.Keyed

inductive StageEnum where
  | setupContract
  | triage
  | unitPlanning
  | unitApproval
  | unitPrep
  | preplanningSearch
  | planningBlueprint
  | provisionalComponentStrategy
  | postBlueprintResearch
  | finalizeComponentStrategy
  | artifactWorkflow
  | renderQuality
  | complianceGate
  | teacherApproval
  | exportFinalize
  deriving DecidableEq

def teachingPackStagesDefault : List StageEnum :=
  [.setupContract, .triage, .preplanningSearch, .planningBlueprint, .postBlueprintResearch,
    .artifactWorkflow, .renderQuality, .complianceGate, .teacherApproval, .exportFinalize]

def teachingPackStagesWithComponentStrategy : List StageEnum :=
  [.setupContract, .triage, .preplanningSearch, .planningBlueprint,
    .provisionalComponentStrategy, .postBlueprintResearch, .finalizeComponentStrategy,
    .teacherApproval, .artifactWorkflow, .renderQuality, .complianceGate, .exportFinalize]

def teachingPackStages (componentStrategyEnabled : Bool) : List StageEnum :=
  if componentStrategyEnabled then teachingPackStagesWithComponentStrategy
  else teachingPackStagesDefault

/-- The texts `quality_recovery_route` takes; `cleared` is the empty one. -/
inductive RecoveryRoute where
  | planningBlueprint
  | postBlueprintResearch
  | artifactWorkflow
  | teacherApproval
  | cleared
  deriving DecidableEq

/-- A field of a dictionary: absent, `None` or a value. -/
inductive Slot (α : Type) where
  | absent
  | null
  | value (value : α)
  deriving DecidableEq

/-- `state.get(field, default)`, which is `None` for a stored `None`. -/
def Slot.get {α : Type} (default : α) : Slot α → Option α
  | .absent => some default
  | .null => none
  | .value stored => some stored

/-! ## Artifacts -/

/-- A reference to a stored document.  The model also carries which quiz an
answer key was derived from, which the document's content shows. -/
structure ArtifactReference where
  documentId : String
  artifactId : String
  artifactType : String
  generationId : String
  quizDocumentId : Option String
  deriving DecidableEq

inductive WorkflowStatus where
  | passed
  | failed
  | skipped
  | escalated
  deriving DecidableEq

/-- The status of one artifact branch. -/
structure WorkflowState where
  workflowId : String
  artifactGenerationId : String
  artifactId : String
  artifactType : String
  status : WorkflowStatus
  errorSummary : Option String
  deriving DecidableEq

def workflowStateId (state : WorkflowState) : String :=
  if state.workflowId = "" then state.artifactId else state.workflowId

def workflowStateSortKey (state : WorkflowState) : String ×ₗ String :=
  toLex (state.artifactType, workflowStateId state)

def referenceSortKey (reference : ArtifactReference) : String ×ₗ String :=
  toLex (reference.artifactType, reference.documentId)

/-- `stable_merge_workflow_states`. -/
abbrev ArtifactWorkflowStates := Channel workflowStateId workflowStateSortKey

/-- `stable_merge_artifact_references`. -/
abbrev ArtifactReferences := Channel ArtifactReference.documentId referenceSortKey

def currentGenerationWorkflowStates (workflowStates : List WorkflowState)
    (artifactGenerationId : String) : List WorkflowState :=
  workflowStates.filter fun state => state.artifactGenerationId = artifactGenerationId

def currentGenerationArtifactReferences (references : List ArtifactReference)
    (artifactGenerationId : String) : List ArtifactReference :=
  stableMerge ArtifactReference.documentId referenceSortKey []
    (references.filter fun reference => reference.generationId = artifactGenerationId)

/-- What a rendered snapshot keeps of its artifact. -/
structure SnapshotReference where
  artifactId : String
  artifactType : String
  documentId : String
  deriving DecidableEq

structure QualityScores where
  passed : Option Bool
  issueCount : Option Nat
  snapshotCount : Option Nat
  deriving DecidableEq

/-- The object without entries. -/
def QualityScores.empty : QualityScores :=
  ⟨none, none, none⟩

structure ArtifactRejection where
  artifactId : String
  reason : String
  deriving DecidableEq

/-- A gate's response; the objects of a list it names, and whether it holds a
section edit. -/
structure GatePayload where
  action : Option String
  rejectionType : Option String
  artifactRejections : Option (List ArtifactRejection)
  editType : Option String
  sectionEdit : Bool
  deriving DecidableEq

/-- The object without entries. -/
def GatePayload.empty : GatePayload :=
  ⟨none, none, none, none, false⟩

structure Contract where
  mode : Option String
  artifactTypes : List String

/-- Fields that have a default where the code reads them are absent as that
default; no type in `artifactTypes` or `artifactRegenerationScope` stands for
an absent one. -/
structure TeachingPackState where
  runId : String
  contract : Contract
  completedStages : List StageEnum
  artifactTypes : List String
  artifactGenerationId : Option String
  artifactGenerationRevision : Option Nat
  artifactWaveIndex : Option Nat
  artifactFanoutComplete : Bool
  artifactFanoutBlocked : Bool
  artifactRegenerationScope : List String
  artifactReferences : ArtifactReferences
  artifactWorkflowStates : ArtifactWorkflowStates
  renderedSnapshots : Slot (List SnapshotReference)
  qualityScores : Slot QualityScores
  qualityIssues : Slot (List String)
  qualityRecoveryRoute : Option RecoveryRoute
  compliancePassed : Bool
  failCount : Nat
  escalate : Bool
  healingStrategy : Option HealingStrategy
  generationModel : Option String
  gatePayload : GatePayload
  teacherApproved : Bool
  componentStrategyPlan : Bool

/-- The state a run starts in. -/
def TeachingPackState.initial (runId : String) (contract : Contract) : TeachingPackState where
  runId := runId
  contract := contract
  completedStages := []
  artifactTypes := []
  artifactGenerationId := none
  artifactGenerationRevision := none
  artifactWaveIndex := none
  artifactFanoutComplete := false
  artifactFanoutBlocked := false
  artifactRegenerationScope := []
  artifactReferences := .empty
  artifactWorkflowStates := .empty
  renderedSnapshots := .absent
  qualityScores := .absent
  qualityIssues := .absent
  qualityRecoveryRoute := none
  compliancePassed := false
  failCount := 0
  escalate := false
  healingStrategy := none
  generationModel := none
  gatePayload := .empty
  teacherApproved := false
  componentStrategyPlan := false

end OhMyClass.TeachingPack
