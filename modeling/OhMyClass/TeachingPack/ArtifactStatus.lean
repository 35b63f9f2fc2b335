import OhMyClass.Gateway.Snapshots.AnswerKeys
import OhMyClass.TeachingPack.State

/-!
# Artifact statuses for the teacher

What the teacher is told about each requested artifact.
-/

namespace OhMyClass.TeachingPack

open OhMyClass.Gateway (isSpace)

inductive TeacherArtifactStatus where
  | passed
  | regenerating
  | failed
  | skippedDueDependency
  | escalated
  deriving DecidableEq

structure ArtifactStatusItem where
  artifactId : String
  artifactType : String
  status : TeacherArtifactStatus
  summary : String
  teacherAction : String

def failedSummary : String :=
  "Artifact generation failed. Request edits to regenerate this item."

def unsafeMarkers : List String :=
  ["traceback", "api_key", "secret", "password", "provider", "stack", "prompt"]

/-- `str.lower`, as far as it gives ASCII letters, which are all that the
markers hold. -/
def lowerChar (c : Char) : List Char :=
  if c = '\u212a' then ['k']
  else if c = '\u0130' then ['i', '\u0307']
  else [c.toLower]

/-- `value.strip()`. -/
def strip (value : List Char) : List Char :=
  ((value.dropWhile isSpace).reverse.dropWhile isSpace).reverse

def safeFailureSummary (workflow : WorkflowState) : String :=
  match workflow.errorSummary with
  | none => failedSummary
  | some value =>
    let lowered := value.toList.flatMap lowerChar
    if strip value.toList = [] then failedSummary
    else if 160 < value.length ∨ ∃ marker ∈ unsafeMarkers, marker.toList <:+: lowered then
      failedSummary
    else String.ofList (strip value.toList)

/-! ## Statuses -/

variable (state : TeachingPackState)

/-- `_requested_artifact_types`, which falls back to the types of the
references. -/
def requestedArtifactTypes : List String :=
  if state.artifactTypes ≠ [] then state.artifactTypes
  else if state.contract.artifactTypes ≠ [] then state.contract.artifactTypes
  else (state.artifactReferences.members.map ArtifactReference.artifactType).filter (· ≠ "")

/-- `artifacts_by_type.get(artifact_type)`, where a later reference overrides. -/
def artifactOfType (artifactType : String) : Option ArtifactReference :=
  state.artifactReferences.members.reverse.find? fun reference =>
    reference.artifactType = artifactType

def workflowOfType (artifactType : String) : Option WorkflowState :=
  state.artifactWorkflowStates.members.reverse.find? fun workflow =>
    workflow.artifactType = artifactType

/-- The first id that is not empty. -/
def statusArtifactId (artifactType : String) (artifact : Option ArtifactReference)
    (workflow : Option WorkflowState) : String :=
  let ids := (artifact.map ArtifactReference.artifactId).toList ++
    (workflow.map WorkflowState.artifactId).toList
  (ids.find? (· ≠ "")).getD artifactType

def statusItem (artifactType : String) (artifact : Option ArtifactReference)
    (workflow : Option WorkflowState) : ArtifactStatusItem :=
  let item (status : TeacherArtifactStatus) (summary teacherAction : String) :
      ArtifactStatusItem :=
    ⟨statusArtifactId artifactType artifact workflow, artifactType, status, summary, teacherAction⟩
  let passed := item .passed "Generated and ready for teacher review."
    "Review the generated artifact."
  match workflow with
  | some workflow =>
    match workflow.status with
    | .passed => passed
    | .failed =>
      item .failed (safeFailureSummary workflow) "Request edits to regenerate this artifact."
    | .skipped =>
      item .skippedDueDependency "Skipped because a required earlier artifact failed."
        "Fix the failed dependency, then regenerate."
    | .escalated =>
      item .escalated "Escalated for operator review."
        "Wait for operator review or contact support."
  | none =>
    match artifact with
    | some _ => passed
    | none =>
      item .regenerating "Generation is still in progress."
        "Wait for this artifact to finish generating."

def artifactStatusesForTeacher : List ArtifactStatusItem :=
  (requestedArtifactTypes state).map fun artifactType =>
    statusItem artifactType (artifactOfType state artifactType) (workflowOfType state artifactType)

def unavailableRequiredArtifactStatuses : List ArtifactStatusItem :=
  (artifactStatusesForTeacher state).filter fun item => item.status ≠ .passed

variable {state} {artifactType : String} {artifact : Option ArtifactReference}
  {workflow : Option WorkflowState}

@[simp]
theorem statusItem_artifactType :
    (statusItem artifactType artifact workflow).artifactType = artifactType := by
  unfold statusItem
  cases workflow with
  | none => cases artifact <;> rfl
  | some workflow => cases isStatus : workflow.status <;> simp [isStatus]

theorem statusItem_regenerating_iff :
    (statusItem artifactType artifact workflow).status = .regenerating ↔
      artifact = none ∧ workflow = none := by
  unfold statusItem
  cases workflow with
  | none => cases artifact <;> simp
  | some workflow => cases isStatus : workflow.status <;> simp [isStatus]

theorem status_ne_regenerating {branch : WorkflowState}
    (stored : branch ∈ state.artifactWorkflowStates.members) {item : ArtifactStatusItem}
    (isReported : item ∈ artifactStatusesForTeacher state)
    (sameType : item.artifactType = branch.artifactType) : item.status ≠ .regenerating := by
  rcases List.mem_map.mp isReported with ⟨artifactType, _, rfl⟩
  rw [statusItem_artifactType] at sameType
  intro isRegenerating
  have noWorkflow := (statusItem_regenerating_iff.mp isRegenerating).2
  have missing := List.find?_eq_none.mp noWorkflow branch (List.mem_reverse.mpr stored)
  simp [sameType] at missing

end OhMyClass.TeachingPack
