import Mathlib.Data.List.Dedup
import Mathlib.Data.String.Basic
import OhMyClass.Json.Core
import OhMyClass.Sorting.Core

/-!
# The replan strategy

After a failure upstream everything is planned again.  After the failure of one
artifact, that artifact and those that depend on it are cleared: the strategy
has a table of its own of which types these are.
-/

namespace OhMyClass.Healing.Replan

open OhMyClass.Sorting

/-- `TypeError`: a list or an object is looked up in a set. -/
inductive ReplanError where
  | unhashable

def jsonObjects : Option Json → List JsonObject
  | some (.arr items) =>
    items.filterMap fun item =>
      match item with
      | .obj members => some members
      | _ => none
  | _ => []

def jsonObject : Option Json → JsonObject
  | some (.obj members) => members
  | _ => []

def stringValue : Option Json → Option String
  | some (.str text) => if text = "" then none else some text
  | _ => none

def artifactKeys : List String :=
  ["artifact_chunks", "artifacts", "artifact_workflow_states", "rendered_snapshots"]

def idType (item : JsonObject) : Option (String × String) :=
  match stringValue (item.get? "artifact_id"), stringValue (item.get? "artifact_type") with
  | some artifactId, some artifactType => some (artifactId, artifactType)
  | _, _ => none

def artifactIdTypes (state : JsonObject) : List (String × String) :=
  artifactKeys.flatMap fun key => (jsonObjects (state.get? key)).filterMap idType

def artifactType (state : JsonObject) (artifactId : String) : String :=
  ((artifactIdTypes state).lookup artifactId).getD ""

/-- `_DEPENDENT_TYPES.get(artifact_type, frozenset())`. -/
def dependentTypes (artifactType : String) : List String :=
  ([("lesson", ["worksheet", "quiz", "drill", "recap"]), ("quiz", ["recap"])].lookup
    artifactType).getD []

def clearTypes (failedType : String) : List String :=
  failedType :: dependentTypes failedType

/-- `_clear_artifact_ids`, with repetitions. -/
def clearArtifactIds (state : JsonObject) (failedArtifactId : String) : List String :=
  ((artifactIdTypes state).filter fun (artifactId, type) =>
    artifactId = failedArtifactId ∨ type ∈ clearTypes (artifactType state failedArtifactId)).map
      Prod.fst

/-- Whether `item.get("artifact_id") not in clear_ids`. -/
def isKept (clearIds : List String) (item : JsonObject) : Except ReplanError Bool :=
  match item.get? "artifact_id" with
  | some (.str artifactId) => .ok (artifactId ∉ clearIds)
  | some (.arr _) | some (.obj _) => .error .unhashable
  | _ => .ok true

def keptItems (clearIds : List String) : List JsonObject → Except ReplanError (List JsonObject)
  | [] => .ok []
  | item :: rest => do
    let kept ← isKept clearIds item
    let others ← keptItems clearIds rest
    return if kept then item :: others else others

def withoutArtifacts (value : Option Json) (clearIds : List String) : Except ReplanError Json :=
  match jsonObjects value with
  | [] => .ok .null
  | items => (keptItems clearIds items).map fun kept => .arr (kept.map .obj)

def withoutQualityReports (value : Option Json) (clearIds : List String) :
    Except ReplanError Json :=
  match jsonObject value with
  | [] => .ok .null
  | scores =>
    match jsonObjects (JsonObject.get? scores "reports") with
    | [] => .ok (.obj scores)
    | reports =>
      (keptItems clearIds reports).map fun kept =>
        .obj (JsonObject.set scores "reports" (.arr (kept.map .obj)))

/-! ## Strategies -/

def fullReplan (failCount : Int) (route : String) : JsonObject :=
  [("fail_count", .int failCount), ("healing_strategy", .str "replan"),
    ("artifact_chunks", .null), ("artifacts", .null), ("artifact_workflow_states", .null),
    ("rendered_snapshots", .null), ("quality_scores", .null), ("quality_issues", .null),
    ("quality_recovery_route", .str route),
    ("healing_note",
      .str ("Full regeneration triggered at " ++ route ++ " after 3 failed attempts"))]

def scopedReplan (state : JsonObject) (failCount : Int) (failedArtifactId : String) :
    Except ReplanError JsonObject := do
  let clearIds := clearArtifactIds state failedArtifactId
  let artifactChunks ← withoutArtifacts (state.get? "artifact_chunks") clearIds
  let artifacts ← withoutArtifacts (state.get? "artifacts") clearIds
  let workflowStates ← withoutArtifacts (state.get? "artifact_workflow_states") clearIds
  let renderedSnapshots ← withoutArtifacts (state.get? "rendered_snapshots") clearIds
  let qualityScores ← withoutQualityReports (state.get? "quality_scores") clearIds
  return [("fail_count", .int failCount), ("healing_strategy", .str "replan"),
    ("artifact_chunks", artifactChunks), ("artifacts", artifacts),
    ("artifact_workflow_states", workflowStates), ("rendered_snapshots", renderedSnapshots),
    ("quality_scores", qualityScores), ("quality_issues", .null),
    ("quality_recovery_route", .str "artifact_workflow"),
    ("healing_context",
      .obj [("artifact_ids", .arr ((sortBy id clearIds.dedup).map .str))]),
    ("healing_note", .str ("Scoped regeneration for " ++ failedArtifactId ++
      " and downstream dependents"))]

def upstreamReplanStages : List String :=
  ["planning_blueprint", "post_blueprint_research"]

/-- `fail_context.get("stage") or fail_context.get("current_stage")`, as a text
that is not empty. -/
def failedStage (truthy : Json → Bool) (failContext : JsonObject) : Option String :=
  stringValue (((failContext.get? "stage").filter truthy).or (failContext.get? "current_stage"))

def apply (truthy : Json → Bool) (state : JsonObject) (failCount : Int) :
    Except ReplanError JsonObject :=
  let failContext := jsonObject (state.get? "fail_context")
  let forArtifact :=
    match stringValue (failContext.get? "artifact_id") with
    | none => .ok (fullReplan failCount "artifact_workflow")
    | some failedArtifactId => scopedReplan state failCount failedArtifactId
  match failedStage truthy failContext with
  | some stage => if stage ∈ upstreamReplanStages then .ok (fullReplan failCount stage)
    else forArtifact
  | none => forArtifact

end OhMyClass.Healing.Replan
