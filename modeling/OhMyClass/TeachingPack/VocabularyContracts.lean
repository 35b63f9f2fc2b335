import OhMyClass.Json.Core

/-!
# Contracts of vocabulary batches

Input is normalized into clusters, and each cluster goes through a workflow
whose status changes only along allowed transitions.
-/

namespace OhMyClass.TeachingPack.Vocabulary

structure NormalizedVocabularyCluster where
  clusterId : String
  terms : List String
  rawInputSpan : String
  titleHint : Option String
  notes : List String
  confidence : FloatLiteral
  clusterId_length : 1 ≤ clusterId.length ∧ clusterId.length ≤ 120
  terms_length : 2 ≤ terms.length
  rawInputSpan_length : 1 ≤ rawInputSpan.length ∧ rawInputSpan.length ≤ 1000
  titleHint_length : ∀ title ∈ titleHint, title.length ≤ 200

structure AmbiguousVocabularyCluster where
  spanId : String
  rawInputSpan : String
  terms : List String
  reason : String
  confidence : FloatLiteral
  spanId_length : 1 ≤ spanId.length ∧ spanId.length ≤ 120
  rawInputSpan_length : 1 ≤ rawInputSpan.length ∧ rawInputSpan.length ≤ 1000
  reason_length : 1 ≤ reason.length ∧ reason.length ≤ 500

structure InputNormalizationReport where
  reportId : String
  readyClusters : List NormalizedVocabularyCluster
  ambiguousClusters : List AmbiguousVocabularyCluster
  clarifyingQuestions : List String
  skippedSpans : List String
  reportId_length : 1 ≤ reportId.length ∧ reportId.length ≤ 120

/-- `cluster.model_dump(mode="json")`. -/
def NormalizedVocabularyCluster.dump (cluster : NormalizedVocabularyCluster) : Json :=
  .obj [("cluster_id", .str cluster.clusterId), ("terms", .arr (cluster.terms.map .str)),
    ("raw_input_span", .str cluster.rawInputSpan),
    ("title_hint", (cluster.titleHint.map Json.str).getD .null),
    ("notes", .arr (cluster.notes.map .str)), ("confidence", .float cluster.confidence)]

/-! ## Workflows -/

inductive VocabularyClusterStatus where
  | queued
  | grounding
  | synthesizing
  | practiceGenerating
  | validating
  | needsReview
  | passed
  | failed
  | skipped
  | exported
  deriving DecidableEq

namespace VocabularyClusterStatus

def text : VocabularyClusterStatus → String
  | queued => "queued"
  | grounding => "grounding"
  | synthesizing => "synthesizing"
  | practiceGenerating => "practice_generating"
  | validating => "validating"
  | needsReview => "needs_review"
  | passed => "passed"
  | failed => "failed"
  | skipped => "skipped"
  | exported => "exported"

def allowedTargets : VocabularyClusterStatus → List VocabularyClusterStatus
  | queued => [grounding, skipped, failed]
  | grounding => [synthesizing, needsReview, failed]
  | synthesizing => [practiceGenerating, needsReview, failed]
  | practiceGenerating => [validating, needsReview, failed]
  | validating => [passed, needsReview, failed]
  | needsReview => [grounding, synthesizing, practiceGenerating, validating, passed, failed]
  | passed => [exported, needsReview]
  | failed => [queued]
  | skipped => [queued]
  | exported => []

end VocabularyClusterStatus

/-- An exception, by the name of its type and its text. -/
structure Raised where
  typeName : String
  message : String

open VocabularyClusterStatus

/-- The target may be any text. -/
def applyClusterTransition (current : VocabularyClusterStatus) (target : String) :
    Except Raised VocabularyClusterStatus :=
  match (allowedTargets current).find? fun status => status.text = target with
  | some status => .ok status
  | none => .error ⟨"ValueError",
      "Illegal vocabulary cluster transition: " ++ current.text ++ " -> " ++ target⟩

theorem mem_of_applyClusterTransition {current status : VocabularyClusterStatus} {target : String}
    (applied : applyClusterTransition current target = .ok status) :
    status ∈ allowedTargets current ∧ status.text = target := by
  unfold applyClusterTransition at applied
  split at applied
  · next found =>
    cases applied
    exact ⟨List.mem_of_find?_eq_some found, by simpa using List.find?_some found⟩
  · cases applied

inductive VocabularyClusterReviewStatus where
  | pending
  | needsReview
  | approved
  | rejected

structure VocabularyClusterWorkflow where
  workflowId : String
  clusterId : String
  runId : String
  normalizedInput : List String
  rawInputSpan : String
  status : VocabularyClusterStatus
  attempts : Nat
  reviewStatus : VocabularyClusterReviewStatus
  exportRefs : List (String × String)
  snapshotHash : Option String
  lastError : Option String
  workflowId_length : 1 ≤ workflowId.length ∧ workflowId.length ≤ 120
  clusterId_length : 1 ≤ clusterId.length ∧ clusterId.length ≤ 120
  runId_length : 1 ≤ runId.length ∧ runId.length ≤ 120
  normalizedInput_length : 1 ≤ normalizedInput.length
  rawInputSpan_length : 1 ≤ rawInputSpan.length ∧ rawInputSpan.length ≤ 2000
  attempts_le : attempts ≤ 20
  snapshotHash_length : ∀ digest ∈ snapshotHash, digest.length = 64
  lastError_length : ∀ error ∈ lastError, error.length ≤ 1000

end OhMyClass.TeachingPack.Vocabulary
