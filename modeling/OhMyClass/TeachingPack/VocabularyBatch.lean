import Mathlib.Algebra.GroupWithZero.Nat
import OhMyClass.Json.Text
import OhMyClass.Keyed.Core
import OhMyClass.TeachingPack.VocabularyContracts
import OhMyClass.Transition.Session
import OhMyClass.Transition.TaskGroup

/-!
# Vocabulary batches

Every ready cluster is taken through five stages by a worker of its own, a
limited number of them at a time.  A stage that raises fails its cluster.
-/

namespace OhMyClass.TeachingPack.Vocabulary

open List OhMyClass.Transition VocabularyClusterStatus Session

structure VocabularyBatchOrchestrationConfig where
  maxExpensiveStageConcurrency : Nat
  bounds : 1 ≤ maxExpensiveStageConcurrency ∧ maxExpensiveStageConcurrency ≤ 20

/-- The five stages, with what reading their results gives; all of it may raise. -/
structure VocabularyBatchStages (Request Bundle Anchor Practice Verdict : Type) where
  gatherEvidence : NormalizedVocabularyCluster → String → String → Except Raised Request
  ground : Request → String → Except Raised Bundle
  synthesize : NormalizedVocabularyCluster → Bundle → String → Except Raised Anchor
  makePractice : Anchor → String → Except Raised Practice
  evaluate : Anchor → Practice → Except Raised Verdict
  readiness : Bundle → Except Raised String
  verdict : Verdict → Except Raised String
  dumpAnchor : Anchor → Except Raised Json
  dumpPractice : Practice → Except Raised Json

structure ClusterContent where
  clusterId : String
  anchor : Json
  practice : Json
  qualityVerdict : String

structure ClusterOutcome where
  workflow : VocabularyClusterWorkflow
  content : Option ClusterContent

/-- `ValidationError` of a new workflow, or an exception of the handler. -/
inductive BatchError where
  | invalidWorkflow
  | raised (exception : Raised)

/-- The workflow that is worked on, and its former values, newest first. -/
structure Processing where
  workflow : VocabularyClusterWorkflow
  former : List VocabularyClusterWorkflow

/-! ## One cluster -/

section Cluster

-- The hex digest of a text.
variable (sha256 : String → { digest : String // digest.length = 64 })

def vocabularyClusterSnapshotHash (cluster : NormalizedVocabularyCluster) :
    { digest : String // digest.length = 64 } :=
  sha256 (String.ofList cluster.dump.dumps)

def workflowIdOf (runId : String) (cluster : NormalizedVocabularyCluster) : String :=
  "vocab-" ++ runId ++ "-" ++ cluster.clusterId

/-- The run and the workflow have ids of an allowed length. -/
def WorkflowFits (runId : String) (cluster : NormalizedVocabularyCluster) : Prop :=
  runId ≠ "" ∧ (workflowIdOf runId cluster).length ≤ 120
  deriving Decidable

def workflowFromCluster (runId : String) (cluster : NormalizedVocabularyCluster) :
    Option VocabularyClusterWorkflow :=
  if lengths : (1 ≤ (workflowIdOf runId cluster).length ∧
      (workflowIdOf runId cluster).length ≤ 120) ∧ 1 ≤ runId.length ∧ runId.length ≤ 120 then
    some
      { workflowId := workflowIdOf runId cluster
        clusterId := cluster.clusterId
        runId := runId
        normalizedInput := cluster.terms
        rawInputSpan := cluster.rawInputSpan
        status := .queued
        attempts := 0
        reviewStatus := .pending
        exportRefs := []
        snapshotHash := some (vocabularyClusterSnapshotHash sha256 cluster).val
        lastError := none
        workflowId_length := lengths.1
        clusterId_length := cluster.clusterId_length
        runId_length := lengths.2
        normalizedInput_length := Nat.le_of_succ_le cluster.terms_length
        rawInputSpan_length := ⟨cluster.rawInputSpan_length.1,
          cluster.rawInputSpan_length.2.trans (by decide)⟩
        attempts_le := Nat.zero_le _
        snapshotHash_length := by
          rintro _ ⟨⟩
          exact (vocabularyClusterSnapshotHash sha256 cluster).property
        lastError_length := nofun }
  else
    none

/-- `error[:1000]`. -/
def clipped (error : String) : String :=
  String.ofList (error.toList.take 1000)

theorem length_clipped_le (error : String) : (clipped error).length ≤ 1000 := by
  rw [clipped, String.length_ofList]
  exact length_take_le _ _

def advance (workflow : VocabularyClusterWorkflow) (target : String) (error : Option String) :
    Except Raised VocabularyClusterWorkflow := do
  let newStatus ← applyClusterTransition workflow.status target
  match error with
  | none => return { workflow with status := newStatus }
  | some error =>
    return { workflow with
      status := newStatus
      lastError := some (clipped error)
      lastError_length := by
        rintro _ ⟨⟩
        exact length_clipped_le error }

/-- `workflow = _advance(workflow, target)`. -/
def advanceTo (target : String) : Session Processing Raised PUnit := fun processing =>
  match advance processing.workflow target none with
  | .ok workflow => (.ok ⟨⟩, ⟨workflow, processing.workflow :: processing.former⟩)
  | .error exception => (.error exception, processing)

/-- `_advance(workflow, target, error=error)`, where the variable keeps its value. -/
def advanced (target : String) (error : Option String) :
    Session Processing Raised VocabularyClusterWorkflow := fun processing =>
  (advance processing.workflow target error, processing)

variable {Request Bundle Anchor Practice Verdict : Type}

section Stages

variable (cluster : NormalizedVocabularyCluster) (runId : String)
  (stages : VocabularyBatchStages Request Bundle Anchor Practice Verdict)

/-- The body of the `try` statement. -/
def runStages (snapshotHash : String) : Session Processing Raised ClusterOutcome := do
  advanceTo "grounding"
  let request ← Session.call (stages.gatherEvidence cluster snapshotHash runId)
  let bundle ← Session.call (stages.ground request runId)
  let readiness ← Session.call (stages.readiness bundle)
  if readiness = "failed" then
    let workflow ← advanced "failed" (some "lexical grounding failed")
    return ⟨workflow, none⟩
  else if readiness = "needs_review" then
    let workflow ← advanced "needs_review" none
    return ⟨workflow, none⟩
  else
    advanceTo "synthesizing"
    let anchor ← Session.call (stages.synthesize cluster bundle runId)
    advanceTo "practice_generating"
    let practice ← Session.call (stages.makePractice anchor runId)
    advanceTo "validating"
    let result ← Session.call (stages.evaluate anchor practice)
    let verdict ← Session.call (stages.verdict result)
    let final ← advanced verdict none
    if final.status = .passed then
      let anchorDump ← Session.call (stages.dumpAnchor anchor)
      let practiceDump ← Session.call (stages.dumpPractice practice)
      return ⟨final, some ⟨cluster.clusterId, anchorDump, practiceDump, verdict⟩⟩
    else
      return ⟨final, none⟩

/-- The `except` clause. -/
def failCluster (exception : Raised) : Session Processing Raised ClusterOutcome := do
  let workflow ← advanced "failed" (some (exception.typeName ++ ": " ++ exception.message))
  return ⟨workflow, none⟩

/-- What becomes of a new workflow, with the values it takes. -/
def processWorkflow (workflow : VocabularyClusterWorkflow) :
    Except Raised ClusterOutcome × Processing :=
  Session.handle
    (runStages cluster runId stages (vocabularyClusterSnapshotHash sha256 cluster).val)
    failCluster ⟨workflow, []⟩

def processCluster : Except BatchError ClusterOutcome :=
  match workflowFromCluster sha256 runId cluster with
  | none => .error .invalidWorkflow
  | some workflow => (processWorkflow sha256 cluster runId stages workflow).1.mapError .raised

end Stages

structure VocabularyBatchProgress where
  totalClusters : Nat
  statusCounts : List (VocabularyClusterStatus × Nat)

structure VocabularyBatchEvent where
  event : String
  runId : String
  totalClusters : Nat
  statusCounts : List (VocabularyClusterStatus × Nat)

structure VocabularyBatchResult where
  runId : String
  workflows : List VocabularyClusterWorkflow
  content : List ClusterContent
  progress : VocabularyBatchProgress
  events : List VocabularyBatchEvent

/-- `counts[status] = counts.get(status, 0) + 1`. -/
def countStatus : List (VocabularyClusterStatus × Nat) → VocabularyClusterStatus →
    List (VocabularyClusterStatus × Nat)
  | [], status => [(status, 1)]
  | (known, count) :: rest, status =>
    if known = status then (known, count + 1) :: rest
    else (known, count) :: countStatus rest status

def progressFromWorkflows (workflows : List VocabularyClusterWorkflow) :
    VocabularyBatchProgress where
  totalClusters := workflows.length
  statusCounts := (workflows.map (·.status)).foldl countStatus []

def batchResult (runId : String) (outcomes : List ClusterOutcome) : VocabularyBatchResult :=
  let workflows := outcomes.map (·.workflow)
  let progress := progressFromWorkflows workflows
  { runId := runId
    workflows := workflows
    content := outcomes.filterMap (·.content)
    progress := progress
    events := [⟨"vocabulary_batch_completed", runId, progress.totalClusters,
      progress.statusCounts⟩] }

/-- `clusters_by_id`, in the order of its keys. -/
def clustersById (report : InputNormalizationReport) : List NormalizedVocabularyCluster :=
  report.readyClusters.foldl (Keyed.put (·.clusterId)) []

/-- What a batch is given: the stages may do anything for each cluster, and
its worker may pause at any rate. -/
structure VocabularyBatch (Request Bundle Anchor Practice Verdict : Type) where
  runId : String
  report : InputNormalizationReport
  config : VocabularyBatchOrchestrationConfig
  stages : String → VocabularyBatchStages Request Bundle Anchor Practice Verdict
  pauses : String → Nat

namespace VocabularyBatch

variable (batch : VocabularyBatch Request Bundle Anchor Practice Verdict)

/-- The workers of `process_clusters_with_concurrency`. -/
def workers : List (Task BatchError ClusterOutcome) :=
  (clustersById batch.report).map fun cluster =>
    ⟨batch.pauses cluster.clusterId,
      processCluster sha256 cluster batch.runId (batch.stages cluster.clusterId)⟩

/-- `run_vocabulary_batch_orchestrator` may end so. -/
def Answers (answer : Except BatchError VocabularyBatchResult) : Prop :=
  ∃ outcomes, TaskGroup.Answers batch.config.maxExpensiveStageConcurrency (batch.workers sha256)
    outcomes ∧ answer = outcomes.map (batchResult batch.runId)

/-- However its workers take turns, the batch ends. -/
def Terminates : Prop :=
  TaskGroup.Terminates batch.config.maxExpensiveStageConcurrency (batch.workers sha256)

end VocabularyBatch

/-! ## Accounts -/

/-- A stage raised: those before it returned, and grounding let the cluster on. -/
inductive StageRaised (cluster : NormalizedVocabularyCluster) (runId : String)
    (stages : VocabularyBatchStages Request Bundle Anchor Practice Verdict) : Prop
  | gatherEvidence {exception : Raised}
      (raised : stages.gatherEvidence cluster (vocabularyClusterSnapshotHash sha256 cluster).val
        runId = .error exception)
  | ground {request : Request} {exception : Raised}
      (gathered : stages.gatherEvidence cluster (vocabularyClusterSnapshotHash sha256 cluster).val
        runId = .ok request)
      (raised : stages.ground request runId = .error exception)
  | synthesize {request : Request} {bundle : Bundle} {readiness : String} {exception : Raised}
      (gathered : stages.gatherEvidence cluster (vocabularyClusterSnapshotHash sha256 cluster).val
        runId = .ok request)
      (grounded : stages.ground request runId = .ok bundle)
      (ready : stages.readiness bundle = .ok readiness ∧ readiness ∉ ["failed", "needs_review"])
      (raised : stages.synthesize cluster bundle runId = .error exception)
  | makePractice {request : Request} {bundle : Bundle} {readiness : String} {anchor : Anchor}
      {exception : Raised}
      (gathered : stages.gatherEvidence cluster (vocabularyClusterSnapshotHash sha256 cluster).val
        runId = .ok request)
      (grounded : stages.ground request runId = .ok bundle)
      (ready : stages.readiness bundle = .ok readiness ∧ readiness ∉ ["failed", "needs_review"])
      (synthesized : stages.synthesize cluster bundle runId = .ok anchor)
      (raised : stages.makePractice anchor runId = .error exception)
  | evaluate {request : Request} {bundle : Bundle} {readiness : String} {anchor : Anchor}
      {practice : Practice} {exception : Raised}
      (gathered : stages.gatherEvidence cluster (vocabularyClusterSnapshotHash sha256 cluster).val
        runId = .ok request)
      (grounded : stages.ground request runId = .ok bundle)
      (ready : stages.readiness bundle = .ok readiness ∧ readiness ∉ ["failed", "needs_review"])
      (synthesized : stages.synthesize cluster bundle runId = .ok anchor)
      (practised : stages.makePractice anchor runId = .ok practice)
      (raised : stages.evaluate anchor practice = .error exception)

/-- The values of a workflow, newest first, from a queued one on. -/
def IsCourse (values : List VocabularyClusterWorkflow) : Prop :=
  values.IsChain (fun after before => after.status ∈ allowedTargets before.status) ∧
    ∀ first ∈ values.getLast?, first.status = .queued

/-- The workflow values that processing a cluster goes through, newest first. -/
def courseOf (cluster : NormalizedVocabularyCluster) (runId : String)
    (stages : VocabularyBatchStages Request Bundle Anchor Practice Verdict) :
    List VocabularyClusterWorkflow :=
  match workflowFromCluster sha256 runId cluster with
  | none => []
  | some workflow =>
    match processWorkflow sha256 cluster runId stages workflow with
    | (.ok outcome, processing) =>
      outcome.workflow :: processing.workflow :: processing.former
    | (.error _, processing) => processing.workflow :: processing.former

namespace VocabularyBatch

/-- The result has one workflow for every ready cluster, each where its stages
brought it. -/
structure AccountsFor (batch : VocabularyBatch Request Bundle Anchor Practice Verdict)
    (result : VocabularyBatchResult) : Prop where
  clusters : result.workflows.map (·.clusterId) = batch.report.readyClusters.map (·.clusterId)
  status : ∀ workflow ∈ result.workflows, workflow.status ∈ [.passed, .needsReview, .failed]
  course : List.Forall₂ (fun cluster workflow =>
      (courseOf sha256 cluster batch.runId (batch.stages cluster.clusterId)).head? = some workflow ∧
        IsCourse (courseOf sha256 cluster batch.runId (batch.stages cluster.clusterId)))
    batch.report.readyClusters result.workflows
  content : result.content.map (·.clusterId) =
    (result.workflows.filter (·.status = .passed)).map (·.clusterId)
  raised : List.Forall₂ (fun cluster workflow =>
      StageRaised sha256 cluster batch.runId (batch.stages cluster.clusterId) →
        workflow.status = .failed)
    batch.report.readyClusters result.workflows
  progress : result.progress.totalClusters = batch.report.readyClusters.length ∧
    (result.progress.statusCounts.map Prod.snd).sum = batch.report.readyClusters.length

/-- In every batch of the run with the cluster, where the stages treat it
alike, it has the same workflow and content. -/
def Independent (batch : VocabularyBatch Request Bundle Anchor Practice Verdict)
    (result : VocabularyBatchResult) : Prop :=
  ∀ (other : VocabularyBatch Request Bundle Anchor Practice Verdict)
    (otherResult : VocabularyBatchResult),
    other.runId = batch.runId → Keyed.Unique (·.clusterId) other.report.readyClusters →
    other.Answers sha256 (.ok otherResult) →
    ∀ cluster ∈ batch.report.readyClusters, cluster ∈ other.report.readyClusters →
      other.stages cluster.clusterId = batch.stages cluster.clusterId →
      (∀ workflow, workflow.clusterId = cluster.clusterId →
        (workflow ∈ result.workflows ↔ workflow ∈ otherResult.workflows)) ∧
      ∀ content, content.clusterId = cluster.clusterId →
        (content ∈ result.content ↔ content ∈ otherResult.content)

/-- Whatever the order of its steps, the batch ends with a result that
accounts for every cluster. -/
def AccountsForEveryCluster (batch : VocabularyBatch Request Bundle Anchor Practice Verdict) :
    Prop :=
  batch.Terminates sha256 ∧ ∀ answer, batch.Answers sha256 answer →
    ∃ result, answer = .ok result ∧ batch.AccountsFor sha256 result ∧
      batch.Independent sha256 result

end VocabularyBatch

/-! ## One cluster ends -/

variable {sha256} {cluster : NormalizedVocabularyCluster} {runId : String}
  {stages : VocabularyBatchStages Request Bundle Anchor Practice Verdict}

theorem text_injective : Function.Injective VocabularyClusterStatus.text := by
  intro first second same
  cases first <;> cases second <;> first | rfl | exact absurd same (by decide)

variable {workflow : VocabularyClusterWorkflow} {error : Option String} {target : String}

theorem of_advance {after : VocabularyClusterWorkflow}
    (moved : advance workflow target error = .ok after) :
    after.clusterId = workflow.clusterId ∧ after.status ∈ allowedTargets workflow.status ∧
      after.status.text = target := by
  unfold advance at moved
  cases applied : applyClusterTransition workflow.status target with
  | error exception =>
    rw [applied] at moved
    cases moved
  | ok status =>
    rw [applied] at moved
    have allowed := mem_of_applyClusterTransition applied
    cases error <;> cases moved <;> exact ⟨rfl, allowed⟩

/-- The statuses a workflow has while its stages run. -/
def working : List VocabularyClusterStatus :=
  [.queued, .grounding, .synthesizing, .practiceGenerating, .validating]

structure UnderWay (cluster : NormalizedVocabularyCluster) (processing : Processing) : Prop where
  clusterId : processing.workflow.clusterId = cluster.clusterId
  status : processing.workflow.status ∈ working
  course : IsCourse (processing.workflow :: processing.former)

theorem IsCourse.cons {values : List VocabularyClusterWorkflow} {after : VocabularyClusterWorkflow}
    (course : IsCourse (workflow :: values))
    (allowed : after.status ∈ allowedTargets workflow.status) :
    IsCourse (after :: workflow :: values) :=
  ⟨.cons_cons allowed course.1, fun first isFirst => course.2 first isFirst⟩

theorem keeps_advanceTo (status : VocabularyClusterStatus) (isWorking : status ∈ working) :
    Session.Keeps (UnderWay cluster) (advanceTo status.text) := by
  intro processing underWay
  unfold advanceTo
  cases moved : advance processing.workflow status.text none with
  | error exception => exact underWay
  | ok after =>
    have facts := of_advance moved
    refine ⟨facts.1.trans underWay.clusterId, ?_, underWay.course.cons facts.2.1⟩
    rw [text_injective facts.2.2]
    exact isWorking

theorem keeps_advanced (target : String) (error : Option String) :
    Session.Keeps (UnderWay cluster) (advanced target error) :=
  fun _ underWay => underWay

theorem keeps_runStages (runId : String)
    (stages : VocabularyBatchStages Request Bundle Anchor Practice Verdict)
    (snapshotHash : String) :
    Session.Keeps (UnderWay cluster) (runStages cluster runId stages snapshotHash) := by
  refine keeps_bind (keeps_advanceTo .grounding (by decide)) fun _ => ?_
  refine keeps_bind (keeps_call _) fun request => ?_
  refine keeps_bind (keeps_call _) fun bundle => ?_
  refine keeps_bind (keeps_call _) fun readiness => ?_
  split
  · exact keeps_bind (keeps_advanced _ _) fun _ => keeps_pure _
  split
  · exact keeps_bind (keeps_advanced _ _) fun _ => keeps_pure _
  refine keeps_bind (keeps_advanceTo .synthesizing (by decide)) fun _ => ?_
  refine keeps_bind (keeps_call _) fun anchor => ?_
  refine keeps_bind (keeps_advanceTo .practiceGenerating (by decide)) fun _ => ?_
  refine keeps_bind (keeps_call _) fun practice => ?_
  refine keeps_bind (keeps_advanceTo .validating (by decide)) fun _ => ?_
  refine keeps_bind (keeps_call _) fun result => ?_
  refine keeps_bind (keeps_call _) fun verdict => ?_
  refine keeps_bind (keeps_advanced _ _) fun final => ?_
  split
  · refine keeps_bind (keeps_call _) fun anchorDump => ?_
    exact keeps_bind (keeps_call _) fun practiceDump => keeps_pure _
  · exact keeps_pure _

/-- The outcome of a workflow under way. -/
structure Ends (cluster : NormalizedVocabularyCluster) (processing : Processing)
    (outcome : ClusterOutcome) : Prop where
  clusterId : outcome.workflow.clusterId = processing.workflow.clusterId
  allowed : outcome.workflow.status ∈ allowedTargets processing.workflow.status
  status : outcome.workflow.status ∈ [.passed, .needsReview, .failed]
  content : outcome.content.map (·.clusterId) =
    if outcome.workflow.status = .passed then some cluster.clusterId else none

variable {processing : Processing}

theorem of_advanceTo {after : Processing} (status : VocabularyClusterStatus)
    (moved : advanceTo status.text processing = (.ok ⟨⟩, after)) :
    after.workflow.status = status := by
  unfold advanceTo at moved
  split at moved
  · next workflow isOk =>
    cases moved
    exact text_injective (of_advance isOk).2.2
  · cases moved

theorem ends_of_advance (status : VocabularyClusterStatus)
    (isLast : status = .needsReview ∨ status = .failed)
    (moved : advance processing.workflow status.text error = .ok workflow) :
    workflow.status = status ∧ Ends cluster processing ⟨workflow, none⟩ := by
  have facts := of_advance moved
  have isStatus := text_injective facts.2.2
  refine ⟨isStatus, facts.1, facts.2.1, ?_, ?_⟩
  · rw [isStatus]
    rcases isLast with rfl | rfl <;> decide
  · rw [isStatus]
    rcases isLast with rfl | rfl <;> rfl

theorem advanced_eq_ok {after : Processing} :
    advanced target error processing = (.ok workflow, after) ↔
      advance processing.workflow target error = .ok workflow ∧ after = processing := by
  rw [advanced, Prod.mk.injEq, eq_comm (a := processing)]

section Returned

variable {request : Request} {bundle : Bundle} {readiness : String} {anchor : Anchor}
  {practice : Practice} {result : Verdict}
  (gathered : stages.gatherEvidence cluster (vocabularyClusterSnapshotHash sha256 cluster).val
    runId = .ok request)
  (grounded : stages.ground request runId = .ok bundle)

include gathered grounded

theorem not_raised_of_held (isReadiness : stages.readiness bundle = .ok readiness)
    (held : readiness ∈ ["failed", "needs_review"]) :
    ¬ StageRaised sha256 cluster runId stages := by
  intro raised
  cases raised with
  | gatherEvidence raised => simp [raised] at gathered
  | ground otherGathered raised =>
    cases gathered.symm.trans otherGathered
    simp [raised] at grounded
  | synthesize otherGathered otherGrounded ready
  | makePractice otherGathered otherGrounded ready
  | evaluate otherGathered otherGrounded ready =>
    cases gathered.symm.trans otherGathered
    cases grounded.symm.trans otherGrounded
    cases isReadiness.symm.trans ready.1
    exact ready.2 held

theorem not_raised_of_returned (synthesized : stages.synthesize cluster bundle runId = .ok anchor)
    (practised : stages.makePractice anchor runId = .ok practice)
    (evaluated : stages.evaluate anchor practice = .ok result) :
    ¬ StageRaised sha256 cluster runId stages := by
  intro raised
  cases raised with
  | gatherEvidence raised => simp [raised] at gathered
  | ground otherGathered raised =>
    cases gathered.symm.trans otherGathered
    simp [raised] at grounded
  | synthesize otherGathered otherGrounded ready raised =>
    cases gathered.symm.trans otherGathered
    cases grounded.symm.trans otherGrounded
    simp [raised] at synthesized
  | makePractice otherGathered otherGrounded ready otherSynthesized raised =>
    cases gathered.symm.trans otherGathered
    cases grounded.symm.trans otherGrounded
    cases synthesized.symm.trans otherSynthesized
    simp [raised] at practised
  | evaluate otherGathered otherGrounded ready otherSynthesized otherPractised raised =>
    cases gathered.symm.trans otherGathered
    cases grounded.symm.trans otherGrounded
    cases synthesized.symm.trans otherSynthesized
    cases practised.symm.trans otherPractised
    simp [raised] at evaluated

end Returned

variable {outcome : ClusterOutcome}

theorem of_runStages {after : Processing}
    (ret : runStages cluster runId stages (vocabularyClusterSnapshotHash sha256 cluster).val
      processing = (.ok outcome, after)) :
    Ends cluster after outcome ∧ ¬ StageRaised sha256 cluster runId stages := by
  unfold runStages at ret
  simp only [Session.bind_eq_ok, call_eq_ok] at ret
  obtain ⟨_, _, _, request, _, ⟨gathered, _⟩, bundle, _, ⟨grounded, _⟩, readiness, between,
    ⟨isReadiness, _⟩, ret⟩ := ret
  split at ret
  · next notGrounded =>
    simp only [Session.bind_eq_ok, advanced_eq_ok] at ret
    obtain ⟨workflow, _, ⟨moved, rfl⟩, finished⟩ := ret
    cases finished
    exact ⟨(ends_of_advance .failed (.inr rfl) moved).2,
      not_raised_of_held gathered grounded isReadiness (by simp [notGrounded])⟩
  split at ret
  · next unsure =>
    simp only [Session.bind_eq_ok, advanced_eq_ok] at ret
    obtain ⟨workflow, _, ⟨moved, rfl⟩, finished⟩ := ret
    cases finished
    exact ⟨(ends_of_advance .needsReview (.inl rfl) moved).2,
      not_raised_of_held gathered grounded isReadiness (by simp [unsure])⟩
  · simp only [Session.bind_eq_ok, call_eq_ok, advanced_eq_ok] at ret
    obtain ⟨_, _, _, anchor, _, ⟨synthesized, _⟩, _, _, _, practice, _, ⟨practised, _⟩, _,
      validating, moved, result, _, ⟨evaluated, rfl⟩, verdict, _, ⟨isVerdict, rfl⟩, final, _,
      ⟨judged, rfl⟩, finished⟩ := ret
    refine ⟨?_, not_raised_of_returned gathered grounded synthesized practised evaluated⟩
    have isValidating := of_advanceTo .validating moved
    have facts := of_advance judged
    rw [isValidating] at facts
    split at finished
    · next isPassed =>
      simp only [Session.bind_eq_ok, call_eq_ok] at finished
      obtain ⟨anchorDump, _, ⟨_, rfl⟩, practiceDump, _, ⟨_, rfl⟩, finished⟩ := finished
      cases finished
      exact ⟨facts.1, by rw [isValidating]; exact facts.2.1, facts.2.1, by simp [isPassed]⟩
    · next notPassed =>
      cases finished
      exact ⟨facts.1, by rw [isValidating]; exact facts.2.1, facts.2.1, by simp [notPassed]⟩

theorem advance_failed (isWorking : workflow.status ∈ working) (error : String) :
    ∃ failed, advance workflow "failed" (some error) = .ok failed := by
  have applied : applyClusterTransition workflow.status "failed" = .ok .failed := by
    generalize workflow.status = status at isWorking
    cases status <;> first | rfl | exact absurd isWorking (by decide)
  unfold advance
  rw [applied]
  exact ⟨_, rfl⟩

theorem processWorkflow_ends (sha256 : String → { digest : String // digest.length = 64 })
    (runId : String) (stages : VocabularyBatchStages Request Bundle Anchor Practice Verdict)
    (underWay : UnderWay cluster ⟨workflow, []⟩) :
    ∃ outcome after, processWorkflow sha256 cluster runId stages workflow = (.ok outcome, after) ∧
      UnderWay cluster after ∧ Ends cluster after outcome ∧
      (StageRaised sha256 cluster runId stages → outcome.workflow.status = .failed) := by
  have kept := keeps_runStages runId stages (vocabularyClusterSnapshotHash sha256 cluster).val _
    underWay
  unfold processWorkflow handle
  rcases ran : runStages cluster runId stages (vocabularyClusterSnapshotHash sha256 cluster).val
    ⟨workflow, []⟩ with ⟨exception | outcome, after⟩
  · rw [ran] at kept
    obtain ⟨failed, moved⟩ := advance_failed kept.status
      (exception.typeName ++ ": " ++ exception.message)
    obtain ⟨isFailed, ends⟩ := ends_of_advance .failed (.inr rfl) moved
    refine ⟨⟨failed, none⟩, after, ?_, kept, ends, fun _ => isFailed⟩
    exact bind_of_ok (advanced_eq_ok.mpr ⟨moved, rfl⟩)
  · rw [ran] at kept
    obtain ⟨ends, notRaised⟩ := of_runStages ran
    exact ⟨outcome, after, rfl, kept, ends, fun raised => absurd raised notRaised⟩

theorem workflowFromCluster_eq_none_iff :
    workflowFromCluster sha256 runId cluster = none ↔ ¬ WorkflowFits runId cluster := by
  have lengths : (workflowIdOf runId cluster).length =
      6 + runId.length + 1 + cluster.clusterId.length := by
    simp only [workflowIdOf, String.length_append]
    rfl
  have named : runId ≠ "" ↔ 1 ≤ runId.length := by
    rw [Nat.one_le_iff_ne_zero, ne_eq, ne_eq, String.length_eq_zero_iff]
  unfold workflowFromCluster WorkflowFits
  rw [named]
  split
  · next fits => simp [fits]
  · next unfit =>
    simp only [true_iff]
    omega

theorem of_workflowFromCluster (made : workflowFromCluster sha256 runId cluster = some workflow) :
    UnderWay cluster ⟨workflow, []⟩ := by
  unfold workflowFromCluster at made
  split at made
  · cases made
    refine ⟨rfl, mem_cons_self, .singleton _, ?_⟩
    rintro _ ⟨⟩
    rfl
  · cases made

/-- What a batch says of a cluster. -/
structure Settled (sha256 : String → { digest : String // digest.length = 64 })
    (cluster : NormalizedVocabularyCluster) (runId : String)
    (stages : VocabularyBatchStages Request Bundle Anchor Practice Verdict)
    (outcome : ClusterOutcome) : Prop where
  clusterId : outcome.workflow.clusterId = cluster.clusterId
  status : outcome.workflow.status ∈ [.passed, .needsReview, .failed]
  content : outcome.content.map (·.clusterId) =
    if outcome.workflow.status = .passed then some cluster.clusterId else none
  head : (courseOf sha256 cluster runId stages).head? = some outcome.workflow
  course : IsCourse (courseOf sha256 cluster runId stages)
  raised : StageRaised sha256 cluster runId stages → outcome.workflow.status = .failed

theorem processCluster_cases (sha256 : String → { digest : String // digest.length = 64 })
    (cluster : NormalizedVocabularyCluster) (runId : String)
    (stages : VocabularyBatchStages Request Bundle Anchor Practice Verdict) :
    (WorkflowFits runId cluster ∧ ∃ outcome, processCluster sha256 cluster runId stages = .ok outcome ∧
        Settled sha256 cluster runId stages outcome) ∨
      ¬ WorkflowFits runId cluster ∧
        processCluster sha256 cluster runId stages = .error .invalidWorkflow := by
  cases made : workflowFromCluster sha256 runId cluster with
  | none =>
    refine .inr ⟨workflowFromCluster_eq_none_iff.mp made, ?_⟩
    rw [processCluster, made]
  | some workflow =>
    have fits : WorkflowFits runId cluster := by
      by_contra unfit
      rw [workflowFromCluster_eq_none_iff.mpr unfit] at made
      cases made
    obtain ⟨outcome, after, ran, kept, ends, failed⟩ :=
      processWorkflow_ends sha256 runId stages (of_workflowFromCluster made)
    refine .inl ⟨fits, outcome, ?_, ?_⟩
    · rw [processCluster, made]
      simp only [ran]
      rfl
    · have course : courseOf sha256 cluster runId stages =
          outcome.workflow :: after.workflow :: after.former := by
        simp only [courseOf, made, ran]
      refine ⟨ends.clusterId.trans kept.clusterId, ends.status, ends.content, ?_, ?_, failed⟩
      · rw [course, List.head?_cons]
      · rw [course]
        exact kept.course.cons ends.allowed

theorem settled_of_ok (processed : processCluster sha256 cluster runId stages = .ok outcome) :
    Settled sha256 cluster runId stages outcome := by
  rcases processCluster_cases sha256 cluster runId stages with ⟨_, other, isOk, settled⟩ | ⟨_, isError⟩
  · cases processed.symm.trans isOk
    exact settled
  · cases processed.symm.trans isError

/-! ## The batch ends -/

theorem sum_countStatus (counts : List (VocabularyClusterStatus × Nat))
    (status : VocabularyClusterStatus) :
    ((countStatus counts status).map Prod.snd).sum = (counts.map Prod.snd).sum + 1 := by
  induction counts with
  | nil => rfl
  | cons entry rest ih =>
    rw [countStatus]
    split
    · simp only [map_cons, sum_cons]
      omega
    · simp only [map_cons, sum_cons, ih]
      omega

theorem sum_foldl_countStatus (statuses : List VocabularyClusterStatus)
    (counts : List (VocabularyClusterStatus × Nat)) :
    ((statuses.foldl countStatus counts).map Prod.snd).sum =
      (counts.map Prod.snd).sum + statuses.length := by
  induction statuses generalizing counts with
  | nil => rfl
  | cons status rest ih =>
    rw [List.foldl_cons, ih, sum_countStatus, length_cons]
    omega

namespace VocabularyBatch

variable {batch : VocabularyBatch Request Bundle Anchor Practice Verdict}

theorem Answers.outcomes (unique : Keyed.Unique (·.clusterId) batch.report.readyClusters)
    {result : VocabularyBatchResult} (answers : batch.Answers sha256 (.ok result)) :
    ∃ outcomes, result = batchResult batch.runId outcomes ∧
      List.Forall₂ (fun cluster outcome => processCluster sha256 cluster batch.runId
        (batch.stages cluster.clusterId) = .ok outcome) batch.report.readyClusters outcomes := by
  obtain ⟨outcomes, answers, isResult⟩ := answers
  cases outcomes with
  | error exception => cases isResult
  | ok outcomes =>
    cases isResult
    refine ⟨outcomes, rfl, ?_⟩
    have results := answers.ok
    rw [workers, clustersById, unique.foldl_put_nil, forall₂_map_left_iff] at results
    exact results

variable {outcomes : List ClusterOutcome} {outcome : ClusterOutcome}

theorem Answers.mem_iff (unique : Keyed.Unique (·.clusterId) batch.report.readyClusters)
    (processed : List.Forall₂ (fun cluster outcome => processCluster sha256 cluster batch.runId
      (batch.stages cluster.clusterId) = .ok outcome) batch.report.readyClusters outcomes)
    (mem : cluster ∈ batch.report.readyClusters)
    (same : outcome.workflow.clusterId = cluster.clusterId) :
    outcome ∈ outcomes ↔ processCluster sha256 cluster batch.runId
      (batch.stages cluster.clusterId) = .ok outcome := by
  constructor
  · intro isOutcome
    obtain ⟨index, inRange, rfl⟩ := mem_iff_getElem.mp isOutcome
    have inReady := processed.length_eq.symm ▸ inRange
    have isOk := (forall₂_iff_get.mp processed).2 index inReady inRange
    simp only [get_eq_getElem] at isOk
    have here := unique.eq_of_key (getElem_mem inReady) mem
      ((settled_of_ok isOk).clusterId.symm.trans same)
    rw [here] at isOk
    exact isOk
  · intro isOk
    obtain ⟨index, inReady, rfl⟩ := mem_iff_getElem.mp mem
    have inRange := processed.length_eq ▸ inReady
    have isOther := (forall₂_iff_get.mp processed).2 index inReady inRange
    cases isOk.symm.trans isOther
    exact getElem_mem inRange

theorem exists_settled
    (processed : List.Forall₂ (fun cluster outcome => processCluster sha256 cluster batch.runId
      (batch.stages cluster.clusterId) = .ok outcome) batch.report.readyClusters outcomes)
    (mem : outcome ∈ outcomes) :
    ∃ cluster, Settled sha256 cluster batch.runId (batch.stages cluster.clusterId) outcome := by
  obtain ⟨index, inRange, rfl⟩ := mem_iff_getElem.mp mem
  exact ⟨_, settled_of_ok ((forall₂_iff_get.mp processed).2 index
    (processed.length_eq ▸ inRange) inRange)⟩

theorem content_clusterIds (kept : ∀ outcome ∈ outcomes, outcome.content.map (·.clusterId) =
      if outcome.workflow.status = .passed then some outcome.workflow.clusterId else none) :
    (outcomes.filterMap (·.content)).map (·.clusterId) =
      ((outcomes.map (·.workflow)).filter (·.status = .passed)).map (·.clusterId) := by
  induction outcomes with
  | nil => rfl
  | cons outcome rest ih =>
    have here := kept outcome mem_cons_self
    have others := ih fun other mem => kept other (mem_cons_of_mem _ mem)
    rw [map_cons]
    by_cases isPassed : outcome.workflow.status = .passed
    · rw [if_pos isPassed] at here
      obtain ⟨content, isContent, idEq⟩ := Option.map_eq_some_iff.mp here
      rw [filterMap_cons_some isContent, filter_cons_of_pos (by simpa using isPassed),
        map_cons, map_cons, idEq, others]
    · rw [if_neg isPassed, Option.map_eq_none_iff] at here
      rw [filterMap_cons_none here, filter_cons_of_neg (by simpa using isPassed), others]

theorem accountsFor_of_processed
    (processed : List.Forall₂ (fun cluster outcome => processCluster sha256 cluster batch.runId
      (batch.stages cluster.clusterId) = .ok outcome) batch.report.readyClusters outcomes) :
    batch.AccountsFor sha256 (batchResult batch.runId outcomes) := by
  have settled : List.Forall₂ (fun cluster outcome => Settled sha256 cluster batch.runId
      (batch.stages cluster.clusterId) outcome) batch.report.readyClusters outcomes :=
    processed.imp fun _ _ => settled_of_ok
  have each : ∀ outcome ∈ outcomes, ∃ cluster, Settled sha256 cluster batch.runId
      (batch.stages cluster.clusterId) outcome :=
    fun _ => exists_settled processed
  constructor
  case clusters =>
    have same : List.Forall₂ (· = ·) (outcomes.map fun outcome => outcome.workflow.clusterId)
        (batch.report.readyClusters.map (·.clusterId)) := by
      rw [forall₂_map_left_iff, forall₂_map_right_iff]
      exact settled.flip.imp fun _ _ => Settled.clusterId
    rw [forall₂_eq_eq_eq] at same
    rw [← same, batchResult, map_map]
    rfl
  case status =>
    intro workflow mem
    obtain ⟨outcome, isOutcome, rfl⟩ := mem_map.mp mem
    obtain ⟨cluster, settled⟩ := each outcome isOutcome
    exact settled.status
  case course =>
    rw [batchResult, forall₂_map_right_iff]
    exact settled.imp fun _ _ settled => ⟨settled.head, settled.course⟩
  case content =>
    refine content_clusterIds fun outcome mem => ?_
    obtain ⟨cluster, settled⟩ := each outcome mem
    rw [settled.content, settled.clusterId]
  case raised =>
    rw [batchResult, forall₂_map_right_iff]
    exact settled.imp fun _ _ => Settled.raised
  case progress =>
    have counted : (outcomes.map (·.workflow)).length = batch.report.readyClusters.length := by
      rw [length_map, processed.length_eq]
    refine ⟨counted, ?_⟩
    rw [← counted]
    refine (sum_foldl_countStatus _ []).trans ?_
    rw [length_map, map_nil, sum_nil, Nat.zero_add]

theorem independent_of_processed (unique : Keyed.Unique (·.clusterId) batch.report.readyClusters)
    (processed : List.Forall₂ (fun cluster outcome => processCluster sha256 cluster batch.runId
      (batch.stages cluster.clusterId) = .ok outcome) batch.report.readyClusters outcomes) :
    batch.Independent sha256 (batchResult batch.runId outcomes) := by
  intro other otherResult sameRun otherUnique answers cluster mem isOther alike
  obtain ⟨otherOutcomes, rfl, otherProcessed⟩ := answers.outcomes otherUnique
  have mem_iff {outcome : ClusterOutcome} (same : outcome.workflow.clusterId = cluster.clusterId) :
      outcome ∈ outcomes ↔ outcome ∈ otherOutcomes := by
    rw [Answers.mem_iff unique processed mem same,
      Answers.mem_iff otherUnique otherProcessed isOther same, sameRun, alike]
  constructor
  · intro workflow same
    simp only [batchResult, mem_map]
    constructor
    all_goals
      rintro ⟨outcome, isOutcome, rfl⟩
      exact ⟨outcome, by simpa [mem_iff same] using isOutcome, rfl⟩
  · intro content same
    have ofContent {outcome : ClusterOutcome} {stages : VocabularyBatchStages Request Bundle Anchor
        Practice Verdict} {cluster_ : NormalizedVocabularyCluster}
        (settled : Settled sha256 cluster_ batch.runId stages outcome)
        (isContent : outcome.content = some content) :
        outcome.workflow.clusterId = cluster.clusterId := by
      have kept := settled.content
      rw [isContent, Option.map_some] at kept
      split at kept
      · rw [settled.clusterId, ← same, Option.some.inj kept]
      · cases kept
    simp only [batchResult, mem_filterMap]
    constructor
    · rintro ⟨outcome, isOutcome, isContent⟩
      obtain ⟨_, settled⟩ := exists_settled processed isOutcome
      exact ⟨outcome, (mem_iff (ofContent settled isContent)).mp isOutcome, isContent⟩
    · rintro ⟨outcome, isOutcome, isContent⟩
      obtain ⟨_, settled⟩ := exists_settled otherProcessed isOutcome
      rw [sameRun] at settled
      exact ⟨outcome, (mem_iff (ofContent settled isContent)).mpr isOutcome, isContent⟩

theorem terminates (batch : VocabularyBatch Request Bundle Anchor Practice Verdict) :
    batch.Terminates sha256 :=
  TaskGroup.terminates batch.config.bounds.1

theorem AccountsForEveryCluster.fits (unique : Keyed.Unique (·.clusterId) batch.report.readyClusters)
    (accounts : batch.AccountsForEveryCluster sha256) (mem : cluster ∈ batch.report.readyClusters) :
    WorkflowFits batch.runId cluster := by
  obtain ⟨outcomes, ends⟩ := (terminates batch).exists_answer
  obtain ⟨result, isResult, _⟩ := accounts.2 _ ⟨outcomes, ends, rfl⟩
  have answers : batch.Answers sha256 (.ok result) := ⟨_, ends, isResult.symm⟩
  obtain ⟨outcomes, _, processed⟩ := answers.outcomes unique
  obtain ⟨index, inReady, rfl⟩ := mem_iff_getElem.mp mem
  have isOk := (forall₂_iff_get.mp processed).2 index inReady (processed.length_eq ▸ inReady)
  rcases processCluster_cases sha256 batch.report.readyClusters[index] batch.runId
    (batch.stages batch.report.readyClusters[index].clusterId) with ⟨fits, _⟩ | ⟨_, isError⟩
  · exact fits
  · cases isOk.symm.trans isError

/-- A batch of clusters with distinct ids accounts for every cluster exactly
if the run's id leaves room for theirs. -/
theorem accountsForEveryCluster_iff (sha256 : String → { digest : String // digest.length = 64 })
    (batch : VocabularyBatch Request Bundle Anchor Practice Verdict)
    (unique : Keyed.Unique (·.clusterId) batch.report.readyClusters) :
    batch.AccountsForEveryCluster sha256 ↔
      ∀ cluster ∈ batch.report.readyClusters, WorkflowFits batch.runId cluster := by
  refine ⟨fun accounts cluster => accounts.fits unique, fun fits => ⟨terminates batch, ?_⟩⟩
  intro answer answers
  cases answer with
  | ok result =>
    obtain ⟨outcomes, rfl, processed⟩ := answers.outcomes unique
    exact ⟨_, rfl, accountsFor_of_processed processed, independent_of_processed unique processed⟩
  | error exception =>
    obtain ⟨outcomes, ends, isError⟩ := answers
    cases outcomes with
    | ok outcomes => cases isError
    | error raised =>
      obtain ⟨task, mem, isError⟩ := ends.error
      rw [workers, clustersById, unique.foldl_put_nil] at mem
      obtain ⟨cluster, isReady, rfl⟩ := mem_map.mp mem
      rcases processCluster_cases sha256 cluster batch.runId (batch.stages cluster.clusterId) with
        ⟨_, outcome, isOk, _⟩ | ⟨unfit, _⟩
      · cases isOk.symm.trans isError
      · exact absurd (fits cluster isReady) unfit

end VocabularyBatch

end Cluster

def passingStages : VocabularyBatchStages Unit Unit Unit Unit Unit where
  gatherEvidence _ _ _ := .ok ()
  ground _ _ := .ok ()
  synthesize _ _ _ := .ok ()
  makePractice _ _ := .ok ()
  evaluate _ _ := .ok ()
  readiness _ := .ok "passed"
  verdict _ := .ok "passed"
  dumpAnchor _ := .ok .null
  dumpPractice _ := .ok .null

theorem confidence_isFloatText : isFloatText "0.94" = true := by decide

theorem normalization_length : 1 ≤ "normalization-1".length ∧ "normalization-1".length ≤ 120 := by
  decide

def borrowLend (clusterId : String) (length : 1 ≤ clusterId.length ∧ clusterId.length ≤ 120) :
    NormalizedVocabularyCluster where
  clusterId := clusterId
  terms := ["borrow", "lend"]
  rawInputSpan := "borrow / lend"
  titleHint := none
  notes := []
  confidence := ⟨"0.94", confidence_isFloatText⟩
  clusterId_length := length
  terms_length := by decide
  rawInputSpan_length := by decide
  titleHint_length := nofun

/-- A batch of one cluster, for which every stage returns. -/
def oneCluster (cluster : NormalizedVocabularyCluster) :
    VocabularyBatch Unit Unit Unit Unit Unit where
  runId := "run-1"
  report := ⟨"normalization-1", [cluster], [], [], [], normalization_length⟩
  config := ⟨2, by decide⟩
  stages _ := passingStages
  pauses _ := 4

def zeroDigest (_ : String) : { digest : String // digest.length = 64 } :=
  ⟨String.ofList (List.replicate 64 '0'), by rw [String.length_ofList, List.length_replicate]⟩

theorem unique_oneCluster (cluster : NormalizedVocabularyCluster) :
    Keyed.Unique (·.clusterId) (oneCluster cluster).report.readyClusters :=
  pairwise_singleton _ _

theorem accountsForEveryCluster_oneCluster :
    (oneCluster (borrowLend "cluster-1" (by decide))).AccountsForEveryCluster zeroDigest := by
  refine (VocabularyBatch.accountsForEveryCluster_iff zeroDigest _ (unique_oneCluster _)).mpr
    fun cluster mem => ?_
  cases mem_singleton.mp mem
  decide

def longId : String :=
  String.ofList (List.replicate 120 'c')

theorem longId_length : longId.length = 120 :=
  String.length_ofList.trans length_replicate

/-- A cluster with the longest id is not accounted for. -/
theorem longest_id_not_accounted :
    ¬ (oneCluster (borrowLend longId (by rw [longId_length]; decide))).AccountsForEveryCluster
      zeroDigest := by
  intro accounts
  have fits := accounts.fits (unique_oneCluster _) mem_cons_self
  have short : ("vocab-" ++ "run-1" ++ "-" ++ longId).length ≤ 120 := fits.2
  rw [String.length_append, longId_length] at short
  exact absurd short (by decide)

end OhMyClass.TeachingPack.Vocabulary
