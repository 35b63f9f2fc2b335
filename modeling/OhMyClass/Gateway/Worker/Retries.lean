import OhMyClass.Gateway.Runs.Cancellation
import OhMyClass.Gateway.Worker.Core

/-!
# Attempts on a run in a terminal status

No part of an attempt moves a run out of a terminal status.  A completion that
opens the content gate or exports has to, so it raises.
-/

namespace OhMyClass.Gateway

open OhMyClass.Transition TeachingPackRunStore Session

section

variable {runId : RunId} {status : RunStatus}

theorem keeps_writeEvent_return (payload : TeachingPackEventCreate) :
    Session.Keeps (HasStatus runId status) (do
      let _ ← writeEvent payload
      return ⟨⟩ : DbSession Unit) :=
  keeps_bind (keepsRuns_writeEvent payload).hasStatus fun _ => keeps_pure _

theorem keeps_afterError {α : Type} (error : GatewayError) {statements : DbSession α}
    (keeps : Session.Keeps (HasStatus runId status) statements) :
    Session.Keeps (HasStatus runId status) (afterError error statements) := by
  unfold afterError
  split
  · exact keeps_raise _
  · exact keeps

end

section Terminal

variable {runId : RunId} {status : RunStatus} (terminal : status.IsTerminal)

include terminal

theorem keeps_transition_event (transition : TeachingPackStatusTransition)
    (payload : TeachingPackEventCreate) :
    Session.Keeps (HasStatus runId status) (do
      transitionStatus transition
      let _ ← writeEvent payload
      return ⟨⟩ : DbSession Unit) :=
  keeps_bind (keeps_transitionStatus terminal transition) fun _ =>
    keeps_writeEvent_return payload

/-! ## Completions -/

namespace TeachingPackCompletionRecorder

variable (recorder : TeachingPackCompletionRecorder) (attempted : RunId) (state : GraphState)

omit terminal in
theorem keeps_persistContentUpdate :
    Session.Keeps (HasStatus runId status) (recorder.persistContentUpdate attempted state) := by
  unfold persistContentUpdate
  split
  · exact keeps_pure _
  · exact keeps_writeEvent_return _

omit terminal in
theorem keeps_persistGateSnapshot (snapshot : JsonObject) :
    Session.Keeps (HasStatus runId status) (recorder.persistGateSnapshot attempted snapshot) :=
  keeps_bind (keeps_call _) fun _ =>
    keeps_bind (keeps_call _) fun _ =>
      keeps_bind (keeps_call _) fun _ =>
        keeps_bind (keepsRuns_createSnapshot _ _).hasStatus fun _ => keeps_pure _

omit terminal in
theorem keeps_gateRows (gatePayload : JsonObject) :
    Session.Keeps (HasStatus runId status)
      (forEach (renderedSnapshots gatePayload)
        (recorder.persistGateSnapshot attempted)) :=
  keeps_forEach fun snapshot _ => recorder.keeps_persistGateSnapshot attempted snapshot

theorem keeps_persistContentGate (gatePayload : JsonObject) :
    Session.Keeps (HasStatus runId status) (recorder.persistContentGate attempted gatePayload) :=
  keeps_bind (recorder.keeps_gateRows attempted gatePayload) fun _ =>
    keeps_bind (keepsRuns_openGate _).hasStatus fun _ =>
      keeps_transition_event terminal _ _

omit terminal in
theorem keeps_persistExportRecords (exportedFiles : List String) :
    Session.Keeps (HasStatus runId status)
      (recorder.persistExportRecords attempted state exportedFiles) := by
  unfold persistExportRecords
  split
  · exact keeps_forEach fun record _ =>
      keeps_bind (keepsRuns_createExportRecord record).hasStatus fun _ =>
        keeps_pure _
  · exact keeps_pure _

omit terminal in
theorem keeps_persistAutoApproval :
    Session.Keeps (HasStatus runId status) (recorder.persistAutoApproval attempted state) := by
  unfold persistAutoApproval
  split
  · exact keeps_pure _
  · exact keeps_writeEvent_return _

omit terminal in
theorem keeps_notifyCompleted (run : Option Run) :
    Session.Keeps (HasStatus runId status) (recorder.notifyCompleted attempted run) := by
  unfold notifyCompleted
  split
  · exact keeps_call _
  · exact keeps_pure _

omit terminal in
theorem keeps_deliverOutcome (run : Option Run) :
    Session.Keeps (HasStatus runId status) (recorder.deliverOutcome attempted run state) := by
  unfold deliverOutcome
  split
  · split
    · exact keeps_pure _
    · exact keeps_raise _
    · exact keeps_writeEvent_return _
  · exact keeps_pure _

theorem keeps_persistExport :
    Session.Keeps (HasStatus runId status) (recorder.persistExport attempted state) := by
  refine keeps_bind (keeps_read _) fun run => ?_
  split
  · exact keeps_pure _
  · exact keeps_bind (keeps_call _) fun _ =>
      keeps_bind (keeps_call _) fun exportedFiles =>
        keeps_bind (recorder.keeps_persistExportRecords attempted state exportedFiles)
          fun _ => keeps_bind (keeps_transitionStatus terminal _) fun _ =>
            keeps_bind (keeps_transitionStatus terminal _) fun _ =>
              keeps_bind (recorder.keeps_persistAutoApproval attempted state) fun _ =>
                keeps_bind (keepsRuns_writeEvent _).hasStatus fun _ =>
                  keeps_bind (recorder.keeps_notifyCompleted attempted run) fun _ =>
                    recorder.keeps_deliverOutcome attempted state run

theorem keeps_persistCompletion :
    Session.Keeps (HasStatus runId status) (recorder.persistCompletion attempted state) := by
  refine keeps_bind (recorder.keeps_persistContentUpdate attempted state) fun _ => ?_
  split
  · exact recorder.keeps_persistContentGate terminal attempted _
  · split
    · exact keeps_transition_event terminal _ _
    · split
      · exact recorder.keeps_persistExport terminal attempted state
      · exact keeps_transition_event terminal _ _

theorem raises_persistContentGate (gatePayload : JsonObject) :
    Session.Raises (HasStatus runId status) (recorder.persistContentGate runId gatePayload) := by
  have different : status ≠ .awaitingApproval := terminal.ne (by decide)
  exact raises_bind (recorder.keeps_gateRows runId gatePayload) fun _ =>
    raises_bind (keepsRuns_openGate _).hasStatus fun _ =>
      raises_bind_of_first (raises_transitionStatus terminal different) _

theorem raises_persistExport (unfinished : status ≠ .completed) :
    Session.Raises (HasStatus runId status) (recorder.persistExport runId state) := by
  have different : status ≠ .exporting := terminal.ne (by decide)
  intro db hasStatus
  obtain ⟨run, found, isStatus⟩ := hasStatus.findRun
  have notCompleted : ((db.findRun runId).any fun run => run.status == .completed) = false := by
    rw [found, Option.any_some, isStatus]
    exact beq_eq_false_iff_ne.mpr unfinished
  unfold persistExport
  simp only [getRunById, read_bind, notCompleted, Bool.false_eq_true, if_false]
  exact raises_bind (keeps_call _) (fun _ =>
    raises_bind (keeps_call _) fun exportedFiles =>
      raises_bind (recorder.keeps_persistExportRecords runId state exportedFiles)
        fun _ => raises_bind_of_first (raises_transitionStatus terminal different) _)
    db hasStatus

theorem raises_persistCompletion (unfinished : status ≠ .completed) (succeeds : state.Succeeds) :
    Session.Raises (HasStatus runId status) (recorder.persistCompletion runId state) := by
  refine raises_bind (recorder.keeps_persistContentUpdate runId state) fun _ => ?_
  split
  · exact recorder.raises_persistContentGate terminal _
  · next noGate =>
    rcases succeeds with isGate | ⟨noRoute, evidence⟩
    · rw [noGate] at isGate
      cases isGate
    · rw [noRoute]
      simp only [evidence, if_true]
      exact recorder.raises_persistExport terminal state unfinished

end TeachingPackCompletionRecorder

omit terminal in
theorem TeachingPackFailureRecorder.keeps_notifyFailed (recorder : TeachingPackFailureRecorder)
    (attempted : RunId) (run : Option Run) (errorSummary : String) :
    Session.Keeps (HasStatus runId status) (recorder.notifyFailed attempted run errorSummary) := by
  unfold notifyFailed
  split
  · exact keeps_call _
  · exact keeps_pure _

theorem TeachingPackFailureRecorder.keeps_persistFailure (recorder : TeachingPackFailureRecorder)
    (attempted : RunId) (errorSummary : String) :
    Session.Keeps (HasStatus runId status) (recorder.persistFailure attempted errorSummary) :=
  keeps_bind (keeps_read _) fun run =>
    keeps_bind (keeps_transitionStatus terminal _) fun _ =>
      keeps_bind (keepsRuns_writeEvent _).hasStatus fun _ =>
        recorder.keeps_notifyFailed attempted run errorSummary

namespace TeachingPackExecutor

variable (executor : TeachingPackExecutor) (attempted : RunId)

theorem keeps_runGraph (input : GraphInput) :
    Session.Keeps (HasStatus runId status) (executor.runGraph attempted input) := by
  refine keeps_bind (keeps_call _) fun state => ?_
  unfold persistCompletion
  split
  · exact keeps_pure _
  · next sink _ => exact sink.keeps_persistCompletion terminal attempted state

theorem keeps_failAndRaise (raised recorded : GatewayError) :
    Session.Keeps (HasStatus runId status)
      (executor.failAndRaise attempted raised recorded) := by
  refine keeps_bind ?_ fun _ => keeps_raise _
  unfold persistFailure
  split
  · exact keeps_pure _
  · next sink _ => exact keeps_afterError _ (sink.keeps_persistFailure terminal attempted _)

theorem keeps_runStartJob (job : TeachingPackStartJob) :
    Session.Keeps (HasStatus runId status) (executor.runStartJob job) :=
  keeps_handle (executor.keeps_runGraph terminal job.runId _) fun error =>
    executor.keeps_failAndRaise terminal job.runId error error

theorem keeps_runResumeJob (job : TeachingPackResumeJob) :
    Session.Keeps (HasStatus runId status) (executor.runResumeJob job) := by
  apply keeps_handle (executor.keeps_runGraph terminal job.runId _)
  intro error
  split
  · exact executor.keeps_failAndRaise terminal job.runId _ checkpointLost
  · exact executor.keeps_failAndRaise terminal job.runId error error

end TeachingPackExecutor

namespace TeachingPackWorker

variable (worker : TeachingPackWorker) (job : RunJobRead)

theorem keeps_execute : Session.Keeps (HasStatus runId status) (worker.execute job) := by
  unfold execute
  split
  · exact worker.executor.keeps_runStartJob terminal _
  · exact worker.executor.keeps_runResumeJob terminal _

theorem keeps_surfaceDeadLetterToTeacher (errorSummary classification : String) :
    Session.Keeps (HasStatus runId status)
      (surfaceDeadLetterToTeacher job errorSummary classification) := by
  refine keeps_bind (keeps_read _) fun run => ?_
  split
  · exact keeps_pure _
  · refine keeps_bind ?_ fun _ => keeps_writeEvent_return _
    apply keeps_handle (keeps_transitionStatus terminal _)
    intro error
    split
    · exact keeps_pure _
    · exact keeps_raise _

theorem keeps_handleJobError (exception : JobException) :
    Session.Keeps (HasStatus runId status) (worker.handleJobError job exception) := by
  refine keeps_bind (keeps_read _) fun now => ?_
  refine keeps_bind (keepsRuns_onJobs _).hasStatus fun marked => ?_
  split
  · exact keeps_pure _
  · split
    · exact keeps_surfaceDeadLetterToTeacher terminal job _ _
    · exact keeps_pure _

theorem keeps_settleClaimed (outcome : Except GatewayError Unit) :
    Session.Keeps (HasStatus runId status) (worker.settleClaimed job outcome) := by
  unfold settleClaimed
  split
  · exact keeps_bind (keeps_read _) fun _ =>
      keeps_bind (keepsRuns_onJobs _).hasStatus fun _ => keeps_pure _
  · exact keeps_afterError _ (worker.keeps_handleJobError terminal job _)

omit terminal in
theorem keeps_persistObservabilityEvents (drained : List ObservabilityEvent) :
    Session.Keeps (HasStatus runId status) (persistObservabilityEvents drained) :=
  keeps_forEach fun event _ =>
    keeps_bind
      (keepsRuns_writeRow (rowOf_writeObservabilityEvent event _)).hasStatus
      fun _ => keeps_pure _

theorem keeps_runClaimed (drained : List ObservabilityEvent) :
    Session.Keeps (HasStatus runId status) (worker.runClaimed job drained) :=
  keeps_bind (keeps_attempt (worker.keeps_execute terminal job)) fun outcome =>
    keeps_bind (worker.keeps_settleClaimed terminal job outcome) fun _ =>
      keeps_persistObservabilityEvents drained

end TeachingPackWorker

end Terminal

/-! ## Retries of transient failures -/

/-- A requested change of the control plane, or an attempt of a worker on a
job it has claimed. -/
inductive WorkerOp where
  | control (op : CancellationOp)
  | runClaimed (worker : TeachingPackWorker) (job : RunJobRead)
      (drained : List ObservabilityEvent)

inductive WorkerReply where
  | control (reply : CancellationReply)
  | attempted (outcome : Except GatewayError Unit)

def WorkerOp.step (db : Db) : WorkerOp → Db × WorkerReply
  | control op => ((op.step db).1, .control (op.step db).2)
  | runClaimed worker job drained =>
    let outcome := Session.atomically (worker.runClaimed job drained) db
    (outcome.2, .attempted outcome.1)

def workerMachine : Machine Db WorkerOp WorkerReply where
  initial _ := True
  step := WorkerOp.step

/-- The status of the run allows what a successful attempt writes: the content
gate, or an export and its completion. -/
def PermitsCompletion (runId : RunId) (db : Db) : Prop :=
  ∃ run, db.findRun runId = some run ∧
    (validateStatusTransition run.status .awaitingApproval =
        .accepted run.status .awaitingApproval ∨
      validateStatusTransition run.status .exporting = .accepted run.status .exporting ∧
        validateStatusTransition .exporting .completed = .accepted .exporting .completed)

instance (runId : RunId) (db : Db) : Decidable (PermitsCompletion runId db) :=
  decidable_of_iff (∃ run ∈ db.findRun runId,
    (validateStatusTransition run.status .awaitingApproval =
        .accepted run.status .awaitingApproval ∨
      validateStatusTransition run.status .exporting = .accepted run.status .exporting ∧
        validateStatusTransition .exporting .completed = .accepted .exporting .completed))
    Iff.rfl

/-! ## Stopped runs -/

/-- The run has failed or was cancelled. -/
def Stopped (runId : RunId) (db : Db) : Prop :=
  HasStatus runId .failed db ∨ HasStatus runId .cancelled db

theorem keeps_stopped {α : Type} {body : DbSession α} {runId : RunId}
    (keeps : ∀ status : RunStatus, status.IsTerminal → Session.Keeps (HasStatus runId status) body) :
    Session.Keeps (Stopped runId) body :=
  keeps_or (keeps _ (.inr (.inl rfl))) (keeps _ (.inr (.inr rfl)))

theorem keepsRuns_cancelActiveGates (runId : RunId) :
    KeepsRuns (TeachingPackControlStore.cancelActiveGates runId) :=
  fun _ _ same => same

theorem keeps_cancelTeachingPackRun {runId : RunId} {status : RunStatus}
    (terminal : status.IsTerminal) (cancelled : RunId) (actorId : String)
    (access : Except GatewayError Unit) :
    Session.Keeps (HasStatus runId status) (cancelTeachingPackRun cancelled actorId access) :=
  keeps_bind (keeps_call _) fun _ =>
    keeps_bind (keepsRuns_onJobs _).hasStatus fun _ =>
      keeps_bind (keepsRuns_cancelActiveGates _).hasStatus fun _ =>
        keeps_bind
          (keeps_handle (keeps_transitionStatus terminal _) fun _ => keeps_raise _)
          fun _ => keeps_bind (keepsRuns_writeEvent _).hasStatus fun _ =>
            keeps_pure _

theorem keeps_cancelRun (runId cancelled : RunId) :
    Session.Keeps (Stopped runId) (cancelRun cancelled) := by
  intro db stopped
  unfold cancelRun
  split
  · exact stopped
  · split
    · exact stopped
    · by_cases isThis : cancelled = runId
      · obtain ⟨status, hasStatus⟩ : ∃ status, HasStatus runId status db :=
          stopped.elim (⟨_, ·⟩) (⟨_, ·⟩)
        have written := hasStatus.changeRun cancelled .cancelled
        rw [if_pos isThis] at written
        exact .inr written
      · apply stopped.imp
        all_goals
          intro hasStatus
          have written := hasStatus.changeRun cancelled .cancelled
          rw [if_neg isThis] at written
          exact written

theorem keepsRuns_changeNewestGate (runId : RunId) (condition : GateInterrupt → Bool)
    (status : GateInterruptStatus) (action : SafeRecoveryAction) (missing changed : String) :
    KeepsRuns (changeNewestGate runId condition status action missing changed) := by
  rintro runs db rfl
  unfold changeNewestGate
  split
  · rfl
  · split <;> rfl

theorem KeepsRuns.stopped {α : Type} {body : DbSession α} (keepsRuns : KeepsRuns body)
    {runId : RunId} : Session.Keeps (Stopped runId) body :=
  keeps_stopped fun _ _ => keepsRuns.hasStatus

theorem keeps_executeRecovery (runId : RunId) (request : AdminRecoveryRequest)
    (notification : AdminRecoveryResult) :
    Session.Keeps (Stopped runId) (executeRecovery request notification) := by
  refine keeps_bind ?_ fun _ =>
    keeps_bind (keepsRuns_writeEvent _).stopped fun _ => keeps_pure _
  unfold recoveryAction
  split
  · exact (keepsRuns_onJobs _).stopped
  · exact (keepsRuns_onJobs _).stopped
  · exact keeps_call _
  · exact keeps_cancelRun runId request.runId
  · exact (keepsRuns_changeNewestGate _ _ _ _ _ _).stopped
  · exact (keepsRuns_changeNewestGate _ _ _ _ _ _).stopped

theorem stopped_step {runId : RunId} {db : Db} (stopped : Stopped runId db) (op : WorkerOp) :
    Stopped runId (op.step db).1 := by
  cases op with
  | runClaimed worker job drained =>
    exact keeps_atomically
      (keeps_stopped fun _ terminal => worker.keeps_runClaimed terminal job drained) db stopped
  | control op =>
    cases op with
    | queue => exact stopped
    | cancelTeachingPackRun cancelled actorId access =>
      have kept := keeps_atomically (keeps_stopped fun _ terminal =>
        keeps_cancelTeachingPackRun terminal cancelled actorId access) db stopped
      rw [WorkerOp.step, CancellationOp.step, CancellationOp.answer_fst]
      exact kept
    | recover request notification =>
      have kept := keeps_atomically
        (keeps_executeRecovery runId request notification) db stopped
      rw [WorkerOp.step, CancellationOp.step, CancellationOp.answer_fst]
      exact kept

theorem stopped_drive {runId : RunId} (here : Db × History WorkerOp WorkerReply)
    (ops : List WorkerOp) (stopped : Stopped runId here.1) :
    Stopped runId (workerMachine.drive here ops).1 :=
  Machine.Admits.invariant (Stopped runId) (fun _ _ op stopped _ => stopped_step stopped op)
    Machine.admits_all stopped

theorem Stopped.not_permitsCompletion {runId : RunId} {db : Db} (stopped : Stopped runId db) :
    ¬ PermitsCompletion runId db := by
  rintro ⟨run, found, permitted⟩
  have isStopped : run.status = .failed ∨ run.status = .cancelled := by
    apply stopped.imp
    all_goals
      intro hasStatus
      obtain ⟨stored, storedEq, isStatus⟩ := hasStatus.findRun
      rw [found, Option.some.injEq] at storedEq
      rw [storedEq, isStatus]
  rcases isStopped with isStatus | isStatus <;> rw [isStatus] at permitted <;>
    revert permitted <;> decide

theorem Stopped.persistCompletion_raises {runId : RunId} {db : Db} (stopped : Stopped runId db)
    (recorder : TeachingPackCompletionRecorder) {state : GraphState} (succeeds : state.Succeeds) :
    ∃ error after, recorder.persistCompletion runId state db = (.error error, after) := by
  rcases stopped with isFailed | isCancelled
  · exact recorder.raises_persistCompletion (.inr (.inl rfl)) state (by decide) succeeds db isFailed
  · exact recorder.raises_persistCompletion (.inr (.inr rfl)) state (by decide) succeeds db
      isCancelled

/-- The failure sink has failed the run, unless the database or the status
machine stopped it. -/
theorem TeachingPackFailureRecorder.persistFailure_failed {recorder : TeachingPackFailureRecorder}
    {runId : RunId} {errorSummary : String} {db after : Db} {result : Except GatewayError Unit}
    (recorded : recorder.persistFailure runId errorSummary db = (result, after))
    (notRefused : ∀ error, result = .error error → ∃ exception, error = .execution exception) :
    HasStatus runId .failed after := by
  unfold persistFailure getRunById at recorded
  rw [read_bind] at recorded
  rcases bind_cases recorded with ⟨_, between, ret, rest⟩ | ⟨error, raised, isError⟩
  · have failed : HasStatus runId .failed between := transitionStatus_hasStatus ret
    exact Session.Keeps.holds_after (keeps_bind (keepsRuns_writeEvent _).hasStatus
      fun _ => recorder.keeps_notifyFailed runId (db.findRun runId) errorSummary) rest failed
  · obtain ⟨exception, rfl⟩ := notRefused error isError
    exact absurd raised transitionStatus_error

namespace TeachingPackExecutor

variable {executor : TeachingPackExecutor} {sink : TeachingPackFailureRecorder}
  (wired : executor.failureSink = some sink)

include wired

theorem failAndRaise_failed {runId : RunId} {raised recorded : GatewayError} {db after : Db}
    {exception : JobException}
    (reraised : executor.failAndRaise runId raised recorded db =
      (.error (.execution exception), after)) :
    HasStatus runId .failed after := by
  have sinkFailed {result : Except GatewayError Unit} {between : Db}
      (persisted : executor.persistFailure runId raised recorded db = (result, between))
      (notRefused : ∀ error, result = .error error → ∃ exception, error = .execution exception) :
      HasStatus runId .failed between := by
    unfold persistFailure at persisted
    simp only [wired, afterError] at persisted
    split at persisted
    · cases persisted
      obtain ⟨_, isExecution⟩ := notRefused _ rfl
      cases isExecution
    · exact sink.persistFailure_failed persisted notRefused
  rcases bind_cases reraised with ⟨_, between, persisted, rest⟩ | ⟨error, persisted, isError⟩
  · cases rest
    exact sinkFailed persisted fun _ isError => by cases isError
  · cases isError
    exact sinkFailed persisted fun _ isError => by
      cases isError
      exact ⟨exception, rfl⟩

theorem runStartJob_failed {job : TeachingPackStartJob} {db after : Db} {exception : JobException}
    (raised : executor.runStartJob job db = (.error (.execution exception), after)) :
    HasStatus job.runId .failed after := by
  unfold runStartJob handle at raised
  split at raised
  · cases raised
  · exact failAndRaise_failed wired raised

theorem runResumeJob_failed {job : TeachingPackResumeJob} {db after : Db}
    {exception : JobException}
    (raised : executor.runResumeJob job db = (.error (.execution exception), after)) :
    HasStatus job.runId .failed after := by
  unfold runResumeJob handle at raised
  split at raised
  · cases raised
  · next error between _ =>
    dsimp only at raised
    split at raised
    · exact failAndRaise_failed wired raised
    · exact failAndRaise_failed wired raised

end TeachingPackExecutor

theorem TeachingPackWorker.execute_failed {worker : TeachingPackWorker}
    {sink : TeachingPackFailureRecorder} (wired : worker.executor.failureSink = some sink)
    {job : RunJobRead} {db after : Db} {exception : JobException}
    (raised : worker.execute job db = (.error (.execution exception), after)) :
    HasStatus job.runId .failed after := by
  unfold execute at raised
  cases kind : job.kind with
  | start =>
    simp only [kind] at raised
    exact TeachingPackExecutor.runStartJob_failed wired raised
  | resume =>
    simp only [kind] at raised
    exact TeachingPackExecutor.runResumeJob_failed wired raised

/-- An execution raises a transient error below the ceiling and its job is
requeued: the run has failed, and after any further steps no attempt on it that
reaches the content gate or an export can record its completion. -/
theorem transient_failure_never_retriable {worker : TeachingPackWorker}
    {sink : TeachingPackFailureRecorder} (wired : worker.executor.failureSink = some sink)
    {job : RunJobRead} {db failed requeued : Db} {text : String} {retryAfterSeconds : Int}
    (raised : worker.execute job db =
      (.error (.execution (.transientProviderError text retryAfterSeconds)), failed))
    (below : (job.attempts : Int) < worker.maxTransientAttempts)
    (handled : worker.handleJobError job (taskGroupException worker.executor.texts
      (.execution (.transientProviderError text retryAfterSeconds))) failed = (.ok ⟨⟩, requeued)) :
    (∃ marked, TeachingPackJobStore.requeueWithBackoff job.jobId
        (failed.now + seconds retryAfterSeconds) failed.now failed.jobs =
          .ok (marked, requeued.jobs)) ∧
      HasStatus job.runId .failed requeued ∧
      ∀ ops : List WorkerOp,
        ¬ PermitsCompletion job.runId (workerMachine.drive (requeued, []) ops).1 ∧
        ∀ (recorder : TeachingPackCompletionRecorder) (state : GraphState), state.Succeeds →
          ∃ error after, recorder.persistCompletion job.runId state
            (workerMachine.drive (requeued, []) ops).1 = (.error error, after) := by
  have hasFailed : HasStatus job.runId .failed requeued :=
    (worker.keeps_handleJobError (.inr (.inl rfl)) job _).holds_after handled
      (worker.execute_failed wired raised)
  have decision : errorDecision job.attempts worker.maxTransientAttempts
      (taskGroupException worker.executor.texts
        (.execution (.transientProviderError text retryAfterSeconds))) =
          .requeue retryAfterSeconds :=
    if_pos below
  refine ⟨?_, hasFailed, fun ops => ?_⟩
  · unfold TeachingPackWorker.handleJobError at handled
    rw [read_bind, decision] at handled
    obtain ⟨marked, between, settled, rest⟩ := Session.bind_eq_ok.mp handled
    cases rest
    have requeueEq := onJobs_eq_ok settled
    rw [handleJobError, decision] at requeueEq
    exact ⟨marked, requeueEq⟩
  · have stopped := stopped_drive (requeued, []) ops (.inl hasFailed)
    exact ⟨stopped.not_permitsCompletion, fun recorder _ succeeds =>
      stopped.persistCompletion_raises recorder succeeds⟩

/-! ## A job that succeeds at its second attempt -/

/-- A job claimed for the first time, as the worker holds it. -/
def claimedRead : RunJobRead where
  jobId := "job-1"
  runId := "run-1"
  kind := .start
  status := .running
  idempotencyKey := "key-1"
  payload := []
  attempts := 1

def claimedDb : Db :=
  { Db.empty 0 with
    runs := .single ⟨"run-1", "teacher-1", .pending, 0, none, none, none, none⟩
    jobs := .single ⟨"job-1", "run-1", .start, .running, "key-1", [], 1, none, some "worker-a",
      some (seconds 60), 0, none, none, none⟩ }

/-- A recorder without external collaborators. -/
def sampleRecorder : TeachingPackCompletionRecorder where
  builtin := ⟨fun _ => "", fun _ => none, fun _ => none⟩
  tools := ⟨id, fun _ => false⟩
  freshId := toString
  render := fun _ => .ok ""
  writeExports := fun _ _ => .ok []
  notifications := none
  outcomeDelivery := none
  hasExportStore := true
  readProjection := none

/-- The worker of an attempt whose graph ends in the given way. -/
def sampleWorker (ending : Except GatewayError GraphState) : TeachingPackWorker where
  builtin := sampleRecorder.builtin
  executor :=
    { texts := ⟨fun _ => "", fun _ => "", id⟩
      ainvoke := fun _ _ => ending
      failureSink := some ⟨none⟩
      completionSink := some sampleRecorder }

/-- The provider refuses the first attempt for a minute. -/
def providerDown : GatewayError :=
  .execution (.transientProviderError "429" 60)

/-- The second attempt reaches the content gate. -/
def gateState : GraphState where
  members := []
  interrupts := [.interrupt (.obj [("gate", .str "content_approval")])]

/-- The database after the failed attempt. -/
def failedDb : Db :=
  ((sampleWorker (.error providerDown)).execute claimedRead claimedDb).2

def requeuedDb : Db :=
  ((sampleWorker (.error providerDown)).handleJobError claimedRead
    (taskGroupException (sampleWorker (.error providerDown)).executor.texts providerDown)
    failedDb).2

/-- A minute later the job is promoted and claimed again. -/
def reclaimOps : List WorkerOp :=
  [.control (.queue (.tick 60000000)), .control (.queue (.promoteEligible 5 [])),
    .control (.queue (.claimNext "worker-b" 60 []))]

def reclaimedDb : Db :=
  (workerMachine.drive (requeuedDb, []) reclaimOps).1

theorem execute_claimedDb :
    (sampleWorker (.error providerDown)).execute claimedRead claimedDb =
      (.error providerDown, failedDb) :=
  rfl

theorem handleJobError_failedDb :
    (sampleWorker (.error providerDown)).handleJobError claimedRead
      (taskGroupException (sampleWorker (.error providerDown)).executor.texts providerDown)
      failedDb = (.ok ⟨⟩, requeuedDb) :=
  rfl

/-- The second attempt of the job reaches the content gate, and its completion
is refused. -/
theorem second_attempt_refused :
    (sampleWorker (.error providerDown)).execute claimedRead claimedDb =
        (.error providerDown, failedDb) ∧
      (claimedRead.attempts : Int) < 3 ∧
      (sampleWorker (.error providerDown)).handleJobError claimedRead
        (taskGroupException (sampleWorker (.error providerDown)).executor.texts providerDown)
        failedDb = (.ok ⟨⟩, requeuedDb) ∧
      (∃ job ∈ reclaimedDb.jobs.rows, job.status = .running ∧ job.attempts = 2) ∧
      gateState.Succeeds ∧
      ¬ PermitsCompletion "run-1" requeuedDb ∧
      (sampleRecorder.persistCompletion "run-1" gateState reclaimedDb).1 =
        .error (.invalidRunStatusTransition "transition_not_allowed") :=
  ⟨execute_claimedDb, by decide, handleJobError_failedDb, by decide +kernel, .inl rfl,
    by decide +kernel, rfl⟩

theorem second_attempt_never_completes :
    ∃ error after, sampleRecorder.persistCompletion "run-1" gateState reclaimedDb =
      (.error error, after) := by
  have wired : (sampleWorker (.error providerDown)).executor.failureSink = some ⟨none⟩ := rfl
  obtain ⟨-, -, later⟩ := transient_failure_never_retriable wired execute_claimedDb (by decide)
    handleJobError_failedDb
  exact (later reclaimOps).2 sampleRecorder gateState (.inl rfl)

end OhMyClass.Gateway
