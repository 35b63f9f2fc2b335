import OhMyClass.Gateway.Completion.Replay
import OhMyClass.Gateway.Runs.Control

/-!
# The worker and its executor

How a claimed job is executed and settled, and the runs it leaves alone.
-/

namespace OhMyClass.Gateway

/-!
## The executor of claimed jobs

A job runs the graph and records its completion.  Whatever either raises is
first recorded as a failure of the run and then raised again.
-/

section

open OhMyClass.Transition TeachingPackRunStore

/-- `type(exc).__name__`, `str(exc)`, and the redaction of secrets. -/
structure ExceptionTexts where
  typeName : GatewayError → String
  str : GatewayError → String
  redact : String → String

/-- At most 200 characters of the redacted exception. -/
def safeErrorSummary (texts : ExceptionTexts) (error : GatewayError) : String :=
  sliceTo (texts.redact (texts.typeName error ++ ": " ++ texts.str error)) 200

structure TeachingPackStartJob where
  runId : RunId
  initialState : JsonObject

structure TeachingPackResumeJob where
  runId : RunId
  gateResponseId : String
  resumePayload : JsonObject

/-- The input of `graph.ainvoke`. -/
inductive GraphInput where
  | start (initialState : JsonObject)
  | resume (resumePayload : JsonObject)

structure TeachingPackFailureRecorder where
  notifications : Option TeachingPackNotificationSink

namespace TeachingPackFailureRecorder

variable (recorder : TeachingPackFailureRecorder)

def notifyFailed (runId : RunId) (run : Option Run) (errorSummary : String) : DbSession Unit :=
  match recorder.notifications, run with
  | some sink, some run => Session.call (sink.notifyFailed runId run.teacherId errorSummary)
  | _, _ => return ⟨⟩

def persistFailure (runId : RunId) (errorSummary : String) : DbSession Unit := do
  let run ← getRunById runId
  transitionStatus ⟨runId, .failed, none, some errorSummary⟩
  let _ ← writeEvent
    { runId := runId
      eventName := "teaching_pack.run.failed"
      visibility := .teacher
      payload := some [("error", .str errorSummary)] }
  recorder.notifyFailed runId run errorSummary

end TeachingPackFailureRecorder

/-- `ainvoke` is the graph on the thread of a run: its final state, or what it
raises. -/
structure TeachingPackExecutor where
  texts : ExceptionTexts
  ainvoke : GraphInput → RunId → Except GatewayError GraphState
  failureSink : Option TeachingPackFailureRecorder
  completionSink : Option TeachingPackCompletionRecorder

namespace TeachingPackExecutor

variable (executor : TeachingPackExecutor)

def persistCompletion (runId : RunId) (state : GraphState) : DbSession Unit :=
  match executor.completionSink with
  | none => return ⟨⟩
  | some sink => sink.persistCompletion runId state

/-- The failure recorded for an exception, on the session it was raised in. -/
def persistFailure (runId : RunId) (raised recorded : GatewayError) : DbSession Unit :=
  match executor.failureSink with
  | none => return ⟨⟩
  | some sink =>
    afterError raised (sink.persistFailure runId (safeErrorSummary executor.texts recorded))

/-- The `try` body of both kinds of jobs. -/
def runGraph (runId : RunId) (input : GraphInput) : DbSession Unit := do
  let state ← Session.call (executor.ainvoke input runId)
  executor.persistCompletion runId state

def failAndRaise (runId : RunId) (raised recorded : GatewayError) : DbSession Unit := do
  executor.persistFailure runId raised recorded
  Session.raise raised

def runStartJob (job : TeachingPackStartJob) : DbSession Unit :=
  Session.handle (executor.runGraph job.runId (.start job.initialState)) fun error =>
    executor.failAndRaise job.runId error error

/-- The failure recorded for a thread whose checkpoint is gone. -/
def checkpointLost : GatewayError :=
  .emptyInputError
    "LangGraph checkpoint lost (process restart). Re-start the run to regenerate."

def runResumeJob (job : TeachingPackResumeJob) : DbSession Unit :=
  Session.handle (executor.runGraph job.runId (.resume job.resumePayload)) fun error =>
    match error with
    | .emptyInputError _ => executor.failAndRaise job.runId error checkpointLost
    | _ => executor.failAndRaise job.runId error error

end TeachingPackExecutor

end

/-!
## The worker

A worker executes a job it has claimed and settles it: completed when the
execution returns, requeued or dead-lettered when it raises.  All of it is one
transaction, committed when the worker is done with the job.
-/

section

open OhMyClass.Transition TeachingPackRunStore

structure TeachingPackWorker where
  builtin : BuiltinConversions
  executor : TeachingPackExecutor
  maxTransientAttempts : Int := 3

/-- `left or right`. -/
def firstTruthy (left : Option Json) (right : Json) : Json :=
  match left with
  | none => right
  | some value => if truthy value then value else right

def initialState (job : RunJobRead) : JsonObject :=
  match job.payload.get? "initial_state" with
  | some (.obj state) => state
  | _ =>
    match job.payload.get? "contract" with
    | some (.obj contract) =>
      [("run_id", .str job.runId), ("contract", .obj contract),
        ("raw_request", firstTruthy (job.payload.get? "raw_request")
          ((JsonObject.get? contract "topic").getD (.str "")))]
    | _ => [("run_id", .str job.runId)]

def resumePayload (job : RunJobRead) : JsonObject :=
  match job.payload.get? "resume_payload" with
  | some (.obj payload) => payload
  | _ => [("response_id", (job.payload.get? "response_id").getD (.str ""))]

/-- The exception as the retry policy sees it. -/
def GatewayError.jobException (texts : ExceptionTexts) : GatewayError → JobException
  | .execution exception => exception
  | error => .other (texts.str error)

/-- The task group around an execution wraps what it raises. -/
def taskGroupException (texts : ExceptionTexts) (error : GatewayError) : JobException :=
  .exceptionGroup "unhandled errors in a TaskGroup (1 sub-exception)" [error.jobException texts]

def observabilityVisibility (event : ObservabilityEvent) : TeachingPackEventVisibility :=
  if ["stage_transition", "gate_decision", "healing_decision", "escalate",
      "breaker_tripped"].contains event.eventType then
    .teacher
  else
    .internal

/-- `_persist_observability_events` for the drained events. -/
def persistObservabilityEvents (events : List ObservabilityEvent) : DbSession Unit :=
  Session.forEach events fun event => do
    let _ ← writeObservabilityEvent event (observabilityVisibility event)
    return ⟨⟩

namespace TeachingPackWorker

variable (worker : TeachingPackWorker)

/-! ## Executing and settling a job -/

def execute (job : RunJobRead) : DbSession Unit :=
  match job.kind with
  | .start => worker.executor.runStartJob ⟨job.runId, initialState job⟩
  | .resume =>
    worker.executor.runResumeJob
      ⟨job.runId, textOr worker.builtin job.payload "response_id" "", resumePayload job⟩

/-- A run that reached another terminal status keeps it. -/
def failQuietly (runId : RunId) (classification : String) : DbSession Unit :=
  Session.handle
    (transitionStatus ⟨runId, .failed, none, some ("dead_letter:" ++ classification)⟩)
    fun error =>
      match error with
      | .invalidRunStatusTransition _ => return ⟨⟩
      | _ => Session.raise error

def surfaceDeadLetterToTeacher (job : RunJobRead) (errorSummary classification : String) :
    DbSession Unit := do
  let run ← getRunById job.runId
  if run.isNone then return ⟨⟩
  else
    failQuietly job.runId classification
    let _ ← writeEvent
      { runId := job.runId
        eventName := "teaching_pack.run.dead_letter"
        visibility := .teacher
        payload := some [("message", .str "failed - needs attention"),
          ("job_id", .str job.jobId), ("classification", .str classification),
          ("error_summary", .str errorSummary)] }
    return ⟨⟩

def handleJobError (job : RunJobRead) (exception : JobException) : DbSession Unit := do
  let now ← Session.read Db.now
  let marked ← onJobs (Gateway.handleJobError job exception worker.maxTransientAttempts now)
  match errorDecision job.attempts worker.maxTransientAttempts exception with
  | .requeue _ => return ⟨⟩
  | .deadLetter errorSummary classification =>
    if marked then surfaceDeadLetterToTeacher job errorSummary classification else return ⟨⟩

def settleClaimed (job : RunJobRead) (outcome : Except GatewayError Unit) : DbSession Unit :=
  match outcome with
  | .ok _ => do
    let now ← Session.read Db.now
    let _ ← onJobs (TeachingPackJobStore.markCompleted job.jobId now)
    return ⟨⟩
  | .error error =>
    afterError error
      (worker.handleJobError job (taskGroupException worker.executor.texts error))

/-- `drained` are the agents' events collected during the execution. -/
def runClaimed (job : RunJobRead) (drained : List ObservabilityEvent) : DbSession Unit := do
  let outcome ← Session.attempt (worker.execute job)
  worker.settleClaimed job outcome
  persistObservabilityEvents drained

end TeachingPackWorker

end

/-!
## Terminal statuses under the executor and the worker

A run in a terminal status keeps it through every request that changes the
status by a validated transition, and a completion that has to leave that
status raises.
-/

section

open OhMyClass.Transition TeachingPackRunStore

/-- The run exists and has the status. -/
def HasStatus (runId : RunId) (status : RunStatus) (db : Db) : Prop :=
  ∃ run ∈ db.runs.rows, run.runId = runId ∧ run.status = status

variable {runId : RunId} {status : RunStatus} {db : Db}

theorem HasStatus.findRun (hasStatus : HasStatus runId status db) :
    ∃ run, db.findRun runId = some run ∧ run.status = status := by
  rcases hasStatus with ⟨run, mem, isRun, isStatus⟩
  obtain ⟨found, foundEq⟩ := Option.isSome_iff_exists.mp
    (Db.findRun_isSome_iff.mpr ⟨run, mem, isRun⟩)
  rcases Db.hasRun_of_findRun foundEq with ⟨foundMem, foundRun⟩
  obtain rfl := db.runs.eq_of_conflict (fun _ _ => Eq.symm) mem foundMem
    (isRun.trans foundRun.symm)
  exact ⟨run, foundEq, isStatus⟩

theorem HasStatus.changeRun (hasStatus : HasStatus runId status db) (changed : RunId)
    (written : RunStatus) :
    HasStatus runId (if changed = runId then written else status)
      (db.changeRun changed (setStatus written) fun _ => rfl) := by
  rcases hasStatus with ⟨run, mem, rfl, rfl⟩
  refine ⟨_, List.mem_map_of_mem mem, ?_⟩
  unfold Table.changeSelected
  by_cases isChanged : changed = run.runId
  · rw [if_pos (beq_iff_eq.mpr isChanged.symm), if_pos isChanged]
    exact ⟨rfl, rfl⟩
  · rw [if_neg fun same => isChanged (beq_iff_eq.mp same).symm, if_neg isChanged]
    exact ⟨rfl, rfl⟩

/-- The computation writes no run. -/
def KeepsRuns {α : Type} (body : DbSession α) : Prop :=
  ∀ runs, Session.Keeps (fun db => db.runs = runs) body

theorem KeepsRuns.hasStatus {α : Type} {body : DbSession α} (keepsRuns : KeepsRuns body) :
    Session.Keeps (HasStatus runId status) body := by
  rintro db ⟨run, mem, isRun⟩
  have same := keepsRuns db.runs db rfl
  exact ⟨run, by rw [same]; exact mem, isRun⟩

theorem keepsRuns_writeRow {row : Nat → DateTime → RunEvent} (rowOf : RowOf runId row) :
    KeepsRuns (writeRow runId row) := by
  rintro runs db rfl
  rcases writeRow_outcome db rowOf with ⟨_, events, outbox, outcome, _⟩
  rw [outcome]

theorem keepsRuns_writeEvent (payload : TeachingPackEventCreate) : KeepsRuns (writeEvent payload) :=
  keepsRuns_writeRow (rowOf_writeEvent payload)

theorem keepsRuns_openGate (payload : TeachingPackGateCreate) : KeepsRuns (openGate payload) := by
  rintro runs db rfl
  unfold openGate
  split
  · split <;> rfl
  · rfl

theorem keepsRuns_onJobs {α : Type}
    (operation : RunJobs → Except StoreError (α × RunJobs)) : KeepsRuns (onJobs operation) := by
  rintro runs db rfl
  unfold onJobs
  split <;> rfl

theorem keepsRuns_createSnapshot (tools : SnapshotTools) (payload : ArtifactSnapshotCreate) :
    KeepsRuns (TeachingPackSnapshotStore.createSnapshot tools payload) := by
  rintro runs db rfl
  obtain ⟨_, snapshots, outcome⟩ :=
    TeachingPackSnapshotStore.createSnapshot_outcome_snapshots tools payload db
  rw [outcome]

theorem keepsRuns_createExportRecord (payload : ExportRecordCreate) :
    KeepsRuns (TeachingPackExportStore.createExportRecord payload) := by
  intro runs
  have inserts (row : ExportRecord) :
      Session.Keeps (fun db => db.runs = runs) (TeachingPackExportStore.insertExport row) := by
    rintro db rfl
    unfold TeachingPackExportStore.insertExport
    split
    · rfl
    · split
      · split <;> rfl
      · rfl
  refine Session.keeps_bind (Session.keeps_read _) fun now => ?_
  refine Session.keeps_bind (inserts _) fun _ => ?_
  refine Session.keeps_bind (Session.keeps_read _) fun stored => ?_
  cases stored with
  | none => exact Session.keeps_raise _
  | some record => exact Session.keeps_pure _

/-! ## Validated transitions -/

theorem transitionStatus_hasStatus {payload : TeachingPackStatusTransition} {after : Db}
    {answer : PUnit} (ret : transitionStatus payload db = (.ok answer, after)) :
    HasStatus payload.runId payload.status after := by
  have outcome := transitionStatus_outcome payload db
  rw [ret] at outcome
  cases outcome with
  | written found =>
    rcases Db.hasRun_of_findRun found with ⟨stored, isRun⟩
    have before : HasStatus payload.runId _ db := ⟨_, stored, isRun, rfl⟩
    have written := before.changeRun payload.runId payload.status
    rw [if_pos rfl] at written
    exact written

theorem transitionStatus_error {payload : TeachingPackStatusTransition} {after : Db}
    {exception : JobException} :
    transitionStatus payload db ≠ (.error (.execution exception), after) := by
  intro raised
  have outcome := transitionStatus_outcome payload db
  rw [raised] at outcome
  cases outcome with
  | written _ _ refused => cases refused _ rfl

section Terminal

variable {runId : RunId} {status : RunStatus} (terminal : status.IsTerminal)

include terminal

theorem keeps_transitionStatus (payload : TeachingPackStatusTransition) :
    Session.Keeps (HasStatus runId status) (transitionStatus payload) := by
  intro db hasStatus
  have outcome := transitionStatus_outcome payload db
  generalize transitionStatus payload db = answer at outcome ⊢
  cases outcome with
  | missing => exact hasStatus
  | rejected => exact hasStatus
  | @written run _ _ _ _ _ _ found accepted =>
    have changed := hasStatus.changeRun payload.runId payload.status
    by_cases isThis : payload.runId = runId
    · rcases hasStatus.findRun with ⟨stored, storedEq, isStatus⟩
      rw [isThis, storedEq, Option.some.injEq] at found
      subst found isStatus
      have stays : payload.status = stored.status := by
        by_contra different
        rw [validateStatusTransition_of_terminal terminal (Ne.symm different)] at accepted
        cases accepted
      rw [if_pos isThis, stays] at changed
      rw [stays]
      exact changed
    · rw [if_neg isThis] at changed
      exact changed

theorem transitionStatus_of_terminal {payload : TeachingPackStatusTransition}
    (isThis : payload.runId = runId) (different : status ≠ payload.status) {db : Db}
    (hasStatus : HasStatus runId status db) :
    transitionStatus payload db =
      (.error (.invalidRunStatusTransition "transition_not_allowed"), db) := by
  rcases hasStatus.findRun with ⟨run, found, rfl⟩
  have required : requireRun payload.runId db = (.ok run, db) := by
    rw [requireRun, isThis, found]
  rw [transitionStatus, Session.bind_apply_ok _ required]
  simp only [validateStatusTransition_of_terminal terminal different]
  rfl

theorem raises_transitionStatus {target : RunStatus} {stage reason : Option String}
    (different : status ≠ target) :
    Session.Raises (HasStatus runId status) (transitionStatus ⟨runId, target, stage, reason⟩) :=
  fun db hasStatus => ⟨_, db, transitionStatus_of_terminal terminal rfl different hasStatus⟩

end Terminal

end

end OhMyClass.Gateway
