import OhMyClass.Gateway.Runs.Store

/-!
# Cancelling and recovering runs

The teacher's cancel endpoint and the administrator's recovery actions.  Each
is one request: it commits when it returns and is rolled back when it raises.
-/

namespace OhMyClass.Gateway

open OhMyClass.Transition Table TeachingPackRunStore

namespace TeachingPackControlStore

def listActiveGates (runId : RunId) (db : Db) : List GateInterrupt :=
  (db.gates.rows.filter fun gate => gate.runId = runId ∧ gate.status = .active).insertionSort
    fun first second => first.createdAt ≤ second.createdAt

/-- A status that is not active only removes entries from the index over active
gates. -/
theorem conflict_of_deactivate {selected : GateInterrupt → Bool} {status : GateInterruptStatus}
    (inactive : status ≠ .active) (first second : GateInterrupt)
    (clash : GateInterrupt.Conflict
      (changeSelected selected (fun gate => { gate with status := status }) first)
      (changeSelected selected (fun gate => { gate with status := status }) second)) :
    GateInterrupt.Conflict first second := by
  have unchanged (gate : GateInterrupt) (isActive : (changeSelected selected
      (fun gate => { gate with status := status }) gate).status = .active) :
      changeSelected selected (fun gate => { gate with status := status }) gate = gate := by
    unfold changeSelected at isActive ⊢
    split
    · next isSelected =>
      rw [if_pos isSelected] at isActive
      exact absurd isActive inactive
    · rfl
  have gateIdEq (gate : GateInterrupt) : (changeSelected selected
      (fun gate => { gate with status := status }) gate).gateId = gate.gateId :=
    changeSelected_frame GateInterrupt.gateId rfl
  rcases clash with sameId | ⟨firstActive, secondActive, sameRun, sameName⟩
  · exact .inl ((gateIdEq first).symm.trans (sameId.trans (gateIdEq second)))
  · have firstEq := unchanged first firstActive
    have secondEq := unchanged second secondActive
    rw [firstEq] at firstActive sameRun sameName
    rw [secondEq] at secondActive sameRun sameName
    exact .inr ⟨firstActive, secondActive, sameRun, sameName⟩

def cancelGate (gate : GateInterrupt) : GateInterrupt :=
  { gate with status := .cancelled }

theorem conflict_of_cancelGate {selected : GateInterrupt → Bool} (first second : GateInterrupt)
    (clash : GateInterrupt.Conflict (changeSelected selected cancelGate first)
      (changeSelected selected cancelGate second)) :
    GateInterrupt.Conflict first second :=
  conflict_of_deactivate (by decide) first second clash

def cancelActiveGates (runId : RunId) : DbSession Nat := fun db =>
  (.ok (listActiveGates runId db).length,
    { db with
      gates := db.gates.update (fun gate => gate.runId == runId && gate.status == .active)
        cancelGate conflict_of_cancelGate })

end TeachingPackControlStore

structure TeachingPackCancelResponse where
  runId : RunId
  status : RunStatus
  cancelledJobs : Nat

/-- The 409 the endpoint answers a rejected transition with. -/
def cancelNotAllowed : GatewayError → GatewayError
  | .invalidRunStatusTransition _ => .httpException 409 "cancel_not_allowed"
  | error => error

/-- `access` is the outcome of the ownership check on the run. -/
def cancelTeachingPackRun (runId : RunId) (actorId : String) (access : Except GatewayError Unit) :
    DbSession TeachingPackCancelResponse := do
  Session.call access
  let cancelledJobs ← onJobs fun jobs => .ok (TeachingPackJobStore.cancelRunJobs runId jobs)
  let cancelledGates ← TeachingPackControlStore.cancelActiveGates runId
  Session.handle
    (TeachingPackRunStore.transitionStatus ⟨runId, .cancelled, none, some "teacher_cancelled"⟩)
    fun error => Session.raise (cancelNotAllowed error)
  let _ ← TeachingPackRunStore.writeEvent
    { runId := runId
      eventName := "teaching_pack.run.cancelled"
      visibility := .teacher
      payload := some [("actor_id", .str actorId), ("reason", .str "teacher_cancelled"),
        ("cancelled_jobs", .int cancelledJobs), ("cancelled_gates", .int cancelledGates)] }
  return ⟨runId, .cancelled, cancelledJobs⟩

/-! ## The administrator's recovery actions -/

def SafeRecoveryAction.value : SafeRecoveryAction → String
  | retryStuckJob => "retry_stuck_job"
  | retryFailedArtifact => "retry_failed_artifact"
  | retryNotification => "retry_notification"
  | cancelRun => "cancel_run"
  | reopenGate => "reopen_gate"
  | markEscalated => "mark_escalated"

structure AdminRecoveryRequest where
  runId : RunId
  action : SafeRecoveryAction
  reason : String
  adminId : String

/-- `_cancel_run`: neither the jobs nor the gates of the run are touched. -/
def cancelRun (runId : RunId) : DbSession AdminRecoveryResult := fun db =>
  match db.findRun runId with
  | none => (.ok ⟨false, "Run " ++ runId ++ " not found", .cancelRun⟩, db)
  | some run =>
    if run.status = .completed ∨ run.status = .cancelled then
      (.ok ⟨false, "Run is already " ++ run.status.value, .cancelRun⟩, db)
    else
      (.ok ⟨true, "Run " ++ runId ++ " cancelled", .cancelRun⟩,
        db.changeRun runId (TeachingPackRunStore.setStatus .cancelled) fun _ => rfl)

/-- The newest gate of the run that satisfies a condition gets a status; the
body the two gate actions share. -/
def changeNewestGate (runId : RunId) (condition : GateInterrupt → Bool)
    (status : GateInterruptStatus) (action : SafeRecoveryAction) (missing changed : String) :
    DbSession AdminRecoveryResult := fun db =>
  match (db.gates.rows.filter fun gate => gate.runId == runId && condition gate).argmax
      GateInterrupt.createdAt with
  | none => (.ok ⟨false, missing, action⟩, db)
  | some gate =>
    match db.gates.tryUpdate (fun row => row.gateId == gate.gateId)
        fun row => { row with status := status } with
    | none => (.error (.store .integrityError), db)
    | some gates =>
      (.ok ⟨true, "Gate " ++ gate.gateId ++ changed, action⟩, { db with gates := gates })

def reopenGate (runId : RunId) : DbSession AdminRecoveryResult :=
  changeNewestGate runId (fun gate => gate.status == .responded || gate.status == .expired) .active
    .reopenGate "No responded/expired gate found for this run" " reopened to active"

def markEscalated (runId : RunId) : DbSession AdminRecoveryResult :=
  changeNewestGate runId (fun gate => gate.status == .active) .expired
    .markEscalated "No active gate found for this run" " marked as escalated"

def emitAuditEvent (request : AdminRecoveryRequest) (result : AdminRecoveryResult) :
    DbSession TeachingPackEventRead :=
  TeachingPackRunStore.writeEvent
    { runId := request.runId
      eventName := "admin.recovery." ++ request.action.value
      visibility := .admin
      payload := some [("admin_id", .str request.adminId), ("reason", .str request.reason),
        ("success", .bool result.success), ("message", .str result.message),
        ("action", .str request.action.value)] }

/-- The action `execute_recovery` dispatches to.  `RETRY_NOTIFICATION` works on
the notification tables, so its result is given. -/
def recoveryAction (request : AdminRecoveryRequest) (notification : AdminRecoveryResult) :
    DbSession AdminRecoveryResult :=
  match request.action with
  | .retryStuckJob => onJobs fun jobs => .ok (retryStuckJob request.runId jobs)
  | .retryFailedArtifact => onJobs fun jobs => .ok (retryFailedArtifact request.runId jobs)
  | .retryNotification => Session.call (.ok notification)
  | .cancelRun => cancelRun request.runId
  | .reopenGate => reopenGate request.runId
  | .markEscalated => markEscalated request.runId

/-- Every action, successful or not, leaves an audit event. -/
def executeRecovery (request : AdminRecoveryRequest) (notification : AdminRecoveryResult) :
    DbSession AdminRecoveryResult := do
  let result ← recoveryAction request notification
  let _ ← emitAuditEvent request result
  return result

/-- Two databases that agree on runs, jobs, gates and the clock. -/
structure SameControl (first second : Db) : Prop where
  runs : first.runs = second.runs
  jobs : first.jobs = second.jobs
  gates : first.gates = second.gates
  now : first.now = second.now

theorem SameControl.trans {first second third : Db} (left : SameControl first second)
    (right : SameControl second third) : SameControl first third :=
  ⟨left.runs.trans right.runs, left.jobs.trans right.jobs, left.gates.trans right.gates,
    left.now.trans right.now⟩

theorem sameControl_writeEvent {payload : TeachingPackEventCreate} {db after : Db}
    {result : Except GatewayError TeachingPackEventRead}
    (written : TeachingPackRunStore.writeEvent payload db = (result, after)) :
    SameControl after db := by
  obtain ⟨_, events, outbox, outcome, _⟩ :=
    writeRow_outcome db (rowOf_writeEvent payload)
  cases written.symm.trans outcome
  exact ⟨rfl, rfl, rfl, rfl⟩

theorem transitionStatus_eq_ok {payload : TeachingPackStatusTransition} {db after : Db}
    {answer : PUnit}
    (ret : transitionStatus payload db = (.ok answer, after)) :
    SameControl after
      (db.changeRun payload.runId (setStatus payload.status) fun _ => rfl) := by
  have outcome := transitionStatus_outcome payload db
  rw [ret] at outcome
  cases outcome with
  | written => exact ⟨rfl, rfl, rfl, rfl⟩

theorem executeRecovery_eq_ok {db after : Db} {request : AdminRecoveryRequest}
    {notification result : AdminRecoveryResult}
    (ret : executeRecovery request notification db = (.ok result, after)) :
    ∃ between, recoveryAction request notification db = (.ok result, between) ∧
      SameControl after between := by
  rcases Session.bind_eq_ok.mp ret with ⟨performed, between, actionEq, ret⟩
  rcases Session.bind_eq_ok.mp ret with ⟨event, written, eventEq, ret⟩
  cases ret
  exact ⟨between, actionEq, sameControl_writeEvent eventEq⟩

end OhMyClass.Gateway
