import OhMyClass.Gateway.Jobs.Steps
import OhMyClass.Gateway.Runs.Control

/-!
# Cancelled runs stay at rest

A cancelled run is at rest when none of its jobs is live and none of its gates
is active: then `claim_next` cannot return a job of it.  The teacher's cancel
brings a run to rest.  The administrator's cancel only writes the status, and
two recovery paths bring a job of a cancelled run back to life.
-/

namespace OhMyClass.Gateway

open List OhMyClass.Transition TeachingPackRunStore

inductive CancellationOp where
  | cancelTeachingPackRun (runId : RunId) (actorId : String) (access : Except GatewayError Unit)
  | recover (request : AdminRecoveryRequest) (notification : AdminRecoveryResult)
  | queue (op : JobOp)

inductive CancellationReply where
  | cancelled (response : TeachingPackCancelResponse)
  | recovered (result : AdminRecoveryResult)
  | queue (reply : JobReply)
  | raised (error : GatewayError)

namespace CancellationOp

/-- The answer of a request and the database its transaction leaves. -/
def answer {α : Type} (reply : α → CancellationReply) :
    Except GatewayError α × Db → Db × CancellationReply
  | (.ok value, after) => (after, reply value)
  | (.error error, after) => (after, .raised error)

theorem answer_fst {α : Type} (reply : α → CancellationReply)
    (outcome : Except GatewayError α × Db) : (answer reply outcome).1 = outcome.2 := by
  rcases outcome with ⟨value | value, after⟩ <;> rfl

def step (db : Db) : CancellationOp → Db × CancellationReply
  | cancelTeachingPackRun runId actorId access =>
    answer .cancelled
      (Session.atomically (Gateway.cancelTeachingPackRun runId actorId access) db)
  | recover request notification =>
    answer .recovered (Session.atomically (executeRecovery request notification) db)
  | queue op =>
    ({ db with
        jobs := (Queue.step ⟨db.jobs, db.now⟩ op).1.jobs
        now := (Queue.step ⟨db.jobs, db.now⟩ op).1.now },
      .queue (Queue.step ⟨db.jobs, db.now⟩ op).2)

end CancellationOp

/-- No job of the run is live and none of its gates is active. -/
structure AtRest (db : Db) (runId : RunId) : Prop where
  jobs : ∀ job ∈ db.jobs.rows, job.runId = runId → ¬ job.status.IsLive
  gates : ∀ gate ∈ db.gates.rows, gate.runId = runId → gate.status ≠ .active

def CancelledRunsRest (db : Db) : Prop :=
  ∀ run ∈ db.runs.rows, run.status = .cancelled → AtRest db run.runId

/-- No run is cancelled at first. -/
def cancellationMachine : Machine Db CancellationOp CancellationReply where
  initial db := ∀ run ∈ db.runs.rows, run.status ≠ .cancelled
  step := CancellationOp.step

/-- Cancellation, the administrator's cancel and job resets, and the queue's
operations other than an enqueue. -/
def CancellationOps : CancellationOp → Prop
  | .cancelTeachingPackRun .. => True
  | .recover request _ =>
    request.action = .cancelRun ∨ request.action = .retryStuckJob ∨
      request.action = .retryFailedArtifact
  | .queue (.enqueue _) => False
  | .queue (.retryStuckJob _) | .queue (.retryFailedArtifact _) => False
  | .queue _ => True

/-- The administrator cancels only runs at rest, and neither a replay nor a
reset revives a job of a cancelled run. -/
def RespectsCancellation (db : Db) : CancellationOp → Prop
  | .recover request _ =>
    (request.action = .cancelRun → ∀ run ∈ db.runs.rows, run.runId = request.runId →
      run.status ≠ .completed → run.status ≠ .cancelled → AtRest db run.runId) ∧
    (request.action = .retryFailedArtifact → ∀ run ∈ db.runs.rows, run.runId = request.runId →
      run.status = .cancelled → ∀ job ∈ db.jobs.rows, job.runId = run.runId →
        job.status ≠ .failed)
  | .queue (.replayDeadLetter jobId) =>
    ∀ job ∈ db.jobs.rows, job.jobId = jobId → job.status = .deadLetter →
      ∀ run ∈ db.runs.rows, run.runId = job.runId → run.status ≠ .cancelled
  | _ => True

def CancellationGuard : Guard Db CancellationOp CancellationReply := fun db _ op =>
  CancellationOps op ∧ RespectsCancellation db op

/-! ## What each request does to a run at rest -/

theorem SameControl.cancelledRunsRest {first second : Db} (same : SameControl first second)
    (rest : CancelledRunsRest second) : CancelledRunsRest first := by
  intro run mem isCancelled
  rw [same.runs] at mem
  have atRest := rest run mem isCancelled
  exact ⟨by rw [same.jobs]; exact atRest.jobs, by rw [same.gates]; exact atRest.gates⟩

variable {db : Db} {runId : RunId}

theorem AtRest.queue (op : JobOp) (atRest : AtRest db runId)
    (noEnqueue : ∀ payload, op ≠ .enqueue payload)
    (noReplay : ∀ job ∈ db.jobs.rows, job.runId = runId → op = .replayDeadLetter job.jobId →
      job.status ≠ .deadLetter)
    (noReset : ∀ job ∈ db.jobs.rows, job.runId = runId → op = .retryFailedArtifact job.runId →
      job.status ≠ .failed) :
    AtRest { db with jobs := (Queue.step ⟨db.jobs, db.now⟩ op).1.jobs } runId := by
  constructor
  · intro job mem sameRun live
    rcases step_rows mem with ⟨before, stored, rowStep⟩ | ⟨payload, read, isEnqueue, _⟩
    · have beforeRun : before.runId = runId := rowStep.runId_eq.symm.trans sameRun
      rcases rowStep.live_before live with wasLive | ⟨isReplay, isDead⟩ | ⟨isReset, isFailed⟩
      · exact atRest.jobs before stored beforeRun wasLive
      · exact noReplay before stored beforeRun isReplay isDead
      · exact noReset before stored beforeRun isReset isFailed
    · exact noEnqueue payload isEnqueue
  · exact atRest.gates

theorem status_of_mem_changeRun {status : RunStatus} {run : Run} (mem : run ∈
      (db.changeRun runId (setStatus status) fun _ => rfl).runs.rows) :
    ∃ before ∈ db.runs.rows, before.runId = run.runId ∧
      (run.runId ≠ runId → run.status = before.status) := by
  rcases Table.mem_map_changeSelected.mp mem with ⟨before, stored, isSelected, rfl⟩ | ⟨stored, _⟩
  · exact ⟨before, stored, rfl, fun apart => absurd (beq_iff_eq.mp isSelected) apart⟩
  · exact ⟨run, stored, rfl, fun _ => rfl⟩

theorem CancelledRunsRest.changeRun (rest : CancelledRunsRest db)
    (atRest : db.HasRun runId → AtRest db runId) :
    CancelledRunsRest
      (db.changeRun runId (setStatus .cancelled) fun _ => rfl) := by
  intro run mem isCancelled
  rcases status_of_mem_changeRun mem with ⟨before, stored, sameId, otherwise⟩
  by_cases isThis : run.runId = runId
  · have settled := atRest ⟨before, stored, sameId.trans isThis⟩
    rw [isThis]
    exact ⟨settled.jobs, settled.gates⟩
  · have wasCancelled : before.status = .cancelled := (otherwise isThis).symm.trans isCancelled
    have settled := rest before stored wasCancelled
    rw [← sameId]
    exact ⟨settled.jobs, settled.gates⟩

theorem atRest_of_cancelledJobs {gates : GateInterrupts}
    (gatesCancelled : ∀ gate ∈ gates.rows, gate.runId = runId → gate.status ≠ .active) :
    AtRest { db with
      jobs := (TeachingPackJobStore.cancelRunJobs runId db.jobs).2
      gates := gates } runId := by
  constructor
  · intro job mem sameRun live
    rcases Table.mem_map_changeSelected.mp mem with ⟨_, _, _, rfl⟩ | ⟨_, notSelected⟩
    · rcases live with isPending | isQueued | isRunning
      · cases isPending
      · cases isQueued
      · cases isRunning
    · simp only [Bool.and_eq_false_iff, beq_eq_false_iff_ne, decide_eq_false_iff_not] at notSelected
      rcases notSelected with otherRun | notLive
      · exact otherRun sameRun
      · exact notLive live
  · exact gatesCancelled

variable {after : Db}

theorem gates_cancelActiveGates {count : Nat}
    (ret : TeachingPackControlStore.cancelActiveGates runId db = (.ok count, after)) :
    after = { db with gates := after.gates } ∧
      (∀ gate ∈ after.gates.rows, gate.status = .active → gate ∈ db.gates.rows) ∧
      ∀ gate ∈ after.gates.rows, gate.runId = runId → gate.status ≠ .active := by
  cases ret
  apply And.intro rfl
  constructor
  · intro gate mem isActive
    rcases Table.mem_map_changeSelected.mp mem with ⟨_, _, _, rfl⟩ | ⟨stored, _⟩
    · cases isActive
    · exact stored
  · intro gate mem sameRun isActive
    rcases Table.mem_map_changeSelected.mp mem with ⟨_, _, _, rfl⟩ | ⟨_, notSelected⟩
    · cases isActive
    · simp [sameRun, isActive] at notSelected

theorem cancelTeachingPackRun_eq_ok {actorId : String} {access : Except GatewayError Unit}
    {response : TeachingPackCancelResponse}
    (ret : cancelTeachingPackRun runId actorId access db = (.ok response, after)) :
    ∃ gates : GateInterrupts,
      (∀ gate ∈ gates.rows, gate.status = .active → gate ∈ db.gates.rows) ∧
      (∀ gate ∈ gates.rows, gate.runId = runId → gate.status ≠ .active) ∧
      SameControl after
        (Db.changeRun
          { db with
            jobs := (TeachingPackJobStore.cancelRunJobs runId db.jobs).2
            gates := gates }
          runId (setStatus .cancelled) fun _ => rfl) := by
  rcases Session.bind_eq_ok.mp ret with ⟨_, owned, accessEq, ret⟩
  cases accessEq
  rcases Session.bind_eq_ok.mp ret with ⟨cancelledJobs, withJobs, jobsEq, ret⟩
  cases jobsEq
  rcases Session.bind_eq_ok.mp ret with ⟨cancelledGates, withGates, gatesEq, ret⟩
  rcases gates_cancelActiveGates gatesEq with ⟨withGatesEq, gatesKept, gatesCancelled⟩
  rcases Session.bind_eq_ok.mp ret with ⟨_, transitioned, handled, ret⟩
  rcases Session.bind_eq_ok.mp ret with ⟨event, written, eventEq, ret⟩
  cases ret
  have sameEvent := sameControl_writeEvent eventEq
  have sameStatus := transitionStatus_eq_ok (Session.handle_raise_eq_ok.mp handled)
  rw [withGatesEq] at sameStatus
  exact ⟨withGates.gates, gatesKept, gatesCancelled, sameEvent.trans sameStatus⟩

theorem cancelRun_eq_ok {result : AdminRecoveryResult}
    (ret : cancelRun runId db = (.ok result, after)) :
    after = db ∨
      (∃ run ∈ db.runs.rows, run.runId = runId ∧ run.status ≠ .completed ∧
        run.status ≠ .cancelled) ∧
      after = db.changeRun runId (setStatus .cancelled) fun _ => rfl := by
  unfold cancelRun at ret
  split at ret
  · cases ret
    exact .inl rfl
  · next run found =>
    split at ret
    · cases ret
      exact .inl rfl
    · next unfinished =>
      cases ret
      rcases Db.hasRun_of_findRun found with ⟨stored, sameId⟩
      rw [not_or] at unfinished
      exact .inr ⟨⟨run, stored, sameId, unfinished.1, unfinished.2⟩, rfl⟩

theorem runId_cancelled (run : Run) :
    (TeachingPackRunStore.setStatus .cancelled run).runId = run.runId :=
  rfl

/-- The only change an operation makes to the runs is to cancel one. -/
def CancelsAtMostOne (db after : Db) : Prop :=
  after.runs = db.runs ∨ ∃ runId, after.runs =
    (db.changeRun runId (TeachingPackRunStore.setStatus .cancelled) runId_cancelled).runs

/-- There is a cancelled run with this id. -/
def IsCancelled (runId : RunId) (db : Db) : Prop :=
  ∃ run ∈ db.runs.rows, run.runId = runId ∧ run.status = .cancelled

theorem CancelsAtMostOne.isCancelled (atMostOne : CancelsAtMostOne db after)
    (isCancelled : IsCancelled runId db) : IsCancelled runId after := by
  rcases isCancelled with ⟨run, stored, sameId, wasCancelled⟩
  rcases atMostOne with unchanged | ⟨cancelledId, changed⟩
  · exact ⟨run, by rw [unchanged]; exact stored, sameId, wasCancelled⟩
  · have member := mem_map_of_mem (f := Table.changeSelected
      (fun run : Run => run.runId == cancelledId) (setStatus .cancelled)) stored
    refine ⟨_, by rw [changed]; exact member, ?_, ?_⟩
    all_goals
      unfold Table.changeSelected
      split
    · exact sameId
    · exact sameId
    · rfl
    · exact wasCancelled

theorem step_cancelsAtMostOne {op : CancellationOp} (allowed : CancellationOps op) :
    CancelsAtMostOne db (op.step db).1 := by
  cases op with
  | queue => exact .inl rfl
  | cancelTeachingPackRun runId actorId access =>
    rcases Session.atomically_cases (cancelTeachingPackRun runId actorId access) db with
      ⟨response, after, ret, committed⟩ | ⟨error, _, _, rolledBack⟩
    · rcases cancelTeachingPackRun_eq_ok ret with ⟨gates, _, _, same⟩
      simp only [CancellationOp.step, committed]
      exact .inr ⟨runId, same.runs⟩
    · simp only [CancellationOp.step, rolledBack]
      exact .inl rfl
  | recover request notification =>
    rcases Session.atomically_cases (executeRecovery request notification) db with
      ⟨result, after, ret, committed⟩ | ⟨error, _, _, rolledBack⟩
    · rcases executeRecovery_eq_ok ret with ⟨between, performed, same⟩
      simp only [CancellationOp.step, committed]
      unfold recoveryAction at performed
      rcases allowed with isCancel | isStuck | isFailed
      · simp only [isCancel] at performed
        rcases cancelRun_eq_ok performed with unchanged | ⟨_, cancelled⟩
        · exact .inl (by rw [CancellationOp.answer, same.runs, unchanged])
        · exact .inr ⟨request.runId, by rw [CancellationOp.answer, same.runs, cancelled]⟩
      · simp only [isStuck] at performed
        cases performed
        exact .inl same.runs
      · simp only [isFailed] at performed
        cases performed
        exact .inl same.runs
    · simp only [CancellationOp.step, rolledBack]
      exact .inl rfl

/-! ## Every guarded step keeps cancelled runs at rest -/

theorem cancelledRunsRest_cancelTeachingPackRun (rest : CancelledRunsRest db) (runId : RunId)
    (actorId : String) (access : Except GatewayError Unit) :
    CancelledRunsRest
      (CancellationOp.step db (.cancelTeachingPackRun runId actorId access)).1 := by
  rcases Session.atomically_cases (cancelTeachingPackRun runId actorId access) db with
    ⟨response, after, ret, committed⟩ | ⟨error, _, _, rolledBack⟩
  · rcases cancelTeachingPackRun_eq_ok ret with ⟨gates, gatesKept, gatesCancelled, same⟩
    simp only [CancellationOp.step, committed]
    apply same.cancelledRunsRest
    apply CancelledRunsRest.changeRun
    · intro run mem isCancelled
      have before := rest run mem isCancelled
      have released : AtRest { db with
          jobs := (Queue.step ⟨db.jobs, db.now⟩ (.cancelRunJobs runId)).1.jobs } run.runId :=
        before.queue _ (fun _ => nofun) (fun _ _ _ => nofun) (fun _ _ _ => nofun)
      constructor
      · exact released.jobs
      · intro gate stored sameRun isActive
        exact before.gates gate (gatesKept gate stored isActive) sameRun isActive
    · exact fun _ => atRest_of_cancelledJobs gatesCancelled
  · simp only [CancellationOp.step, rolledBack]
    exact rest

theorem cancelledRunsRest_recover (rest : CancelledRunsRest db) {request : AdminRecoveryRequest}
    {notification : AdminRecoveryResult} (allowed : CancellationOps (.recover request notification))
    (respects : RespectsCancellation db (.recover request notification)) :
    CancelledRunsRest (CancellationOp.step db (.recover request notification)).1 := by
  rcases Session.atomically_cases (executeRecovery request notification) db with
    ⟨result, after, ret, committed⟩ | ⟨error, _, _, rolledBack⟩
  · rcases executeRecovery_eq_ok ret with ⟨between, performed, same⟩
    simp only [CancellationOp.step, committed]
    apply same.cancelledRunsRest
    unfold recoveryAction at performed
    rcases allowed with isCancel | isStuck | isFailed
    · simp only [isCancel] at performed
      rcases cancelRun_eq_ok performed with rfl | ⟨⟨run, stored, sameId, unfinished⟩, rfl⟩
      · exact rest
      · apply rest.changeRun
        intro _
        rw [← sameId]
        exact respects.1 isCancel run stored sameId unfinished.1 unfinished.2
    · simp only [isStuck] at performed
      cases performed
      intro run mem isCancelled
      exact (rest run mem isCancelled).queue (.retryStuckJob request.runId)
        (fun _ => nofun) (fun _ _ _ => nofun) (fun _ _ _ => nofun)
    · simp only [isFailed] at performed
      cases performed
      intro run mem isCancelled
      apply (rest run mem isCancelled).queue (.retryFailedArtifact request.runId)
        (fun _ => nofun) (fun _ _ _ => nofun)
      intro job stored sameRun sameRequest
      simp only [JobOp.retryFailedArtifact.injEq] at sameRequest
      exact respects.2 isFailed run mem (sameRun.symm.trans sameRequest.symm) isCancelled job
        stored sameRun
  · simp only [CancellationOp.step, rolledBack]
    exact rest

theorem cancelledRunsRest_queue (rest : CancelledRunsRest db) {op : JobOp}
    (allowed : CancellationOps (.queue op)) (respects : RespectsCancellation db (.queue op)) :
    CancelledRunsRest (CancellationOp.step db (.queue op)).1 := by
  intro run mem isCancelled
  have settled : AtRest { db with
      jobs := (Queue.step ⟨db.jobs, db.now⟩ op).1.jobs } run.runId := by
    apply (rest run mem isCancelled).queue op
    · rintro payload rfl
      exact allowed
    · rintro job stored sameRun rfl isDead
      exact respects job stored rfl isDead run mem sameRun.symm isCancelled
    · rintro job stored sameRun rfl
      exact allowed.elim
  exact ⟨settled.jobs, settled.gates⟩

theorem cancelledRunsRest_step {history : History CancellationOp CancellationReply}
    {op : CancellationOp} (rest : CancelledRunsRest db)
    (allowed : CancellationGuard db history op) : CancelledRunsRest (op.step db).1 := by
  cases op with
  | cancelTeachingPackRun => exact cancelledRunsRest_cancelTeachingPackRun rest _ _ _
  | recover => exact cancelledRunsRest_recover rest allowed.1 allowed.2
  | queue => exact cancelledRunsRest_queue rest allowed.1 allowed.2

theorem claimed_was_live {queue : Queue} {leaseOwner : String} {leaseSeconds : Int}
    {locked : List String} {read : RunJobRead}
    (claimed : (queue.step (.claimNext leaseOwner leaseSeconds locked)).2 = .claimed (some read)) :
    ∃ job ∈ queue.jobs.rows, job.runId = read.runId ∧ job.status.IsLive := by
  simp only [Queue.step, Queue.commit, TeachingPackJobStore.claimNext] at claimed
  split at claimed
  · cases claimed
  · next job oldest =>
    cases claimed
    have selected := mem_filter.mp (argmin_mem oldest)
    have claimable := (of_decide_eq_true selected.2).1
    exact ⟨job, selected.1, rfl, claimable.1.imp_right (Or.imp_left And.left)⟩

/-- Once a run is cancelled, whatever respectful steps follow, `claim_next`
returns no job of the run and none of its gates is active. -/
theorem cancelled_run_never_claimed {db : Db}
    {history : History CancellationOp CancellationReply}
    (run : cancellationMachine.Run CancellationGuard db history) {runId : RunId}
    (isCancelled : IsCancelled runId db) (inputs : List CancellationOp)
    (admitted : cancellationMachine.Admits CancellationGuard (db, history) inputs) :
    let later := (cancellationMachine.drive (db, history) inputs).1
    (∀ leaseOwner leaseSeconds locked read,
      (CancellationOp.step later (.queue (.claimNext leaseOwner leaseSeconds locked))).2 =
        .queue (.claimed (some read)) → read.runId ≠ runId) ∧
    ∀ gate ∈ later.gates.rows, gate.runId = runId → gate.status ≠ .active := by
  intro later
  have restNow : CancelledRunsRest db := by
    apply run.invariant fun state _ => CancelledRunsRest state
    · intro start none run mem isCancelled
      exact absurd isCancelled (none run mem)
    · intro state history op rest allowed
      exact cancelledRunsRest_step rest allowed
  have restLater : CancelledRunsRest later ∧ IsCancelled runId later := by
    apply admitted.invariant fun state => CancelledRunsRest state ∧ IsCancelled runId state
    · intro state history op holds allowed
      exact ⟨cancelledRunsRest_step holds.1 allowed,
        (step_cancelsAtMostOne allowed.1).isCancelled holds.2⟩
    · exact ⟨restNow, isCancelled⟩
  rcases restLater with ⟨rest, cancelled, stored, sameId, hasStatus⟩
  have atRest := rest cancelled stored hasStatus
  rw [sameId] at atRest
  constructor
  · intro leaseOwner leaseSeconds locked read claimed sameRun
    simp only [CancellationOp.step, CancellationReply.queue.injEq] at claimed
    rcases claimed_was_live claimed with ⟨job, jobStored, jobRun, live⟩
    exact atRest.jobs job jobStored (jobRun.trans sameRun) live
  · exact atRest.gates

/-- A run that waits for its approval, with a job and an active gate. -/
def waitingDb : Db :=
  { Db.empty 0 with
    runs := .single ⟨"run-1", "teacher-1", .awaitingApproval, 0, none, none, none, none⟩
    jobs := .single (startJob.row 0)
    gates := .single ⟨"gate-1", "run-1", "content_approval", .active, [], 0⟩ }

theorem waitingDb_initial : cancellationMachine.initial waitingDb := by
  intro run mem isCancelled
  rcases mem_singleton.mp mem with rfl
  cases isCancelled

/-- The teacher cancels; a replay of the job, a promotion and a sweep leave the
run at rest. -/
theorem teacher_cancelled_run_never_claimed :
    let teacherCancel := CancellationOp.cancelTeachingPackRun "run-1" "teacher-1" (.ok ⟨⟩)
    let later := (cancellationMachine.drive (waitingDb, [])
      [teacherCancel, .queue (.replayDeadLetter "job-1"), .queue (.promoteEligible 10 []),
        .queue (.sweepStuckJobs 3)]).1
    (∀ leaseOwner leaseSeconds locked read,
      (CancellationOp.step later (.queue (.claimNext leaseOwner leaseSeconds locked))).2 =
        .queue (.claimed (some read)) → read.runId ≠ "run-1") ∧
    ∀ gate ∈ later.gates.rows, gate.runId = "run-1" → gate.status ≠ .active := by
  intro teacherCancel
  have run : cancellationMachine.Run CancellationGuard _ _ :=
    .next teacherCancel (.start waitingDb_initial) ⟨trivial, trivial⟩
  have isCancelled : IsCancelled "run-1" (cancellationMachine.advance waitingDb [] teacherCancel).1 :=
    ⟨_, mem_singleton.mpr rfl, rfl, rfl⟩
  have noDeadLetter : RespectsCancellation (cancellationMachine.advance waitingDb [] teacherCancel).1
      (.queue (.replayDeadLetter "job-1")) := by
    intro job mem _ isDead
    rcases mem_singleton.mp mem with rfl
    cases isDead
  exact cancelled_run_never_claimed run isCancelled
    [.queue (.replayDeadLetter "job-1"), .queue (.promoteEligible 10 []), .queue (.sweepStuckJobs 3)]
    ⟨⟨trivial, noDeadLetter⟩, ⟨trivial, trivial⟩, ⟨trivial, trivial⟩, trivial⟩

/-- The administrator cancels the same run: its job is claimed and its gate is
still active. -/
theorem admin_cancelled_run_claimed :
    let adminCancel := CancellationOp.recover ⟨"run-1", .cancelRun, "stuck", "admin-1"⟩
      ⟨false, "", .retryNotification⟩
    let later := cancellationMachine.drive (waitingDb, []) [adminCancel]
    cancellationMachine.Run (fun _ _ op => CancellationOps op) later.1 later.2 ∧
      IsCancelled "run-1" later.1 ∧
      (∃ read, (CancellationOp.step later.1 (.queue (.claimNext "worker-a" 60 []))).2 =
        .queue (.claimed (some read)) ∧ read.runId = "run-1") ∧
      ∃ gate ∈ later.1.gates.rows, gate.runId = "run-1" ∧ gate.status = .active := by
  intro adminCancel later
  have run : cancellationMachine.Run (fun _ _ op => CancellationOps op) later.1 later.2 :=
    .next adminCancel (.start waitingDb_initial) (.inl rfl)
  exact ⟨run, ⟨_, mem_singleton.mpr rfl, rfl, rfl⟩, ⟨_, rfl, rfl⟩,
    _, mem_singleton.mpr rfl, rfl, rfl⟩

end OhMyClass.Gateway
