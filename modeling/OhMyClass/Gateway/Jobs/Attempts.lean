import OhMyClass.Gateway.Jobs.Steps

/-!
# The attempts counter and the retry ceiling

`claim_next` and the sweeper both increment `attempts`, and every retry
decision compares that one counter with its ceiling.  The counter is therefore
an upper bound of the executions, and the executions stay below the ceiling as
long as no exhausted running job is claimed or requeued again.
-/

namespace OhMyClass.Gateway

open OhMyClass.Transition

/-- The operations of the store and the sweeper; `acquire_lease` is the one
other writer of the counter. -/
def JobOp.CountsAttempts : JobOp → Prop
  | .acquireLease .. => False
  | _ => True

@[simp] theorem RunJob.attempts_settle (now : DateTime) (settlement : Settlement) (job : RunJob) :
    (job.settle now settlement).attempts = job.attempts := by
  cases settlement <;> rfl

variable {maxAttempts : Int} {job : RunJob}

theorem RunJob.attempts_sweep_of_lt (now : DateTime) (below : (job.attempts : Int) < maxAttempts) :
    (job.sweep maxAttempts now).attempts = job.attempts + 1 := by
  rw [sweep, if_pos below]

theorem RunJob.attempts_sweep_of_le (now : DateTime) (exhausted : maxAttempts ≤ job.attempts) :
    (job.sweep maxAttempts now).attempts = job.attempts := by
  rw [sweep, if_neg (Int.not_lt.mpr exhausted)]
  rfl

variable {op : JobOp} {before after : RunJob}

/-- A claim and a reset add one attempt, a restart clears them, and nothing
else touches them. -/
theorem RowStep.attempts_eq {queue : Queue} {recorded : Mark}
    (rowStep : RowStep queue op recorded before after) (counts : op.CountsAttempts) :
    after.attempts =
      match recorded with
      | .none => before.attempts
      | .claim | .reset => before.attempts + 1
      | .restart => 0 := by
  cases rowStep with
  | kept | claimed | refreshed | replayed | cancelled | promoted => rfl
  | resetStuck | resetFailed | renewed | released => rfl
  | settled | handled => exact RunJob.attempts_settle _ _ _
  | sweptReset _ below => exact RunJob.attempts_sweep_of_lt _ below
  | sweptDead _ exhausted => exact RunJob.attempts_sweep_of_le _ exhausted
  | acquired => exact counts.elim

/-- `attempts` counts the claims and the sweeper's resets together. -/
theorem attempts_eq_claims_add_resets {queue : Queue} {history : JobHistory}
    (run : queueMachine.Run (fun _ _ op => op.CountsAttempts) queue history) {job : RunJob}
    (member : job ∈ queue.jobs.rows) :
    job.attempts = claimsSince job.jobId history + resetsSince job.jobId history := by
  apply rows_invariant (fun history job =>
    job.attempts = claimsSince job.jobId history + resetsSince job.jobId history) _ _ run
      job member
  · intro payload read now history
    have restarted (kind : Mark) : marksSince kind (payload.row now).jobId
        ((.enqueue payload, .enqueued read true) :: history) = 0 := by
      simp only [marksSince, mark, RunJobCreate.row, if_true, Mark.tally]
    simp only [claimsSince, resetsSince, restarted]
    rfl
  · intro queue history op reply recorded before after counts _ counted recordedEq rowStep
    rw [rowStep.jobId_eq, rowStep.attempts_eq counts]
    simp only [claimsSince, resetsSince, marksSince, recordedEq] at counted ⊢
    cases recorded <;> simp only [Mark.tally, reduceCtorEq, if_true, if_false] <;> omega

/-- A job that is claimed, lost by its worker and swept. -/
def sweptInputs : List JobOp :=
  [.enqueue startJob, .claimNext "worker-a" 60 [], .tick 60000001, .sweepStuckJobs 3]

theorem swept_job_attempts_eq :
    (((startJob.row 0).claim "worker-a" 60 0).sweep 3 60000001).attempts =
      claimsSince "job-1" (queueMachine.drive (Queue.empty 0, []) sweptInputs).2 +
        resetsSince "job-1" (queueMachine.drive (Queue.empty 0, []) sweptInputs).2 := by
  have started : queueMachine.Run (fun _ _ op => op.CountsAttempts) (Queue.empty 0) [] :=
    .start rfl
  have run := started.drive sweptInputs
    (Machine.admits_of_forall JobOp.CountsAttempts
      (by simp [sweptInputs, JobOp.CountsAttempts]))
  exact attempts_eq_claims_add_resets run (List.mem_singleton.mpr rfl)

/-- One execution and one sweep already count as two attempts. -/
theorem swept_job_counts_unclaimed_attempt :
    ∃ job ∈ (queueMachine.drive (Queue.empty 0, []) sweptInputs).1.jobs.rows,
      job.attempts = 2 ∧
        claimsSince job.jobId (queueMachine.drive (Queue.empty 0, []) sweptInputs).2 = 1 :=
  ⟨((startJob.row 0).claim "worker-a" 60 0).sweep 3 60000001, List.mem_singleton.mpr rfl, rfl, rfl⟩

/-! ## The ceiling on executions -/

/-- The operations a poison job meets, all under one ceiling: enqueueing,
claims, leases, terminal settlements, the worker's error handler, promotion,
the sweeper, replay and cancellation. -/
def PoisonOps (maxAttempts : Int) : JobOp → Prop
  | .settle _ (.requeueWithBackoff _) => False
  | .handleJobError _ _ maxTransientAttempts => maxTransientAttempts = maxAttempts
  | .sweepStuckJobs sweepMaxAttempts => sweepMaxAttempts = maxAttempts
  | .retryStuckJob _ | .retryFailedArtifact _ => False
  | .acquireLease .. | .renewLease .. | .releaseLease .. => False
  | _ => True

/-- The operation neither claims nor requeues a running job that has already
been claimed up to the ceiling. -/
def SparesExhausted (maxAttempts : Int) (queue : Queue) (history : JobHistory) : JobOp → Prop
  | .claimNext _ _ locked =>
    ∀ job, TeachingPackJobStore.oldestClaimable locked queue.now queue.jobs = some job →
      job.status = .running → claimsSince job.jobId history < maxAttempts
  | .handleJobError read exception _ =>
    ∀ retryAfterSeconds,
      errorDecision read.attempts maxAttempts exception = .requeue retryAfterSeconds →
      ∀ job ∈ queue.jobs.rows, job.jobId = read.jobId → job.status = .running →
        claimsSince job.jobId history < maxAttempts
  | _ => True

def PoisonGuard (maxAttempts : Int) : Guard Queue JobOp JobReply := fun queue history op =>
  PoisonOps maxAttempts op ∧ SparesExhausted maxAttempts queue history op

/-- Claims never outnumber the attempts or the ceiling, and a job that waits
for a claim has one left. -/
structure WithinBudget (maxAttempts : Int) (history : JobHistory) (job : RunJob) : Prop where
  counted : claimsSince job.jobId history ≤ job.attempts
  bounded : (claimsSince job.jobId history : Int) ≤ maxAttempts
  waiting : job.status = .pending ∨ job.status = .queued →
    (claimsSince job.jobId history : Int) < maxAttempts

theorem not_waiting_of_eq (settled : RunJobStatus) {status : RunJobStatus} {conclusion : Prop}
    (isSettled : status = settled)
    (notWaiting : settled ≠ .pending ∧ settled ≠ .queued) :
    status = .pending ∨ status = .queued → conclusion := by
  subst isSettled
  rintro (isPending | isQueued)
  · exact absurd isPending notWaiting.1
  · exact absurd isQueued notWaiting.2

variable {history : JobHistory} {reply : JobReply}

/-- A row step that is no claim keeps the budget when the row it leaves waiting
has a claim left. -/
theorem WithinBudget.of_no_claim (budget : WithinBudget maxAttempts history before)
    (jobIdEq : after.jobId = before.jobId)
    (noClaim : mark before.jobId (op, reply) = .none ∨ mark before.jobId (op, reply) = .reset)
    (attempts : before.attempts ≤ after.attempts)
    (waiting : after.status = .pending ∨ after.status = .queued →
      (claimsSince before.jobId history : Int) < maxAttempts) :
    WithinBudget maxAttempts ((op, reply) :: history) after := by
  have same : claimsSince after.jobId ((op, reply) :: history) = claimsSince before.jobId history := by
    rw [jobIdEq]
    simp only [claimsSince, marksSince]
    rcases noClaim with markEq | markEq <;> rw [markEq] <;> rfl
  exact ⟨same ▸ budget.counted.trans attempts, same ▸ budget.bounded, same ▸ waiting⟩

theorem withinBudget_row (positive : 1 ≤ maxAttempts) (payload : RunJobCreate) (read : RunJobRead)
    (now : DateTime) (history : JobHistory) :
    WithinBudget maxAttempts ((.enqueue payload, .enqueued read true) :: history)
      (payload.row now) := by
  have none : claimsSince (payload.row now).jobId
      ((.enqueue payload, .enqueued read true) :: history) = 0 := by
    simp only [claimsSince, marksSince, mark, RunJobCreate.row, if_true, Mark.tally]
  exact ⟨by omega, by omega, fun _ => by omega⟩

theorem WithinBudget.claim (budget : WithinBudget maxAttempts history job)
    (isClaim : mark job.jobId (op, reply) = .claim)
    (left : (claimsSince job.jobId history : Int) < maxAttempts) (leaseOwner : String)
    (leaseSeconds : Int) (claimTime : DateTime) :
    WithinBudget maxAttempts ((op, reply) :: history)
      (job.claim leaseOwner leaseSeconds claimTime) := by
  have oneMore : claimsSince (job.claim leaseOwner leaseSeconds claimTime).jobId
      ((op, reply) :: history) = claimsSince job.jobId history + 1 := by
    change Mark.tally .claim _ (mark job.jobId (op, reply)) = _
    rw [isClaim]
    rfl
  have counted := budget.counted
  constructor
  · change _ ≤ job.attempts + 1
    omega
  · omega
  · exact not_waiting_of_eq .running rfl (by decide)

theorem WithinBudget.replay (positive : 1 ≤ maxAttempts)
    (isRestart : mark job.jobId (op, reply) = .restart) :
    WithinBudget maxAttempts ((op, reply) :: history) job.replay := by
  have none : claimsSince job.replay.jobId ((op, reply) :: history) = 0 := by
    change Mark.tally .claim _ (mark job.jobId (op, reply)) = _
    rw [isRestart]
    rfl
  exact ⟨by omega, by omega, fun _ => by omega⟩

/-- Every step that spares exhausted running jobs keeps each row within budget. -/
theorem RowStep.withinBudget (positive : 1 ≤ maxAttempts) {queue : Queue} {recorded : Mark}
    (rowStep : RowStep queue op recorded before after)
    (allowed : PoisonGuard maxAttempts queue history op) (stored : before ∈ queue.jobs.rows)
    (recordedEq : mark before.jobId (op, reply) = recorded)
    (budget : WithinBudget maxAttempts history before) :
    WithinBudget maxAttempts ((op, reply) :: history) after := by
  obtain ⟨poisonOp, spares⟩ := allowed
  have jobIdEq := rowStep.jobId_eq
  cases rowStep with
  | kept | refreshed =>
    exact budget.of_no_claim jobIdEq (.inl recordedEq) le_rfl budget.waiting
  | claimed oldest =>
    have claimable := (of_decide_eq_true (List.mem_filter.mp (List.argmin_mem oldest)).2).1
    apply budget.claim recordedEq
    rcases claimable.1 with isPending | isQueued | isRunning
    · exact budget.waiting (.inl isPending)
    · exact budget.waiting (.inr isQueued.1)
    · exact spares before oldest isRunning
  | @settled settlement =>
    apply budget.of_no_claim jobIdEq (.inl recordedEq) (by simp)
    cases settlement with
    | markCompleted => exact not_waiting_of_eq .completed rfl (by decide)
    | markFailed => exact not_waiting_of_eq .failed rfl (by decide)
    | markDeadLetter => exact not_waiting_of_eq .deadLetter rfl (by decide)
    | requeueWithBackoff => exact poisonOp.elim
  | @handled read exception maxTransientAttempts _ sameId isRunning =>
    apply budget.of_no_claim jobIdEq (.inl recordedEq) (by simp)
    obtain rfl : maxTransientAttempts = maxAttempts := poisonOp
    cases decision : errorDecision read.attempts maxTransientAttempts exception with
    | requeue => exact fun _ => spares _ decision before stored sameId.symm isRunning
    | deadLetter => exact not_waiting_of_eq .deadLetter rfl (by decide)
  | replayed => exact WithinBudget.replay positive recordedEq
  | cancelled =>
    exact budget.of_no_claim jobIdEq (.inl recordedEq) le_rfl
      (not_waiting_of_eq .cancelled rfl (by decide))
  | promoted promotable =>
    exact budget.of_no_claim jobIdEq (.inl recordedEq) le_rfl
      fun _ => budget.waiting (.inr promotable.1)
  | @sweptReset sweepMaxAttempts _ _ below =>
    obtain rfl : sweepMaxAttempts = maxAttempts := poisonOp
    apply budget.of_no_claim jobIdEq (.inr recordedEq)
    · rw [RunJob.attempts_sweep_of_lt _ below]
      exact Nat.le_succ _
    · intro _
      have counted := budget.counted
      omega
  | @sweptDead sweepMaxAttempts _ _ exhausted =>
    have isDead : (before.sweep sweepMaxAttempts queue.now).status = .deadLetter := by
      rw [RunJob.sweep, if_neg (Int.not_lt.mpr exhausted)]
      rfl
    exact budget.of_no_claim jobIdEq (.inl recordedEq)
      (RunJob.attempts_sweep_of_le _ exhausted).ge (not_waiting_of_eq .deadLetter isDead (by decide))
  | resetStuck | resetFailed | acquired | renewed | released => exact poisonOp.elim

/-- A job whose worker crashes on every execution, re-claimed each time before
the sweeper sees it. -/
def poisonInputs : List JobOp :=
  [.enqueue startJob, .claimNext "worker-a" 60 [], .tick 60000000, .claimNext "worker-a" 60 [],
    .tick 60000000, .claimNext "worker-a" 60 [], .tick 60000000, .claimNext "worker-a" 60 []]

end OhMyClass.Gateway
