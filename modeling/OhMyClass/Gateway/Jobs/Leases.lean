import OhMyClass.Gateway.Jobs.Steps

/-!
# Leases of stored jobs

Rows are never removed, so that every stored job makes a step of its row.  A
lease belongs to a running job; before it expires it is ended by its owner, by a
settlement, a cancellation or an administrator, and by nothing else.
-/

namespace OhMyClass.Gateway

open List OhMyClass.Transition TeachingPackJobStore

/-! ## Rows stay -/

section

variable (queue : Queue) {selected : RunJob → Bool} {change : RunJob → RunJob}

theorem jobIds_change (rows : List RunJob) (keeps : ∀ job, (change job).jobId = job.jobId) :
    rows.map RunJob.jobId ⊆ (rows.map (Table.changeSelected selected change)).map RunJob.jobId := by
  have same (job : RunJob) : (Table.changeSelected selected change job).jobId = job.jobId :=
    Table.changeSelected_frame RunJob.jobId (keeps job)
  simp [Function.comp_def, same]

theorem jobIds_changeJob {jobId : String} {expected : RunJobStatus}
    (keeps : RunJob.KeepsKeys change) (reply : Bool → JobReply) :
    queue.jobs.rows.map RunJob.jobId ⊆ (queue.commit reply
      (changeJob jobId expected change keeps queue.jobs)).1.jobs.rows.map RunJob.jobId := by
  unfold changeJob
  split
  · exact Subset.refl _
  · exact jobIds_change _ fun job => (RunJob.keepsKeys_changeFrom expected keeps job).1

theorem rows_subset_enqueue (payload : RunJobCreate) :
    queue.jobs.rows ⊆ (queue.step (.enqueue payload)).1.jobs.rows := by
  simp only [Queue.step, TeachingPackJobStore.enqueue]
  split
  · cases getByIdempotencyKey queue.jobs payload.idempotencyKey <;> exact Subset.refl _
  · split
    · exact Subset.refl _
    · next grown inserted =>
      cases getByIdempotencyKey grown payload.idempotencyKey with
      | error => exact Subset.refl _
      | ok read => exact fun job stored => Table.rows_of_insert inserted ▸ mem_append_left _ stored

theorem jobIds_step (op : JobOp) :
    queue.jobs.rows.map RunJob.jobId ⊆ (queue.step op).1.jobs.rows.map RunJob.jobId := by
  cases op with
  | tick => exact Subset.refl _
  | enqueue payload => exact map_subset _ (rows_subset_enqueue queue payload)
  | claimNext | refreshLease | retryStuckJob | retryFailedArtifact =>
    simp only [Queue.step, Queue.commit, TeachingPackJobStore.claimNext,
      TeachingPackJobStore.refreshLease, retryStuckJob, retryFailedArtifact, resetNewest]
    split
    · exact Subset.refl _
    · exact jobIds_change _ fun _ => rfl
  | settle | replayDeadLetter => exact jobIds_changeJob queue _ _
  | handleJobError => exact jobIds_changeJob queue (RunJob.keepsKeys_settle _ _) _
  | sweepStuckJobs => exact jobIds_change _ fun job => (RunJob.keepsKeys_sweep _ _ job).1
  | cancelRunJobs | promoteEligible | acquireLease | renewLease | releaseLease =>
    exact jobIds_change _ fun _ => rfl

end

variable {queue : Queue} {op : JobOp} {recorded : Mark} {job after : RunJob} {history : JobHistory}

theorem exists_rowStep (stored : job ∈ queue.jobs.rows) (op : JobOp) :
    ∃ after ∈ (queue.step op).1.jobs.rows, ∃ recorded, RowStep queue op recorded job after := by
  rcases mem_map.mp (jobIds_step queue op (mem_map_of_mem stored)) with ⟨after, mem, sameId⟩
  rcases step_rows mem with ⟨before, beforeStored, rowStep⟩ | ⟨payload, _, rfl, _, _⟩
  · obtain rfl := queue.jobs.eq_of_jobId beforeStored stored (rowStep.jobId_eq.symm.trans sameId)
    exact ⟨after, mem, _, rowStep⟩
  · exact ⟨job, rows_subset_enqueue queue payload stored, _, .kept⟩

/-! ## Leases -/

/-- A lease has an owner and an expiry, and belongs to a running job. -/
structure RunJob.Leased (job : RunJob) : Prop where
  expires : job.leaseOwner.isSome = job.leaseExpiresAt.isSome
  running : job.leaseOwner.isSome → job.status = .running

theorem RunJob.leased_of_none (noOwner : job.leaseOwner = none) (noExpiry : job.leaseExpiresAt = none) :
    job.Leased := by
  constructor <;> simp [noOwner, noExpiry]

theorem RowStep.leased (rowStep : RowStep queue op recorded job after) (leased : job.Leased) :
    after.Leased := by
  cases rowStep with
  | kept => exact leased
  | claimed | acquired => exact ⟨rfl, fun _ => rfl⟩
  | refreshed held | renewed held => exact ⟨by rw [RunJob.extendLease, held.2]; rfl, leased.running⟩
  | replayed isDead =>
    exact ⟨leased.expires, fun owned => by rw [leased.running owned] at isDead; cases isDead⟩
  | promoted promotable =>
    have isQueued := promotable.1
    exact ⟨leased.expires, fun owned => by rw [leased.running owned] at isQueued; cases isQueued⟩
  | @settled settlement => cases settlement <;> exact RunJob.leased_of_none rfl rfl
  | @handled read exception maxTransientAttempts =>
    cases errorDecision read.attempts maxTransientAttempts exception <;>
      exact RunJob.leased_of_none rfl rfl
  | sweptReset | sweptDead => unfold RunJob.sweep; split <;> exact RunJob.leased_of_none rfl rfl
  | cancelled | resetStuck | resetFailed | released => exact RunJob.leased_of_none rfl rfl

theorem leased_of_run {guard : Guard Queue JobOp JobReply}
    (run : queueMachine.Run guard queue history) : ∀ job ∈ queue.jobs.rows, job.Leased :=
  rows_invariant (fun _ job => job.Leased) (fun _ _ _ _ => RunJob.leased_of_none rfl rfl)
    (fun _ _ _ _ _ _ _ _ _ leased _ rowStep => rowStep.leased leased) run

/-- The operation settles the job, cancels or resets its run, or releases the
lease for its owner. -/
def JobOp.EndsLease (job : RunJob) : JobOp → Prop
  | .settle jobId _ => jobId = job.jobId
  | .handleJobError read _ _ => read.jobId = job.jobId
  | .cancelRunJobs runId | .retryStuckJob runId => runId = job.runId
  | .releaseLease runId workerId => runId = job.runId ∧ job.leaseOwner = some workerId
  | _ => False

theorem RowStep.keepsLease (rowStep : RowStep queue op recorded job after) (leased : job.Leased)
    {expiresAt : DateTime} (isExpiry : expiresAt ∈ job.leaseExpiresAt)
    (unexpired : queue.now < expiresAt) (goesOn : ¬ op.EndsLease job) :
    after.status = .running ∧ after.leaseOwner = job.leaseOwner := by
  have hasOwner : job.leaseOwner.isSome := by rw [leased.expires, isExpiry]; rfl
  have isRunning := leased.running hasOwner
  have notExpired {time : DateTime} (isTime : time ∈ job.leaseExpiresAt) : ¬ time < queue.now :=
    Option.mem_unique isExpiry isTime ▸ lt_asymm unexpired
  cases rowStep with
  | kept | refreshed | renewed => exact ⟨isRunning, rfl⟩
  | claimed oldest =>
    have claimable := (of_decide_eq_true (mem_filter.mp (argmin_mem oldest)).2).1
    exact absurd (claimable.2 expiresAt isExpiry) (not_le_of_gt unexpired)
  | acquired acquirable =>
    rcases acquirable.2.2 with unowned | ⟨time, isTime, expired⟩
    · rw [unowned] at hasOwner
      cases hasOwner
    · exact absurd expired (notExpired isTime)
  | sweptReset stuck | sweptDead stuck =>
    rcases stuck.2 with ⟨time, isTime, expired⟩
    exact absurd expired (notExpired isTime)
  | replayed isDead => rw [isDead] at isRunning; cases isRunning
  | promoted promotable => rw [promotable.1] at isRunning; cases isRunning
  | resetFailed isFailed => rw [isFailed] at isRunning; cases isRunning
  | settled | cancelled | resetStuck => exact absurd rfl goesOn
  | handled sameId => exact absurd sameId goesOn
  | released owned => exact absurd ⟨rfl, owned⟩ goesOn

/-- In every reachable queue a job with an unexpired lease stays with its owner,
whatever is claimed, acquired, swept or promoted. -/
theorem unexpired_lease_kept (run : queueMachine.Run (fun _ _ _ => True) queue history)
    (stored : job ∈ queue.jobs.rows) {expiresAt : DateTime}
    (isExpiry : expiresAt ∈ job.leaseExpiresAt) (unexpired : queue.now < expiresAt)
    (goesOn : ¬ op.EndsLease job) :
    ∃ after ∈ (queue.step op).1.jobs.rows, after.jobId = job.jobId ∧
      after.status = .running ∧ after.leaseOwner = job.leaseOwner := by
  rcases exists_rowStep stored op with ⟨after, mem, _, rowStep⟩
  exact ⟨after, mem, rowStep.jobId_eq,
    rowStep.keepsLease (leased_of_run run job stored) isExpiry unexpired goesOn⟩

theorem unexpired_lease_kept_startJob :
    ∃ after ∈ (Queue.step ⟨.single ((startJob.row 0).claim "worker-a" 60 0), 0⟩
        (.sweepStuckJobs 3)).1.jobs.rows,
      after.jobId = "job-1" ∧ after.status = .running ∧ after.leaseOwner = some "worker-a" := by
  have started : queueMachine.Run (fun _ _ _ => True) (Queue.empty 0) [] := .start rfl
  have run := started.drive [.enqueue startJob, .claimNext "worker-a" 60 []] Machine.admits_all
  exact unexpired_lease_kept run (mem_singleton.mpr rfl) rfl (by decide) id

/-! ## Finished jobs -/

/-- The jobs that have completed or were cancelled. -/
def finishedJobs (queue : Queue) : List RunJob :=
  queue.jobs.rows.filter fun job => job.status = .completed ∨ job.status = .cancelled

theorem mem_finishedJobs : job ∈ finishedJobs queue ↔
    job ∈ queue.jobs.rows ∧ (job.status = .completed ∨ job.status = .cancelled) := by
  rw [finishedJobs, mem_filter, decide_eq_true_eq]

theorem RowStep.eq_of_finished (rowStep : RowStep queue op recorded job after) (leased : job.Leased)
    (finished : job.status = .completed ∨ job.status = .cancelled) : after = job := by
  have idle : ¬ job.status.IsLive ∧ job.status ≠ .deadLetter ∧ job.status ≠ .failed := by
    rcases finished with isFinished | isFinished <;> rw [isFinished] <;> decide
  have notRunning (isRunning : job.status = .running) : False := idle.1 (.inr (.inr isRunning))
  cases rowStep with
  | kept => rfl
  | claimed oldest =>
    have claimable := (of_decide_eq_true (mem_filter.mp (argmin_mem oldest)).2).1
    exact absurd (claimable.1.imp_right (Or.imp_left And.left)) idle.1
  | acquired acquirable => exact absurd (acquirable.2.1.imp_right Or.inr) idle.1
  | refreshed held | renewed held => exact (notRunning held.1).elim
  | settled isRunning | handled _ isRunning | resetStuck isRunning =>
    exact (notRunning isRunning).elim
  | sweptReset stuck | sweptDead stuck => exact (notRunning stuck.1).elim
  | replayed isDead => exact absurd isDead idle.2.1
  | resetFailed isFailed => exact absurd isFailed idle.2.2
  | cancelled isLive => exact absurd isLive idle.1
  | promoted promotable => exact absurd (.inr (.inl promotable.1)) idle.1
  | released owned => exact (notRunning (leased.running (by rw [owned]; rfl))).elim

/-- Whatever the operations and their order, the row of a finished job is never
touched again. -/
theorem finished_jobs_stay (now : DateTime) (ops later : List JobOp) :
    finishedJobs (queueMachine.drive (Queue.empty now, []) ops).1 ⊆
      finishedJobs (queueMachine.drive (queueMachine.drive (Queue.empty now, []) ops) later).1 := by
  have started : queueMachine.Run (fun _ _ _ => True) (Queue.empty now) [] := .start rfl
  have run := started.drive ops Machine.admits_all
  generalize queueMachine.drive (Queue.empty now, []) ops = here at run ⊢
  intro job isFinished
  induction later generalizing here with
  | nil => exact isFinished
  | cons op rest ih =>
    rcases mem_finishedJobs.mp isFinished with ⟨stored, finished⟩
    rcases exists_rowStep stored op with ⟨after, mem, _, rowStep⟩
    have same := rowStep.eq_of_finished (leased_of_run run job stored) finished
    exact ih _ (.next op run trivial) (mem_finishedJobs.mpr ⟨same ▸ mem, finished⟩)

end OhMyClass.Gateway
