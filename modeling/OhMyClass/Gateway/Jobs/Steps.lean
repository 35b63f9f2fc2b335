import OhMyClass.Gateway.Jobs.Store
import OhMyClass.Transition.Machine

/-!
# The job queue as a machine

Every operation on `run_jobs` is one transaction over the table and the clock.
`RowStep` says what one operation may do to one row and what its answer
records about that row; the invariants of the queue are derived from it, so
that none of them unfolds the store.
-/

namespace OhMyClass.Gateway

open List OhMyClass.Transition

structure Queue where
  jobs : RunJobs
  now : DateTime

inductive JobOp where
  | tick (elapsed : Nat)
  | enqueue (payload : RunJobCreate)
  | claimNext (leaseOwner : String) (leaseSeconds : Int) (locked : List String)
  | refreshLease (jobId leaseOwner : String) (leaseSeconds : Int)
  | settle (jobId : String) (settlement : RunJob.Settlement)
  | handleJobError (job : RunJobRead) (exception : JobException) (maxTransientAttempts : Int)
  | replayDeadLetter (jobId : String)
  | cancelRunJobs (runId : RunId)
  | promoteEligible (limit : Nat) (locked : List String)
  | sweepStuckJobs (maxAttempts : Int)
  | retryStuckJob (runId : RunId)
  | retryFailedArtifact (runId : RunId)
  | acquireLease (runId : RunId) (workerId : String) (leaseSeconds : Int)
  | renewLease (runId : RunId) (workerId : String) (leaseSeconds : Int)
  | releaseLease (runId : RunId) (workerId : String)

/-- Answers; an enqueue also tells whether it inserted, and a sweep which of
the swept jobs went back to pending. -/
inductive JobReply where
  | done
  | raised (error : StoreError)
  | enqueued (read : RunJobRead) (inserted : Bool)
  | claimed (read : Option RunJobRead)
  | updated (found : Bool)
  | cancelled (count : Nat)
  | promoted (jobIds : List String)
  | swept (jobIds resets : List String)
  | recovered (result : AdminRecoveryResult)

namespace Queue

/-- Keep the table of an operation that returned, drop that of one that raised. -/
def commit {α : Type} (queue : Queue) (reply : α → JobReply) :
    Except StoreError (α × RunJobs) → Queue × JobReply
  | .ok (answer, jobs) => ({ queue with jobs := jobs }, reply answer)
  | .error error => (queue, .raised error)

/-- The ids a sweep sends back to pending. -/
def resetIds (queue : Queue) (maxAttempts : Int) : List String :=
  (queue.jobs.rows.filter fun job =>
    job.Stuck queue.now ∧ (job.attempts : Int) < maxAttempts).map RunJob.jobId

def step (queue : Queue) : JobOp → Queue × JobReply
  | .tick elapsed => ({ queue with now := queue.now + elapsed }, .done)
  | .enqueue payload =>
    let known := TeachingPackJobStore.findByIdempotencyKey queue.jobs payload.idempotencyKey
    queue.commit (.enqueued · known.isNone)
      (TeachingPackJobStore.enqueue payload queue.now queue.jobs)
  | .claimNext leaseOwner leaseSeconds locked =>
    queue.commit .claimed
      (.ok (TeachingPackJobStore.claimNext leaseOwner leaseSeconds locked queue.now queue.jobs))
  | .refreshLease jobId leaseOwner leaseSeconds =>
    queue.commit .updated
      (.ok (TeachingPackJobStore.refreshLease jobId leaseOwner leaseSeconds queue.now queue.jobs))
  | .settle jobId settlement =>
    queue.commit .updated
      (TeachingPackJobStore.settle jobId settlement queue.now queue.jobs)
  | .handleJobError job exception maxTransientAttempts =>
    queue.commit .updated
      (Gateway.handleJobError job exception maxTransientAttempts queue.now queue.jobs)
  | .replayDeadLetter jobId =>
    queue.commit .updated (TeachingPackJobStore.replayDeadLetter jobId queue.jobs)
  | .cancelRunJobs runId =>
    queue.commit .cancelled (.ok (TeachingPackJobStore.cancelRunJobs runId queue.jobs))
  | .promoteEligible limit locked =>
    queue.commit .promoted
      (.ok (TeachingPackJobStore.promoteEligible limit locked queue.now queue.jobs))
  | .sweepStuckJobs maxAttempts =>
    queue.commit (.swept · (queue.resetIds maxAttempts))
      (.ok (Gateway.sweepStuckJobs maxAttempts queue.now queue.jobs))
  | .retryStuckJob runId =>
    queue.commit .recovered (.ok (Gateway.retryStuckJob runId queue.jobs))
  | .retryFailedArtifact runId =>
    queue.commit .recovered (.ok (Gateway.retryFailedArtifact runId queue.jobs))
  | .acquireLease runId workerId leaseSeconds =>
    queue.commit .updated
      (.ok (Gateway.acquireLease runId workerId leaseSeconds queue.now queue.jobs))
  | .renewLease runId workerId leaseSeconds =>
    queue.commit .updated
      (.ok (Gateway.renewLease runId workerId leaseSeconds queue.now queue.jobs))
  | .releaseLease runId workerId =>
    queue.commit (fun _ : Unit => .done) (.ok ((), Gateway.releaseLease runId workerId queue.jobs))

end Queue

/-- The queue starts without jobs. -/
def queueMachine : Machine Queue JobOp JobReply where
  initial queue := queue.jobs = Table.empty
  step := Queue.step

abbrev JobHistory := History JobOp JobReply

/-- The queue before the first operation. -/
def Queue.empty (now : DateTime) : Queue :=
  ⟨Table.empty, now⟩

inductive Mark where
  | none
  | claim
  | reset
  | restart
  deriving DecidableEq

def mark (jobId : String) : JobOp × JobReply → Mark
  | (.enqueue payload, .enqueued _ true) => if payload.jobId = jobId then .restart else .none
  | (.replayDeadLetter replayed, .updated true) => if replayed = jobId then .restart else .none
  | (.claimNext .., .claimed (some read)) => if read.jobId = jobId then .claim else .none
  | (.sweepStuckJobs _, .swept _ resets) => if jobId ∈ resets then .reset else .none
  | _ => .none

/-- One more mark in a count of marks of one kind; a restart begins again. -/
def Mark.tally (kind : Mark) (count : Nat) : Mark → Nat
  | .restart => 0
  | recorded => if recorded = kind then count + 1 else count

/-- Marks of one kind since the job was last enqueued or replayed. -/
def marksSince (kind : Mark) (jobId : String) : JobHistory → Nat
  | [] => 0
  | entry :: older => Mark.tally kind (marksSince kind jobId older) (mark jobId entry)

/-- How often `claim_next` has returned the job since it was last enqueued or
replayed. -/
def claimsSince : String → JobHistory → Nat :=
  marksSince .claim

/-- How often a sweep has reset the job since it was last enqueued or replayed. -/
def resetsSince : String → JobHistory → Nat :=
  marksSince .reset

/-! ## Steps of one row -/

/-- What an operation does to a row and what its answer records about it. -/
inductive RowStep (queue : Queue) : JobOp → Mark → RunJob → RunJob → Prop
  | kept {op : JobOp} {job : RunJob} : RowStep queue op .none job job
  | claimed {leaseOwner : String} {leaseSeconds : Int} {locked : List String} {job : RunJob} :
      TeachingPackJobStore.oldestClaimable locked queue.now queue.jobs = some job →
      RowStep queue (.claimNext leaseOwner leaseSeconds locked) .claim job
        (job.claim leaseOwner leaseSeconds queue.now)
  | refreshed {leaseOwner : String} {leaseSeconds : Int} {job : RunJob} :
      job.HeldBy leaseOwner →
      RowStep queue (.refreshLease job.jobId leaseOwner leaseSeconds) .none job
        (job.extendLease leaseSeconds queue.now)
  | settled {settlement : RunJob.Settlement} {job : RunJob} :
      job.status = .running →
      RowStep queue (.settle job.jobId settlement) .none job (job.settle queue.now settlement)
  | handled {read : RunJobRead} {exception : JobException} {maxTransientAttempts : Int}
      {job : RunJob} :
      read.jobId = job.jobId → job.status = .running →
      RowStep queue (.handleJobError read exception maxTransientAttempts) .none job
        (job.settle queue.now
          ((errorDecision read.attempts maxTransientAttempts exception).settlement queue.now))
  | replayed {job : RunJob} :
      job.status = .deadLetter → RowStep queue (.replayDeadLetter job.jobId) .restart job job.replay
  | cancelled {job : RunJob} :
      job.status.IsLive →
      RowStep queue (.cancelRunJobs job.runId) .none job (job.release .cancelled)
  | promoted {limit : Nat} {locked : List String} {job : RunJob} :
      job.Promotable queue.now → RowStep queue (.promoteEligible limit locked) .none job job.promote
  | sweptReset {maxAttempts : Int} {job : RunJob} :
      job.Stuck queue.now → (job.attempts : Int) < maxAttempts →
      RowStep queue (.sweepStuckJobs maxAttempts) .reset job (job.sweep maxAttempts queue.now)
  | sweptDead {maxAttempts : Int} {job : RunJob} :
      job.Stuck queue.now → maxAttempts ≤ job.attempts →
      RowStep queue (.sweepStuckJobs maxAttempts) .none job (job.sweep maxAttempts queue.now)
  | resetStuck {job : RunJob} :
      job.status = .running →
      RowStep queue (.retryStuckJob job.runId) .none job (job.release .pending)
  | resetFailed {job : RunJob} :
      job.status = .failed →
      RowStep queue (.retryFailedArtifact job.runId) .none job (job.release .pending)
  | acquired {workerId : String} {leaseSeconds : Int} {job : RunJob} :
      job.Acquirable job.runId queue.now →
      RowStep queue (.acquireLease job.runId workerId leaseSeconds) .none job
        (job.claim workerId leaseSeconds queue.now)
  | renewed {workerId : String} {leaseSeconds : Int} {job : RunJob} :
      job.HeldBy workerId →
      RowStep queue (.renewLease job.runId workerId leaseSeconds) .none job
        (job.extendLease leaseSeconds queue.now)
  | released {workerId : String} {job : RunJob} :
      job.leaseOwner = some workerId →
      RowStep queue (.releaseLease job.runId workerId) .none job job.clearLease

namespace RowStep

variable {queue : Queue} {op : JobOp} {recorded : Mark} {before after : RunJob}

section

variable (rowStep : RowStep queue op recorded before after)

include rowStep

theorem jobId_eq :
    after.jobId = before.jobId := by
  cases rowStep with
  | settled | handled => exact (RunJob.keepsKeys_settle _ _ before).1
  | sweptReset | sweptDead => exact (RunJob.keepsKeys_sweep _ _ before).1
  | _ => rfl

theorem runId_eq :
    after.runId = before.runId := by
  cases rowStep with
  | @settled settlement => cases settlement <;> rfl
  | @handled read exception maxTransientAttempts =>
    cases (errorDecision read.attempts maxTransientAttempts exception) <;> rfl
  | sweptReset | sweptDead =>
    unfold RunJob.sweep
    split <;> rfl
  | _ => rfl

theorem live_before (live : after.status.IsLive) :
    before.status.IsLive ∨ (op = .replayDeadLetter before.jobId ∧ before.status = .deadLetter) ∨
      (op = .retryFailedArtifact before.runId ∧ before.status = .failed) := by
  cases rowStep with
  | kept | refreshed | renewed | released => exact .inl live
  | claimed oldest =>
    have claimable := (of_decide_eq_true (mem_filter.mp (argmin_mem oldest)).2).1
    exact .inl (claimable.1.imp_right (Or.imp_left And.left))
  | settled isRunning => exact .inl (.inr (.inr isRunning))
  | handled _ isRunning => exact .inl (.inr (.inr isRunning))
  | replayed isDead => exact .inr (.inl ⟨rfl, isDead⟩)
  | cancelled wasLive => exact .inl wasLive
  | promoted promotable => exact .inl (.inr (.inl promotable.1))
  | sweptReset stuck => exact .inl (.inr (.inr stuck.1))
  | sweptDead stuck => exact .inl (.inr (.inr stuck.1))
  | resetStuck isRunning => exact .inl (.inr (.inr isRunning))
  | resetFailed isFailed => exact .inr (.inr ⟨rfl, isFailed⟩)
  | acquired acquirable =>
    exact .inl (acquirable.2.1.imp_right Or.inr)

end

end RowStep

/-- The row comes from a stored row by a row step of the operation, recorded by
the given answer. -/
def SteppedFrom (queue : Queue) (op : JobOp) (reply : JobReply) (after : RunJob) : Prop :=
  ∃ before ∈ queue.jobs.rows, RowStep queue op (mark before.jobId (op, reply)) before after

namespace SteppedFrom

variable {queue : Queue} {op : JobOp} {reply : JobReply} {after : RunJob}

/-- A change of the selected rows is a row step on each of them, provided the
answer records nothing about the others. -/
theorem of_change {selected : RunJob → Bool} {change : RunJob → RunJob}
    (selectedStep : ∀ job ∈ queue.jobs.rows, selected job = true →
      RowStep queue op (mark job.jobId (op, reply)) job (change job))
    (otherwise : ∀ job ∈ queue.jobs.rows, selected job = false →
      mark job.jobId (op, reply) = .none)
    (mem : after ∈ queue.jobs.rows.map (Table.changeSelected selected change)) :
    SteppedFrom queue op reply after := by
  obtain ⟨job, stored, rfl⟩ := mem_map.mp mem
  refine ⟨job, stored, ?_⟩
  cases isSelected : selected job with
  | true =>
    rw [Table.changeSelected, if_pos isSelected]
    exact selectedStep job stored isSelected
  | false =>
    rw [Table.changeSelected, if_neg (by simp [isSelected]), otherwise job stored isSelected]
    exact .kept

/-- An operation that leaves the table alone and records nothing keeps every
row. -/
theorem of_unchanged (silent : ∀ jobId, mark jobId (op, reply) = .none)
    (mem : after ∈ queue.jobs.rows) : SteppedFrom queue op reply after :=
  ⟨after, mem, by rw [silent]; exact .kept⟩

end SteppedFrom

/-! ## Every operation steps each row -/

section

open OhMyClass.Transition

variable {queue : Queue} {op : JobOp} {after : RunJob}

/-! ## One lemma for each operation -/

variable {leaseSeconds : Int}

theorem steppedFrom_claimNext {leaseOwner : String} {locked : List String}
    (mem : after ∈ (queue.step (.claimNext leaseOwner leaseSeconds locked)).1.jobs.rows) :
    SteppedFrom queue (.claimNext leaseOwner leaseSeconds locked)
      (queue.step (.claimNext leaseOwner leaseSeconds locked)).2 after := by
  simp only [Queue.step, Queue.commit, TeachingPackJobStore.claimNext] at mem ⊢
  cases oldest : TeachingPackJobStore.oldestClaimable locked queue.now queue.jobs with
  | none =>
    simp only [oldest] at mem ⊢
    exact SteppedFrom.of_unchanged (fun _ => rfl) mem
  | some job =>
    simp only [oldest] at mem ⊢
    apply SteppedFrom.of_change _ _ mem
    · intro row stored isSelected
      have jobStored : job ∈ queue.jobs.rows :=
        (mem_filter.mp (argmin_mem oldest)).1
      have same : row = job :=
        queue.jobs.eq_of_jobId stored jobStored (beq_iff_eq.mp isSelected)
      subst same
      simp only [mark, readJob, RunJob.claim, if_true]
      exact .claimed oldest
    · intro row _ notSelected
      simp only [mark, readJob, RunJob.claim]
      exact if_neg fun same => by simp [same] at notSelected

variable {jobId : String}

theorem steppedFrom_refreshLease {leaseOwner : String}
    (mem : after ∈ (queue.step (.refreshLease jobId leaseOwner leaseSeconds)).1.jobs.rows) :
    SteppedFrom queue (.refreshLease jobId leaseOwner leaseSeconds)
      (queue.step (.refreshLease jobId leaseOwner leaseSeconds)).2 after := by
  simp only [Queue.step, Queue.commit, TeachingPackJobStore.refreshLease] at mem ⊢
  split at mem
  · next missing =>
    exact SteppedFrom.of_unchanged (fun _ => rfl) mem
  · next held found =>
    apply SteppedFrom.of_change _ (fun _ _ _ => rfl) mem
    intro row stored isSelected
    have heldBy := List.find?_some found
    simp only [Bool.and_eq_true, beq_iff_eq, decide_eq_true_eq] at heldBy
    have same : row = held := queue.jobs.eq_of_jobId stored (mem_of_find?_eq_some found)
      ((beq_iff_eq.mp isSelected).trans heldBy.1.symm)
    subst same
    rw [← heldBy.1]
    exact .refreshed heldBy.2

/-- A guarded change of one job: the row steps by the change when it has the
expected status, and the answer says so. -/
theorem steppedFrom_changeJob {expected : RunJobStatus} {change : RunJob → RunJob}
    (keeps : RunJob.KeepsKeys change)
    (stepOf : ∀ job ∈ queue.jobs.rows, job.jobId = jobId → job.status = expected →
      RowStep queue op (mark job.jobId (op, .updated true)) job (change job))
    (silent : ∀ other found, (found = true → other ≠ jobId) →
      mark other (op, .updated found) = .none)
    (silentError : ∀ other error, mark other (op, .raised error) = .none)
    (mem : after ∈ (queue.commit .updated
      (TeachingPackJobStore.changeJob jobId expected change keeps queue.jobs)).1.jobs.rows) :
    SteppedFrom queue op (queue.commit .updated
      (TeachingPackJobStore.changeJob jobId expected change keeps queue.jobs)).2 after := by
  unfold TeachingPackJobStore.changeJob at mem ⊢
  cases found : queue.jobs.rows.find? (fun job => job.jobId == jobId) with
  | none =>
    simp only [found, Queue.commit] at mem ⊢
    exact SteppedFrom.of_unchanged (fun _ => silentError _ _) mem
  | some job =>
    simp only [found, Queue.commit] at mem ⊢
    have jobIdEq : job.jobId = jobId := by simpa using List.find?_some found
    have jobStored := mem_of_find?_eq_some found
    apply SteppedFrom.of_change _ _ mem
    · intro row stored isSelected
      have same : row = job := queue.jobs.eq_of_jobId stored jobStored
        ((beq_iff_eq.mp isSelected).trans jobIdEq.symm)
      subst same
      by_cases isExpected : row.status = expected
      · simp only [RunJob.changeFrom, if_pos isExpected]
        exact stepOf row stored jobIdEq isExpected
      · simp only [RunJob.changeFrom, if_neg isExpected]
        rw [silent _ _ fun impossible => by cases impossible]
        exact .kept
    · intro row _ notSelected
      exact silent _ _ fun _ same => by simp [same] at notSelected

theorem steppedFrom_settle {settlement : RunJob.Settlement}
    (mem : after ∈ (queue.step (.settle jobId settlement)).1.jobs.rows) :
    SteppedFrom queue (.settle jobId settlement)
      (queue.step (.settle jobId settlement)).2 after := by
  apply steppedFrom_changeJob _ _ (fun _ _ _ => rfl) (fun _ _ => rfl) mem
  rintro job - rfl isRunning
  exact .settled isRunning

theorem steppedFrom_handleJobError {read : RunJobRead} {exception : JobException}
    {maxTransientAttempts : Int}
    (mem : after ∈
      (queue.step (.handleJobError read exception maxTransientAttempts)).1.jobs.rows) :
    SteppedFrom queue (.handleJobError read exception maxTransientAttempts)
      (queue.step (.handleJobError read exception maxTransientAttempts)).2 after := by
  apply steppedFrom_changeJob (RunJob.keepsKeys_settle _ _) _ (fun _ _ _ => rfl)
    (fun _ _ => rfl) mem
  intro job _ sameId isRunning
  exact .handled sameId.symm isRunning

theorem steppedFrom_replayDeadLetter
    (mem : after ∈ (queue.step (.replayDeadLetter jobId)).1.jobs.rows) :
    SteppedFrom queue (.replayDeadLetter jobId)
      (queue.step (.replayDeadLetter jobId)).2 after := by
  apply steppedFrom_changeJob _ _ _ (fun _ _ => rfl) mem
  · rintro job - rfl isDead
    simp only [mark, if_true]
    exact .replayed isDead
  · intro other found apart
    cases found with
    | false => rfl
    | true => exact if_neg fun same => apart rfl same.symm

variable {runId : RunId}

theorem steppedFrom_cancelRunJobs
    (mem : after ∈ (queue.step (.cancelRunJobs runId)).1.jobs.rows) :
    SteppedFrom queue (.cancelRunJobs runId) (queue.step (.cancelRunJobs runId)).2 after := by
  apply SteppedFrom.of_change _ (fun _ _ _ => rfl) mem
  intro job _ isSelected
  simp only [Bool.and_eq_true, beq_iff_eq, decide_eq_true_eq] at isSelected
  obtain ⟨rfl, isLive⟩ := isSelected
  exact .cancelled isLive

theorem steppedFrom_promoteEligible {limit : Nat} {locked : List String}
    (mem : after ∈ (queue.step (.promoteEligible limit locked)).1.jobs.rows) :
    SteppedFrom queue (.promoteEligible limit locked)
      (queue.step (.promoteEligible limit locked)).2 after := by
  apply SteppedFrom.of_change _ (fun _ _ _ => rfl) mem
  intro job stored isSelected
  obtain ⟨chosen, isChosen, sameId⟩ := mem_map.mp (contains_iff_mem.mp isSelected)
  have selected := mem_filter.mp
    ((mem_insertionSort _).mp (mem_of_mem_take isChosen))
  have same : job = chosen := queue.jobs.eq_of_jobId stored selected.1 sameId.symm
  subst same
  exact .promoted (of_decide_eq_true selected.2).1

theorem steppedFrom_sweepStuckJobs {maxAttempts : Int}
    (mem : after ∈ (queue.step (.sweepStuckJobs maxAttempts)).1.jobs.rows) :
    SteppedFrom queue (.sweepStuckJobs maxAttempts)
      (queue.step (.sweepStuckJobs maxAttempts)).2 after := by
  have isReset (job : RunJob) (stored : job ∈ queue.jobs.rows) :
      job.jobId ∈ queue.resetIds maxAttempts ↔
        job.Stuck queue.now ∧ (job.attempts : Int) < maxAttempts := by
    simp only [Queue.resetIds, mem_map, mem_filter, decide_eq_true_eq]
    constructor
    · rintro ⟨other, ⟨otherStored, condition⟩, sameId⟩
      rw [queue.jobs.eq_of_jobId stored otherStored sameId.symm]
      exact condition
    · intro condition
      exact ⟨job, ⟨stored, condition⟩, rfl⟩
  have markEq (jobId : String) :
      mark jobId (.sweepStuckJobs maxAttempts, (queue.step (.sweepStuckJobs maxAttempts)).2) =
        if jobId ∈ queue.resetIds maxAttempts then .reset else .none :=
    rfl
  apply SteppedFrom.of_change _ _ mem
  · intro job stored isSelected
    have stuck := of_decide_eq_true isSelected
    by_cases below : (job.attempts : Int) < maxAttempts
    · rw [markEq, if_pos ((isReset job stored).mpr ⟨stuck, below⟩)]
      exact .sweptReset stuck below
    · rw [markEq, if_neg fun recorded => below ((isReset job stored).mp recorded).2]
      exact .sweptDead stuck (Int.not_lt.mp below)
  · intro job stored notSelected
    exact if_neg fun recorded =>
      of_decide_eq_false notSelected ((isReset job stored).mp recorded).1

theorem steppedFrom_resetNewest {status : RunJobStatus} {action : SafeRecoveryAction}
    {missing recovered : String} {reply : JobReply}
    (stepOf : ∀ job : RunJob, job.runId = runId → job.status = status →
      RowStep queue op .none job (job.release .pending))
    (silent : ∀ jobId, mark jobId (op, reply) = .none)
    (mem : after ∈ (resetNewest runId status action missing recovered queue.jobs).2.rows) :
    SteppedFrom queue op reply after := by
  unfold resetNewest at mem
  split at mem
  · exact SteppedFrom.of_unchanged silent mem
  · next job newest =>
    apply SteppedFrom.of_change _ (fun _ _ _ => silent _) mem
    intro row stored isSelected
    have selected := mem_filter.mp (argmax_mem newest)
    have same : row = job :=
      queue.jobs.eq_of_jobId stored selected.1 (beq_iff_eq.mp isSelected)
    subst same
    rw [silent]
    obtain ⟨sameRun, hasStatus⟩ := of_decide_eq_true selected.2
    exact stepOf row sameRun hasStatus

theorem steppedFrom_retryStuckJob
    (mem : after ∈ (queue.step (.retryStuckJob runId)).1.jobs.rows) :
    SteppedFrom queue (.retryStuckJob runId) (queue.step (.retryStuckJob runId)).2 after := by
  apply steppedFrom_resetNewest _ (fun _ => rfl) mem
  rintro job rfl isRunning
  exact .resetStuck isRunning

theorem steppedFrom_retryFailedArtifact
    (mem : after ∈ (queue.step (.retryFailedArtifact runId)).1.jobs.rows) :
    SteppedFrom queue (.retryFailedArtifact runId)
      (queue.step (.retryFailedArtifact runId)).2 after := by
  apply steppedFrom_resetNewest _ (fun _ => rfl) mem
  rintro job rfl isFailed
  exact .resetFailed isFailed

variable {workerId : String}

theorem steppedFrom_acquireLease
    (mem : after ∈ (queue.step (.acquireLease runId workerId leaseSeconds)).1.jobs.rows) :
    SteppedFrom queue (.acquireLease runId workerId leaseSeconds)
      (queue.step (.acquireLease runId workerId leaseSeconds)).2 after := by
  apply SteppedFrom.of_change _ (fun _ _ _ => rfl) mem
  intro job _ isSelected
  have acquirable := of_decide_eq_true isSelected
  obtain rfl := acquirable.1
  exact .acquired acquirable

theorem steppedFrom_renewLease
    (mem : after ∈ (queue.step (.renewLease runId workerId leaseSeconds)).1.jobs.rows) :
    SteppedFrom queue (.renewLease runId workerId leaseSeconds)
      (queue.step (.renewLease runId workerId leaseSeconds)).2 after := by
  apply SteppedFrom.of_change _ (fun _ _ _ => rfl) mem
  intro job _ isSelected
  simp only [Bool.and_eq_true, beq_iff_eq, decide_eq_true_eq] at isSelected
  obtain ⟨rfl, held⟩ := isSelected
  exact .renewed held

theorem steppedFrom_releaseLease
    (mem : after ∈ (queue.step (.releaseLease runId workerId)).1.jobs.rows) :
    SteppedFrom queue (.releaseLease runId workerId)
      (queue.step (.releaseLease runId workerId)).2 after := by
  apply SteppedFrom.of_change _ (fun _ _ _ => rfl) mem
  intro job _ isSelected
  simp only [Bool.and_eq_true, beq_iff_eq] at isSelected
  obtain ⟨rfl, owned⟩ := isSelected
  exact .released owned

/-! ## Enqueueing -/

/-- The row an enqueue inserts, with the answer that tells so. -/
def Enqueued (queue : Queue) (op : JobOp) (reply : JobReply) (after : RunJob) : Prop :=
  ∃ payload read, op = .enqueue payload ∧ reply = .enqueued read true ∧
    after = payload.row queue.now

theorem rows_enqueue {payload : RunJobCreate}
    (mem : after ∈ (queue.step (.enqueue payload)).1.jobs.rows) :
    SteppedFrom queue (.enqueue payload) (queue.step (.enqueue payload)).2 after ∨
      Enqueued queue (.enqueue payload) (queue.step (.enqueue payload)).2 after := by
  simp only [Queue.step, TeachingPackJobStore.enqueue] at mem ⊢
  cases known : TeachingPackJobStore.findByIdempotencyKey queue.jobs payload.idempotencyKey with
  | some read =>
    simp only [known, TeachingPackJobStore.getByIdempotencyKey] at mem ⊢
    exact .inl (SteppedFrom.of_unchanged (fun _ => rfl) mem)
  | none =>
    simp only [known] at mem ⊢
    cases inserted : queue.jobs.insert (payload.row queue.now) with
    | none =>
      simp only [inserted] at mem ⊢
      exact .inl (SteppedFrom.of_unchanged (fun _ => rfl) mem)
    | some grown =>
      simp only [inserted] at mem ⊢
      cases found : TeachingPackJobStore.getByIdempotencyKey grown payload.idempotencyKey with
      | error error =>
        simp only [found] at mem ⊢
        exact .inl (SteppedFrom.of_unchanged (fun _ => rfl) mem)
      | ok read =>
        simp only [found] at mem ⊢
        have stored : after ∈ grown.rows := mem
        rw [Table.rows_of_insert inserted] at stored
        rcases mem_append.mp stored with kept | fresh
        · refine .inl ⟨after, kept, ?_⟩
          have apart : payload.jobId ≠ after.jobId := by
            intro sameId
            have clash : RunJob.Conflict after (payload.row queue.now) := .inl sameId.symm
            rw [Table.insert_eq_none_iff.mpr ⟨after, kept, clash⟩] at inserted
            cases inserted
          have silent : mark after.jobId (.enqueue payload, .enqueued read true) = .none :=
            if_neg apart
          change RowStep queue _ (mark after.jobId (.enqueue payload, .enqueued read true)) _ _
          rw [silent]
          exact .kept
        · exact .inr ⟨payload, read, rfl, rfl, mem_singleton.mp fresh⟩

theorem step_rows (mem : after ∈ (queue.step op).1.jobs.rows) :
    SteppedFrom queue op (queue.step op).2 after ∨ Enqueued queue op (queue.step op).2 after := by
  cases op with
  | tick => exact .inl (SteppedFrom.of_unchanged (fun _ => rfl) mem)
  | enqueue => exact rows_enqueue mem
  | claimNext => exact .inl (steppedFrom_claimNext mem)
  | refreshLease => exact .inl (steppedFrom_refreshLease mem)
  | settle => exact .inl (steppedFrom_settle mem)
  | handleJobError => exact .inl (steppedFrom_handleJobError mem)
  | replayDeadLetter => exact .inl (steppedFrom_replayDeadLetter mem)
  | cancelRunJobs => exact .inl (steppedFrom_cancelRunJobs mem)
  | promoteEligible => exact .inl (steppedFrom_promoteEligible mem)
  | sweepStuckJobs => exact .inl (steppedFrom_sweepStuckJobs mem)
  | retryStuckJob => exact .inl (steppedFrom_retryStuckJob mem)
  | retryFailedArtifact => exact .inl (steppedFrom_retryFailedArtifact mem)
  | acquireLease => exact .inl (steppedFrom_acquireLease mem)
  | renewLease => exact .inl (steppedFrom_renewLease mem)
  | releaseLease => exact .inl (steppedFrom_releaseLease mem)

theorem rows_invariant {guard : Guard Queue JobOp JobReply}
    (property : JobHistory → RunJob → Prop)
    (enqueued : ∀ payload read now history,
      property ((.enqueue payload, .enqueued read true) :: history) (payload.row now))
    (stepped : ∀ queue history op reply recorded before after,
      guard queue history op → before ∈ queue.jobs.rows → property history before →
      mark before.jobId (op, reply) = recorded → RowStep queue op recorded before after →
      property ((op, reply) :: history) after)
    {queue : Queue} {history : JobHistory} (run : queueMachine.Run guard queue history) :
    ∀ job ∈ queue.jobs.rows, property history job := by
  apply run.invariant fun queue history => ∀ job ∈ queue.jobs.rows, property history job
  · intro queue isEmpty job mem
    rw [isEmpty] at mem
    cases mem
  · intro queue history op holds allowed after mem
    rcases step_rows mem with ⟨before, stored, rowStep⟩ | ⟨payload, read, rfl, replyEq, rfl⟩
    · exact stepped _ _ _ _ _ _ _ allowed stored (holds before stored) rfl rowStep
    · have inserted := enqueued payload read queue.now history
      rw [← replyEq] at inserted
      exact inserted

end

/-!
## No live job is stranded

The claim filter rejects a queued job without `eligible_at` at every time.  No
operation leaves a row in that shape, so every live job is claimable from some
time on.
-/

section

open OhMyClass.Transition

/-- A queued job says when it becomes eligible. -/
def RunJob.Scheduled (job : RunJob) : Prop :=
  job.status = .queued → job.eligibleAt.isSome

theorem RunJob.scheduled_row (payload : RunJobCreate) (now : DateTime) :
    (payload.row now).Scheduled := by
  unfold Scheduled RunJobCreate.row
  cases payload.eligibleAt <;> simp

theorem RunJob.scheduled_settle (now : DateTime) (settlement : Settlement) (job : RunJob) :
    (job.settle now settlement).Scheduled := by
  cases settlement <;> simp [Scheduled, settle, release, deadLetter, requeue]

theorem RunJob.scheduled_sweep (maxAttempts : Int) (now : DateTime) (job : RunJob) :
    (job.sweep maxAttempts now).Scheduled := by
  unfold Scheduled sweep
  split <;> simp [release]

theorem RowStep.scheduled {queue : Queue} {op : JobOp} {recorded : Mark} {before after : RunJob}
    (rowStep : RowStep queue op recorded before after) (scheduled : before.Scheduled) :
    after.Scheduled := by
  cases rowStep with
  | kept | refreshed | renewed | released => exact scheduled
  | settled | handled => exact RunJob.scheduled_settle _ _ _
  | sweptReset | sweptDead => exact RunJob.scheduled_sweep _ _ _
  | claimed | acquired => exact fun impossible => by cases impossible
  | replayed | cancelled | promoted | resetStuck | resetFailed =>
    exact fun impossible => by cases impossible

/-- The claim filter lets a scheduled live job pass from the later of its
eligibility and its lease expiry on. -/
theorem RunJob.Scheduled.eventually_claimable {job : RunJob} (scheduled : job.Scheduled)
    (live : job.status.IsLive) :
    ∃ start, ∀ claimTime, start ≤ claimTime → job.Claimable claimTime := by
  refine ⟨max (job.eligibleAt.getD 0) (job.leaseExpiresAt.getD 0), ?_⟩
  intro claimTime later
  obtain ⟨eligible, expired⟩ := max_le_iff.mp later
  constructor
  · rcases live with isPending | isQueued | isRunning
    · exact .inl isPending
    · obtain ⟨eligibleAt, eligibleAtEq⟩ := Option.isSome_iff_exists.mp (scheduled isQueued)
      rw [eligibleAtEq] at eligible ⊢
      exact .inr (.inl ⟨isQueued, eligibleAt, rfl, eligible⟩)
    · exact .inr (.inr isRunning)
  · intro leaseExpiresAt isExpiry
    rw [isExpiry] at expired
    exact expired

/-- Whatever the operations and their order, every pending, queued or running
job satisfies the where-clause of `claim_next` at all times from some time on. -/
theorem live_job_eventually_claimable {queue : Queue} {history : JobHistory}
    (run : queueMachine.Run (fun _ _ _ => True) queue history) {job : RunJob}
    (member : job ∈ queue.jobs.rows) (live : job.status.IsLive) :
    ∃ start, ∀ claimTime, start ≤ claimTime → job.Claimable claimTime := by
  have scheduled : job.Scheduled :=
    rows_invariant (fun _ job => job.Scheduled)
      (fun payload _ now _ => RunJob.scheduled_row payload now)
      (fun _ _ _ _ _ _ _ _ _ scheduled _ rowStep => rowStep.scheduled scheduled) run job member
  exact scheduled.eventually_claimable live

def startJob : RunJobCreate where
  jobId := "job-1"
  runId := "run-1"
  kind := .start
  idempotencyKey := "start:run-1"
  payload := []

/-- A claimed job that its worker requeues with a backoff. -/
theorem requeued_job_eventually_claimable :
    ∃ start, ∀ claimTime, start ≤ claimTime →
      (((startJob.row 0).claim "worker-a" 60 0).requeue 90).Claimable claimTime := by
  have started : queueMachine.Run (fun _ _ _ => True) (Queue.empty 0) [] := .start rfl
  have run := started.drive
    [.enqueue startJob, .claimNext "worker-a" 60 [], .settle "job-1" (.requeueWithBackoff 90)]
    ⟨trivial, trivial, trivial, trivial⟩
  exact live_job_eventually_claimable run (mem_singleton.mpr rfl) (.inr (.inl rfl))

end

end OhMyClass.Gateway
