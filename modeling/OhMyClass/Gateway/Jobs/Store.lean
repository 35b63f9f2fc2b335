import Mathlib.Data.List.Sort
import OhMyClass.Gateway.Basic
import OhMyClass.Json.Core
import OhMyClass.Table.Core

/-!
# Run jobs

The rows of `run_jobs`, the store over them, and the paths that bring a job
back.
-/

namespace OhMyClass.Gateway

/-!
## Rows of `run_jobs`

What each queue operation does to the row it selects.  The store lifts these
changes to the table, and the one-row protocol uses them directly.
-/

section

inductive RunJobKind where
  | start
  | resume

inductive RunJobStatus where
  | pending
  | queued
  | running
  | completed
  | failed
  | cancelled
  | deadLetter
  deriving DecidableEq

namespace RunJobStatus

/-- The three statuses a job may still be claimed from. -/
def IsLive (status : RunJobStatus) : Prop :=
  status = pending ∨ status = queued ∨ status = running
  deriving Decidable

end RunJobStatus

/-- A row of `public.run_jobs`. -/
structure RunJob where
  jobId : String
  runId : RunId
  kind : RunJobKind
  status : RunJobStatus
  idempotencyKey : String
  payload : JsonObject
  attempts : Nat
  eligibleAt : Option DateTime
  leaseOwner : Option String
  leaseExpiresAt : Option DateTime
  createdAt : DateTime
  lastError : Option String
  errorClassification : Option String
  deadLetteredAt : Option DateTime

structure RunJobCreate where
  jobId : String
  runId : RunId
  kind : RunJobKind
  idempotencyKey : String
  payload : JsonObject
  eligibleAt : Option DateTime := none

structure RunJobRead where
  jobId : String
  runId : RunId
  kind : RunJobKind
  status : RunJobStatus
  idempotencyKey : String
  payload : JsonObject
  attempts : Nat
  eligibleAt : Option DateTime := none
  lastError : Option String := none
  errorClassification : Option String := none
  deadLetteredAt : Option DateTime := none

/-- The primary key and the unique idempotency key. -/
def RunJob.Conflict (first second : RunJob) : Prop :=
  first.jobId = second.jobId ∨ first.idempotencyKey = second.idempotencyKey
  deriving Decidable

abbrev RunJobs := Table RunJob RunJob.Conflict

def readJob (job : RunJob) : RunJobRead where
  jobId := job.jobId
  runId := job.runId
  kind := job.kind
  status := job.status
  idempotencyKey := job.idempotencyKey
  payload := job.payload
  attempts := job.attempts
  eligibleAt := job.eligibleAt
  lastError := job.lastError
  errorClassification := job.errorClassification
  deadLetteredAt := job.deadLetteredAt

/-- The row `enqueue` inserts. -/
def RunJobCreate.row (create : RunJobCreate) (now : DateTime) : RunJob where
  jobId := create.jobId
  runId := create.runId
  kind := create.kind
  status := if create.eligibleAt.isSome then .queued else .pending
  idempotencyKey := create.idempotencyKey
  payload := create.payload
  attempts := 0
  eligibleAt := create.eligibleAt
  leaseOwner := none
  leaseExpiresAt := none
  createdAt := now
  lastError := none
  errorClassification := none
  deadLetteredAt := none

namespace RunJob

/-- The where-clause of `claim_next`; a null `eligible_at` fails its branch and
a null `lease_expires_at` passes. -/
def Claimable (claimTime : DateTime) (job : RunJob) : Prop :=
  (job.status = .pending ∨
    (job.status = .queued ∧ ∃ eligibleAt ∈ job.eligibleAt, eligibleAt ≤ claimTime) ∨
    job.status = .running) ∧
  ∀ leaseExpiresAt ∈ job.leaseExpiresAt, leaseExpiresAt ≤ claimTime
  deriving Decidable

/-- The where-clause of `promote_eligible`. -/
def Promotable (claimTime : DateTime) (job : RunJob) : Prop :=
  job.status = .queued ∧ ∃ eligibleAt ∈ job.eligibleAt, eligibleAt ≤ claimTime
  deriving Decidable

/-- What `claim_next` writes. -/
def claim (leaseOwner : String) (leaseSeconds : Int) (claimTime : DateTime) (job : RunJob) :
    RunJob :=
  { job with
    status := .running
    leaseOwner := some leaseOwner
    leaseExpiresAt := some (claimTime + seconds leaseSeconds)
    attempts := job.attempts + 1 }

/-- The where-clause of `refresh_lease`, the job id apart. -/
def HeldBy (leaseOwner : String) (job : RunJob) : Prop :=
  job.status = .running ∧ job.leaseOwner = some leaseOwner
  deriving Decidable

/-- What `refresh_lease` writes. -/
def extendLease (leaseSeconds : Int) (claimTime : DateTime) (job : RunJob) : RunJob :=
  { job with leaseExpiresAt := some (claimTime + seconds leaseSeconds) }

/-- A new status without a lease. -/
def release (status : RunJobStatus) (job : RunJob) : RunJob :=
  { job with status := status, leaseOwner := none, leaseExpiresAt := none }

/-- What `mark_dead_letter` writes. -/
def deadLetter (errorSummary classification : String) (now : DateTime) (job : RunJob) : RunJob :=
  { job.release .deadLetter with
    lastError := some (sliceTo errorSummary 2000)
    errorClassification := some classification
    deadLetteredAt := some now }

/-- What `requeue_with_backoff` writes. -/
def requeue (eligibleAt : DateTime) (job : RunJob) : RunJob :=
  { job.release .queued with eligibleAt := some eligibleAt }

/-- What `replay_dead_letter` writes; the lease columns stay as they are. -/
def replay (job : RunJob) : RunJob :=
  { job with
    status := .pending
    attempts := 0
    eligibleAt := none
    lastError := none
    errorClassification := none
    deadLetteredAt := none }

/-- What `promote_eligible` writes. -/
def promote (job : RunJob) : RunJob :=
  { job with status := .pending }

/-- The settlements a worker issues for a job it has run. -/
inductive Settlement where
  | markCompleted
  | markFailed
  | markDeadLetter (errorSummary classification : String)
  | requeueWithBackoff (eligibleAt : DateTime)

/-- The row a settlement leaves behind when it takes effect. -/
def settle (now : DateTime) : Settlement → RunJob → RunJob
  | .markCompleted => release .completed
  | .markFailed => release .failed
  | .markDeadLetter errorSummary classification => deadLetter errorSummary classification now
  | .requeueWithBackoff eligibleAt => requeue eligibleAt

/-- Change a row that has the expected status and say whether it had: the body
the settlements and the replay share. -/
def changeFrom (expected : RunJobStatus) (change : RunJob → RunJob) (job : RunJob) :
    Bool × RunJob :=
  if job.status = expected then (true, change job) else (false, job)

/-! ## Keys -/

/-- A change that writes neither unique column. -/
def KeepsKeys (change : RunJob → RunJob) : Prop :=
  ∀ job, (change job).jobId = job.jobId ∧ (change job).idempotencyKey = job.idempotencyKey

theorem keepsKeys_settle (now : DateTime) (settlement : Settlement) :
    KeepsKeys (settle now settlement) := by
  intro job
  cases settlement <;> exact ⟨rfl, rfl⟩

theorem keepsKeys_changeFrom (expected : RunJobStatus) {change : RunJob → RunJob}
    (keeps : KeepsKeys change) : KeepsKeys fun job => (changeFrom expected change job).2 := by
  intro job
  by_cases isExpected : job.status = expected
  · simp only [changeFrom, if_pos isExpected]
    exact keeps job
  · simp only [changeFrom, if_neg isExpected, and_self]

end RunJob

/-- Rewrite the selected rows by a change that keeps the unique columns. -/
def RunJobs.change (jobs : RunJobs) (selected : RunJob → Bool) (change : RunJob → RunJob)
    (keeps : RunJob.KeepsKeys change) : RunJobs :=
  jobs.update selected change fun first second clash => by
    have keys (job : RunJob) :
        (Table.changeSelected selected change job).jobId = job.jobId ∧
          (Table.changeSelected selected change job).idempotencyKey = job.idempotencyKey :=
      ⟨Table.changeSelected_frame RunJob.jobId (keeps job).1,
        Table.changeSelected_frame RunJob.idempotencyKey (keeps job).2⟩
    simpa only [RunJob.Conflict, (keys first).1, (keys first).2, (keys second).1,
      (keys second).2] using clash

theorem RunJobs.eq_of_jobId (jobs : RunJobs) {first second : RunJob}
    (firstMem : first ∈ jobs.rows) (secondMem : second ∈ jobs.rows)
    (sameId : first.jobId = second.jobId) : first = second :=
  jobs.eq_of_conflict
    (fun _ _ clash => clash.imp Eq.symm Eq.symm) firstMem secondMem (.inl sameId)

end

/-!
## The run-job store

`TeachingPackJobStore` over the table of jobs.  Every operation returns its
answer together with the table it leaves behind; an operation that raises
leaves no table, since its transaction is rolled back.

`skip_locked` makes the choice of `claim_next` and `promote_eligible` depend on
the rows other transactions hold, so both take the ids of the locked rows.
-/

section

inductive StoreError where
  | noResultFound
  | integrityError
  | pendingRollback

namespace TeachingPackJobStore

def findByIdempotencyKey (jobs : RunJobs) (idempotencyKey : String) : Option RunJobRead :=
  (jobs.rows.find? fun job => job.idempotencyKey == idempotencyKey).map readJob

def getByIdempotencyKey (jobs : RunJobs) (idempotencyKey : String) :
    Except StoreError RunJobRead :=
  match findByIdempotencyKey jobs idempotencyKey with
  | some read => .ok read
  | none => .error .noResultFound

/-- The insert ignores a conflict on the idempotency key only; a conflict on
the primary key is an error. -/
def enqueue (payload : RunJobCreate) (now : DateTime) (jobs : RunJobs) :
    Except StoreError (RunJobRead × RunJobs) :=
  if (findByIdempotencyKey jobs payload.idempotencyKey).isSome then
    return (← getByIdempotencyKey jobs payload.idempotencyKey, jobs)
  else
    match jobs.insert (payload.row now) with
    | none => .error .integrityError
    | some grown => return (← getByIdempotencyKey grown payload.idempotencyKey, grown)

/-- The row `claim_next` selects: the oldest claimable one that no other
transaction holds. -/
def oldestClaimable (locked : List String) (claimTime : DateTime) (jobs : RunJobs) :
    Option RunJob :=
  (jobs.rows.filter fun job => job.Claimable claimTime ∧ job.jobId ∉ locked).argmin
    RunJob.createdAt

def claimNext (leaseOwner : String) (leaseSeconds : Int) (locked : List String)
    (claimTime : DateTime) (jobs : RunJobs) : Option RunJobRead × RunJobs :=
  match oldestClaimable locked claimTime jobs with
  | none => (none, jobs)
  | some job =>
    (some (readJob (job.claim leaseOwner leaseSeconds claimTime)),
      jobs.change (fun row => row.jobId == job.jobId)
        (RunJob.claim leaseOwner leaseSeconds claimTime) fun _ => ⟨rfl, rfl⟩)

def refreshLease (jobId leaseOwner : String) (leaseSeconds : Int) (claimTime : DateTime)
    (jobs : RunJobs) : Bool × RunJobs :=
  match jobs.rows.find? fun job => job.jobId == jobId && decide (job.HeldBy leaseOwner) with
  | none => (false, jobs)
  | some _ =>
    (true, jobs.change (fun row => row.jobId == jobId)
      (RunJob.extendLease leaseSeconds claimTime) fun _ => ⟨rfl, rfl⟩)

/-- `_get_job_for_update` followed by a change guarded by the expected status. -/
def changeJob (jobId : String) (expected : RunJobStatus) (change : RunJob → RunJob)
    (keeps : RunJob.KeepsKeys change) (jobs : RunJobs) : Except StoreError (Bool × RunJobs) :=
  match jobs.rows.find? fun job => job.jobId == jobId with
  | none => .error .noResultFound
  | some job =>
    .ok ((job.changeFrom expected change).1,
      jobs.change (fun row => row.jobId == jobId)
        (fun row => (row.changeFrom expected change).2)
        (RunJob.keepsKeys_changeFrom expected keeps))

/-- The settlements all demand a running row. -/
def settle (jobId : String) (settlement : RunJob.Settlement) (now : DateTime) :
    RunJobs → Except StoreError (Bool × RunJobs) :=
  changeJob jobId .running (RunJob.settle now settlement) (RunJob.keepsKeys_settle now settlement)

def markCompleted (jobId : String) (now : DateTime) :
    RunJobs → Except StoreError (Bool × RunJobs) :=
  settle jobId .markCompleted now

def markFailed (jobId : String) (now : DateTime) : RunJobs → Except StoreError (Bool × RunJobs) :=
  settle jobId .markFailed now

def markDeadLetter (jobId errorSummary classification : String) (now : DateTime) :
    RunJobs → Except StoreError (Bool × RunJobs) :=
  settle jobId (.markDeadLetter errorSummary classification) now

def requeueWithBackoff (jobId : String) (eligibleAt now : DateTime) :
    RunJobs → Except StoreError (Bool × RunJobs) :=
  settle jobId (.requeueWithBackoff eligibleAt) now

def replayDeadLetter (jobId : String) : RunJobs → Except StoreError (Bool × RunJobs) :=
  changeJob jobId .deadLetter RunJob.replay fun _ => ⟨rfl, rfl⟩

def cancelRunJobs (runId : RunId) (jobs : RunJobs) : Nat × RunJobs :=
  let selected (job : RunJob) : Bool := job.runId == runId && decide job.status.IsLive
  ((jobs.rows.filter selected).length,
    jobs.change selected (RunJob.release .cancelled) fun _ => ⟨rfl, rfl⟩)

/-- The rows `promote_eligible` selects, the longest eligible first. -/
def eligibleFirst (limit : Nat) (locked : List String) (claimTime : DateTime) (jobs : RunJobs) :
    List RunJob :=
  ((jobs.rows.filter fun job => job.Promotable claimTime ∧ job.jobId ∉ locked).insertionSort
    fun first second => first.eligibleAt.getD 0 ≤ second.eligibleAt.getD 0).take limit

def promoteEligible (limit : Nat) (locked : List String) (claimTime : DateTime)
    (jobs : RunJobs) : List String × RunJobs :=
  let promotedIds := (eligibleFirst limit locked claimTime jobs).map RunJob.jobId
  (promotedIds, jobs.change (fun row => promotedIds.contains row.jobId) RunJob.promote
    fun _ => ⟨rfl, rfl⟩)

end TeachingPackJobStore

end

/-!
## Recovery of jobs

The paths that bring a job back besides the store itself: the sweeper for
expired leases, the administrator's resets, the run-wide leases of
`worker_lease`, and the worker's policy for a job that raised.
-/

section

/-- A running row whose lease has expired; a row without an expiry is not
stuck. -/
def RunJob.Stuck (now : DateTime) (job : RunJob) : Prop :=
  job.status = .running ∧ ∃ leaseExpiresAt ∈ job.leaseExpiresAt, leaseExpiresAt < now
  deriving Decidable

/-- Back to pending with one more attempt, or to the dead letters. -/
def RunJob.sweep (maxAttempts : Int) (now : DateTime) (job : RunJob) : RunJob :=
  if (job.attempts : Int) < maxAttempts then
    { job.release .pending with attempts := job.attempts + 1 }
  else
    { job.release .deadLetter with
      lastError := some
        "lease expired after exhausting max_attempts (worker crashed or hung repeatedly)"
      errorClassification := some "transient_exhausted"
      deadLetteredAt := some now }

theorem RunJob.keepsKeys_sweep (maxAttempts : Int) (now : DateTime) :
    KeepsKeys (sweep maxAttempts now) := by
  intro job
  unfold sweep
  split <;> exact ⟨rfl, rfl⟩

/-- The ids of every stuck job, recovered or not, oldest first. -/
def sweepStuckJobs (maxAttempts : Int) (now : DateTime) (jobs : RunJobs) :
    List String × RunJobs :=
  let stuckJobs := (jobs.rows.filter fun job => job.Stuck now).insertionSort
    fun first second => first.createdAt ≤ second.createdAt
  (stuckJobs.map RunJob.jobId,
    jobs.change (fun row => row.Stuck now) (RunJob.sweep maxAttempts now)
      (RunJob.keepsKeys_sweep maxAttempts now))

inductive SafeRecoveryAction where
  | retryStuckJob
  | retryFailedArtifact
  | retryNotification
  | cancelRun
  | reopenGate
  | markEscalated

structure AdminRecoveryResult where
  success : Bool
  message : String
  actionPerformed : SafeRecoveryAction

/-- The newest job of the run in the given status goes back to pending; the
body both resets share. -/
def resetNewest (runId : RunId) (status : RunJobStatus) (action : SafeRecoveryAction)
    (missing recovered : String) (jobs : RunJobs) : AdminRecoveryResult × RunJobs :=
  match (jobs.rows.filter fun job => job.runId = runId ∧ job.status = status).argmax
      RunJob.createdAt with
  | none => (⟨false, missing, action⟩, jobs)
  | some job =>
    (⟨true, "Job " ++ job.jobId ++ recovered, action⟩,
      jobs.change (fun row => row.jobId == job.jobId) (RunJob.release .pending)
        fun _ => ⟨rfl, rfl⟩)

def retryStuckJob (runId : RunId) : RunJobs → AdminRecoveryResult × RunJobs :=
  resetNewest runId .running .retryStuckJob "No stuck (running) job found for this run"
    " reset to pending"

def retryFailedArtifact (runId : RunId) : RunJobs → AdminRecoveryResult × RunJobs :=
  resetNewest runId .failed .retryFailedArtifact "No failed job found for this run"
    " reset to pending for retry"

/-- The rows `acquire_lease` updates: a null expiry never compares below now. -/
def RunJob.Acquirable (runId : RunId) (now : DateTime) (job : RunJob) : Prop :=
  job.runId = runId ∧ (job.status = .pending ∨ job.status = .running) ∧
    (job.leaseOwner = none ∨ ∃ leaseExpiresAt ∈ job.leaseExpiresAt, leaseExpiresAt < now)
  deriving Decidable

def acquireLease (runId : RunId) (workerId : String) (leaseSeconds : Int) (now : DateTime)
    (jobs : RunJobs) : Bool × RunJobs :=
  ((jobs.rows.filter fun job => job.Acquirable runId now).length > 0,
    jobs.change (fun row => row.Acquirable runId now) (RunJob.claim workerId leaseSeconds now)
      fun _ => ⟨rfl, rfl⟩)

def renewLease (runId : RunId) (workerId : String) (leaseSeconds : Int) (now : DateTime)
    (jobs : RunJobs) : Bool × RunJobs :=
  let selected (job : RunJob) : Bool := job.runId == runId && decide (job.HeldBy workerId)
  ((jobs.rows.filter selected).length > 0,
    jobs.change selected (RunJob.extendLease leaseSeconds now) fun _ => ⟨rfl, rfl⟩)

def RunJob.clearLease (job : RunJob) : RunJob :=
  { job with leaseOwner := none, leaseExpiresAt := none }

def releaseLease (runId : RunId) (workerId : String) (jobs : RunJobs) : RunJobs :=
  jobs.change (fun job => job.runId == runId && job.leaseOwner == some workerId)
    RunJob.clearLease fun _ => ⟨rfl, rfl⟩

/-! ## A job that raised -/

/-- What an execution may raise, as far as the retry policy tells exceptions
apart; `text` is `str(exc)`. -/
inductive JobException where
  | transientProviderError (text : String) (retryAfterSeconds : Int)
  | exceptionGroup (text : String) (exceptions : List JobException)
  | other (text : String)

namespace JobException

/-- A group of one exception stands for that exception. -/
def root : JobException → JobException
  | exceptionGroup _ [exception] => exception
  | exception => exception

def text : JobException → String
  | transientProviderError text _ => text
  | exceptionGroup text _ => text
  | other text => text

end JobException

/-- What `_handle_job_error` decides for a failed job. -/
inductive ErrorDecision where
  | requeue (retryAfterSeconds : Int)
  | deadLetter (errorSummary classification : String)

/-- Transient errors are retried below the ceiling; everything else is poison.
The attempts are those of the claim the worker still holds in memory. -/
def errorDecision (attempts : Nat) (maxTransientAttempts : Int) (exception : JobException) :
    ErrorDecision :=
  match exception.root with
  | .transientProviderError text retryAfterSeconds =>
    if (attempts : Int) < maxTransientAttempts then
      .requeue retryAfterSeconds
    else
      .deadLetter (sliceTo text 2000) "transient_exhausted"
  | root => .deadLetter (sliceTo root.text 2000) "permanent"

/-- The settlement `_handle_job_error` issues for its decision. -/
def ErrorDecision.settlement (now : DateTime) : ErrorDecision → RunJob.Settlement
  | requeue retryAfterSeconds => .requeueWithBackoff (now + seconds retryAfterSeconds)
  | deadLetter errorSummary classification => .markDeadLetter errorSummary classification

/-- The effect of `_handle_job_error` on the queue. -/
def handleJobError (job : RunJobRead) (exception : JobException) (maxTransientAttempts : Int)
    (now : DateTime) (jobs : RunJobs) : Except StoreError (Bool × RunJobs) :=
  TeachingPackJobStore.settle job.jobId
    ((errorDecision job.attempts maxTransientAttempts exception).settlement now) now jobs

end

end OhMyClass.Gateway
