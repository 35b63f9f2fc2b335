import OhMyClass.Gateway.Db

/-!
# Backpressure

`check_backpressure` counts the active runs and the queued jobs, of one teacher
and of all of them, before a run is created.
-/

namespace OhMyClass.Gateway

namespace RunStatus

def activeStatuses : List RunStatus :=
  [pending, planning, researching, generating, reviewing, awaitingApproval, exporting]

def IsActive (status : RunStatus) : Prop :=
  status ∈ activeStatuses
  deriving Decidable

theorem isActive_iff (status : RunStatus) : status.IsActive ↔ ¬ status.IsTerminal := by
  cases status <;> decide

end RunStatus

structure BackpressureConfig where
  maxActiveRunsPerTeacher : Int := 3
  maxQueuedRunsPerTeacher : Int := 5
  maxTotalActiveRuns : Int := 20
  maxTotalQueuedRuns : Int := 50
  queueDelaySeconds : Int := 30

structure BackpressureResult where
  allowed : Bool
  queued : Bool
  reason : String
  activeForTeacher : Nat
  queuedForTeacher : Nat
  totalActive : Nat
  totalQueued : Nat
  eligibleAt : Option DateTime := none

namespace Db

/-! ## The four counts -/

/-- `Run.teacher_id == teacher_id`; without a teacher the clause is left out. -/
def OfTeacher (teacher : Option String) (run : Run) : Prop :=
  ∀ teacherId ∈ teacher, run.teacherId = teacherId
  deriving Decidable

def activeRuns (db : Db) (teacher : Option String) : Nat :=
  db.runs.rows.countP fun run => OfTeacher teacher run ∧ run.status.IsActive

/-- `RunJob.run_id.in_(teacher_run_ids)`; without a teacher the clause is left
out. -/
def JobOfTeacher (db : Db) (teacher : Option String) (job : RunJob) : Prop :=
  ∀ teacherId ∈ teacher, ∃ run ∈ db.runs.rows, run.teacherId = teacherId ∧ run.runId = job.runId
  deriving Decidable

/-- The queued jobs of a teacher's runs, or all of them. -/
def queuedJobs (db : Db) (teacher : Option String) : Nat :=
  db.jobs.rows.countP fun job => db.JobOfTeacher teacher job ∧ job.status = .queued

end Db

/-- `f"{name}:{count}/{limit}"`. -/
def limitReason (name : String) (count : Nat) (limit : Int) : String :=
  name ++ ":" ++ toString count ++ "/" ++ toString limit

def checkBackpressure (teacherId : String) (config : BackpressureConfig) (db : Db) :
    BackpressureResult :=
  let activeForTeacher := db.activeRuns (some teacherId)
  let totalActive := db.activeRuns none
  let queuedForTeacher := db.queuedJobs (some teacherId)
  let totalQueued := db.queuedJobs none
  if activeForTeacher < config.maxActiveRunsPerTeacher ∧
      totalActive < config.maxTotalActiveRuns then
    ⟨true, false, "ok", activeForTeacher, queuedForTeacher, totalActive, totalQueued, none⟩
  else if config.maxQueuedRunsPerTeacher ≤ queuedForTeacher then
    ⟨false, false,
      limitReason "per_teacher_queue_limit" queuedForTeacher config.maxQueuedRunsPerTeacher,
      activeForTeacher, queuedForTeacher, totalActive, totalQueued, none⟩
  else if config.maxTotalQueuedRuns ≤ totalQueued then
    ⟨false, false, limitReason "global_queue_limit" totalQueued config.maxTotalQueuedRuns,
      activeForTeacher, queuedForTeacher, totalActive, totalQueued, none⟩
  else
    ⟨false, true, "queued", activeForTeacher, queuedForTeacher, totalActive, totalQueued,
      some (db.now + seconds config.queueDelaySeconds)⟩

/-- What the counts say about each of the three outcomes. -/
inductive BackpressureOutcome (teacherId : String) (config : BackpressureConfig) (db : Db) :
    BackpressureResult → Prop
  | allowed {result : BackpressureResult} :
      db.activeRuns (some teacherId) < config.maxActiveRunsPerTeacher →
      db.activeRuns none < config.maxTotalActiveRuns →
      result.allowed = true → result.eligibleAt = none →
      BackpressureOutcome teacherId config db result
  | rejected {result : BackpressureResult} :
      result.allowed = false → result.queued = false →
      BackpressureOutcome teacherId config db result
  | queued {result : BackpressureResult} {eligibleAt : DateTime} :
      db.queuedJobs (some teacherId) < config.maxQueuedRunsPerTeacher →
      db.queuedJobs none < config.maxTotalQueuedRuns →
      result.queued = true → result.eligibleAt = some eligibleAt →
      BackpressureOutcome teacherId config db result

theorem checkBackpressure_outcome (teacherId : String) (config : BackpressureConfig) (db : Db) :
    BackpressureOutcome teacherId config db (checkBackpressure teacherId config db) := by
  dsimp only [checkBackpressure]
  split
  · next below => exact .allowed below.1 below.2 rfl rfl
  · split
    · exact .rejected rfl rfl
    · next teacherRoom =>
      split
      · exact .rejected rfl rfl
      · next room => exact .queued (not_le.mp teacherRoom) (not_le.mp room) rfl rfl

end OhMyClass.Gateway
