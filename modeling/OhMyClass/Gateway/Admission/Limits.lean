import OhMyClass.Gateway.Runs.Repetitions

/-!
# Counting runs and queued jobs

How the two counts of the admission check move when a run is added, when a run
changes its status, and when jobs change theirs.
-/

namespace OhMyClass.Gateway

open List OhMyClass.Transition Table TeachingPackJobStore TeachingPackRunStore RunServices

theorem countP_le_countP_add {α : Type} {rows listed : List α} {first second : α → Bool}
    (distinct : rows.Nodup)
    (covered : ∀ row ∈ rows, first row = true → second row = true ∨ row ∈ listed) :
    rows.countP first ≤ rows.countP second + listed.countP first := by
  simp only [countP_eq_length_filter, ← length_append]
  apply List.Subperm.length_le
  apply subperm_of_subset (distinct.filter first)
  intro row mem
  rcases mem_filter.mp mem with ⟨stored, counted⟩
  rcases covered row stored counted with other | isListed
  · exact mem_append_left _ (mem_filter.mpr ⟨stored, other⟩)
  · exact mem_append_right _ (mem_filter.mpr ⟨isListed, counted⟩)

theorem RunJobs.nodup (jobs : RunJobs) : jobs.rows.Nodup :=
  jobs.consistent.imp fun free same => free (.inl (congrArg RunJob.jobId same))

namespace Db

theorem jobOfTeacher_congr {db after : Db} {job changed : RunJob} (runs : after.runs = db.runs)
    (sameRun : changed.runId = job.runId) (teacher : Option String) :
    after.JobOfTeacher teacher changed ↔ db.JobOfTeacher teacher job := by
  unfold JobOfTeacher
  rw [runs, sameRun]

variable {db after : Db} {change : RunJob → RunJob}

/-- A change of the jobs that puts none into the queue does not raise the queued
count. -/
theorem queuedJobs_le_of_map (runs : after.runs = db.runs)
    (jobs : after.jobs.rows = db.jobs.rows.map change)
    (sameRun : ∀ job, (change job).runId = job.runId)
    (noneQueued : ∀ job, (change job).status = .queued → job.status = .queued)
    (teacher : Option String) : after.queuedJobs teacher ≤ db.queuedJobs teacher := by
  unfold queuedJobs
  rw [jobs, countP_map]
  apply countP_mono_left
  intro job _ counted
  rcases of_decide_eq_true counted with ⟨ofTeacher, queued⟩
  exact decide_eq_true
    ⟨(jobOfTeacher_congr runs (sameRun job) teacher).mp ofTeacher, noneQueued job queued⟩

theorem queuedJobs_le_add_of_map {leaving : List RunJob} (runs : after.runs = db.runs)
    (jobs : after.jobs.rows = db.jobs.rows.map change)
    (sameRun : ∀ job, (change job).runId = job.runId)
    (stays : ∀ job ∈ db.jobs.rows, job.status = .queued →
      (change job).status = .queued ∨ job ∈ leaving)
    (teacher : Option String) :
    db.queuedJobs teacher ≤ after.queuedJobs teacher +
      leaving.countP fun job => db.JobOfTeacher teacher job ∧ job.status = .queued := by
  unfold queuedJobs
  rw [jobs, countP_map]
  apply countP_le_countP_add db.jobs.nodup
  intro job mem counted
  rcases of_decide_eq_true counted with ⟨ofTeacher, queued⟩
  rcases stays job mem queued with still | isLeaving
  · exact .inl (decide_eq_true
      ⟨(jobOfTeacher_congr runs (sameRun job) teacher).mpr ofTeacher, still⟩)
  · exact .inr isLeaving

variable {changeRun : Run → Run}

section

variable (runs : after.runs.rows = db.runs.rows.map changeRun)

include runs

theorem jobOfTeacher_of_map (sameRun : ∀ run, (changeRun run).runId = run.runId)
    (sameTeacher : ∀ run, (changeRun run).teacherId = run.teacherId) (teacher : Option String)
    (job : RunJob) :
    after.JobOfTeacher teacher job ↔ db.JobOfTeacher teacher job := by
  simp only [JobOfTeacher, runs, mem_map, exists_exists_and_eq_and, sameRun, sameTeacher]

theorem queuedJobs_of_map (sameRun : ∀ run, (changeRun run).runId = run.runId)
    (sameTeacher : ∀ run, (changeRun run).teacherId = run.teacherId) (jobs : after.jobs = db.jobs)
    (teacher : Option String) :
    after.queuedJobs teacher = db.queuedJobs teacher := by
  unfold queuedJobs
  rw [jobs]
  apply countP_congr
  intro job _
  simp only [decide_eq_true_eq, jobOfTeacher_of_map runs sameRun sameTeacher]

theorem activeRuns_le_of_map (sameTeacher : ∀ run, (changeRun run).teacherId = run.teacherId)
    (noneWoken : ∀ run ∈ db.runs.rows, (changeRun run).status.IsActive → run.status.IsActive)
    (teacher : Option String) : after.activeRuns teacher ≤ db.activeRuns teacher := by
  unfold activeRuns
  rw [runs, countP_map]
  apply countP_mono_left
  intro run mem counted
  rcases of_decide_eq_true counted with ⟨ofTeacher, active⟩
  refine decide_eq_true ⟨fun teacherId isTeacher => ?_, noneWoken run mem active⟩
  rw [← sameTeacher run]
  exact ofTeacher teacherId isTeacher

end

/-! ## A new run -/

/-- The run row is added, and the jobs stored before belong to other runs. -/
structure RunAdded (db after : Db) (run : Run) : Prop where
  runs : after.runs.rows = db.runs.rows ++ [run]
  fresh : ¬ db.HasRun run.runId
  active : run.status.IsActive

namespace RunAdded

variable {run : Run}

variable {job : RunJob}

section

variable (added : RunAdded db after run)

include added

theorem activeRuns_eq (teacher : Option String) :
    after.activeRuns teacher =
      db.activeRuns teacher + if OfTeacher teacher run then 1 else 0 := by
  unfold activeRuns
  rw [added.runs, countP_append, countP_singleton]
  simp only [added.active, and_true, decide_eq_true_eq]

theorem jobOfTeacher_iff_of_hasRun (known : db.HasRun job.runId) (teacher : Option String) :
    after.JobOfTeacher teacher job ↔ db.JobOfTeacher teacher job := by
  have other : run.runId ≠ job.runId := fun same => added.fresh (same ▸ known)
  simp [JobOfTeacher, added.runs, other]

theorem jobOfTeacher_iff (sameRun : job.runId = run.runId) (teacher : Option String) :
    after.JobOfTeacher teacher job ↔ OfTeacher teacher run := by
  constructor
  · intro ofTeacher teacherId isTeacher
    rcases ofTeacher teacherId isTeacher with ⟨stored, mem, sameTeacher, same⟩
    rw [added.runs] at mem
    rcases mem_append.mp mem with old | new
    · exact absurd ⟨stored, old, same.trans sameRun⟩ added.fresh
    · rw [mem_singleton.mp new] at sameTeacher
      exact sameTeacher
  · intro ofTeacher teacherId isTeacher
    refine ⟨run, ?_, ofTeacher teacherId isTeacher, sameRun.symm⟩
    rw [added.runs]
    exact mem_append_right _ mem_cons_self

theorem countP_queued_eq {jobs : List RunJob} (known : ∀ job ∈ jobs, db.HasRun job.runId)
    (teacher : Option String) :
    (jobs.countP fun job => after.JobOfTeacher teacher job ∧ job.status = .queued) =
      jobs.countP fun job => db.JobOfTeacher teacher job ∧ job.status = .queued := by
  apply countP_congr
  intro job mem
  simp only [decide_eq_true_eq, added.jobOfTeacher_iff_of_hasRun (known job mem)]

end

end RunAdded

end Db

/-! ## Bounded admission -/

inductive AdmissionOp where
  | create (ids : CreationIds) (teacherId : String) (request : TeachingPackCreateRunRequest)
      (idempotencyKey : Option String)
  | promoteEligible (limit : Nat) (locked : List String)
  | claimNext (leaseOwner : String) (leaseSeconds : Int) (locked : List String)
  | markCompleted (jobId : String)
  | transition (payload : TeachingPackStatusTransition)
  | tick (elapsed : Nat)

namespace ControlDb

def withDb (control : ControlDb) (db : Db) : ControlDb :=
  { control with gates := { control.gates with db := db } }

def withJobs (control : ControlDb) (jobs : RunJobs) : ControlDb :=
  control.withDb { control.db with jobs := jobs }

end ControlDb

/-- One step; a request is one transaction, checked and created at once. -/
def admissionStep (services : RunServices) (config : BackpressureConfig) (control : ControlDb) :
    AdmissionOp → ControlDb
  | .create ids teacherId request idempotencyKey =>
    (Session.atomically
      ((services.createTeachingPackRun config teacherId request idempotencyKey).call ids)
      control).2
  | .promoteEligible limit locked =>
    control.withJobs
      (TeachingPackJobStore.promoteEligible limit locked control.db.now control.db.jobs).2
  | .claimNext leaseOwner leaseSeconds locked =>
    control.withJobs (TeachingPackJobStore.claimNext leaseOwner leaseSeconds locked
      control.db.now control.db.jobs).2
  | .markCompleted jobId =>
    match TeachingPackJobStore.markCompleted jobId control.db.now control.db.jobs with
    | .ok (_, jobs) => control.withJobs jobs
    | .error _ => control
  | .transition payload =>
    (Session.atomically (onDb (TeachingPackRunStore.transitionStatus payload)) control).2
  | .tick elapsed => control.withDb { control.db with now := control.db.now + elapsed }

/-- The histories of an empty database. -/
def admissionMachine (services : RunServices) (config : BackpressureConfig) :
    Machine ControlDb AdmissionOp Unit where
  initial control := control.db.runs = .empty ∧ control.db.jobs = .empty
  step control op := (admissionStep services config control op, ())

namespace BackpressureConfig

/-- The active limit of one teacher, or of all of them. -/
def activeLimit (config : BackpressureConfig) : Option String → Int
  | some _ => config.maxActiveRunsPerTeacher
  | none => config.maxTotalActiveRuns

/-- The queue limit of one teacher, or of all of them. -/
def queuedLimit (config : BackpressureConfig) : Option String → Int
  | some _ => config.maxQueuedRunsPerTeacher
  | none => config.maxTotalQueuedRuns

structure Nonnegative (config : BackpressureConfig) : Prop where
  maxActiveRunsPerTeacher : 0 ≤ config.maxActiveRunsPerTeacher
  maxQueuedRunsPerTeacher : 0 ≤ config.maxQueuedRunsPerTeacher
  maxTotalActiveRuns : 0 ≤ config.maxTotalActiveRuns
  maxTotalQueuedRuns : 0 ≤ config.maxTotalQueuedRuns

end BackpressureConfig

/-- The active runs without a queued job leave room for `count` more. -/
def RoomFor (config : BackpressureConfig) (db : Db) (teacher : Option String) (count : Nat) :
    Prop :=
  (db.activeRuns teacher : Int) + count ≤ config.activeLimit teacher + db.queuedJobs teacher

theorem roomFor_of_allowed {config : BackpressureConfig} {db : Db} {teacherId : String}
    (own : (db.activeRuns (some teacherId) : Int) < config.maxActiveRunsPerTeacher)
    (total : (db.activeRuns none : Int) < config.maxTotalActiveRuns) :
    RoomFor config db (some teacherId) 1 ∧ RoomFor config db none 1 := by
  simp only [RoomFor, BackpressureConfig.activeLimit]
  constructor
  · omega
  · omega

/-- What the source leaves unchecked: a run the check sends to the queue gets a
queued job only if its setup is ready, and a queued job leaves the queue by the
clock alone. -/
def LeavesRoom (services : RunServices) (config : BackpressureConfig) (control : ControlDb) :
    AdmissionOp → Prop
  | .create ids teacherId request idempotencyKey =>
    (services.createTeachingPackRun config teacherId request idempotencyKey).lookup control =
        none →
    (checkBackpressure teacherId config control.db).queued = true →
    ∀ gateName payload contract,
      resolveContractSetup ids.runId teacherId (services.readRequest request) =
        .ok (.gate gateName payload contract) →
      RoomFor config control.db (some teacherId) 1 ∧ RoomFor config control.db none 1
  | .promoteEligible limit locked =>
    ∀ teacher, RoomFor config control.db teacher
      ((TeachingPackJobStore.eligibleFirst limit locked control.db.now control.db.jobs).countP
        fun job => control.db.JobOfTeacher teacher job ∧ job.status = .queued)
  | .claimNext _ _ locked =>
    ∀ job ∈ TeachingPackJobStore.oldestClaimable locked control.db.now control.db.jobs,
      job.status = .queued → ∀ teacher, control.db.JobOfTeacher teacher job →
        RoomFor config control.db teacher 1
  | _ => True

structure Admitted (config : BackpressureConfig) (db : Db) : Prop where
  known : ∀ job ∈ db.jobs.rows, db.HasRun job.runId
  startKeys : ∀ job ∈ db.jobs.rows, ∀ runId, job.idempotencyKey = "start:" ++ runId →
    db.HasRun runId
  active : ∀ teacher, RoomFor config db teacher 0
  queued : ∀ teacher, (db.queuedJobs teacher : Int) ≤ config.queuedLimit teacher

namespace Admitted

variable {services : RunServices} {config : BackpressureConfig} {control after : ControlDb}
  {db changed : Db}

theorem activeRuns_le (admitted : Admitted config db) (teacher : Option String) :
    (db.activeRuns teacher : Int) ≤ config.activeLimit teacher + config.queuedLimit teacher := by
  have active := admitted.active teacher
  have queued := admitted.queued teacher
  unfold RoomFor at active
  omega

theorem empty (nonnegative : config.Nonnegative) (noRuns : db.runs = .empty)
    (noJobs : db.jobs = .empty) : Admitted config db := by
  have noActive (teacher : Option String) : db.activeRuns teacher = 0 := by
    rw [Db.activeRuns, noRuns]
    rfl
  have noQueued (teacher : Option String) : db.queuedJobs teacher = 0 := by
    rw [Db.queuedJobs, noJobs]
    rfl
  refine ⟨?_, ?_, fun teacher => ?_, fun teacher => ?_⟩
  · rw [noJobs]
    exact fun _ none => nomatch none
  · rw [noJobs]
    exact fun _ none => nomatch none
  · rw [RoomFor, noActive, noQueued]
    cases teacher with
    | none => simpa [BackpressureConfig.activeLimit] using nonnegative.maxTotalActiveRuns
    | some _ => simpa [BackpressureConfig.activeLimit] using nonnegative.maxActiveRunsPerTeacher
  · rw [noQueued]
    cases teacher with
    | none => exact nonnegative.maxTotalQueuedRuns
    | some _ => exact nonnegative.maxQueuedRunsPerTeacher

/-! ## Jobs that leave the queue -/

variable {change : RunJob → RunJob}

theorem of_jobs_map (admitted : Admitted config db) (leaving : List RunJob)
    (runs : changed.runs = db.runs) (jobs : changed.jobs.rows = db.jobs.rows.map change)
    (sameRun : ∀ job, (change job).runId = job.runId)
    (sameKey : ∀ job, (change job).idempotencyKey = job.idempotencyKey)
    (noneQueued : ∀ job, (change job).status = .queued → job.status = .queued)
    (stays : ∀ job ∈ db.jobs.rows, job.status = .queued →
      (change job).status = .queued ∨ job ∈ leaving) (room : ∀ teacher, RoomFor config db teacher
      (leaving.countP fun job => db.JobOfTeacher teacher job ∧ job.status = .queued)) :
    Admitted config changed := by
  have hasRun {runId : RunId} (known : db.HasRun runId) : changed.HasRun runId := by
    rw [Db.HasRun, runs]
    exact known
  refine ⟨?_, ?_, fun teacher => ?_, fun teacher => ?_⟩
  · intro job mem
    rw [jobs] at mem
    rcases mem_map.mp mem with ⟨stored, isStored, rfl⟩
    rw [sameRun]
    exact hasRun (admitted.known stored isStored)
  · intro job mem runId isStart
    rw [jobs] at mem
    rcases mem_map.mp mem with ⟨stored, isStored, rfl⟩
    rw [sameKey] at isStart
    exact hasRun (admitted.startKeys stored isStored runId isStart)
  · have left := Db.queuedJobs_le_add_of_map runs jobs sameRun stays teacher
    have roomy := room teacher
    have sameActive : changed.activeRuns teacher = db.activeRuns teacher := by
      rw [Db.activeRuns, Db.activeRuns, runs]
    unfold RoomFor at roomy ⊢
    omega
  · have fewer := Db.queuedJobs_le_of_map runs jobs sameRun noneQueued teacher
    have queued := admitted.queued teacher
    omega

theorem of_selected {selected : RunJob → Bool} (admitted : Admitted config db)
    (leaving : List RunJob) (runs : changed.runs = db.runs)
    (jobs : changed.jobs.rows = db.jobs.rows.map (changeSelected selected change))
    (sameRun : ∀ job, (change job).runId = job.runId)
    (sameKey : ∀ job, (change job).idempotencyKey = job.idempotencyKey)
    (notQueued : ∀ job, (change job).status = .queued → job.status = .queued)
    (leaves : ∀ job ∈ db.jobs.rows, selected job = true → job.status = .queued → job ∈ leaving)
    (room : ∀ teacher, RoomFor config db teacher
      (leaving.countP fun job => db.JobOfTeacher teacher job ∧ job.status = .queued)) :
    Admitted config changed := by
  apply admitted.of_jobs_map leaving runs jobs
    (fun job => changeSelected_frame RunJob.runId (sameRun job))
    (fun job => changeSelected_frame RunJob.idempotencyKey (sameKey job)) _ _ room
  · intro job queued
    unfold changeSelected at queued
    split at queued
    · exact notQueued job queued
    · exact queued
  · intro job mem queued
    unfold changeSelected
    split
    · next isSelected => exact .inr (leaves job mem isSelected queued)
    · exact .inl queued

variable {locked : List String}

theorem promoteEligible {limit : Nat} (admitted : Admitted config control.db)
    (room : ∀ teacher, RoomFor config control.db teacher
      ((eligibleFirst limit locked control.db.now control.db.jobs).countP
        fun job => control.db.JobOfTeacher teacher job ∧ job.status = .queued)) :
    Admitted config (control.withJobs
      (TeachingPackJobStore.promoteEligible limit locked control.db.now control.db.jobs).2).db := by
  refine admitted.of_selected _ rfl rfl (fun _ => rfl) (fun _ => rfl) (fun _ queued => ?_)
    (fun job mem isSelected _ => ?_) room
  · cases queued
  · rcases mem_map.mp (contains_iff_mem.mp isSelected) with ⟨promoted, among, sameId⟩
    have stored : promoted ∈ control.db.jobs.rows := by
      have sorted := mem_of_mem_take among
      rw [mem_insertionSort] at sorted
      exact (mem_filter.mp sorted).1
    rw [control.db.jobs.eq_of_jobId mem stored sameId.symm]
    exact among

theorem claimNext {leaseOwner : String} {leaseSeconds : Int} (admitted : Admitted config control.db)
    (room : ∀ job ∈ oldestClaimable locked control.db.now control.db.jobs,
      job.status = .queued → ∀ teacher, control.db.JobOfTeacher teacher job →
        RoomFor config control.db teacher 1) :
    Admitted config (control.withJobs (TeachingPackJobStore.claimNext leaseOwner leaseSeconds
      locked control.db.now control.db.jobs).2).db := by
  unfold TeachingPackJobStore.claimNext
  split
  · exact admitted
  · next job oldest =>
    have stored : job ∈ control.db.jobs.rows :=
      (mem_filter.mp (argmin_mem oldest)).1
    refine admitted.of_selected [job] rfl rfl (fun _ => rfl) (fun _ => rfl)
      (fun _ queued => ?_) (fun other mem isSelected _ => ?_) fun teacher => ?_
    · cases queued
    · rw [control.db.jobs.eq_of_jobId mem stored (beq_iff_eq.mp isSelected)]
      exact mem_cons_self
    · rw [countP_singleton]
      split
      · next counted =>
        rcases of_decide_eq_true counted with ⟨ofTeacher, queued⟩
        exact room job oldest queued teacher ofTeacher
      · exact admitted.active teacher

theorem markCompleted {jobId : String} {jobs : RunJobs} {completed : Bool}
    (admitted : Admitted config control.db)
    (ret : TeachingPackJobStore.markCompleted jobId control.db.now control.db.jobs =
      .ok (completed, jobs)) :
    Admitted config (control.withJobs jobs).db := by
  unfold TeachingPackJobStore.markCompleted TeachingPackJobStore.settle
    changeJob at ret
  split at ret
  · cases ret
  · cases ret
    have released (job : RunJob) : (RunJob.changeFrom .running
        (RunJob.settle control.db.now .markCompleted) job).2.runId = job.runId ∧
        (RunJob.changeFrom .running (RunJob.settle control.db.now .markCompleted)
          job).2.idempotencyKey = job.idempotencyKey ∧
        ((RunJob.changeFrom .running (RunJob.settle control.db.now .markCompleted)
          job).2.status = .queued ↔ job.status = .queued) := by
      unfold RunJob.changeFrom
      split
      · next running =>
        refine ⟨rfl, rfl, ?_⟩
        simp [RunJob.settle, RunJob.release, running]
      · exact ⟨rfl, rfl, .rfl⟩
    refine admitted.of_jobs_map [] rfl rfl
      (fun job => changeSelected_frame RunJob.runId (released job).1)
      (fun job => changeSelected_frame RunJob.idempotencyKey (released job).2.1)
      (fun job queued => ?_) (fun job _ queued => .inl ?_) admitted.active
    · unfold changeSelected at queued
      split at queued
      · exact (released job).2.2.mp queued
      · exact queued
    · unfold changeSelected
      split
      · exact (released job).2.2.mpr queued
      · exact queued

/-! ## Runs that change their status -/

variable {first second : RunStatus}

theorem isActive_of_accepted {fromStatus toStatus : RunStatus}
    (accepted : validateStatusTransition fromStatus toStatus = .accepted first second)
    (active : toStatus.IsActive) : fromStatus.IsActive := by
  rw [RunStatus.isActive_iff] at active ⊢
  intro terminal
  rw [validateStatusTransition_of_terminal terminal (terminal.ne active)] at accepted
  cases accepted

variable {run : Run} {status : RunStatus}

theorem of_changeRun (admitted : Admitted config db) (found : db.findRun run.runId = some run)
    (accepted : validateStatusTransition run.status status = .accepted first second)
    (runs : changed.runs.rows = db.runs.rows.map
      (changeSelected (fun stored => stored.runId == run.runId)
        (setStatus status))) (jobs : changed.jobs = db.jobs) :
    Admitted config changed := by
  have sameRun (stored : Run) : (changeSelected (fun stored => stored.runId == run.runId)
      (setStatus status) stored).runId = stored.runId :=
    changeSelected_frame Run.runId rfl
  have sameTeacher (stored : Run) : (changeSelected
      (fun stored => stored.runId == run.runId) (setStatus status)
      stored).teacherId = stored.teacherId :=
    changeSelected_frame Run.teacherId rfl
  have hasRun {runId : RunId} (known : db.HasRun runId) : changed.HasRun runId := by
    rcases known with ⟨stored, mem, sameId⟩
    rw [Db.HasRun, runs]
    exact ⟨_, mem_map_of_mem mem, (sameRun stored).trans sameId⟩
  have noneWoken (stored : Run) (mem : stored ∈ db.runs.rows)
      (active : (changeSelected (fun stored => stored.runId == run.runId)
        (setStatus status) stored).status.IsActive) :
      stored.status.IsActive := by
    unfold changeSelected at active
    split at active
    · next isRun =>
      have same : stored = run := db.runs.eq_of_conflict (fun _ _ clash => Eq.symm clash) mem
        (Db.hasRun_of_findRun found).1 (beq_iff_eq.mp isRun)
      rw [same]
      exact isActive_of_accepted accepted active
    · exact active
  refine ⟨?_, ?_, fun teacher => ?_, fun teacher => ?_⟩
  · rw [jobs]
    exact fun job mem => hasRun (admitted.known job mem)
  · rw [jobs]
    exact fun job mem runId isStart => hasRun (admitted.startKeys job mem runId isStart)
  · have fewer := Db.activeRuns_le_of_map runs sameTeacher noneWoken teacher
    have active := admitted.active teacher
    unfold RoomFor at active ⊢
    rw [Db.queuedJobs_of_map runs sameRun sameTeacher jobs]
    omega
  · rw [Db.queuedJobs_of_map runs sameRun sameTeacher jobs]
    exact admitted.queued teacher

theorem transition {payload : TeachingPackStatusTransition}
    (admitted : Admitted config control.db) :
    Admitted config (Session.atomically (onDb (transitionStatus payload))
      control).2.db := by
  rcases Session.atomically_cases (onDb (transitionStatus payload)) control
    with ⟨_, changed, ret, committed⟩ | ⟨_, _, _, rolledBack⟩
  · rw [committed]
    rcases onDb_eq_ok ret with ⟨db, transitioned, rfl⟩
    have outcome := transitionStatus_outcome payload control.db
    rw [transitioned] at outcome
    cases outcome with
    | written found accepted _ =>
      have sameId := (Db.hasRun_of_findRun found).2
      rw [← sameId] at found
      refine admitted.of_changeRun found accepted ?_ rfl
      rw [sameId]
      rfl
  · rw [rolledBack]
    exact admitted

/-! ## Creations -/

variable {teacher : Option String}

theorem ofTeacher_iff :
    Db.OfTeacher teacher run ↔ teacher = none ∨ teacher = some run.teacherId := by
  cases teacher with
  | none => simp [Db.OfTeacher]
  | some teacherId => simp [Db.OfTeacher, eq_comm]

theorem queuedJobs_of_runAdded {jobs : List RunJob} (admitted : Admitted config db)
    (added : Db.RunAdded db changed run) (rows : changed.jobs.rows = db.jobs.rows ++ jobs)
    (ofRun : ∀ job ∈ jobs, job.runId = run.runId) (teacher : Option String) :
    changed.queuedJobs teacher = db.queuedJobs teacher +
      if Db.OfTeacher teacher run then jobs.countP fun job => job.status = .queued else 0 := by
  unfold Db.queuedJobs
  rw [rows, countP_append, added.countP_queued_eq admitted.known]
  congr 1
  split
  · next ofTeacher =>
    apply countP_congr
    intro job mem
    simp only [decide_eq_true_eq, added.jobOfTeacher_iff (ofRun job mem), ofTeacher, true_and]
  · next other =>
    apply countP_eq_zero.mpr
    intro job mem counted
    exact other ((added.jobOfTeacher_iff (ofRun job mem) teacher).mp
      (of_decide_eq_true counted).1)

theorem of_runAdded (admitted : Admitted config db) (added : Db.RunAdded db changed run)
    (jobs : List RunJob) (rows : changed.jobs.rows = db.jobs.rows ++ jobs)
    (ofRun : ∀ job ∈ jobs, job.runId = run.runId)
    (keys : ∀ job ∈ jobs, ∀ runId, job.idempotencyKey = "start:" ++ runId → runId = run.runId)
    (room : ∀ teacher, Db.OfTeacher teacher run →
      RoomFor config db teacher 1 ∧ jobs.countP (fun job => job.status = .queued) = 0 ∨
      (db.queuedJobs teacher : Int) < config.queuedLimit teacher ∧
        jobs.countP (fun job => job.status = .queued) = 1) :
    Admitted config changed := by
  have hasRun {runId : RunId} (known : db.HasRun runId) : changed.HasRun runId := by
    rcases known with ⟨stored, mem, sameId⟩
    rw [Db.HasRun, added.runs]
    exact ⟨stored, mem_append_left _ mem, sameId⟩
  have hasNew : changed.HasRun run.runId := by
    rw [Db.HasRun, added.runs]
    exact ⟨run, mem_append_right _ mem_cons_self, rfl⟩
  refine ⟨?_, ?_, fun teacher => ?_, fun teacher => ?_⟩
  · intro job mem
    rw [rows] at mem
    rcases mem_append.mp mem with old | new
    · exact hasRun (admitted.known job old)
    · rw [ofRun job new]
      exact hasNew
  · intro job mem runId isStart
    rw [rows] at mem
    rcases mem_append.mp mem with old | new
    · exact hasRun (admitted.startKeys job old runId isStart)
    · rw [keys job new runId isStart]
      exact hasNew
  · have active := admitted.active teacher
    unfold RoomFor at active ⊢
    rw [added.activeRuns_eq, admitted.queuedJobs_of_runAdded added rows ofRun]
    split
    · next ofTeacher =>
      rcases room teacher ofTeacher with ⟨roomy, noJob⟩ | ⟨_, oneJob⟩
      · unfold RoomFor at roomy
        omega
      · omega
    · omega
  · have queued := admitted.queued teacher
    rw [admitted.queuedJobs_of_runAdded added rows ofRun]
    split
    · next ofTeacher =>
      rcases room teacher ofTeacher with ⟨_, noJob⟩ | ⟨below, oneJob⟩
      · rw [noJob]
        omega
      · omega
    · omega

theorem roomFor_of_both (ofTeacher : Db.OfTeacher teacher run)
    (own : RoomFor config db (some run.teacherId) 1) (total : RoomFor config db none 1) :
    RoomFor config db teacher 1 := by
  rcases ofTeacher_iff.mp ofTeacher with rfl | rfl
  · exact total
  · exact own

theorem of_runWithoutQueuedJob (admitted : Admitted config db) (added : Db.RunAdded db changed run)
    (jobs : List RunJob) (rows : changed.jobs.rows = db.jobs.rows ++ jobs)
    (ofRun : ∀ job ∈ jobs, job.runId = run.runId)
    (keys : ∀ job ∈ jobs, ∀ runId, job.idempotencyKey = "start:" ++ runId → runId = run.runId)
    (noneQueued : ∀ job ∈ jobs, job.status ≠ .queued)
    (own : RoomFor config db (some run.teacherId) 1) (total : RoomFor config db none 1) :
    Admitted config changed := by
  apply admitted.of_runAdded added jobs rows ofRun keys
  intro teacher ofTeacher
  refine .inl ⟨roomFor_of_both ofTeacher own total, countP_eq_zero.mpr ?_⟩
  intro job mem isQueued
  exact noneQueued job mem (of_decide_eq_true isQueued)

variable {job : RunJob}

theorem of_runWithQueuedJob (admitted : Admitted config db) (added : Db.RunAdded db changed run)
    (rows : changed.jobs.rows = db.jobs.rows ++ [job]) (ofRun : job.runId = run.runId)
    (keys : ∀ runId, job.idempotencyKey = "start:" ++ runId → runId = run.runId)
    (queued : job.status = .queued)
    (own : (db.queuedJobs (some run.teacherId) : Int) < config.maxQueuedRunsPerTeacher)
    (total : (db.queuedJobs none : Int) < config.maxTotalQueuedRuns) :
    Admitted config changed := by
  refine admitted.of_runAdded added [job] rows (by simpa using ofRun) (by simpa using keys)
    fun teacher ofTeacher => .inr ⟨?_, ?_⟩
  · rcases ofTeacher_iff.mp ofTeacher with rfl | rfl
    · exact total
    · exact own
  · rw [countP_singleton, if_pos (decide_eq_true queued)]

variable {now : DateTime}

theorem rows_of_unrecorded {payload : RunJobCreate} {jobs grown : RunJobs} {read : RunJobRead}
    (enqueued : JobEnqueued payload now jobs read grown)
    (unrecorded : ∀ job ∈ jobs.rows, job.idempotencyKey ≠ payload.idempotencyKey) :
    grown.rows = jobs.rows ++ [payload.row now] := by
  cases enqueued with
  | known found =>
    rcases Option.map_eq_some_iff.mp found with ⟨job, stored, _⟩
    have sameKey := List.find?_some stored
    exact absurd (beq_iff_eq.mp sameKey) (unrecorded job (mem_of_find?_eq_some stored))
  | added _ rows => exact rows

theorem scopedKey_ne_start (services : RunServices) (teacherId key : String) (runId : RunId) :
    services.scopedCreateIdempotencyKey teacherId key ≠ "start:" ++ runId := by
  intro same
  have texts := congrArg String.toList same
  simp [scopedCreateIdempotencyKey, scopedIdempotencyKey] at texts

variable {teacherId : String} {request : TeachingPackCreateRunRequest}

theorem unrecorded_of_lookup {key : String}
    (missing : (services.createTeachingPackRun config teacherId request (some key)).lookup
      control = none) :
    ∀ job ∈ control.db.jobs.rows,
      job.idempotencyKey ≠ services.scopedCreateIdempotencyKey teacherId key := by
  intro job mem sameKey
  cases accepted : services.enforcePayloadSizeLimits request with
  | error error => simp only [createTeachingPackRun, accepted, reduceCtorEq] at missing
  | ok _ =>
    simp only [createTeachingPackRun, accepted, Option.bind_some,
      Option.map_eq_none_iff, TeachingPackJobStore.findByIdempotencyKey,
      List.find?_eq_none] at missing
    exact missing job mem (beq_iff_eq.mpr sameKey)

variable {ids : CreationIds} {idempotencyKey : Option String}

theorem startJob_key {contract : BuiltContract} {rawRequest requestHash : String}
    {eligibleAt : Option DateTime} (admitted : Admitted config control.db)
    (unrecorded : ∀ key ∈ idempotencyKey, ∀ job ∈ control.db.jobs.rows,
      job.idempotencyKey ≠ services.scopedCreateIdempotencyKey teacherId key)
    (sameRun : contract.runId = ids.runId) (fresh : ¬ control.db.HasRun ids.runId) :
    (∀ job ∈ control.db.jobs.rows, job.idempotencyKey ≠
      (startJobCreate ids contract rawRequest requestHash
        (idempotencyKey.map (services.scopedCreateIdempotencyKey teacherId))
        eligibleAt).idempotencyKey) ∧
    ∀ runId, (startJobCreate ids contract rawRequest requestHash
        (idempotencyKey.map (services.scopedCreateIdempotencyKey teacherId))
        eligibleAt).idempotencyKey = "start:" ++ runId → runId = ids.runId := by
  cases idempotencyKey with
  | none =>
    refine ⟨fun job mem sameKey => ?_, fun runId isStart => ?_⟩
    · exact fresh (sameRun ▸ admitted.startKeys job mem contract.runId sameKey)
    · have texts := congrArg String.toList isStart
      simp only [startJobCreate, Option.map_none, Option.getD_none, String.toList_append,
        append_cancel_left_eq] at texts
      rw [← sameRun]
      exact (String.toList_injective texts).symm
  | some key =>
    exact ⟨unrecorded key rfl, fun runId isStart =>
      absurd isStart (scopedKey_ne_start services teacherId key runId)⟩

theorem rows_cancelRunJobs {jobs : RunJobs} {stored : List RunJob}
    (rows : jobs.rows = stored ++ [job]) (others : ∀ other ∈ stored, other.runId ≠ job.runId)
    (pending : job.status = .pending) :
    (TeachingPackJobStore.cancelRunJobs job.runId jobs).2.rows =
      stored ++ [job.release .cancelled] := by
  have unchanged : ∀ other ∈ stored, changeSelected
      (fun row => row.runId == job.runId && decide row.status.IsLive)
      (RunJob.release .cancelled) other = other := by
    intro other mem
    simp [changeSelected, others other mem]
  have changed : (TeachingPackJobStore.cancelRunJobs job.runId jobs).2.rows =
      jobs.rows.map (changeSelected
        (fun row => row.runId == job.runId && decide row.status.IsLive)
        (RunJob.release .cancelled)) := rfl
  rw [changed, rows, map_append, map_congr_left unchanged]
  simp [changeSelected, pending, RunJobStatus.IsLive]

theorem runAdded_createdRow {reading : SetupReading} (active : status.IsActive)
    (fresh : ¬ db.HasRun ids.runId)
    (runs : changed.runs.rows = db.runs.rows ++ [createdRow ids teacherId reading status now]) :
    Db.RunAdded db changed (createdRow ids teacherId reading status now) :=
  ⟨runs, fresh, active⟩

theorem of_creation {result : TeachingPackCreateRunResult} {bp : BackpressureResult}
    (admitted : Admitted config control.db)
    (unrecorded : ∀ key ∈ idempotencyKey, ∀ job ∈ control.db.jobs.rows,
      job.idempotencyKey ≠ services.scopedCreateIdempotencyKey teacherId key)
    (ready : bp.eligibleAt = none ∧ RoomFor config control.db (some teacherId) 1 ∧
        RoomFor config control.db none 1 ∨
      bp.eligibleAt.isSome = true ∧
        (control.db.queuedJobs (some teacherId) : Int) < config.maxQueuedRunsPerTeacher ∧
        (control.db.queuedJobs none : Int) < config.maxTotalQueuedRuns)
    (gated : ∀ gateName payload contract,
      resolveContractSetup ids.runId teacherId (services.readRequest request) =
        .ok (.gate gateName payload contract) →
      RoomFor config control.db (some teacherId) 1 ∧ RoomFor config control.db none 1)
    (created : CreationOutcome ids teacherId (services.readRequest request) request.rawRequest
      (services.createRequestHash request)
      (idempotencyKey.map (services.scopedCreateIdempotencyKey teacherId)) bp.eligibleAt control
      result after) : Admitted config after.db := by
  cases created with
  | @started contract read _ complete sameRun fresh runs enqueued _ =>
    have added := runAdded_createdRow (by decide) fresh runs
    rcases startJob_key admitted unrecorded sameRun fresh with ⟨free, key⟩
    have rows := rows_of_unrecorded enqueued free
    rcases ready with ⟨atOnce, own, total⟩ | ⟨later, own, total⟩
    · refine admitted.of_runWithoutQueuedJob added _ rows ?_ ?_ ?_ own total
      · simpa [RunJobCreate.row, startJobCreate] using sameRun
      · simpa [RunJobCreate.row] using key
      · simp [RunJobCreate.row, startJobCreate, atOnce]
    · refine admitted.of_runWithQueuedJob added rows sameRun key ?_ own total
      simp [RunJobCreate.row, startJobCreate, later]
  | @gated gateName payload contract _ resolved fresh runs noKey jobs _ =>
    have added := runAdded_createdRow (by decide) fresh runs
    have room := gated gateName payload contract resolved
    refine admitted.of_runWithoutQueuedJob added [] ?_ (forall_mem_nil _)
      (forall_mem_nil _) (forall_mem_nil _) room.1 room.2
    rw [jobs, append_nil]
  | @recorded gateName key payload contract read jobs _ resolved fresh runs isKey enqueued
      cancelled _ =>
    have added := runAdded_createdRow (by decide) fresh runs
    have room := gated gateName payload contract resolved
    rcases Option.map_eq_some_iff.mp isKey with ⟨sent, isSent, rfl⟩
    have blocked := rows_of_unrecorded enqueued (unrecorded sent isSent)
    have others : ∀ other ∈ control.db.jobs.rows, other.runId ≠ ids.runId :=
      fun other mem same => fresh (same ▸ admitted.known other mem)
    have rows := rows_cancelRunJobs blocked others rfl
    refine admitted.of_runWithoutQueuedJob added _ (cancelled ▸ rows) ?_ ?_ ?_ room.1 room.2
    · simp [RunJob.release, RunJobCreate.row, blockedJobCreate]
    · simp only [mem_singleton, forall_eq]
      exact fun runId isStart =>
        absurd isStart (scopedKey_ne_start services teacherId sent runId)
    · simp [RunJob.release]

theorem create (admitted : Admitted config control.db)
    (room : LeavesRoom services config control (.create ids teacherId request idempotencyKey)) :
    Admitted config (Session.atomically
      ((services.createTeachingPackRun config teacherId request idempotencyKey).call ids)
      control).2.db := by
  rcases Session.atomically_cases
    ((services.createTeachingPackRun config teacherId request idempotencyKey).call ids) control
    with ⟨answer, committed, ret, eq⟩ | ⟨_, _, _, eq⟩
  swap
  · rw [eq]
    exact admitted
  rw [eq]
  unfold Command.call at ret
  cases missing : (services.createTeachingPackRun config teacherId request
      idempotencyKey).lookup control with
  | some known =>
    rw [missing] at ret
    cases ret
    exact admitted
  | none =>
    cases inspected : (services.createTeachingPackRun config teacherId request
        idempotencyKey).inspect control with
    | error exception =>
      rw [missing, inspected] at ret
      cases ret
    | ok bp =>
      rw [missing, inspected] at ret
      rcases Session.bind_eq_ok.mp ret with ⟨result, stored, created, ending⟩
      cases ending
      have checked : bp = checkBackpressure teacherId config control.db ∧
          ¬ (bp.allowed = false ∧ bp.queued = false) := by
        simp only [createTeachingPackRun] at inspected
        split at inspected
        · cases inspected
        · next passes =>
          cases inspected
          exact ⟨rfl, passes⟩
      have unrecorded : ∀ key ∈ idempotencyKey, ∀ job ∈ control.db.jobs.rows,
          job.idempotencyKey ≠ services.scopedCreateIdempotencyKey teacherId key := by
        rintro key rfl
        exact unrecorded_of_lookup missing
      have outcome := checkBackpressure_outcome teacherId config control.db
      have whenQueued := room missing
      rw [← checked.1] at outcome whenQueued
      have creation := createTeachingPackRunRecord_eq_ok created
      cases outcome with
      | allowed own total _ atOnce =>
        have roomy := roomFor_of_allowed own total
        exact admitted.of_creation unrecorded (.inl ⟨atOnce, roomy⟩) (fun _ _ _ _ => roomy) creation
      | rejected notAllowed notQueued => exact absurd ⟨notAllowed, notQueued⟩ checked.2
      | queued own total isQueued later =>
        exact admitted.of_creation unrecorded
          (.inr ⟨Option.isSome_iff_exists.mpr ⟨_, later⟩, own, total⟩) (whenQueued isQueued)
          creation

theorem step (admitted : Admitted config control.db) (op : AdmissionOp)
    (room : LeavesRoom services config control op) :
    Admitted config (admissionStep services config control op).db := by
  cases op with
  | create ids teacherId request idempotencyKey => exact admitted.create room
  | promoteEligible limit locked => exact admitted.promoteEligible room
  | claimNext leaseOwner leaseSeconds locked => exact admitted.claimNext room
  | markCompleted jobId =>
    simp only [admissionStep]
    split
    · next ret => exact admitted.markCompleted ret
    · exact admitted
  | transition payload => exact admitted.transition
  | tick elapsed => exact ⟨admitted.known, admitted.startKeys, admitted.active, admitted.queued⟩

theorem of_run {history : History AdmissionOp Unit} (nonnegative : config.Nonnegative)
    (run : (admissionMachine services config).Run
      (fun control _ op => LeavesRoom services config control op) control history) :
    Admitted config control.db := by
  apply run.invariant fun control _ => Admitted config control.db
  · intro control isInitial
    exact .empty nonnegative isInitial.1 isInitial.2
  · intro control _ op admitted room
    exact admitted.step op room

end Admitted

/-- A history that leaves room keeps the active runs below the active limit and
the queue limit together, of each teacher and of all of them. -/
theorem activeRuns_le_limits (services : RunServices) {config : BackpressureConfig}
    {control : ControlDb} {history : History AdmissionOp Unit} (nonnegative : config.Nonnegative)
    (run : (admissionMachine services config).Run
      (fun control _ op => LeavesRoom services config control op) control history) :
    (∀ teacherId, (control.db.activeRuns (some teacherId) : Int) ≤
      config.maxActiveRunsPerTeacher + config.maxQueuedRunsPerTeacher) ∧
    (control.db.activeRuns none : Int) ≤ config.maxTotalActiveRuns + config.maxTotalQueuedRuns := by
  have admitted := Admitted.of_run nonnegative run
  exact ⟨fun teacherId => admitted.activeRuns_le (some teacherId), admitted.activeRuns_le none⟩

def gatedCreation (runId : RunId) : AdmissionOp :=
  .create ⟨runId, "job-" ++ runId, "gate-" ++ runId⟩ "teacher-1" unclearRequest none

/-- The state after creations on an empty database. -/
def afterAdmission (config : BackpressureConfig) (ops : List AdmissionOp) :
    ControlDb × History AdmissionOp Unit :=
  (admissionMachine unclearServices config).drive (.empty 0, []) ops

theorem two_creations_le_limits :
    (∀ teacherId, ((afterAdmission {} [gatedCreation "1", gatedCreation "2", .tick 30,
      .claimNext "worker" 60 []]).1.db.activeRuns (some teacherId) : Int) ≤ 8) ∧
    ((afterAdmission {} [gatedCreation "1", gatedCreation "2", .tick 30,
      .claimNext "worker" 60 []]).1.db.activeRuns none : Int) ≤ 70 := by
  have started : (admissionMachine unclearServices {}).Run
      (fun control _ op => LeavesRoom unclearServices {} control op) (.empty 0) [] :=
    .start ⟨rfl, rfl⟩
  have admits : (admissionMachine unclearServices {}).Admits
      (fun control _ op => LeavesRoom unclearServices {} control op) (.empty 0, [])
      [gatedCreation "1", gatedCreation "2", .tick 30, .claimNext "worker" 60 []] :=
    ⟨fun _ => nofun, fun _ => nofun, trivial, fun _ => nofun, trivial⟩
  exact activeRuns_le_limits unclearServices (by constructor <;> decide)
    (started.drive _ admits)

/-- The check sends each creation after the first one to the queue, but a gated
run gets no queued job, so the queue never fills. -/
theorem gated_creations_exceed_limits :
    ¬ ∀ (services : RunServices) (config : BackpressureConfig) (control : ControlDb)
      (history : History AdmissionOp Unit), config.Nonnegative →
      (admissionMachine services config).Run (fun _ _ _ => True) control history →
      (control.db.activeRuns (some "teacher-1") : Int) ≤
        config.maxActiveRunsPerTeacher + config.maxQueuedRunsPerTeacher := by
  intro bounded
  have started : (admissionMachine unclearServices ⟨1, 1, 20, 50, 30⟩).Run
      (fun _ _ _ => True) (.empty 0) [] := .start ⟨rfl, rfl⟩
  have run := started.drive [gatedCreation "1", gatedCreation "2", gatedCreation "3"]
    ⟨trivial, trivial, trivial, trivial⟩
  have atMostTwo := bounded _ _ _ _ (by constructor <;> decide) run
  exact absurd atMostTwo (by decide +kernel)

end OhMyClass.Gateway
