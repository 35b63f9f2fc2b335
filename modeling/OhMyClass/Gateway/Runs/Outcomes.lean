import OhMyClass.Gateway.Runs.Routes

/-!
# What run commands leave behind

The rows a returning creation or answer has added, and the rows its other
statements leave alone.
-/

namespace OhMyClass.Gateway

open OhMyClass.Transition

/-! ## Statements beside the runs and the jobs -/

/-- Two databases that agree on runs, jobs, responses and the clock. -/
structure SameRows (first second : ControlDb) : Prop where
  runs : first.db.runs = second.db.runs
  jobs : first.db.jobs = second.db.jobs
  now : first.db.now = second.db.now
  responses : first.gates.responses = second.gates.responses

namespace SameRows

theorem refl (control : ControlDb) : SameRows control control :=
  ⟨rfl, rfl, rfl, rfl⟩

theorem trans {first second third : ControlDb} (left : SameRows first second)
    (right : SameRows second third) : SameRows first third :=
  ⟨left.runs.trans right.runs, left.jobs.trans right.jobs, left.now.trans right.now,
    left.responses.trans right.responses⟩

end SameRows

/-- A computation that leaves runs, jobs, responses and the clock alone. -/
abbrev KeepsRows {α : Type} (body : ControlSession α) : Prop :=
  ∀ start, Session.Keeps (fun control => SameRows control start) body

variable {α : Type} {control : ControlDb}

theorem KeepsRows.of_returned {body : ControlSession α} (keeps : KeepsRows body) {after : ControlDb}
    {result : Except GateError α} (ret : body control = (result, after)) :
    SameRows after control :=
  (keeps control).holds_after ret (.refl control)

theorem keepsRows_writeEvent (payload : TeachingPackEventCreate) :
    KeepsRows (onDb (TeachingPackRunStore.writeEvent payload)) := by
  intro start control same
  have written : SameControl (TeachingPackRunStore.writeEvent payload control.db).2 control.db :=
    sameControl_writeEvent rfl
  exact SameRows.trans ⟨written.runs, written.jobs, written.now, rfl⟩ same

theorem keepsRows_openGate (payload : TeachingPackGateCreate) :
    KeepsRows (onGates (TeachingPackControlStore.openGate payload)) := by
  intro start control same
  apply SameRows.trans _ same
  unfold TeachingPackControlStore.openGate TeachingPackRunStore.openGate
  simp only [onGates, onGateway]
  split
  · split
    · exact .refl control
    · exact ⟨rfl, rfl, rfl, rfl⟩
  · exact .refl control

theorem keepsRows_call (result : Except GatewayError α) :
    KeepsRows (onDb (Session.call result)) :=
  fun _ _ same => same

theorem keepsRows_insertContract (contract : RunContract) :
    KeepsRows (TeachingPackControlStore.insertContract contract) := by
  intro start control same
  apply SameRows.trans _ same
  unfold TeachingPackControlStore.insertContract
  split
  · split
    · exact .refl control
    · exact ⟨rfl, rfl, rfl, rfl⟩
  · exact .refl control

theorem keepsRows_insertRevision (revision : ContractRevision) :
    KeepsRows (TeachingPackControlStore.insertRevision revision) := by
  intro start control same
  apply SameRows.trans _ same
  unfold TeachingPackControlStore.insertRevision
  split
  · split
    · exact .refl control
    · exact ⟨rfl, rfl, rfl, rfl⟩
  · exact .refl control

theorem keepsRows_requireContract (selected : RunContract → Bool) :
    KeepsRows (TeachingPackControlStore.requireContract selected) := by
  intro start control same
  apply SameRows.trans _ same
  unfold TeachingPackControlStore.requireContract
  split
  · exact .refl control
  · exact .refl control

theorem keepsRows_createContract (payload : RunContractCreate) :
    KeepsRows (TeachingPackControlStore.createContract payload) := fun start =>
  Session.keeps_bind (keepsRows_insertContract _ start) fun _ => keepsRows_insertRevision _ start

theorem keepsRows_reviseContract (payload : ContractRevisionCreate) :
    KeepsRows (TeachingPackControlStore.reviseContract payload) := fun start =>
  Session.keeps_bind (keepsRows_requireContract _ start) fun _ =>
    Session.keeps_bind (fun _ same => ⟨same.runs, same.jobs, same.now, same.responses⟩)
      fun _ => keepsRows_insertRevision _ start

theorem keepsRows_applyContractEdits (runId : RunId) (edits : JsonObject) :
    KeepsRows (TeachingPackControlStore.applyContractEdits runId edits) := fun start =>
  Session.keeps_bind (keepsRows_requireContract _ start) fun _ =>
    Session.keeps_bind (keepsRows_reviseContract _ start) fun _ => Session.keeps_pure _

theorem keepsRows_getContractJson (runId : RunId) :
    KeepsRows (TeachingPackControlStore.getContractJson runId) := fun start =>
  Session.keeps_bind (keepsRows_requireContract _ start) fun _ => Session.keeps_pure _

theorem revisions_of_onGates {body : GateSession α} {after : ControlDb} {answer : α}
    (ret : onGates body control = (.ok answer, after)) :
    after.revisions = control.revisions := by
  rcases onGates_eq_ok ret with ⟨_, _, rfl⟩
  rfl

variable {answer : PUnit}

theorem revisions_of_insertRevision {revision : ContractRevision} {after : ControlDb}
    (ret : TeachingPackControlStore.insertRevision revision control = (.ok answer, after)) :
    after.revisions.rows.length = control.revisions.rows.length + 1 ∧
      after.contracts = control.contracts := by
  unfold TeachingPackControlStore.insertRevision at ret
  split at ret
  · split at ret
    · cases ret
    · next revisions inserted =>
      cases ret
      simp [Table.rows_of_insert inserted]
  · cases ret

theorem revisions_of_createContract {payload : RunContractCreate} {after : ControlDb}
    (ret : TeachingPackControlStore.createContract payload control = (.ok answer, after)) :
    after.revisions.rows.length = control.revisions.rows.length + 1 := by
  rcases Session.bind_eq_ok.mp ret with ⟨_, stored, contractEq, revisionEq⟩
  have same : stored.revisions = control.revisions := by
    unfold TeachingPackControlStore.insertContract at contractEq
    split at contractEq
    · split at contractEq
      · cases contractEq
      · cases contractEq
        rfl
    · cases contractEq
  rw [(revisions_of_insertRevision revisionEq).1, same]

/-- What `enqueue` returns and leaves: the job its key already had, or the new
row. -/
inductive JobEnqueued (payload : RunJobCreate) (now : DateTime) (jobs : RunJobs) :
    RunJobRead → RunJobs → Prop
  | known {read : RunJobRead} :
      TeachingPackJobStore.findByIdempotencyKey jobs payload.idempotencyKey = some read →
      JobEnqueued payload now jobs read jobs
  | added {after : RunJobs} :
      TeachingPackJobStore.findByIdempotencyKey jobs payload.idempotencyKey = none →
      after.rows = jobs.rows ++ [payload.row now] →
      JobEnqueued payload now jobs (readJob (payload.row now)) after

variable {now : DateTime} {jobs : RunJobs}

theorem findByIdempotencyKey_append {payload : RunJobCreate} {after : RunJobs}
    (missing : TeachingPackJobStore.findByIdempotencyKey jobs payload.idempotencyKey = none)
    (rows : after.rows = jobs.rows ++ [payload.row now]) :
    TeachingPackJobStore.findByIdempotencyKey after payload.idempotencyKey =
      some (readJob (payload.row now)) := by
  unfold TeachingPackJobStore.findByIdempotencyKey at missing ⊢
  rw [Option.map_eq_none_iff] at missing
  rw [rows, List.find?_append, missing]
  simp [RunJobCreate.row]

variable {read : RunJobRead}

theorem JobEnqueued.found {payload : RunJobCreate} {after : RunJobs}
    (enqueued : JobEnqueued payload now jobs read after) :
    TeachingPackJobStore.findByIdempotencyKey after payload.idempotencyKey = some read := by
  cases enqueued with
  | known found => exact found
  | added missing rows => exact findByIdempotencyKey_append missing rows

theorem enqueued_of_enqueue {payload : RunJobCreate} {after : RunJobs}
    (ret : TeachingPackJobStore.enqueue payload now jobs = .ok (read, after)) :
    JobEnqueued payload now jobs read after := by
  unfold TeachingPackJobStore.enqueue TeachingPackJobStore.getByIdempotencyKey at ret
  split at ret
  · next isKnown =>
    rcases Option.isSome_iff_exists.mp isKnown with ⟨known, found⟩
    rw [found] at ret
    cases ret
    exact .known found
  · next isUnknown =>
    have missing := Option.not_isSome_iff_eq_none.mp isUnknown
    split at ret
    · cases ret
    · next grown inserted =>
      have rows := Table.rows_of_insert inserted
      rw [findByIdempotencyKey_append missing rows] at ret
      cases ret
      exact .added missing rows

theorem enqueueJob_eq_ok {payload : RunJobCreate} {after : ControlDb}
    (ret : onDb (enqueueJob payload) control = (.ok read, after)) :
    JobEnqueued payload control.db.now control.db.jobs read after.db.jobs ∧
      after = { control with gates := { control.gates with
        db := { control.db with jobs := after.db.jobs } } } := by
  rcases onDb_eq_ok ret with ⟨db, enqueued, rfl⟩
  unfold enqueueJob at enqueued
  rw [Session.read_bind] at enqueued
  unfold onJobs at enqueued
  split at enqueued
  · next answer jobs operated =>
    cases enqueued
    exact ⟨enqueued_of_enqueue operated, rfl⟩
  · cases enqueued

/-! ## Created runs -/

namespace SetupReading

/-- Nothing in the reading sends the run to a gate. -/
structure Complete (reading : SetupReading) : Prop where
  missing : reading.missingFields = []
  unsupported : reading.unsupportedValues = []
  conflicts : reading.conflicts = []
  planningReviewReasons : reading.planningReviewReasons = []
  risky : reading.risky = []

end SetupReading

variable {teacherId : String} {reading : SetupReading}

theorem resolveContractSetup_ready {runId : RunId} {contract : BuiltContract}
    (ready : resolveContractSetup runId teacherId reading = .ok (.ready contract)) :
    reading.Complete ∧ contract.runId = runId := by
  unfold resolveContractSetup at ready
  split at ready
  · cases ready
  · next settled =>
    rw [not_or, not_not, not_not] at settled
    cases members : reading.contractMembers with
    | error error =>
      rw [members] at ready
      cases ready
    | ok members =>
      simp only [members, bind, Except.bind, pure, Except.pure] at ready
      split at ready
      · cases ready
      · next noConflict =>
        split at ready
        · cases ready
        · next noReason =>
          split at ready
          · cases ready
          · next noRisk =>
            cases ready
            exact ⟨⟨settled.1, settled.2, not_not.mp noConflict, not_not.mp noReason,
              not_not.mp noRisk⟩, rfl⟩

/-- The run row a creation leaves, in the status the setup decides. -/
def createdRow (ids : CreationIds) (teacherId : String) (reading : SetupReading)
    (status : RunStatus) (now : DateTime) : Run :=
  { TeachingPackRunCreate.row ⟨ids.runId, teacherId, some reading.retentionDays⟩ now with
    status := status }

@[simp] theorem createdRow_runId (ids : CreationIds) (teacherId : String)
    (reading : SetupReading) (status : RunStatus) (now : DateTime) :
    (createdRow ids teacherId reading status now).runId = ids.runId :=
  rfl

@[simp] theorem createdRow_status (ids : CreationIds) (teacherId : String)
    (reading : SetupReading) (status : RunStatus) (now : DateTime) :
    (createdRow ids teacherId reading status now).status = status :=
  rfl

/-- What a creation that returns has added: one run row in every case, and the
job of a ready run, or the cancelled row of the key of a gated one. -/
inductive CreationOutcome (ids : CreationIds) (teacherId : String) (reading : SetupReading)
    (rawRequest requestHash : String) (idempotencyKey : Option String)
    (eligibleAt : Option DateTime) (control : ControlDb) :
    TeachingPackCreateRunResult → ControlDb → Prop
  | started {contract : BuiltContract} {read : RunJobRead} {after : ControlDb} :
      reading.Complete → contract.runId = ids.runId → ¬ control.db.HasRun ids.runId →
      after.db.runs.rows =
        control.db.runs.rows ++ [createdRow ids teacherId reading .pending control.db.now] →
      JobEnqueued (startJobCreate ids contract rawRequest requestHash idempotencyKey eligibleAt)
        control.db.now control.db.jobs read after.db.jobs →
      after.db.now = control.db.now →
      CreationOutcome ids teacherId reading rawRequest requestHash idempotencyKey eligibleAt
        control ⟨read.runId, some read.jobId, .pending, eligibleAt.isSome⟩ after
  | gated {gateName : String} {payload : JsonObject} {contract : Option BuiltContract}
      {after : ControlDb} :
      resolveContractSetup ids.runId teacherId reading = .ok (.gate gateName payload contract) →
      ¬ control.db.HasRun ids.runId →
      after.db.runs.rows = control.db.runs.rows ++
        [createdRow ids teacherId reading .awaitingApproval control.db.now] →
      idempotencyKey = none → after.db.jobs = control.db.jobs →
      after.db.now = control.db.now →
      CreationOutcome ids teacherId reading rawRequest requestHash idempotencyKey eligibleAt
        control ⟨ids.runId, none, .awaitingApproval, false⟩ after
  | recorded {gateName key : String} {payload : JsonObject} {contract : Option BuiltContract}
      {read : RunJobRead} {jobs : RunJobs} {after : ControlDb} :
      resolveContractSetup ids.runId teacherId reading = .ok (.gate gateName payload contract) →
      ¬ control.db.HasRun ids.runId →
      after.db.runs.rows = control.db.runs.rows ++
        [createdRow ids teacherId reading .awaitingApproval control.db.now] →
      idempotencyKey = some key →
      JobEnqueued (blockedJobCreate ids gateName requestHash key) control.db.now control.db.jobs
        read jobs →
      after.db.jobs = (TeachingPackJobStore.cancelRunJobs ids.runId jobs).2 →
      after.db.now = control.db.now →
      CreationOutcome ids teacherId reading rawRequest requestHash idempotencyKey eligibleAt
        control ⟨ids.runId, none, .awaitingApproval, false⟩ after

/-- The rows right after the run row was inserted. -/
structure RunInserted (ids : CreationIds) (teacherId : String) (reading : SetupReading)
    (status : RunStatus) (control after : ControlDb) : Prop where
  fresh : ¬ control.db.HasRun ids.runId
  runs : after.db.runs.rows =
    control.db.runs.rows ++ [createdRow ids teacherId reading status control.db.now]
  jobs : after.db.jobs = control.db.jobs
  now : after.db.now = control.db.now

namespace RunInserted

variable {ids : CreationIds} {teacherId : String} {reading : SetupReading} {status : RunStatus}
  {control between after : ControlDb}

theorem of_createRun {answer : PUnit}
    (ret : onDb (TeachingPackRunStore.createRun
      ⟨ids.runId, teacherId, some reading.retentionDays⟩) control = (.ok answer, after)) :
    RunInserted ids teacherId reading .pending control after := by
  rcases onDb_eq_ok ret with ⟨db, created, rfl⟩
  unfold TeachingPackRunStore.createRun at created
  split at created
  · cases created
  · next runs inserted =>
    cases created
    refine ⟨?_, Table.rows_of_insert inserted, rfl, rfl⟩
    rintro ⟨stored, mem, sameId⟩
    have clash : Run.Conflict stored (TeachingPackRunCreate.row
        ⟨ids.runId, teacherId, some reading.retentionDays⟩ control.db.now) := sameId
    have refused := Table.insert_eq_none_iff.mpr ⟨stored, mem, clash⟩
    exact nomatch refused.symm.trans inserted

theorem of_same (inserted : RunInserted ids teacherId reading status control between)
    (same : SameRows after between) : RunInserted ids teacherId reading status control after :=
  ⟨inserted.fresh, same.runs ▸ inserted.runs, same.jobs.trans inserted.jobs,
    same.now.trans inserted.now⟩

theorem of_transition {stage reason : Option String} {target : RunStatus} {answer : PUnit}
    (inserted : RunInserted ids teacherId reading status control between)
    (ret : onDb (TeachingPackRunStore.transitionStatus ⟨ids.runId, target, stage, reason⟩)
      between = (.ok answer, after)) :
    RunInserted ids teacherId reading target control after := by
  rcases onDb_eq_ok ret with ⟨db, transitioned, rfl⟩
  have same := transitionStatus_eq_ok transitioned
  refine ⟨inserted.fresh, ?_, same.jobs.trans inserted.jobs, same.now.trans inserted.now⟩
  have others : ∀ run ∈ control.db.runs.rows,
      Table.changeSelected (fun run => run.runId == ids.runId)
        (TeachingPackRunStore.setStatus target) run = run := by
    intro run mem
    have different : run.runId ≠ ids.runId := fun sameId => inserted.fresh ⟨run, mem, sameId⟩
    simp [Table.changeSelected, different]
  have changed : db.runs.rows = between.db.runs.rows.map
      (Table.changeSelected (fun run => run.runId == ids.runId)
        (TeachingPackRunStore.setStatus target)) := congrArg Table.rows same.runs
  rw [changed, inserted.runs, List.map_append, List.map_congr_left others]
  simp [Table.changeSelected, createdRow, TeachingPackRunCreate.row,
    TeachingPackRunStore.setStatus]

end RunInserted

variable {ids : CreationIds}

theorem openSetupGate_eq_ok {gateName : String} {gatePayload : JsonObject}
    {contract : Option BuiltContract} {between after : ControlDb}
    (inserted : RunInserted ids teacherId reading .pending control between)
    (ret : openSetupGate ids gateName gatePayload contract between = (.ok answer, after)) :
    RunInserted ids teacherId reading .awaitingApproval control after := by
  have stored : KeepsRows (createSetupContract ids.runId contract) := by
    cases contract with
    | none => exact fun _ _ same => same
    | some contract => exact keepsRows_createContract _
  rcases Session.bind_eq_ok.mp ret with ⟨_, first, contractEq, ret⟩
  rcases Session.bind_eq_ok.mp ret with ⟨_, second, gateEq, ret⟩
  rcases Session.bind_eq_ok.mp ret with ⟨_, third, transitionEq, ret⟩
  rcases Session.bind_eq_ok.mp ret with ⟨_, fourth, eventEq, ret⟩
  cases ret
  have opened := (inserted.of_same (stored.of_returned contractEq)).of_same
    ((keepsRows_openGate _).of_returned gateEq)
  exact (opened.of_transition transitionEq).of_same
    ((keepsRows_writeEvent _).of_returned eventEq)

variable {rawRequest requestHash : String} {idempotencyKey : Option String}
  {eligibleAt : Option DateTime}

theorem revisions_of_createTeachingPackRunRecord {after : ControlDb}
    {result : TeachingPackCreateRunResult}
    (ret : createTeachingPackRunRecord ids teacherId reading rawRequest requestHash
      idempotencyKey eligibleAt control = (.ok result, after)) :
    after.revisions.rows.length ≤ control.revisions.rows.length + 1 := by
  rcases Session.bind_eq_ok.mp ret with ⟨_, created, createEq, choosing⟩
  rcases Session.bind_eq_ok.mp choosing with ⟨setup, between, setupEq, creating⟩
  have start : between.revisions = control.revisions :=
    (revisions_of_onGates setupEq).trans (revisions_of_onGates createEq)
  cases setup with
  | ready contract =>
    rcases Session.bind_eq_ok.mp creating with ⟨_, second, contractEq, writing⟩
    rcases Session.bind_eq_ok.mp writing with ⟨_, third, eventEq, enqueuing⟩
    rcases Session.bind_eq_ok.mp enqueuing with ⟨read, fourth, enqueueEq, ending⟩
    cases ending
    rw [revisions_of_onGates enqueueEq, revisions_of_onGates eventEq,
      revisions_of_createContract contractEq, start]
  | gate gateName payload contract =>
    rcases Session.bind_eq_ok.mp creating with ⟨_, gated, gateEq, keying⟩
    rcases Session.bind_eq_ok.mp keying with ⟨_, kept, keyEq, ending⟩
    cases ending
    have keyed : after.revisions = gated.revisions := by
      cases idempotencyKey with
      | none =>
        cases keyEq
        rfl
      | some key =>
        rcases Session.bind_eq_ok.mp keyEq with ⟨_, queued, enqueueEq, cancelling⟩
        rcases Session.bind_eq_ok.mp cancelling with ⟨_, cancelled, cancelEq, ending⟩
        cases ending
        exact (revisions_of_onGates cancelEq).trans (revisions_of_onGates enqueueEq)
    rcases Session.bind_eq_ok.mp gateEq with ⟨_, first, contractEq, opening⟩
    rcases Session.bind_eq_ok.mp opening with ⟨_, second, openEq, transitioning⟩
    rcases Session.bind_eq_ok.mp transitioning with ⟨_, third, transitionEq, writing⟩
    rcases Session.bind_eq_ok.mp writing with ⟨_, fourth, eventEq, ending⟩
    cases ending
    rw [keyed, revisions_of_onGates eventEq, revisions_of_onGates transitionEq,
      revisions_of_onGates openEq]
    cases contract with
    | none =>
      cases contractEq
      rw [start]
      exact Nat.le_succ _
    | some contract => rw [revisions_of_createContract contractEq, start]

/-- A computation that leaves the responses as they are in a given state. -/
abbrev KeepsResponses {α : Type} (start : ControlDb) (body : ControlSession α) : Prop :=
  Session.Keeps (fun control => control.gates.responses = start.gates.responses) body

theorem keepsResponses_of_keepsRows {body : ControlSession α} (keeps : KeepsRows body)
    (start : ControlDb) : KeepsResponses start body := fun control same =>
  (keeps control control (.refl control)).responses.trans same

theorem keepsResponses_onDb (body : DbSession α) (start : ControlDb) :
    KeepsResponses start (onDb body) :=
  fun _ same => same

theorem keepsResponses_createTeachingPackRunRecord (start : ControlDb) :
    KeepsResponses start (createTeachingPackRunRecord ids teacherId reading rawRequest
      requestHash idempotencyKey eligibleAt) := by
  have contractKeeps (payload : RunContractCreate) :=
    keepsResponses_of_keepsRows (keepsRows_createContract payload) start
  have gateKeeps (payload : TeachingPackGateCreate) :=
    keepsResponses_of_keepsRows (keepsRows_openGate payload) start
  refine Session.keeps_bind (keepsResponses_onDb _ start) fun _ =>
    Session.keeps_bind (keepsResponses_onDb _ start) fun setup => ?_
  cases setup with
  | ready contract =>
    exact Session.keeps_bind (contractKeeps _) fun _ =>
      Session.keeps_bind (keepsResponses_onDb _ start) fun _ =>
        Session.keeps_bind (keepsResponses_onDb _ start) fun _ => Session.keeps_pure _
  | gate gateName payload contract =>
    have setupKeeps : KeepsResponses start (createSetupContract ids.runId contract) := by
      cases contract with
      | none => exact Session.keeps_pure _
      | some contract => exact contractKeeps _
    have keyKeeps :
        KeepsResponses start (recordBlockedKey ids gateName requestHash idempotencyKey) := by
      cases idempotencyKey with
      | none => exact Session.keeps_pure _
      | some key =>
        exact Session.keeps_bind (keepsResponses_onDb _ start) fun _ =>
          Session.keeps_bind (keepsResponses_onDb _ start) fun _ => Session.keeps_pure _
    have openKeeps : KeepsResponses start (openSetupGate ids gateName payload contract) :=
      Session.keeps_bind setupKeeps fun _ => Session.keeps_bind (gateKeeps _) fun _ =>
        Session.keeps_bind (keepsResponses_onDb _ start) fun _ =>
          Session.keeps_bind (keepsResponses_onDb _ start) fun _ => Session.keeps_pure _
    exact Session.keeps_bind openKeeps fun _ => Session.keeps_bind keyKeeps fun _ =>
      Session.keeps_pure _

theorem createTeachingPackRunRecord_eq_ok {after : ControlDb} {result : TeachingPackCreateRunResult}
    (ret : createTeachingPackRunRecord ids teacherId reading rawRequest requestHash
      idempotencyKey eligibleAt control = (.ok result, after)) :
    CreationOutcome ids teacherId reading rawRequest requestHash idempotencyKey eligibleAt
      control result after := by
  rcases Session.bind_eq_ok.mp ret with ⟨_, created, createEq, ret⟩
  rcases Session.bind_eq_ok.mp ret with ⟨setup, between, setupEq, ret⟩
  have inserted := (RunInserted.of_createRun createEq).of_same
    ((keepsRows_call _).of_returned setupEq)
  rcases onDb_eq_ok setupEq with ⟨db, called, _⟩
  have resolved := (Session.call_eq_ok.mp called).1
  cases setup with
  | ready contract =>
    rcases resolveContractSetup_ready resolved with ⟨complete, sameRun⟩
    rcases Session.bind_eq_ok.mp ret with ⟨_, second, contractEq, ret⟩
    rcases Session.bind_eq_ok.mp ret with ⟨_, third, eventEq, ret⟩
    rcases Session.bind_eq_ok.mp ret with ⟨read, fourth, enqueueEq, ret⟩
    cases ret
    have accepted := (inserted.of_same
      ((keepsRows_createContract _).of_returned contractEq)).of_same
        ((keepsRows_writeEvent _).of_returned eventEq)
    rcases enqueueJob_eq_ok enqueueEq with ⟨enqueued, afterEq⟩
    rw [accepted.now, accepted.jobs] at enqueued
    have runsEq : after.db.runs = third.db.runs := by rw [afterEq]
    have nowEq : after.db.now = third.db.now := by rw [afterEq]
    exact .started complete sameRun accepted.fresh (runsEq ▸ accepted.runs) enqueued
      (nowEq.trans accepted.now)
  | gate gateName payload contract =>
    rcases Session.bind_eq_ok.mp ret with ⟨_, gated, gateEq, ret⟩
    rcases Session.bind_eq_ok.mp ret with ⟨_, kept, keyEq, ret⟩
    cases ret
    have opened := openSetupGate_eq_ok inserted gateEq
    cases idempotencyKey with
    | none =>
      cases keyEq
      exact .gated resolved opened.fresh opened.runs rfl opened.jobs opened.now
    | some key =>
      rcases Session.bind_eq_ok.mp keyEq with ⟨read, queued, enqueueEq, keyEq⟩
      rcases Session.bind_eq_ok.mp keyEq with ⟨_, cancelled, cancelEq, keyEq⟩
      cases keyEq
      rcases enqueueJob_eq_ok enqueueEq with ⟨enqueued, queuedEq⟩
      rw [opened.now, opened.jobs] at enqueued
      have runsEq : queued.db.runs = gated.db.runs := by rw [queuedEq]
      have nowEq : queued.db.now = gated.db.now := by rw [queuedEq]
      rcases onDb_eq_ok cancelEq with ⟨db, cancelled, rfl⟩
      cases cancelled
      exact .recorded resolved opened.fresh (runsEq ▸ opened.runs) rfl enqueued rfl
        (nowEq.trans opened.now)

end OhMyClass.Gateway
