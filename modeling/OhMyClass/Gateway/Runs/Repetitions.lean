import OhMyClass.Gateway.Runs.Outcomes

/-!
# Repeated run commands

A command sent with an idempotency key is remembered by a job row under that
key.  The three endpoints differ in what they do before that row is inserted.
-/

namespace OhMyClass.Gateway

open OhMyClass.Transition
open TeachingPackJobStore (findByIdempotencyKey)
open Table ControlDb Session TeachingPackControlStore Command

/-- The numbers of rows a run command adds to. -/
structure RowCounts where
  runs : Nat
  responses : Nat
  contractRevisions : Nat
  jobs : Nat
  deriving DecidableEq

def ControlDb.rowCounts (control : ControlDb) : RowCounts where
  runs := control.db.runs.rows.length
  responses := control.gates.responses.rows.length
  contractRevisions := control.revisions.rows.length
  jobs := control.db.jobs.rows.length

/-- What one command may add: so many runs and responses, at most so many
contract revisions, and one job. -/
structure RowCounts.Adds (runs responses revisions : Nat) (before after : RowCounts) : Prop where
  runs : after.runs = before.runs + runs
  responses : after.responses = before.responses + responses
  contractRevisions : after.contractRevisions ≤ before.contractRevisions + revisions
  jobs : after.jobs = before.jobs + 1

theorem RowCounts.Adds.changed {runs responses revisions : Nat} {before after : RowCounts}
    (adds : RowCounts.Adds runs responses revisions before after) :
    after ≠ before ∧ RowCounts.Adds runs responses revisions before after := by
  refine ⟨?_, adds⟩
  rintro rfl
  exact absurd adds.jobs (Nat.succ_ne_self _).symm

/-- The job under a key, enqueued for a body, gives an answer. -/
def RecordedJob {α : Type} (key requestHash : String) (answer : RunJobRead → α) (given : α)
    (control : ControlDb) : Prop :=
  ∃ job, findByIdempotencyKey control.db.jobs key = some job ∧
    textMember job.payload "request_hash" = some requestHash ∧ answer job = given

theorem RecordedJob.replayed {α : Type} {key requestHash : String} {answer : RunJobRead → α}
    {given : α} {control : ControlDb}
    (recorded : RecordedJob key requestHash answer given control) :
    (findByIdempotencyKey control.db.jobs key).map (replayAnswer requestHash answer) =
      some (.ok given) := by
  rcases recorded with ⟨job, found, sameHash, rfl⟩
  simp only [found, Option.map_some, replayAnswer, sameHash, ne_eq, not_true_eq_false, if_false]

variable {payload : RunJobCreate} {now : DateTime} {jobs : RunJobs} {read : RunJobRead}

theorem JobEnqueued.recorded {α : Type} {after : ControlDb}
    (enqueued : JobEnqueued payload now jobs read after.db.jobs) (requestHash : String)
    (answer : RunJobRead → α) (missing : findByIdempotencyKey jobs payload.idempotencyKey = none)
    (hashed : textMember payload.payload "request_hash" = some requestHash) :
    RecordedJob payload.idempotencyKey requestHash answer (answer read) after := by
  have found := enqueued.found
  cases enqueued with
  | known known => exact nomatch missing.symm.trans known
  | added _ _ => exact ⟨_, found, hashed, rfl⟩

theorem JobEnqueued.rows_of_missing {after : RunJobs}
    (enqueued : JobEnqueued payload now jobs read after)
    (missing : findByIdempotencyKey jobs payload.idempotencyKey = none) :
    after.rows = jobs.rows ++ [payload.row now] := by
  cases enqueued with
  | known known => exact nomatch missing.symm.trans known
  | added _ rows => exact rows

theorem JobEnqueued.read_of_missing {after : RunJobs}
    (enqueued : JobEnqueued payload now jobs read after)
    (missing : findByIdempotencyKey jobs payload.idempotencyKey = none) :
    read = readJob (payload.row now) := by
  cases enqueued with
  | known known => exact nomatch missing.symm.trans known
  | added _ _ => rfl

theorem findByIdempotencyKey_cancelRunJobs (runId : RunId) (jobs : RunJobs) (key : String) :
    findByIdempotencyKey (TeachingPackJobStore.cancelRunJobs runId jobs).2 key =
      (jobs.rows.find? fun job => job.idempotencyKey == key).map fun job =>
        readJob (changeSelected
          (fun job => job.runId == runId && decide job.status.IsLive)
          (RunJob.release .cancelled) job) := by
  unfold findByIdempotencyKey TeachingPackJobStore.cancelRunJobs RunJobs.change Table.update
  rw [List.find?_map, Option.map_map]
  congr 2
  funext job
  rw [Function.comp_apply, changeSelected_frame RunJob.idempotencyKey rfl]

theorem rows_cancelRunJobs_length (runId : RunId) (jobs : RunJobs) :
    (TeachingPackJobStore.cancelRunJobs runId jobs).2.rows.length = jobs.rows.length :=
  List.length_map _

theorem RecordedJob.of_cancelled {requestHash : String} {runId : RunId} {key : String}
    {after : ControlDb} {given : TeachingPackRunAcceptedResponse}
    (found : findByIdempotencyKey jobs key = some read)
    (cancelled : after.db.jobs = (TeachingPackJobStore.cancelRunJobs runId jobs).2)
    (hashed : textMember read.payload "request_hash" = some requestHash)
    (answer : recordedRun read = given) :
    RecordedJob key requestHash recordedRun given after := by
  rcases Option.map_eq_some_iff.mp found with ⟨job, stored, rfl⟩
  refine ⟨readJob (changeSelected
    (fun job => job.runId == runId && decide job.status.IsLive)
    (RunJob.release .cancelled) job), ?_, ?_, ?_⟩
  · rw [cancelled, findByIdempotencyKey_cancelRunJobs, stored]
    rfl
  · unfold readJob
    rw [changeSelected_frame RunJob.payload rfl]
    exact hashed
  · unfold recordedRun readJob
    rw [changeSelected_frame RunJob.payload rfl, changeSelected_frame RunJob.runId rfl,
      changeSelected_frame RunJob.jobId rfl]
    exact answer

namespace RunServices

variable (services : RunServices)

section Revision

variable {runId : RunId} {teacherId artifactId : String}
  {request : TeachingPackArtifactRevisionRequest} {key drawn : String}

theorem recording_requestArtifactRevision :
    (services.requestArtifactRevision runId teacherId artifactId (.ok ()) request (some key)
      drawn).Recording rowCounts (RowCounts.Adds 0 0 0) (fun _ _ => True)
      (RecordedJob (services.scopedResumeIdempotencyKey runId teacherId key)
        (services.revisionRequestHash artifactId request) (recordedRevision artifactId)) where
  found recorded := recorded.replayed
  first := by
    intro jobId _ control after answer missing _ _ ret
    have unrecorded : findByIdempotencyKey control.db.jobs
        (services.scopedResumeIdempotencyKey runId teacherId key) = none :=
      Option.map_eq_none_iff.mp missing
    rcases Session.bind_eq_ok.mp ret with ⟨read, between, enqueueEq, ret⟩
    cases ret
    rcases enqueueJob_eq_ok enqueueEq with ⟨enqueued, afterEq⟩
    have recorded := enqueued.recorded (services.revisionRequestHash artifactId request)
      (recordedRevision artifactId) unrecorded rfl
    refine ⟨recorded, RowCounts.Adds.changed ?_⟩
    have jobsEq := congrArg List.length (enqueued.rows_of_missing unrecorded)
    rw [List.length_append] at jobsEq
    rw [afterEq] at jobsEq ⊢
    exact ⟨rfl, rfl, Nat.le_refl _, jobsEq⟩
  again := by
    intro jobId _ control after answer repeated recorded _ _ ret
    rcases Session.bind_eq_ok.mp ret with ⟨read, between, enqueueEq, ret⟩
    cases ret
    rcases enqueueJob_eq_ok enqueueEq with ⟨enqueued, afterEq⟩
    have stored := recorded
    rcases recorded with ⟨job, found, _, rfl⟩
    generalize after.db.jobs = jobs at enqueued afterEq
    cases enqueued with
    | known known =>
      cases found.symm.trans known
      rw [afterEq]
      exact ⟨rfl, stored, rfl⟩
    | added unknown => exact nomatch found.symm.trans unknown

end Revision

/-! ## Creating a run -/

section Creation

variable {config : BackpressureConfig} {teacherId key : String}
  {request : TeachingPackCreateRunRequest}

/-- The key is not recorded when the copy inserts, and a run that starts at once
is not queued. -/
def CreatesAlone (teacherId : String) (request : TeachingPackCreateRunRequest) (key : String)
    (bp : BackpressureResult) (control : ControlDb) : Prop :=
  findByIdempotencyKey control.db.jobs (services.scopedCreateIdempotencyKey teacherId key) =
      none ∧
    ((services.readRequest request).Complete → bp.eligibleAt = none)

theorem recording_createTeachingPackRun
    (accepted : services.enforcePayloadSizeLimits request = .ok ()) :
    (services.createTeachingPackRun config teacherId request (some key)).Recording
      rowCounts (RowCounts.Adds 1 0 1) (services.CreatesAlone teacherId request key)
      (RecordedJob (services.scopedCreateIdempotencyKey teacherId key)
        (services.createRequestHash request) recordedRun) where
  found recorded := by
    simp only [createTeachingPackRun, accepted]
    exact recorded.replayed
  first := by
    intro ids bp control after answer _ _ safe ret
    rcases Session.bind_eq_ok.mp ret with ⟨result, between, createEq, ret⟩
    cases ret
    have outcome := createTeachingPackRunRecord_eq_ok createEq
    have responsesEq : after.gates.responses = control.gates.responses :=
      (keepsResponses_createTeachingPackRunRecord control).holds_after createEq rfl
    have adds {status : RunStatus} (runs : after.db.runs.rows = control.db.runs.rows ++
        [createdRow ids teacherId (services.readRequest request) status control.db.now])
        (jobs : after.db.jobs.rows.length = control.db.jobs.rows.length + 1) :
        RowCounts.Adds 1 0 1 control.rowCounts after.rowCounts :=
      ⟨by simp [rowCounts, runs], by simp [rowCounts, responsesEq],
        revisions_of_createTeachingPackRunRecord createEq, jobs⟩
    cases outcome with
    | started complete _ _ runs enqueued =>
      have recorded := enqueued.recorded (services.createRequestHash request) recordedRun
        safe.1 rfl
      refine ⟨?_, (adds runs ?_).changed⟩
      swap
      · simp [enqueued.rows_of_missing safe.1]
      rw [enqueued.read_of_missing safe.1] at recorded
      rw [safe.2 complete, enqueued.read_of_missing safe.1]
      exact recorded
    | gated _ _ _ noKey => cases noKey
    | recorded _ _ runs isKey enqueued cancelled =>
      cases isKey
      have found := enqueued.found
      rw [enqueued.read_of_missing safe.1] at found
      refine ⟨.of_cancelled found cancelled rfl rfl, (adds runs ?_).changed⟩
      simp [cancelled, rows_cancelRunJobs_length, enqueued.rows_of_missing safe.1]
  again := by
    intro ids bp control after answer repeated recorded _ safe _
    rcases recorded with ⟨job, found, _⟩
    exact nomatch safe.1.symm.trans found

end Creation

/-! ## Answering a gate -/

section Answer

variable {runId : RunId} {teacherId key : String} {request : TeachingPackResumeRequest}

/-- The contract after the edits of an answer. -/
def confirmedContract (action : TeachingPackGateAction) (response contractJson : JsonObject) :
    JsonObject :=
  match services.confirmedEdits action response with
  | none => contractJson
  | some edits =>
    mergeMembers contractJson (edits.filter fun member => editableContractFields.contains member.1)

/-- The contract of the run needs no confirmed search plan after the answer. -/
def SkipsSearchPlan (runId : RunId) (request : TeachingPackResumeRequest) (opened : OpenGate)
    (control : ControlDb) : Prop :=
  opened.gateName = .contractConfirmation →
    ∀ contract ∈ control.contracts.rows.find? fun row => row.runId == runId,
      ∀ plan, services.planSearch (services.confirmedContract opened.action request.response
        contract.contractJson) = .ok plan → plan.requiresConfirmation = false

variable {control after : ControlDb}

theorem recordResponse_eq_ok {gate : GateInterrupt} {payload : GateResponseCreate} {answer : PUnit}
    (ret : onGates (TeachingPackControlStore.recordResponse gate payload) control =
      (.ok answer, after)) :
    (∀ stored ∈ control.gates.responses.rows, stored.gateId ≠ payload.gateId) ∧
      after.gates.responses.rows =
        control.gates.responses.rows ++ [payload.row control.db.now] ∧
      after.db.jobs = control.db.jobs ∧ after.db.runs = control.db.runs ∧
      after.contracts = control.contracts ∧ after.revisions = control.revisions := by
  rcases onGates_eq_ok ret with ⟨gates, recorded, rfl⟩
  unfold TeachingPackControlStore.recordResponse at recorded
  rw [read_bind, write_bind] at recorded
  unfold TeachingPackControlStore.insertResponse at recorded
  split at recorded
  · split at recorded
    · cases recorded
    · next responses inserted =>
      cases recorded
      refine ⟨fun stored mem sameGate => ?_, rows_of_insert inserted, rfl, rfl, rfl, rfl⟩
      have clash : GateResponse.Conflict stored (payload.row control.db.now) := .inr sameGate
      have refused := insert_eq_none_iff.mpr ⟨stored, mem, clash⟩
      exact nomatch refused.symm.trans inserted
  · cases recorded

theorem requireContract_eq_ok {selected : RunContract → Bool} {contract : RunContract}
    (ret : TeachingPackControlStore.requireContract selected control =
      (.ok contract, after)) :
    control.contracts.rows.find? selected = some contract ∧ after = control := by
  unfold TeachingPackControlStore.requireContract at ret
  split at ret
  · cases ret
  · next found =>
    cases ret
    exact ⟨found, rfl⟩

theorem reviseContract_eq_ok {payload : ContractRevisionCreate} {answer : PUnit}
    (ret : TeachingPackControlStore.reviseContract payload control = (.ok answer, after)) :
    ∃ contract ∈ control.contracts.rows, contract.contractId = payload.contractId ∧
      after.contracts.rows = control.contracts.rows.map
        (changeSelected (fun row => row.contractId == contract.contractId)
          (reviseRow payload)) ∧
      after.revisions.rows.length = control.revisions.rows.length + 1 := by
  rcases Session.bind_eq_ok.mp ret with ⟨contract, first, requireEq, written⟩
  rcases requireContract_eq_ok requireEq with ⟨found, firstEq⟩
  rw [firstEq] at written
  have selected := List.find?_some found
  rw [Bool.and_eq_true] at selected
  rcases revisions_of_insertRevision written with ⟨one, sameContracts⟩
  exact ⟨contract, List.mem_of_find?_eq_some found, beq_iff_eq.mp selected.1,
    congrArg Table.rows sameContracts, one⟩

theorem applyContractEdits_eq_ok {edits : JsonObject} {revision : Int}
    (ret : TeachingPackControlStore.applyContractEdits runId edits control =
      (.ok revision, after)) :
    ∃ contract edited,
      control.contracts.rows.find? (fun row => row.runId == runId) = some contract ∧
      after.contracts.rows.find? (fun row => row.runId == runId) = some edited ∧
      edited.contractJson = mergeMembers contract.contractJson
        (edits.filter fun member => editableContractFields.contains member.1) ∧
      after.revisions.rows.length = control.revisions.rows.length + 1 := by
  rcases Session.bind_eq_ok.mp ret with ⟨contract, first, requireEq, edited⟩
  rcases requireContract_eq_ok requireEq with ⟨found, firstEq⟩
  rw [firstEq] at edited
  rcases Session.bind_eq_ok.mp edited with ⟨_, second, reviseEq, final⟩
  cases final
  rcases reviseContract_eq_ok reviseEq with ⟨revised, _, sameId, rows, one⟩
  refine ⟨contract, reviseRow ⟨contract.contractId, runId,
    contract.currentRevision + 1, mergeMembers contract.contractJson
      (edits.filter fun member => editableContractFields.contains member.1)⟩ contract,
    found, ?_, rfl, one⟩
  have sameRun : (fun row : RunContract => row.runId == runId) ∘ changeSelected
      (fun row => row.contractId == revised.contractId)
      (reviseRow ⟨contract.contractId, runId,
        contract.currentRevision + 1, mergeMembers contract.contractJson
          (edits.filter fun member => editableContractFields.contains member.1)⟩) =
      fun row => row.runId == runId := by
    funext row
    rw [Function.comp_apply, changeSelected_frame RunContract.runId rfl]
  rw [rows, List.find?_map, sameRun, found, Option.map_some, changeSelected, sameId]
  simp only [beq_self_eq_true, if_true]

variable {opened : OpenGate}

theorem applyConfirmation_eq_ok {payload answered : JsonObject}
    (confirmation : opened.gateName = .contractConfirmation)
    (ret : services.applyConfirmation runId opened request.response payload control =
      (.ok answered, after)) {stored : RunContract}
    (isStored : after.contracts.rows.find? (fun row => row.runId == runId) = some stored) :
    ∃ contract, control.contracts.rows.find? (fun row => row.runId == runId) = some contract ∧
      stored.contractJson = services.confirmedContract opened.action request.response
        contract.contractJson := by
  unfold applyConfirmation at ret
  rw [if_pos confirmation] at ret
  unfold confirmedContract
  cases edits : services.confirmedEdits opened.action request.response with
  | none =>
    rw [edits] at ret
    cases ret
    exact ⟨stored, isStored, rfl⟩
  | some edits' =>
    rw [edits] at ret
    rcases Session.bind_eq_ok.mp ret with ⟨revision, second, editEq, final⟩
    cases final
    rcases applyContractEdits_eq_ok editEq with ⟨contract, edited, found, isEdited, merged, _⟩
    cases isEdited.symm.trans isStored
    exact ⟨contract, found, merged⟩

theorem revisions_of_applyConfirmation {response payload answered : JsonObject}
    (ret : services.applyConfirmation runId opened response payload control =
      (.ok answered, after)) :
    after.revisions.rows.length ≤ control.revisions.rows.length + 1 := by
  unfold applyConfirmation at ret
  split at ret
  · cases edits : services.confirmedEdits opened.action response with
    | none =>
      rw [edits] at ret
      cases ret
      exact Nat.le_succ _
    | some edits' =>
      rw [edits] at ret
      rcases Session.bind_eq_ok.mp ret with ⟨revision, second, editEq, final⟩
      cases final
      rcases applyContractEdits_eq_ok editEq with ⟨_, _, _, _, _, one⟩
      exact one.le
  · cases ret
    exact Nat.le_succ _

theorem keepsRows_applyConfirmation (opened : OpenGate) (response payload : JsonObject) :
    KeepsRows (services.applyConfirmation runId opened response payload) := by
  intro start
  unfold applyConfirmation
  split
  · split
    · exact keeps_pure _
    · exact keeps_bind (keepsRows_applyContractEdits _ _ start) fun _ =>
        keeps_pure _
  · exact keeps_pure _

theorem keepsRows_prepareSearchPlanGate (gateId : String) (runId : RunId) (plan : SearchPlan) :
    KeepsRows (prepareSearchPlanGate gateId runId plan) := by
  intro start
  unfold prepareSearchPlanGate
  split
  · exact keeps_bind (keepsRows_writeEvent _ start) fun _ => keeps_pure _
  · exact keeps_bind (keepsRows_openGate _ start) fun _ =>
      keeps_bind (keepsRows_writeEvent _ start) fun _ => keeps_pure _

theorem keepsRows_openSearchPlanGateIfRequired (gateId : String) (contractJson : JsonObject) :
    KeepsRows (services.openSearchPlanGateIfRequired gateId runId contractJson) := fun start =>
  keeps_bind (keepsRows_call _ start) fun plan =>
    keepsRows_prepareSearchPlanGate gateId runId plan start

theorem keepsRows_jobAfterAnswer (gateId : String) (gateName : TeachingPackGateName) :
    KeepsRows (services.jobAfterAnswer gateId runId gateName) := by
  intro start
  unfold jobAfterAnswer
  split
  · refine keeps_bind (keepsRows_getContractJson runId start) fun contractJson => ?_
    refine keeps_bind
      (services.keepsRows_openSearchPlanGateIfRequired gateId contractJson start) fun opened => ?_
    cases opened
    · exact keeps_pure _
    · exact keeps_pure _
  · exact keeps_bind (keepsRows_getContractJson runId start) fun _ =>
      keeps_pure _
  · exact keeps_pure _

variable {gateId : String} {gateName : TeachingPackGateName}

theorem revisions_of_jobAfterAnswer (start : ControlDb) :
    Session.Keeps (fun control => control.revisions = start.revisions)
      (services.jobAfterAnswer gateId runId gateName) := by
  have gates {α : Type} (body : GateSession α) :
      Session.Keeps (fun control => control.revisions = start.revisions) (onGates body) :=
    fun _ same => same
  have reads : Session.Keeps (fun control => control.revisions = start.revisions)
      (getContractJson runId) := by
    refine keeps_bind (fun control same => ?_) fun _ => keeps_pure _
    rw [TeachingPackControlStore.requireContract.eq_def]
    cases control.contracts.rows.find? fun row => row.runId == runId with
    | none => exact same
    | some contract => exact same
  have prepares (plan : SearchPlan) :
      Session.Keeps (fun control => control.revisions = start.revisions)
        (prepareSearchPlanGate gateId runId plan) := by
    unfold prepareSearchPlanGate
    by_cases skipped : plan.requiresConfirmation = false
    · rw [if_pos skipped]
      exact keeps_bind (gates _) fun _ => keeps_pure _
    · rw [if_neg skipped]
      exact keeps_bind (gates _) fun _ => keeps_bind (gates _) fun _ =>
        keeps_pure _
  unfold jobAfterAnswer
  split
  · refine keeps_bind reads fun contractJson => keeps_bind
      (keeps_bind (gates _) prepares) fun opened => ?_
    cases opened
    · exact keeps_pure _
    · exact keeps_pure _
  · exact keeps_bind reads fun _ => keeps_pure _
  · exact keeps_pure _

theorem prepareSearchPlanGate_eq_true {plan : SearchPlan}
    (ret : prepareSearchPlanGate gateId runId plan control = (.ok true, after)) :
    plan.requiresConfirmation = true := by
  unfold prepareSearchPlanGate at ret
  split at ret
  · rcases Session.bind_eq_ok.mp ret with ⟨_, _, _, final⟩
    cases final
  · next required => exact Bool.eq_true_of_not_eq_false required

theorem jobAfterAnswer_eq_none
    (ret : services.jobAfterAnswer gateId runId gateName control = (.ok none, after)) :
    gateName = .contractConfirmation ∧ ∃ contract plan,
      control.contracts.rows.find? (fun row => row.runId == runId) = some contract ∧
      services.planSearch contract.contractJson = .ok plan ∧
      plan.requiresConfirmation = true := by
  unfold jobAfterAnswer at ret
  split at ret
  · rcases Session.bind_eq_ok.mp ret with ⟨contractJson, first, readEq, opening⟩
    rcases Session.bind_eq_ok.mp readEq with ⟨contract, _, requireEq, final⟩
    rcases requireContract_eq_ok requireEq with ⟨found, firstEq⟩
    cases final
    rcases Session.bind_eq_ok.mp opening with ⟨isOpened, second, openEq, final⟩
    cases isOpened with
    | false => cases final
    | true =>
      rcases Session.bind_eq_ok.mp openEq with ⟨plan, _, planEq, prepareEq⟩
      rcases onDb_eq_ok planEq with ⟨db, called, _⟩
      exact ⟨rfl, contract, plan, found, (call_eq_ok.mp called).1,
        prepareSearchPlanGate_eq_true prepareEq⟩
  · rcases Session.bind_eq_ok.mp ret with ⟨_, _, _, final⟩
    cases final
  · cases ret

/-- The job of an answer is stored and the gate has its response. -/
def RecordedResponse (runId : RunId) (teacherId key gateId requestHash : String)
    (given : TeachingPackResumeAcceptedResponse) (control : ControlDb) : Prop :=
  RecordedJob (services.scopedResumeIdempotencyKey runId teacherId key) requestHash
      recordedAnswer given control ∧
    ∃ response ∈ control.gates.responses.rows, response.gateId = gateId

theorem answerGate_eq_ok {ids : ResumeIds} {answer : TeachingPackResumeAcceptedResponse}
    (ret : services.answerGate runId teacherId request (some key) ids opened control =
      (.ok answer, after)) :
    (∀ stored ∈ control.gates.responses.rows, stored.gateId ≠ request.gateId) ∧
      (findByIdempotencyKey control.db.jobs
          (services.scopedResumeIdempotencyKey runId teacherId key) = none →
        services.SkipsSearchPlan runId request opened control →
        services.RecordedResponse runId teacherId key request.gateId
            (services.resumeRequestHash request opened.action) answer after ∧
          RowCounts.Adds 0 1 1 control.rowCounts after.rowCounts) := by
  rcases Session.bind_eq_ok.mp ret with ⟨_, responded, recordEq, confirming⟩
  rcases recordResponse_eq_ok recordEq with
    ⟨unanswered, responses, sameJobs, sameRuns, sameContracts, sameRevisions⟩
  refine ⟨unanswered, fun unrecorded skips => ?_⟩
  rcases Session.bind_eq_ok.mp confirming with ⟨payload, confirmed, confirmEq, choosing⟩
  rcases Session.bind_eq_ok.mp choosing with ⟨chosen, prepared, chooseEq, enqueuing⟩
  have kept := ((services.keepsRows_jobAfterAnswer ids.gateId opened.gateName).of_returned
    chooseEq).trans ((services.keepsRows_applyConfirmation opened _ _).of_returned confirmEq)
  cases chosen with
  | none =>
    rcases services.jobAfterAnswer_eq_none chooseEq with
      ⟨confirmation, stored, plan, found, planned, required⟩
    rcases services.applyConfirmation_eq_ok confirmation confirmEq found with
      ⟨contract, before, edited⟩
    rw [sameContracts] at before
    rw [edited] at planned
    have skipped := skips confirmation contract before plan planned
    exact nomatch required.symm.trans skipped
  | some job =>
    rcases Session.bind_eq_ok.mp enqueuing with ⟨read, final, enqueueEq, ending⟩
    cases ending
    rcases enqueueJob_eq_ok enqueueEq with ⟨enqueued, afterEq⟩
    rw [kept.jobs, sameJobs] at enqueued
    have recorded := enqueued.recorded (services.resumeRequestHash request opened.action)
      recordedAnswer unrecorded rfl
    have answered := enqueued.read_of_missing unrecorded
    have allResponses : after.gates.responses.rows = control.gates.responses.rows ++
        [(⟨ids.responseId, request.gateId, runId, teacherId,
          resumePayload opened.action request.response⟩ : GateResponseCreate).row
            control.db.now] := by
      have sameResponses : after.gates.responses = prepared.gates.responses := by rw [afterEq]
      rw [sameResponses, kept.responses, responses]
    have allRuns : after.db.runs = control.db.runs := by
      have sameRun : after.db.runs = prepared.db.runs := by rw [afterEq]
      rw [sameRun, kept.runs, sameRuns]
    have atMostOne : after.revisions.rows.length ≤ control.revisions.rows.length + 1 := by
      have chosenEq : prepared.revisions = confirmed.revisions :=
        (services.revisions_of_jobAfterAnswer confirmed).holds_after chooseEq rfl
      rw [revisions_of_onGates enqueueEq, chosenEq, ← sameRevisions]
      exact services.revisions_of_applyConfirmation confirmEq
    refine ⟨⟨?_, ?_⟩, ?_⟩
    · rw [answered] at recorded ⊢
      exact recorded
    · rw [allResponses]
      exact ⟨_, List.mem_append_right _ List.mem_cons_self, rfl⟩
    · exact
        { runs := by simp [rowCounts, allRuns]
          responses := by simp [rowCounts, allResponses]
          contractRevisions := atMostOne
          jobs := by simp [rowCounts, enqueued.rows_of_missing unrecorded] }

theorem recording_resumeTeachingPackRun {action : TeachingPackGateAction}
    (validated : validateGateResponse request.gateName request.action =
      .accepted gateName action) :
    (services.resumeTeachingPackRun runId teacherId (.ok ()) request (some key)).Recording
      rowCounts (RowCounts.Adds 0 1 1) (services.SkipsSearchPlan runId request)
      (services.RecordedResponse runId teacherId key request.gateId
        (services.resumeRequestHash request action)) where
  found recorded := by
    simp only [resumeTeachingPackRun, validated]
    exact recorded.1.replayed
  first := by
    intro ids opened control after answer missing inspected skips ret
    simp only [resumeTeachingPackRun, validated] at missing
    have sameAction : opened.action = action := by
      rcases inspected with ⟨store, inspectEq⟩
      simp only [resumeTeachingPackRun, validated] at inspectEq
      split at inspectEq
      · cases inspectEq
      · cases inspectEq
        rfl
    have done := (services.answerGate_eq_ok ret).2 (Option.map_eq_none_iff.mp missing) skips
    rw [sameAction] at done
    exact ⟨done.1, done.2.changed⟩
  again := by
    intro ids opened control after answer repeated recorded _ _ ret
    rcases recorded.2 with ⟨response, mem, sameGate⟩
    exact absurd sameGate ((services.answerGate_eq_ok ret).1 response mem)

end Answer

/-- Every overlap of copies of one command is replay safe, if a creation inserts
only while its key is not recorded and is not queued unless it stops at a gate,
and an answer does not open a search plan gate. -/
theorem commands_replaySafe (config : BackpressureConfig) (teacherId key : String) :
    (∀ request server history,
      ((services.createTeachingPackRun config teacherId request (some key)).copiesMachine
        ControlDb.rowCounts).Run
          (Command.InsertionGuard (services.CreatesAlone teacherId request key)) server history →
      (services.createTeachingPackRun config teacherId request (some key)).ReplaySafe
        ControlDb.rowCounts (RowCounts.Adds 1 0 1) server) ∧
    (∀ runId access request server history,
      ((services.resumeTeachingPackRun runId teacherId access request (some key)).copiesMachine
        ControlDb.rowCounts).Run
          (Command.InsertionGuard (services.SkipsSearchPlan runId request)) server history →
      (services.resumeTeachingPackRun runId teacherId access request (some key)).ReplaySafe
        ControlDb.rowCounts (RowCounts.Adds 0 1 1) server) ∧
    (∀ runId artifactId access request drawn server history,
      ((services.requestArtifactRevision runId teacherId artifactId access request (some key)
        drawn).copiesMachine ControlDb.rowCounts).Run (fun _ _ _ => True) server history →
      (services.requestArtifactRevision runId teacherId artifactId access request (some key)
        drawn).ReplaySafe ControlDb.rowCounts (RowCounts.Adds 0 0 0) server) := by
  refine ⟨?_, ?_, ?_⟩
  · intro request server history run
    rcases missing_of_run run with ⟨store, missing⟩
    cases accepted : services.enforcePayloadSizeLimits request with
    | error error =>
      simp only [createTeachingPackRun, accepted, reduceCtorEq] at missing
    | ok _ =>
      exact replaySafe_of_run (services.recording_createTeachingPackRun accepted) run
  · intro runId access request server history run
    rcases missing_of_run run with ⟨store, missing⟩
    cases validated : validateGateResponse request.gateName request.action with
    | rejected reason =>
      simp only [resumeTeachingPackRun, validated, reduceCtorEq] at missing
    | accepted gateName action =>
      cases access with
      | error error => simp only [resumeTeachingPackRun, validated, reduceCtorEq] at missing
      | ok _ =>
        exact replaySafe_of_run (services.recording_resumeTeachingPackRun validated) run
  · intro runId artifactId access request drawn server history run
    rcases missing_of_run run with ⟨store, missing⟩
    cases access with
    | error error => simp only [requestArtifactRevision, reduceCtorEq] at missing
    | ok _ =>
      exact replaySafe_of_run services.recording_requestArtifactRevision
        (run.mono fun _ _ _ _ _ _ => trivial)

end RunServices

/-! ## Two copies of one creation -/

def ControlDb.empty (now : DateTime) : ControlDb :=
  ⟨⟨Db.empty now, .empty⟩, .empty, .empty⟩

/-- A request that names neither a grade nor a subject. -/
def unclearRequest : TeachingPackCreateRunRequest :=
  ⟨"Teach fractions", []⟩

def unclearServices : RunServices where
  enforcePayloadSizeLimits _ := .ok ()
  readRequest _ :=
    { missing := ["grade_band", "subject"]
      unsupported := []
      gradeBand := none
      gradeInput := ""
      mode := "generate_pack"
      hasStudentEvidence := false
      contractMembers := .error (.keyError "subject")
      conflicts := []
      planningReviewReasons := []
      risky := []
      retentionDays := 365 }
  hashJson _ := "05f78e4ce02fb6d7281af16afcb7365c4bdd7ac141b00ab77f9d0a37dd8e3f4e"
  sha256 _ := "3b0be37a7ead6dd7a3da84095f747fe37b349c86fdff7bce2745fe9192ab0da4"
  planSearch _ := .ok ⟨false, 0, []⟩
  validateIntent _ := none

def unclearCreation : Command ControlDb GateError TeachingPackRunAcceptedResponse
    BackpressureResult CreationIds :=
  unclearServices.createTeachingPackRun {} "teacher-1" unclearRequest (some "key-1")

/-- The state after a schedule of two copies on an empty database. -/
def afterCopies (schedule : List (CopyStep CreationIds)) :
    Server ControlDb GateError TeachingPackRunAcceptedResponse BackpressureResult RowCounts ×
      History (CopyStep CreationIds) Unit :=
  (unclearCreation.copiesMachine ControlDb.rowCounts).drive (.start (.empty 0) 2, []) schedule

/-- The second copy looks the key up after the first one has committed. -/
def inTurn : List (CopyStep CreationIds) :=
  [.lookup 0, .inspect 0, .insert 0 ⟨"run-0", "job-0", "gate-0"⟩, .commit, .lookup 1]

theorem copies_in_turn_replaySafe :
    unclearCreation.ReplaySafe ControlDb.rowCounts (RowCounts.Adds 1 0 1)
      (afterCopies inTurn).1 := by
  have started : (unclearCreation.copiesMachine rowCounts).Run
      (Command.InsertionGuard
        (unclearServices.CreatesAlone "teacher-1" unclearRequest "key-1"))
      (.start (.empty 0) 2) [] := .start ⟨.empty 0, 2, rfl, rfl⟩
  have admitted : (unclearCreation.copiesMachine rowCounts).Admits
      (Command.InsertionGuard
        (unclearServices.CreatesAlone "teacher-1" unclearRequest "key-1"))
      (.start (.empty 0) 2, []) inTurn := by
    refine ⟨fun _ => nofun, fun _ => nofun, fun found _ => ⟨rfl, ?_⟩, fun _ => nofun,
      fun _ => nofun, trivial⟩
    exact fun complete => nomatch complete.missing
  exact (unclearServices.commands_replaySafe {} "teacher-1" "key-1").1 unclearRequest _ _
    (started.drive inTurn admitted)

/-- Both copies look the key up before either commits. -/
def overlapping : List (CopyStep CreationIds) :=
  [.lookup 0, .lookup 1, .inspect 0, .inspect 1, .insert 0 ⟨"run-0", "job-0", "gate-0"⟩, .commit,
    .insert 1 ⟨"run-1", "job-1", "gate-1"⟩, .commit]

/-- Two runs are created, and the copies are answered with different ones. -/
theorem overlapping_copies_not_replaySafe :
    ∃ server history,
      (unclearCreation.copiesMachine ControlDb.rowCounts).Run (fun _ _ _ => True) server history ∧
      ¬ unclearCreation.ReplaySafe ControlDb.rowCounts (RowCounts.Adds 1 0 1) server := by
  refine ⟨(afterCopies overlapping).1, (afterCopies overlapping).2, ?_, fun safe => ?_⟩
  · have started : (unclearCreation.copiesMachine rowCounts).Run
        (fun _ _ _ => True) (.start (.empty 0) 2) [] := .start ⟨.empty 0, 2, rfl, rfl⟩
    exact started.drive overlapping
      ⟨trivial, trivial, trivial, trivial, trivial, trivial, trivial, trivial, trivial⟩
  · have first : (afterCopies overlapping).1.Answered 0
        (.ok { runId := "run-0", jobId := none, status := .awaitingApproval }) := rfl
    have second : (afterCopies overlapping).1.Answered 1
        (.ok { runId := "run-1", jobId := none, status := .awaitingApproval }) := rfl
    exact absurd (safe.same first second) (by decide)

end OhMyClass.Gateway
