import OhMyClass.Gateway.Gates.Store

/-!
# Contracts and creation of runs

The contract of a run, and the record it is created with.
-/

namespace OhMyClass.Gateway

/-!
## Run contracts

The contract of a run and its revisions, beside the gates and the gateway
database.
-/

section

open OhMyClass.Transition

/-- A row of `public.run_contracts`. -/
structure RunContract where
  contractId : String
  runId : RunId
  teacherId : String
  contractJson : JsonObject
  currentRevision : Int

/-- The primary key and the unique run. -/
def RunContract.Conflict (first second : RunContract) : Prop :=
  first.contractId = second.contractId ∨ first.runId = second.runId
  deriving Decidable

abbrev RunContracts := Table RunContract RunContract.Conflict

/-- A row of `public.contract_revisions`. -/
structure ContractRevision where
  contractId : String
  runId : RunId
  revision : Int
  contractJson : JsonObject

def ContractRevision.Conflict (first second : ContractRevision) : Prop :=
  first.contractId = second.contractId ∧ first.revision = second.revision
  deriving Decidable

abbrev ContractRevisions := Table ContractRevision ContractRevision.Conflict

structure RunContractCreate where
  contractId : String
  runId : RunId
  teacherId : String
  contractJson : JsonObject

structure ContractRevisionCreate where
  contractId : String
  runId : RunId
  revision : Int
  contractJson : JsonObject

/-- The gateway database with the responses to its gates and its contracts. -/
structure ControlDb where
  gates : GateDb
  contracts : RunContracts
  revisions : ContractRevisions

abbrev ControlSession (α : Type) := Session ControlDb GateError α

/-- The tables without the contracts. -/
abbrev ControlDb.db (control : ControlDb) : Db :=
  control.gates.db

/-- A computation that does not touch the contracts. -/
def onGates {α : Type} (body : GateSession α) : ControlSession α := fun control =>
  ((body control.gates).1, { control with gates := (body control.gates).2 })

/-- A computation on the gateway database alone. -/
def onDb {α : Type} (body : DbSession α) : ControlSession α :=
  onGates (onGateway body)

theorem onGates_eq_ok {α : Type} {body : GateSession α} {control after : ControlDb} {answer : α}
    (ret : onGates body control = (.ok answer, after)) :
    ∃ gates, body control.gates = (.ok answer, gates) ∧
      after = { control with gates := gates } := by
  rcases Prod.ext_iff.mp ret with ⟨resultEq, rfl⟩
  exact ⟨_, Prod.ext resultEq rfl, rfl⟩

theorem onDb_eq_ok {α : Type} {body : DbSession α} {control after : ControlDb} {answer : α}
    (ret : onDb body control = (.ok answer, after)) :
    ∃ db, body control.db = (.ok answer, db) ∧
      after = { control with gates := { control.gates with db := db } } := by
  rcases onGates_eq_ok ret with ⟨gates, gateEq, rfl⟩
  rcases onGateway_eq_ok gateEq with ⟨db, dbEq, rfl⟩
  exact ⟨db, dbEq, rfl⟩

/-! ## The control store -/

def editableContractFields : List String :=
  ["artifact_types", "citation_locale", "curriculum", "export_formats", "grade_band",
    "instruction_language", "locale", "mode", "decomposition_intent", "research_policy",
    "subject", "topic"]

/-- `{**members, **others}`. -/
def mergeMembers (members others : JsonObject) : JsonObject :=
  others.foldl (fun merged member => JsonObject.set merged member.1 member.2) members

namespace TeachingPackControlStore

/-- Insert a contract row; its run must exist. -/
def insertContract (contract : RunContract) : ControlSession PUnit := fun control =>
  if control.db.HasRun contract.runId then
    match control.contracts.insert contract with
    | none => (.error (.gateway (.store .integrityError)), control)
    | some contracts => (.ok ⟨⟩, { control with contracts := contracts })
  else
    (.error (.gateway (.store .integrityError)), control)

/-- Insert a revision row; its run and its contract must exist. -/
def insertRevision (revision : ContractRevision) : ControlSession PUnit := fun control =>
  if control.db.HasRun revision.runId ∧
      ∃ contract ∈ control.contracts.rows, contract.contractId = revision.contractId then
    match control.revisions.insert revision with
    | none => (.error (.gateway (.store .integrityError)), control)
    | some revisions => (.ok ⟨⟩, { control with revisions := revisions })
  else
    (.error (.gateway (.store .integrityError)), control)

def createContract (payload : RunContractCreate) : ControlSession PUnit := do
  insertContract ⟨payload.contractId, payload.runId, payload.teacherId, payload.contractJson, 1⟩
  insertRevision ⟨payload.contractId, payload.runId, 1, payload.contractJson⟩

/-- `select(RunContract).where(...)` followed by `scalar_one`. -/
def requireContract (selected : RunContract → Bool) : ControlSession RunContract := fun control =>
  match control.contracts.rows.find? selected with
  | none => (.error (.gateway (.store .noResultFound)), control)
  | some contract => (.ok contract, control)

/-- What `revise_contract` writes to the row. -/
def reviseRow (payload : ContractRevisionCreate) (contract : RunContract) : RunContract :=
  { contract with
    contractJson := payload.contractJson
    currentRevision := payload.revision }

def reviseContract (payload : ContractRevisionCreate) : ControlSession PUnit := do
  let contract ← requireContract fun row =>
    row.contractId == payload.contractId && row.runId == payload.runId
  Session.write fun control =>
    { control with
      contracts := control.contracts.update (fun row => row.contractId == contract.contractId)
        (reviseRow payload) fun first second clash => by
          have contractIdEq (row : RunContract) : (Table.changeSelected
              (fun row => row.contractId == contract.contractId) (reviseRow payload)
              row).contractId = row.contractId :=
            Table.changeSelected_frame RunContract.contractId rfl
          have runIdEq (row : RunContract) : (Table.changeSelected
              (fun row => row.contractId == contract.contractId) (reviseRow payload)
              row).runId = row.runId :=
            Table.changeSelected_frame RunContract.runId rfl
          simpa only [RunContract.Conflict, contractIdEq, runIdEq] using clash }
  insertRevision ⟨payload.contractId, payload.runId, payload.revision, payload.contractJson⟩

def applyContractEdits (runId : RunId) (edits : JsonObject) : ControlSession Int := do
  let contract ← requireContract fun row => row.runId == runId
  let nextRevision := contract.currentRevision + 1
  let editableEdits := edits.filter fun member => editableContractFields.contains member.1
  reviseContract ⟨contract.contractId, runId, nextRevision,
    mergeMembers contract.contractJson editableEdits⟩
  return nextRevision

def getContractJson (runId : RunId) : ControlSession JsonObject := do
  let contract ← requireContract fun row => row.runId == runId
  return contract.contractJson

end TeachingPackControlStore

end

/-!
## Creating runs

`create_teaching_pack_run_record`: a run starts at once with a job, or waits at
a gate of the contract setup.  What the setup reads out of the text of a
request and of its class info is given; the decision it takes on that reading
follows the source.
-/

section

open OhMyClass.Transition

/-- What `resolve_contract_setup` reads out of a request.  `contractMembers` are
the members of the built contract after its three identifiers, or the exception
building it raises. -/
structure SetupReading where
  missing : List String
  unsupported : List (String × String)
  gradeBand : Option String
  gradeInput : String
  mode : String
  hasStudentEvidence : Bool
  contractMembers : Except GatewayError JsonObject
  conflicts : List Json
  planningReviewReasons : List String
  risky : List Json
  retentionDays : Int

/-- The fields of a contract value the creation uses. -/
structure BuiltContract where
  contractId : String
  runId : RunId
  teacherId : String
  json : JsonObject

inductive ContractSetupResult where
  | ready (contract : BuiltContract)
  | gate (gateName : String) (payload : JsonObject) (contract : Option BuiltContract)

def buildContract (runId : RunId) (teacherId : String) (members : JsonObject) : BuiltContract where
  contractId := "contract-" ++ runId
  runId := runId
  teacherId := teacherId
  json := [("contract_id", .str ("contract-" ++ runId)), ("run_id", .str runId),
    ("teacher_id", .str teacherId)] ++ members

def questionsFor (missing : List String) (unsupported : List (String × String)) : List Json :=
  missing.map (fun field => .obj [("field", .str field),
    ("prompt", .str ("Please provide " ++ field ++ "."))]) ++
  unsupported.map fun item => .obj [("field", .str item.1),
    ("prompt", .str ("Choose a supported value instead of " ++ item.2 ++ "."))]

/-- `_missing_required`, and the evidence a diagnosis needs. -/
def SetupReading.missingFields (reading : SetupReading) : List String :=
  reading.missing ++
    if reading.mode = "diagnose_then_generate" ∧ reading.hasStudentEvidence = false then
      ["student_evidence"]
    else []

/-- `_unsupported`, and a grade that is no known band. -/
def SetupReading.unsupportedValues (reading : SetupReading) : List (String × String) :=
  reading.unsupported ++
    if reading.gradeBand = none ∧ reading.missing = [] then [("grade_band", reading.gradeInput)]
    else []

def clarificationPayload (missing : List String) (unsupported : List (String × String)) :
    JsonObject :=
  [("questions", .arr (questionsFor missing unsupported)),
    ("missing_fields", .arr (missing.map .str)),
    ("unsupported_values", .arr (unsupported.map fun item =>
      .obj [("field", .str item.1), ("value", .str item.2)]))]

def resolveContractSetup (runId : RunId) (teacherId : String) (reading : SetupReading) :
    Except GatewayError ContractSetupResult := do
  if reading.missingFields ≠ [] ∨ reading.unsupportedValues ≠ [] then
    return .gate "clarification_required"
      (clarificationPayload reading.missingFields reading.unsupportedValues) none
  let contract := buildContract runId teacherId (← reading.contractMembers)
  if reading.conflicts ≠ [] then
    return .gate "source_conflict"
      [("conflicts", .arr reading.conflicts), ("contract", .obj contract.json)] (some contract)
  if reading.planningReviewReasons ≠ [] then
    return .gate "contract_confirmation"
      [("planning_review", .bool true),
        ("materiality_reasons", .arr (reading.planningReviewReasons.map .str)),
        ("contract", .obj contract.json)] (some contract)
  if reading.risky ≠ [] then
    return .gate "contract_confirmation"
      [("inferred_fields", .arr reading.risky), ("contract", .obj contract.json)] (some contract)
  return .ready contract

/-! ## Creating the rows -/

structure TeachingPackRunCreate where
  runId : RunId
  teacherId : String
  retentionDays : Option Int

/-- The row `create_run` inserts. -/
def TeachingPackRunCreate.row (create : TeachingPackRunCreate) (now : DateTime) : Run where
  runId := create.runId
  teacherId := create.teacherId
  status := .pending
  createdAt := now
  deletedAt := none
  deletedBy := none
  retentionDays := create.retentionDays
  parentRunId := none

def TeachingPackRunStore.createRun (payload : TeachingPackRunCreate) : DbSession PUnit := fun db =>
  match db.runs.insert (payload.row db.now) with
  | none => (.error (.store .integrityError), db)
  | some runs =>
    (.ok ⟨⟩,
      { db with
        runs := runs
        statusHistory := db.statusHistory ++
          [⟨payload.runId, .pending, none, some "created", db.now⟩] })

/-- The identifiers one creation draws with `uuid4`. -/
structure CreationIds where
  runId : RunId
  jobId : String
  gateId : String

structure TeachingPackCreateRunResult where
  runId : RunId
  jobId : Option String
  status : RunStatus
  queued : Bool := false

/-- `enqueue` on the clock of the database. -/
def enqueueJob (payload : RunJobCreate) : DbSession RunJobRead := do
  let now ← Session.read Db.now
  onJobs (TeachingPackJobStore.enqueue payload now)

def cancelJobs (runId : RunId) : DbSession Nat :=
  onJobs fun jobs => .ok (TeachingPackJobStore.cancelRunJobs runId jobs)

def startJobCreate (ids : CreationIds) (contract : BuiltContract)
    (rawRequest requestHash : String) (idempotencyKey : Option String)
    (eligibleAt : Option DateTime) : RunJobCreate where
  jobId := ids.jobId
  runId := contract.runId
  kind := .start
  idempotencyKey := idempotencyKey.getD ("start:" ++ contract.runId)
  payload := [("source", .str "http_create"), ("request_hash", .str requestHash),
    ("contract", .obj contract.json), ("raw_request", .str rawRequest)]
  eligibleAt := eligibleAt

def createReadyRun (ids : CreationIds) (contract : BuiltContract)
    (rawRequest requestHash : String) (idempotencyKey : Option String)
    (eligibleAt : Option DateTime) : ControlSession TeachingPackCreateRunResult := do
  TeachingPackControlStore.createContract
    ⟨contract.contractId, contract.runId, contract.teacherId, contract.json⟩
  let _ ← onDb (TeachingPackRunStore.writeEvent
    { runId := contract.runId
      eventName := "teaching_pack.run.accepted"
      visibility := .teacher
      payload := some [("job_id", .str ids.jobId)] })
  let job ← onDb (enqueueJob (startJobCreate ids contract rawRequest requestHash idempotencyKey
    eligibleAt))
  return ⟨job.runId, some job.jobId, .pending, eligibleAt.isSome⟩

/-- The row that remembers the idempotency key of a run behind a gate. -/
def blockedJobCreate (ids : CreationIds) (gateName requestHash idempotencyKey : String) :
    RunJobCreate where
  jobId := ids.jobId
  runId := ids.runId
  kind := .start
  idempotencyKey := idempotencyKey
  payload := [("source", .str "http_create"), ("request_hash", .str requestHash),
    ("blocked_by_gate", .str gateName)]

/-- The contract of a gated run, if the setup built one. -/
def createSetupContract (runId : RunId) : Option BuiltContract → ControlSession PUnit
  | none => pure ⟨⟩
  | some contract => TeachingPackControlStore.createContract
      ⟨contract.contractId, runId, contract.teacherId, contract.json⟩

/-- The contract, the gate, the status and the event of a run behind a gate. -/
def openSetupGate (ids : CreationIds) (gateName : String) (gatePayload : JsonObject)
    (contract : Option BuiltContract) : ControlSession PUnit := do
  createSetupContract ids.runId contract
  onGates (TeachingPackControlStore.openGate
    ⟨ids.gateId, ids.runId, gateName, ("gate_id", .str ids.gateId) :: gatePayload⟩)
  onDb (TeachingPackRunStore.transitionStatus
    ⟨ids.runId, .awaitingApproval, some "setup_contract", some gateName⟩)
  let _ ← onDb (TeachingPackRunStore.writeEvent
    { runId := ids.runId
      eventName := "teaching_pack." ++ gateName ++ ".opened"
      visibility := .teacher
      payload := some [("gate_id", .str ids.gateId), ("gate_name", .str gateName)] })
  return ⟨⟩

/-- Remember the key of a gated run by a job that no worker will claim. -/
def recordBlockedKey (ids : CreationIds) (gateName requestHash : String) :
    Option String → ControlSession PUnit
  | none => pure ⟨⟩
  | some idempotencyKey => do
    let _ ← onDb (enqueueJob (blockedJobCreate ids gateName requestHash idempotencyKey))
    let _ ← onDb (cancelJobs ids.runId)
    return ⟨⟩

def createGatedRun (ids : CreationIds) (gateName : String) (gatePayload : JsonObject)
    (contract : Option BuiltContract) (requestHash : String) (idempotencyKey : Option String) :
    ControlSession TeachingPackCreateRunResult := do
  openSetupGate ids gateName gatePayload contract
  recordBlockedKey ids gateName requestHash idempotencyKey
  return { runId := ids.runId, jobId := none, status := .awaitingApproval }

def createTeachingPackRunRecord (ids : CreationIds) (teacherId : String) (reading : SetupReading)
    (rawRequest requestHash : String) (idempotencyKey : Option String)
    (eligibleAt : Option DateTime) : ControlSession TeachingPackCreateRunResult := do
  onDb (TeachingPackRunStore.createRun ⟨ids.runId, teacherId, some reading.retentionDays⟩)
  let setup ← onDb (Session.call (resolveContractSetup ids.runId teacherId reading))
  match setup with
  | .ready contract =>
    createReadyRun ids contract rawRequest requestHash idempotencyKey eligibleAt
  | .gate gateName payload contract =>
    createGatedRun ids gateName payload contract requestHash idempotencyKey

end

end OhMyClass.Gateway
