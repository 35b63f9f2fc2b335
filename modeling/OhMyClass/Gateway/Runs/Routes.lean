import OhMyClass.Gateway.Admission.Backpressure
import OhMyClass.Gateway.Runs.Creation
import OhMyClass.Transition.Replay

/-!
# Run commands

The endpoints that create a run, answer a gate and request a revision, cut
where their statements reach the database.
-/

namespace OhMyClass.Gateway

open OhMyClass.Transition

/-- The part of a search plan the gate needs. -/
structure SearchPlan where
  requiresConfirmation : Bool
  queryCount : Nat
  gatePayload : JsonObject

structure TeachingPackCreateRunRequest where
  rawRequest : String
  classInfo : JsonObject

/-- Functions of the bodies of requests that the endpoints only pass on: the
size check, the reading of a request, the two hashes, the search planning and
the validation of a decomposition intent. -/
structure RunServices where
  enforcePayloadSizeLimits : TeachingPackCreateRunRequest → Except GateError Unit
  readRequest : TeachingPackCreateRunRequest → SetupReading
  hashJson : JsonObject → String
  sha256 : String → String
  planSearch : JsonObject → Except GatewayError SearchPlan
  validateIntent : JsonObject → Option JsonObject

def httpError (statusCode : Nat) (detail : String) : GateError :=
  .gateway (.httpException statusCode detail)

namespace RunServices

variable (services : RunServices)

def scopedIdempotencyKey (scope teacherId value : String) : String :=
  "idem:" ++ scope ++ ":" ++ services.sha256 (scope ++ ":" ++ teacherId ++ ":" ++ value)

def scopedCreateIdempotencyKey (teacherId idempotencyKey : String) : String :=
  services.scopedIdempotencyKey "create" teacherId idempotencyKey

def scopedResumeIdempotencyKey (runId : RunId) (teacherId idempotencyKey : String) : String :=
  services.scopedIdempotencyKey "resume" teacherId (runId ++ ":" ++ idempotencyKey)

end RunServices

/-- A text stored under a key. -/
def textMember (members : JsonObject) (key : String) : Option String :=
  match members.get? key with
  | some (.str text) => some text
  | _ => none

/-- The answer to a request whose key is recorded: a conflict if another body
was sent under it. -/
def replayAnswer {α : Type} (requestHash : String) (answer : RunJobRead → α) (job : RunJobRead) :
    Except GateError α :=
  if textMember job.payload "request_hash" ≠ some requestHash then
    .error (httpError 409 "idempotency_conflict")
  else
    .ok (answer job)

structure TeachingPackRunAcceptedResponse where
  runId : RunId
  jobId : Option String
  status : RunStatus
  queued : Bool := false
  deriving DecidableEq

/-- The answer a recorded creation is given. -/
def recordedRun (job : RunJobRead) : TeachingPackRunAcceptedResponse :=
  match job.payload.get? "blocked_by_gate" with
  | none | some .null => { runId := job.runId, jobId := some job.jobId, status := .pending }
  | some _ => { runId := job.runId, jobId := none, status := .awaitingApproval }

namespace RunServices

variable (services : RunServices)

def createRequestHash (request : TeachingPackCreateRunRequest) : String :=
  services.hashJson [("raw_request", .str request.rawRequest),
    ("class_info", .obj request.classInfo)]

def createTeachingPackRun (config : BackpressureConfig) (teacherId : String)
    (request : TeachingPackCreateRunRequest) (idempotencyKey : Option String) :
    Command ControlDb GateError TeachingPackRunAcceptedResponse BackpressureResult
      CreationIds where
  lookup control :=
    match services.enforcePayloadSizeLimits request with
    | .error error => some (.error error)
    | .ok _ =>
      idempotencyKey.bind fun key =>
        (TeachingPackJobStore.findByIdempotencyKey control.db.jobs
          (services.scopedCreateIdempotencyKey teacherId key)).map
            (replayAnswer (services.createRequestHash request) recordedRun)
  inspect control :=
    let bp := checkBackpressure teacherId config control.db
    if bp.allowed = false ∧ bp.queued = false then .error (httpError 429 bp.reason) else .ok bp
  insert ids bp := do
    let result ← createTeachingPackRunRecord ids teacherId (services.readRequest request)
      request.rawRequest (services.createRequestHash request)
      (idempotencyKey.map (services.scopedCreateIdempotencyKey teacherId)) bp.eligibleAt
    return ⟨result.runId, result.jobId, result.status, result.queued⟩

end RunServices

/-! ## Answering a gate -/

structure TeachingPackResumeRequest where
  gateId : String
  gateName : String
  action : String
  response : JsonObject

structure TeachingPackResumeAcceptedResponse where
  runId : RunId
  responseId : String
  jobId : Option String

/-- The identifiers one answer draws with `uuid4`. -/
structure ResumeIds where
  responseId : String
  jobId : String
  gateId : String

/-- What the endpoint knows before it writes: the parsed gate and action, and
the active gate. -/
structure OpenGate where
  gateName : TeachingPackGateName
  action : TeachingPackGateAction
  gate : GateInterrupt

namespace TeachingPackControlStore

/-- The part of `respond_to_gate` that reads. -/
def findOpenGate (gateId : String) (runId : RunId) (db : Db) : Except GateError GateInterrupt :=
  match findGate gateId runId db with
  | none => .error (.gateway (.store .noResultFound))
  | some gate => if gate.status ≠ .active then .error (.staleGateResponse gateId) else .ok gate

theorem responded_ne_active : GateInterruptStatus.responded ≠ .active := by decide

/-- The part of `respond_to_gate` that writes. -/
def recordResponse (gate : GateInterrupt) (payload : GateResponseCreate) :
    GateSession PUnit := do
  let now ← Session.read fun state => state.db.now
  Session.write fun state =>
    { state with
      db := deactivate state.db (fun row => row.gateId == gate.gateId) .responded responded_ne_active }
  insertResponse (payload.row now)

end TeachingPackControlStore

/-- The 409 the endpoint answers a stale gate with. -/
def staleGate : GateError → GateError
  | .staleGateResponse _ => httpError 409 "stale_gate"
  | error => error

/-- `prepare_search_plan_gate`: whether the gate was opened. -/
def prepareSearchPlanGate (gateId : String) (runId : RunId) (plan : SearchPlan) :
    ControlSession Bool := do
  if plan.requiresConfirmation = false then
    let _ ← onDb (TeachingPackRunStore.writeEvent
      { runId := runId
        eventName := "teaching_pack.search_plan.skipped_confirmation"
        visibility := .internal
        payload := some [("query_count", .int plan.queryCount)] })
    return false
  onGates (TeachingPackControlStore.openGate
    ⟨gateId, runId, "search_plan_confirmation", ("gate_id", .str gateId) ::
      ("gate_name", .str "search_plan_confirmation") :: plan.gatePayload⟩)
  let _ ← onDb (TeachingPackRunStore.writeEvent
    { runId := runId
      eventName := "teaching_pack.search_plan_confirmation.opened"
      visibility := .teacher
      payload := some [("gate_id", .str gateId), ("query_count", .int plan.queryCount)] })
  return true

namespace RunServices

variable (services : RunServices)

def contractConfirmationEdits (response : JsonObject) : JsonObject :=
  (match response.get? "mode" with
    | some (.str mode) =>
      if mode ∈ ["generate_pack", "plan_unit", "diagnose_then_generate"] then
        [("mode", .str mode)]
      else []
    | _ => []) ++
  match response.get? "decomposition_intent" with
  | some (.obj intent) =>
    (services.validateIntent intent).toList.map fun valid =>
      ("decomposition_intent", .obj valid)
  | _ => []

/-- The edits of the contract an answer to its confirmation makes. -/
def confirmedEdits (action : TeachingPackGateAction) (response : JsonObject) :
    Option JsonObject :=
  match action with
  | .edit =>
    match response.get? "edits" with
    | some (.obj edits) => some edits
    | _ => none
  | .approve =>
    match services.contractConfirmationEdits response with
    | [] => none
    | edits => some edits
  | _ => none

/-- Apply the edits of a contract confirmation; the answer then names the new
revision. -/
def applyConfirmation (runId : RunId) (opened : OpenGate) (response resumePayload : JsonObject) :
    ControlSession JsonObject :=
  if opened.gateName = .contractConfirmation then
    match services.confirmedEdits opened.action response with
    | none => pure resumePayload
    | some edits => do
      let nextRevision ← TeachingPackControlStore.applyContractEdits runId edits
      return resumePayload.set "contract_revision" (.int nextRevision)
  else
    pure resumePayload

def openSearchPlanGateIfRequired (gateId : String) (runId : RunId) (contractJson : JsonObject) :
    ControlSession Bool := do
  let plan ← onDb (Session.call (services.planSearch contractJson))
  prepareSearchPlanGate gateId runId plan

/-- The kind of the job an answer enqueues, with the contract it carries; none
if a search plan gate was opened in its place. -/
def jobAfterAnswer (gateId : String) (runId : RunId) (gateName : TeachingPackGateName) :
    ControlSession (Option (RunJobKind × JsonObject)) := do
  match gateName with
  | .contractConfirmation =>
    let contractJson ← TeachingPackControlStore.getContractJson runId
    let opened ← services.openSearchPlanGateIfRequired gateId runId contractJson
    if opened then
      return none
    return some (.start, [("contract", .obj contractJson)])
  | .searchPlanConfirmation =>
    let contractJson ← TeachingPackControlStore.getContractJson runId
    return some (.start, [("contract", .obj contractJson)])
  | _ => return some (.resume, [])

/-- `{"action": ..., **payload.response}`. -/
def resumePayload (action : TeachingPackGateAction) (response : JsonObject) : JsonObject :=
  mergeMembers [("action", .str action.value)] response

def resumeRequestHash (request : TeachingPackResumeRequest) (action : TeachingPackGateAction) :
    String :=
  services.hashJson [("gate_id", .str request.gateId), ("gate_name", .str request.gateName),
    ("response", .obj (resumePayload action request.response))]

def answerJobCreate (ids : ResumeIds) (runId : RunId) (teacherId requestHash : String)
    (idempotencyKey : Option String) (resumePayload : JsonObject)
    (job : RunJobKind × JsonObject) : RunJobCreate where
  jobId := ids.jobId
  runId := runId
  kind := job.1
  idempotencyKey :=
    match idempotencyKey with
    | some key => services.scopedResumeIdempotencyKey runId teacherId key
    | none => "resume:" ++ ids.responseId
  payload := [("response_id", .str ids.responseId), ("request_hash", .str requestHash),
    ("resume_payload", .obj resumePayload)] ++ job.2

def recordedAnswer (job : RunJobRead) : TeachingPackResumeAcceptedResponse where
  runId := job.runId
  responseId := (textMember job.payload "response_id").getD "None"
  jobId := some job.jobId

/-- The response row and what follows from it. -/
def answerGate (runId : RunId) (teacherId : String) (request : TeachingPackResumeRequest)
    (idempotencyKey : Option String) (ids : ResumeIds) (opened : OpenGate) :
    ControlSession TeachingPackResumeAcceptedResponse := do
  onGates (TeachingPackControlStore.recordResponse opened.gate
    ⟨ids.responseId, request.gateId, runId, teacherId,
      resumePayload opened.action request.response⟩)
  let payload ← services.applyConfirmation runId opened request.response
    (resumePayload opened.action request.response)
  match ← services.jobAfterAnswer ids.gateId runId opened.gateName with
  | none => return ⟨runId, ids.responseId, none⟩
  | some job =>
    let read ← onDb (enqueueJob (services.answerJobCreate ids runId teacherId
      (services.resumeRequestHash request opened.action) idempotencyKey payload job))
    return ⟨read.runId, ids.responseId, some read.jobId⟩

/-- `access` is the outcome of the ownership check on the run. -/
def resumeTeachingPackRun (runId : RunId) (teacherId : String) (access : Except GateError Unit)
    (request : TeachingPackResumeRequest) (idempotencyKey : Option String) :
    Command ControlDb GateError TeachingPackResumeAcceptedResponse OpenGate ResumeIds where
  lookup control :=
    match validateGateResponse request.gateName request.action, access with
    | .rejected reason, _ => some (.error (httpError 422 reason))
    | .accepted _ _, .error error => some (.error error)
    | .accepted _ action, .ok _ =>
      idempotencyKey.bind fun key =>
        (TeachingPackJobStore.findByIdempotencyKey control.db.jobs
          (services.scopedResumeIdempotencyKey runId teacherId key)).map
            (replayAnswer (services.resumeRequestHash request action) recordedAnswer)
  inspect control :=
    match validateGateResponse request.gateName request.action with
    | .rejected reason => .error (httpError 422 reason)
    | .accepted gateName action =>
      match TeachingPackControlStore.findOpenGate request.gateId runId control.db with
      | .error error => .error (staleGate error)
      | .ok gate => .ok ⟨gateName, action, gate⟩
  insert := services.answerGate runId teacherId request idempotencyKey

/-! ## Requesting a revision -/

end RunServices

structure TeachingPackArtifactRevisionRequest where
  feedback : String

structure TeachingPackRevisionAcceptedResponse where
  runId : RunId
  artifactId : String
  jobId : String

namespace RunServices

variable (services : RunServices)

def revisionRequestHash (artifactId : String) (request : TeachingPackArtifactRevisionRequest) :
    String :=
  services.hashJson [("artifact_id", .str artifactId), ("feedback", .str request.feedback)]

/-- `drawn` is the random part of the key of a request without one. -/
def revisionKey (runId : RunId) (teacherId artifactId : String) (idempotencyKey : Option String)
    (drawn : String) : String :=
  match idempotencyKey with
  | some key => services.scopedResumeIdempotencyKey runId teacherId key
  | none => "request_revision:" ++ runId ++ ":" ++ artifactId ++ ":" ++ drawn

def revisionJobCreate (jobId : String) (runId : RunId) (artifactId scopedKey : String)
    (request : TeachingPackArtifactRevisionRequest) : RunJobCreate where
  jobId := jobId
  runId := runId
  kind := .resume
  idempotencyKey := scopedKey
  payload := [("request_hash", .str (services.revisionRequestHash artifactId request)),
    ("resume_payload", .obj [("action", .str "reject_selected"),
      ("rejection_type", .str "scoped"),
      ("artifact_rejections", .arr [.obj [("artifact_id", .str artifactId),
        ("reason", .str request.feedback)]])])]

/-- The answer a recorded request is given. -/
def recordedRevision (artifactId : String) (job : RunJobRead) :
    TeachingPackRevisionAcceptedResponse :=
  ⟨job.runId, artifactId, job.jobId⟩

/-- The revision endpoint inspects nothing after the lookup. -/
def requestArtifactRevision (runId : RunId) (teacherId artifactId : String)
    (access : Except GateError Unit) (request : TeachingPackArtifactRevisionRequest)
    (idempotencyKey : Option String) (drawn : String) :
    Command ControlDb GateError TeachingPackRevisionAcceptedResponse Unit String where
  lookup control :=
    match access with
    | .error error => some (.error error)
    | .ok _ =>
      (TeachingPackJobStore.findByIdempotencyKey control.db.jobs
        (services.revisionKey runId teacherId artifactId idempotencyKey drawn)).map
          (replayAnswer (services.revisionRequestHash artifactId request)
            (recordedRevision artifactId))
  inspect _ := .ok ()
  insert jobId _ := do
    let job ← onDb (enqueueJob (services.revisionJobCreate jobId runId artifactId
      (services.revisionKey runId teacherId artifactId idempotencyKey drawn) request))
    return ⟨job.runId, artifactId, job.jobId⟩

end RunServices

end OhMyClass.Gateway
