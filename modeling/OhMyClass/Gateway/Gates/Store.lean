import OhMyClass.Gateway.Runs.Control

/-!
# Gates

The gates that a teacher answers, and what an answer does to them.
-/

namespace OhMyClass.Gateway

/-!
## The gate registry

The gates a teacher answers and the actions each of them allows.
-/

section

inductive TeachingPackGateName where
  | clarificationRequired
  | contractConfirmation
  | sourceConflict
  | searchPlanConfirmation
  | blueprintApproval
  | contentApproval
  | unitApproval
  deriving DecidableEq

inductive TeachingPackGateAction where
  | answer
  | approve
  | approveSelected
  | reject
  | rejectSelected
  | edit
  deriving DecidableEq

namespace TeachingPackGateName

def all : List TeachingPackGateName :=
  [clarificationRequired, contractConfirmation, sourceConflict, searchPlanConfirmation,
    blueprintApproval, contentApproval, unitApproval]

def value : TeachingPackGateName → String
  | clarificationRequired => "clarification_required"
  | contractConfirmation => "contract_confirmation"
  | sourceConflict => "source_conflict"
  | searchPlanConfirmation => "search_plan_confirmation"
  | blueprintApproval => "blueprint_approval"
  | contentApproval => "content_approval"
  | unitApproval => "unit_approval"

end TeachingPackGateName

namespace TeachingPackGateAction

def all : List TeachingPackGateAction :=
  [answer, approve, approveSelected, reject, rejectSelected, edit]

def value : TeachingPackGateAction → String
  | answer => "answer"
  | approve => "approve"
  | approveSelected => "approve_selected"
  | reject => "reject"
  | rejectSelected => "reject_selected"
  | edit => "edit"

end TeachingPackGateAction

def allowedActionsForGate : TeachingPackGateName → List TeachingPackGateAction
  | .clarificationRequired => [.answer]
  | .contractConfirmation => [.approve, .edit, .reject]
  | .sourceConflict => [.approve, .edit, .reject]
  | .searchPlanConfirmation => [.approve, .edit]
  | .blueprintApproval => [.approve, .reject, .edit]
  | .contentApproval => [.approve, .approveSelected, .reject, .rejectSelected, .edit]
  | .unitApproval => [.approve, .reject, .edit]

inductive GateValidationResult where
  | accepted (gateName : TeachingPackGateName) (action : TeachingPackGateAction)
  | rejected (reason : String)

def validateGateResponse (gateName action : String) : GateValidationResult :=
  match TeachingPackGateName.all.find? fun gate => gate.value == gateName with
  | none => .rejected "unknown_gate"
  | some gate =>
    match TeachingPackGateAction.all.find? fun parsed => parsed.value == action with
    | none => .rejected "unknown_action"
    | some parsed =>
      if parsed ∈ allowedActionsForGate gate then .accepted gate parsed
      else .rejected "action_not_allowed"

end

/-!
## Answering gates

A gate takes one response: the response table is unique on the gate, and the
gate leaves its active status with it.  The sweeper and the administrator
write the status of a gate alone.
-/

section

open OhMyClass.Transition

/-- A row of `public.gate_responses`. -/
structure GateResponse where
  responseId : String
  gateId : String
  runId : RunId
  teacherId : String
  responseJson : JsonObject
  createdAt : DateTime

/-- The primary key and the unique gate. -/
def GateResponse.Conflict (first second : GateResponse) : Prop :=
  first.responseId = second.responseId ∨ first.gateId = second.gateId
  deriving Decidable

abbrev GateResponses := Table GateResponse GateResponse.Conflict

structure GateResponseCreate where
  responseId : String
  gateId : String
  runId : RunId
  teacherId : String
  responseJson : JsonObject

/-- The row `respond_to_gate` inserts. -/
def GateResponseCreate.row (create : GateResponseCreate) (now : DateTime) : GateResponse where
  responseId := create.responseId
  gateId := create.gateId
  runId := create.runId
  teacherId := create.teacherId
  responseJson := create.responseJson
  createdAt := now

/-! ## Sessions on gates and responses -/

structure GateDb where
  db : Db
  responses : GateResponses

inductive GateError where
  | staleGateResponse (gateId : String)
  | gateway (error : GatewayError)

abbrev GateSession (α : Type) := Session GateDb GateError α

/-- A computation that does not touch the responses. -/
def onGateway {α : Type} (body : DbSession α) : GateSession α := fun state =>
  ((body state.db).1.mapError GateError.gateway, { state with db := (body state.db).2 })

theorem onGateway_eq_ok {α : Type} {body : DbSession α} {state after : GateDb} {answer : α}
    (ret : onGateway body state = (.ok answer, after)) :
    ∃ db, body state.db = (.ok answer, db) ∧ after = { state with db := db } := by
  rcases Prod.ext_iff.mp ret with ⟨resultEq, rfl⟩
  cases outcome : (body state.db).1 with
  | error error =>
    simp only [onGateway, outcome, Except.mapError] at resultEq
    cases resultEq
  | ok value =>
    simp only [onGateway, outcome, Except.mapError] at resultEq
    cases resultEq
    exact ⟨_, Prod.ext outcome rfl, rfl⟩

namespace TeachingPackControlStore

def openGate (payload : TeachingPackGateCreate) : GateSession PUnit :=
  onGateway (TeachingPackRunStore.openGate payload)

/-- `select(GateInterrupt).where(gate_id, run_id)`. -/
def findGate (gateId : String) (runId : RunId) (db : Db) : Option GateInterrupt :=
  db.gates.rows.find? fun gate => gate.gateId == gateId && gate.runId == runId

/-- Write an inactive status to the selected gates. -/
def deactivate (db : Db) (selected : GateInterrupt → Bool) (status : GateInterruptStatus)
    (inactive : status ≠ .active) : Db :=
  { db with
    gates := db.gates.update selected (fun gate => { gate with status := status })
      (conflict_of_deactivate inactive) }

/-- Insert a response; its gate and its run must exist. -/
def insertResponse (response : GateResponse) : GateSession PUnit := fun state =>
  if state.db.HasRun response.runId ∧
      ∃ gate ∈ state.db.gates.rows, gate.gateId = response.gateId then
    match state.responses.insert response with
    | none => (.error (.gateway (.store .integrityError)), state)
    | some responses => (.ok ⟨⟩, { state with responses := responses })
  else
    (.error (.gateway (.store .integrityError)), state)

def respondToGate (payload : GateResponseCreate) : GateSession PUnit := do
  let found ← Session.read fun state => findGate payload.gateId payload.runId state.db
  match found with
  | none => Session.raise (.gateway (.store .noResultFound))
  | some gate =>
    if gate.status ≠ .active then
      Session.raise (.staleGateResponse payload.gateId)
    else
      let now ← Session.read fun state => state.db.now
      Session.write fun state =>
        { state with
          db := deactivate state.db (fun row => row.gateId == gate.gateId) .responded (by decide) }
      insertResponse (payload.row now)

end TeachingPackControlStore

/-- `timedelta(hours=n)`. -/
def hours (n : Int) : Int :=
  seconds (n * 3600)

def IsStaleGate (now : DateTime) (timeoutHours : Int) (gate : GateInterrupt) : Prop :=
  gate.status = .active ∧ gate.createdAt < now - hours timeoutHours
  deriving Decidable

/-- The escalated gates are returned oldest first. -/
def sweepEscalatedGates (timeoutHours : Int := 24) : DbSession (List String) := fun db =>
  let stale (gate : GateInterrupt) : Bool := IsStaleGate db.now timeoutHours gate
  (.ok (((db.gates.rows.filter stale).insertionSort fun first second =>
      first.createdAt ≤ second.createdAt).map GateInterrupt.gateId),
    TeachingPackControlStore.deactivate db stale .expired (by decide))

end

end OhMyClass.Gateway
