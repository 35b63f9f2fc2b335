import OhMyClass.Gateway.Exports.Store
import OhMyClass.Gateway.Runs.Store
import OhMyClass.Gateway.Snapshots.Store

/-!
# Completed graph runs

The state a graph run ends in, and how the gateway records it.
-/

namespace OhMyClass.Gateway

/-!
## The state a graph run ends in

What the completion recorder reads from the state: the event of a content
edit, the interrupt of an open content gate, the route of a quality recovery,
and the evidence of an export.
-/

section

/-- The first interrupt: a dict, an `Interrupt` with its value, or anything
without a value. -/
inductive InterruptData where
  | dict (members : JsonObject)
  | interrupt (value : Json)
  | other

/-- The members of the final state, and the list under `__interrupt__`, which
is empty when there is none. -/
structure GraphState where
  members : JsonObject
  interrupts : List InterruptData := []

namespace GraphState

def get? (state : GraphState) (key : String) : Option Json :=
  state.members.get? key

def set (state : GraphState) (key : String) (value : Json) : GraphState :=
  { state with members := state.members.set key value }

def contentUpdateEvent (state : GraphState) : Option JsonObject :=
  match state.get? "content_update_event" with
  | some (.obj event) => some event
  | _ => none

def interruptValue : InterruptData → JsonObject
  | .dict members => jsonObject (some ((members.get? "value").getD (.obj members)))
  | .interrupt value => jsonObject (some value)
  | .other => []

/-- `value == text`. -/
def isText (value : Option Json) (text : String) : Bool :=
  match value with
  | some (.str value) => value == text
  | _ => false

def contentGatePayload (state : GraphState) : Option JsonObject :=
  match state.interrupts with
  | [] => none
  | first :: _ =>
    if isText ((interruptValue first).get? "gate") "content_approval" then
      some (interruptValue first)
    else
      none

def qualityRecoveryRoute (state : GraphState) : Option String :=
  match state.get? "quality_recovery_route" with
  | some (.str route) => if route.isEmpty then none else some route
  | _ => none

def hasExportEvidence (state : GraphState) : Bool :=
  match state.get? "exported_files" with
  | some (.arr files) => !files.isEmpty
  | _ => false

/-- The state ends an attempt that succeeded: at the content gate, or with an
export. -/
def Succeeds (state : GraphState) : Prop :=
  state.contentGatePayload.isSome ∨
    state.qualityRecoveryRoute = none ∧ state.hasExportEvidence = true

section

variable (builtin : BuiltinConversions)

def qualityIssues (state : GraphState) : List Json :=
  match state.get? "quality_issues" with
  | some (.arr values) => values.map fun value => .str (builtin.str value)
  | _ => []

/-- Only a gate whose `auto_approved` is literally true has a payload. -/
def autoApprovalPayload (state : GraphState) : Option JsonObject :=
  match state.get? "approval_gate" with
  | some (.obj gate) =>
    match JsonObject.get? gate "auto_approved" with
    | some (.bool true) =>
      let snapshotIds :=
        match JsonObject.get? gate "snapshot_ids" with
        | some (.arr values) => values
        | _ => []
      some [("gate_name", .str (textOr builtin gate "gate_name" "content_approval")),
        ("snapshot_ids", .arr (snapshotIds.map fun value => .str (builtin.str value)))]
    | _ => none
  | _ => none

end

end GraphState

/-! ## Rendered snapshots and their content -/

def renderedSnapshots (payload : JsonObject) : List JsonObject :=
  match payload.get? "rendered_snapshots" with
  | some (.arr values) => dictsOf values
  | _ => []

/-- The inline content, typed by the snapshot when it names no type itself. -/
def snapshotContent (snapshot : JsonObject) : JsonObject :=
  let content := jsonObject (snapshot.get? "content_json")
  if (content.get? "artifact_type").isSome then content
  else
    match snapshot.get? "artifact_type" with
    | some (.str artifactType) =>
      if artifactType.isEmpty then content else content.set "artifact_type" (.str artifactType)
    | _ => content

/-- `content_store.read_projection`, dumped; the store may be missing. -/
abbrev ReadProjection := Option (String → Except GatewayError JsonObject)

/-- A snapshot without inline content is read from the content store. -/
def snapshotContentFromStore (readProjection : ReadProjection) (snapshot : JsonObject) :
    Except GatewayError JsonObject :=
  match readProjection with
  | none => .ok (snapshotContent snapshot)
  | some read =>
    if (snapshot.get? "content_json").isSome then .ok (snapshotContent snapshot)
    else
      match snapshot.get? "document_id" with
      | some (.str documentId) =>
        if documentId.isEmpty then .ok (snapshotContent snapshot)
        else
          (read documentId).map fun content =>
            if (content.get? "artifact_type").isSome then content
            else snapshotContent (snapshot.set "content_json" (.obj content))
      | _ => .ok (snapshotContent snapshot)

/-- The state the export writer gets: every snapshot carries its content. -/
def hydrateStateSnapshots (readProjection : ReadProjection) (state : GraphState) :
    Except GatewayError GraphState := do
  let approvalGate := jsonObject (state.get? "approval_gate")
  let own := renderedSnapshots state.members
  let snapshots := if own.isEmpty then renderedSnapshots approvalGate else own
  let hydrated ← snapshots.mapM fun snapshot => do
    let content ← snapshotContentFromStore readProjection snapshot
    return Json.obj (snapshot.set "content_json" (.obj content))
  if !approvalGate.isEmpty && (state.get? "rendered_snapshots").isNone then
    return state.set "approval_gate"
      (.obj (approvalGate.set "rendered_snapshots" (.arr hydrated)))
  else
    return state.set "rendered_snapshots" (.arr hydrated)

end

/-!
## Recording a completed graph run

`TeachingPackCompletionRecorder`.  A final state is a content gate to open, a
quality recovery, an export, or a completion without evidence; each branch
makes its own status transitions.
-/

section

open OhMyClass.Transition TeachingPackRunStore

/-- What the delivery sink may raise; the first two are caught. -/
inductive OutcomeDeliveryError where
  | outcomeDeliveryWriteError
  | timeoutError
  | other (error : GatewayError)

/-- The notification sink: what a call raises, if anything. -/
structure TeachingPackNotificationSink where
  notifyCompleted : RunId → String → Except GatewayError Unit
  notifyFailed : RunId → String → String → Except GatewayError Unit

/-- The collaborators of the recorder beside the run store.  `freshId` gives
the UUIDs drawn during one completion. -/
structure TeachingPackCompletionRecorder where
  builtin : BuiltinConversions
  tools : SnapshotTools
  freshId : Nat → String
  render : JsonObject → Except GatewayError String
  writeExports : RunId → GraphState → Except GatewayError (List String)
  notifications : Option TeachingPackNotificationSink
  outcomeDelivery : Option (RunId → String → GraphState → Except OutcomeDeliveryError Unit)
  hasExportStore : Bool
  readProjection : ReadProjection

namespace TeachingPackCompletionRecorder

variable (recorder : TeachingPackCompletionRecorder)

def contentUpdateCreate (runId : RunId) (event : JsonObject) : TeachingPackEventCreate where
  runId := runId
  eventName := textOr recorder.builtin event "event_name" "teaching_pack.content_version.created"
  visibility := .teacher
  payload := some (jsonObject (event.get? "payload"))

def persistContentUpdate (runId : RunId) (state : GraphState) : DbSession Unit := do
  match state.contentUpdateEvent with
  | none => return ⟨⟩
  | some event =>
    let _ ← writeEvent (recorder.contentUpdateCreate runId event)
    return ⟨⟩

/-- `str(snapshot[key])`. -/
def requiredText (snapshot : JsonObject) (key : String) : Except GatewayError String :=
  match snapshot.get? key with
  | none => .error (.keyError key)
  | some value => .ok (recorder.builtin.str value)

def gateSnapshotCreate (runId : RunId) (snapshot contentJson : JsonObject)
    (renderedHtml : String) : Except GatewayError ArtifactSnapshotCreate := do
  let snapshotId ← recorder.requiredText snapshot "snapshot_id"
  let artifactId ← recorder.requiredText snapshot "artifact_id"
  let artifactType ← recorder.requiredText snapshot "artifact_type"
  return {
    snapshotId, runId, artifactId, artifactType, contentJson, renderedHtml
    rendererVersion := textOr recorder.builtin snapshot "renderer_version" "renderer-adapter"
    templateVersion := textOr recorder.builtin snapshot "template_version" "eta-agent-renderer"
    themeVersion := textOr recorder.builtin snapshot "theme_version" "default" }

def persistGateSnapshot (runId : RunId) (snapshot : JsonObject) : DbSession Unit := do
  let contentJson ← Session.call (snapshotContentFromStore recorder.readProjection snapshot)
  let renderedHtml ← Session.call (recorder.render contentJson)
  let create ← Session.call (recorder.gateSnapshotCreate runId snapshot contentJson renderedHtml)
  let _ ← TeachingPackSnapshotStore.createSnapshot recorder.tools create
  return ⟨⟩

/-- `{"gate_id": gate_id, **gate_payload}`: a gate id in the payload wins. -/
def openGatePayload (gateId : String) (gatePayload : JsonObject) : JsonObject :=
  gatePayload.foldl (fun merged member => merged.set member.1 member.2) [("gate_id", .str gateId)]

def gateOpenedPayload (gateId : String) (gatePayload : JsonObject) : JsonObject :=
  [("gate_id", .str gateId),
    ("snapshot_ids", (gatePayload.get? "snapshot_ids").getD (.arr [])),
    ("artifact_statuses", (gatePayload.get? "artifact_statuses").getD (.arr [])),
    ("content_artifacts", (gatePayload.get? "content_artifacts").getD (.arr [])),
    ("quality_scores", (gatePayload.get? "quality_scores").getD (.obj []))]

def persistContentGate (runId : RunId) (gatePayload : JsonObject) : DbSession Unit := do
  Session.forEach (renderedSnapshots gatePayload) (recorder.persistGateSnapshot runId)
  let gateId := "gate-" ++ recorder.freshId 0
  openGate ⟨gateId, runId, "content_approval", openGatePayload gateId gatePayload⟩
  transitionStatus ⟨runId, .awaitingApproval, some "content_approval", some "content_approval"⟩
  let _ ← writeEvent
    { runId := runId
      eventName := "teaching_pack.content_approval.opened"
      visibility := .teacher
      payload := some (gateOpenedPayload gateId gatePayload) }
  return ⟨⟩

/-- Every route leads back to planning. -/
def recoveryStatus (_recoveryRoute : String) : RunStatus :=
  .planning

def persistQualityRecovery (runId : RunId) (recoveryRoute : String) (state : GraphState) :
    DbSession Unit := do
  transitionStatus ⟨runId, recoveryStatus recoveryRoute, some recoveryRoute,
    some ("quality_recovery:" ++ recoveryRoute)⟩
  let _ ← writeEvent
    { runId := runId
      eventName := "teaching_pack.quality_recovery.started"
      visibility := .internal
      payload := some [("route", .str recoveryRoute),
        ("issues", .arr (state.qualityIssues recorder.builtin))] }
  return ⟨⟩

def persistMissingEvidence (runId : RunId) : DbSession Unit := do
  transitionStatus ⟨runId, .failed, none, some "missing_export_evidence"⟩
  let _ ← writeEvent
    { runId := runId
      eventName := "teaching_pack.run.failed"
      visibility := .teacher
      payload := some [("error", .str "V2 graph completed without export evidence")] }
  return ⟨⟩

def persistExportRecords (runId : RunId) (state : GraphState) (exportedFiles : List String) :
    DbSession Unit :=
  if recorder.hasExportStore then
    Session.forEach
      (exportRecordsFromFiles recorder.builtin recorder.freshId runId exportedFiles
        (approvedSnapshotsForExport recorder.builtin state.members))
      fun record => do
        let _ ← TeachingPackExportStore.createExportRecord record
        return ⟨⟩
  else
    return ⟨⟩

def persistAutoApproval (runId : RunId) (state : GraphState) : DbSession Unit := do
  match state.autoApprovalPayload recorder.builtin with
  | none => return ⟨⟩
  | some payload =>
    let _ ← writeEvent
      { runId := runId
        eventName := "teaching_pack.content_approval.auto_approved"
        visibility := .teacher
        payload := some payload }
    return ⟨⟩

def notifyCompleted (runId : RunId) (run : Option Run) : DbSession Unit :=
  match recorder.notifications, run with
  | some sink, some run => Session.call (sink.notifyCompleted runId run.teacherId)
  | _, _ => return ⟨⟩

/-- A failed delivery is recorded and does not fail the completion. -/
def deliverOutcome (runId : RunId) (run : Option Run) (state : GraphState) : DbSession Unit :=
  match recorder.outcomeDelivery, run with
  | some deliver, some run =>
    match deliver runId run.teacherId state with
    | .ok _ => return ⟨⟩
    | .error (.other error) => Session.raise error
    | .error _ => do
      let _ ← writeEvent
        { runId := runId
          eventName := "teaching_pack.outcome_delivery.failed"
          visibility := .internal
          payload := some [("reason", .str "outcome_delivery_write_failed")] }
      return ⟨⟩
  | _, _ => return ⟨⟩

/-- A completed run has been exported already. -/
def persistExport (runId : RunId) (state : GraphState) : DbSession Unit := do
  let run ← getRunById runId
  if run.any fun run => run.status == .completed then
    return ⟨⟩
  else
    let exportState ← Session.call (hydrateStateSnapshots recorder.readProjection state)
    let exportedFiles ← Session.call (recorder.writeExports runId exportState)
    recorder.persistExportRecords runId state exportedFiles
    transitionStatus ⟨runId, .exporting, some "export_finalize", some "export_started"⟩
    transitionStatus ⟨runId, .completed, none, some "completed"⟩
    recorder.persistAutoApproval runId state
    let _ ← writeEvent
      { runId := runId
        eventName := "teaching_pack.run.completed"
        visibility := .teacher
        payload := some [("exported_files", .arr (exportedFiles.map Json.str))] }
    recorder.notifyCompleted runId run
    recorder.deliverOutcome runId run state

def persistCompletion (runId : RunId) (state : GraphState) : DbSession Unit := do
  recorder.persistContentUpdate runId state
  match state.contentGatePayload with
  | some gatePayload => recorder.persistContentGate runId gatePayload
  | none =>
    match state.qualityRecoveryRoute with
    | some recoveryRoute => recorder.persistQualityRecovery runId recoveryRoute state
    | none =>
      if state.hasExportEvidence then recorder.persistExport runId state
      else persistMissingEvidence runId

end TeachingPackCompletionRecorder

end

/-! ## Replaying a completion at the content gate -/

open OhMyClass.Transition TeachingPackRunStore

def HasActiveGate (runId : RunId) (gateName : String) (db : Db) : Prop :=
  ∃ gate ∈ db.gates.rows, gate.runId = runId ∧ gate.gateName = gateName ∧ gate.status = .active

def activeGateCount (runId : RunId) (gateName : String) (db : Db) : Nat :=
  db.gates.rows.countP fun gate =>
    gate.runId == runId && gate.gateName == gateName && gate.status == .active

def eventCount (runId : RunId) (eventName : String) (db : Db) : Nat :=
  db.events.rows.countP fun event => event.runId == runId && event.eventName == eventName

/-- The completion left one active gate, one gate-opened event and, with a
content update, one event of its version. -/
structure RecordedOnce (recorder : TeachingPackCompletionRecorder) (runId : RunId)
    (state : GraphState) (before after : Db) : Prop where
  gate : activeGateCount runId "content_approval" after = 1
  opened : eventCount runId "teaching_pack.content_approval.opened" after =
    eventCount runId "teaching_pack.content_approval.opened" before + 1
  updated : ∀ event ∈ state.contentUpdateEvent,
    eventCount runId (recorder.contentUpdateCreate runId event).eventName after =
      eventCount runId (recorder.contentUpdateCreate runId event).eventName before + 1

/-- A second recording of the state, later and with ids of its own, succeeds
and leaves what one recording leaves. -/
def ReplaysAsOnce (replayed : TeachingPackCompletionRecorder) (runId : RunId)
    (state : GraphState) (before after : Db) (elapsed : Nat) : Prop :=
  ∃ final, replayed.persistCompletion runId state { after with now := after.now + elapsed } =
    (.ok ⟨⟩, final) ∧ RecordedOnce replayed runId state before final

section

variable {runId : RunId} {gateName : String}

theorem keeps_gate_writeEvent (payload : TeachingPackEventCreate) :
    Session.Keeps (HasActiveGate runId gateName) (writeEvent payload) := by
  intro db hasGate
  rcases writeRow_outcome db (rowOf_writeEvent payload) with ⟨_, events, outbox, outcome, _⟩
  rw [writeEvent, outcome]
  exact hasGate

theorem keeps_gate_transitionStatus (payload : TeachingPackStatusTransition) :
    Session.Keeps (HasActiveGate runId gateName) (transitionStatus payload) := by
  intro db hasGate
  have outcome := transitionStatus_outcome payload db
  generalize transitionStatus payload db = answer at outcome ⊢
  cases outcome with
  | missing => exact hasGate
  | rejected => exact hasGate
  | written => exact hasGate

namespace TeachingPackCompletionRecorder

variable (recorder : TeachingPackCompletionRecorder)

theorem keeps_gate_persistContentUpdate (updated : RunId) (state : GraphState) :
    Session.Keeps (HasActiveGate runId gateName) (recorder.persistContentUpdate updated state) := by
  unfold persistContentUpdate
  cases state.contentUpdateEvent with
  | none => exact Session.keeps_pure _
  | some event =>
    refine Session.keeps_bind (keeps_gate_writeEvent _) fun _ => ?_
    exact Session.keeps_pure _

theorem keeps_gate_persistGateSnapshot (submitted : RunId) (snapshot : JsonObject) :
    Session.Keeps (HasActiveGate runId gateName)
      (recorder.persistGateSnapshot submitted snapshot) := by
  refine Session.keeps_bind (Session.keeps_call _) fun contentJson => ?_
  refine Session.keeps_bind (Session.keeps_call _) fun renderedHtml => ?_
  refine Session.keeps_bind (Session.keeps_call _) fun create => ?_
  refine Session.keeps_bind ?_ fun _ => Session.keeps_pure _
  intro db hasGate
  obtain ⟨_, snapshots, outcome⟩ :=
    TeachingPackSnapshotStore.createSnapshot_outcome_snapshots recorder.tools create db
  rw [outcome]
  exact hasGate

end TeachingPackCompletionRecorder

end

theorem openGate_hasActiveGate {payload : TeachingPackGateCreate} {db after : Db} {answer : PUnit}
    (opened : openGate payload db = (.ok answer, after)) :
    HasActiveGate payload.runId payload.gateName after := by
  unfold openGate at opened
  split at opened
  · split at opened
    · cases opened
    · next gates inserted =>
      cases opened
      have stored : (⟨payload.gateId, payload.runId, payload.gateName, .active, payload.payload,
          db.now⟩ : GateInterrupt) ∈ gates.rows := by
        rw [Table.rows_of_insert inserted]
        exact List.mem_append_right _ (List.mem_singleton.mpr rfl)
      exact ⟨_, stored, rfl, rfl, rfl⟩
  · cases opened

theorem raises_openGate (payload : TeachingPackGateCreate) :
    Session.Raises (HasActiveGate payload.runId payload.gateName) (openGate payload) := by
  rintro db ⟨gate, stored, sameRun, sameName, isActive⟩
  have taken : db.gates.insert
      ⟨payload.gateId, payload.runId, payload.gateName, .active, payload.payload, db.now⟩ =
        none := by
    rw [Table.insert_eq_none_iff]
    exact ⟨gate, stored, .inr ⟨isActive, rfl, sameRun, sameName⟩⟩
  unfold openGate
  split
  · exact ⟨_, db, by rw [taken]⟩
  · exact ⟨_, db, rfl⟩

namespace TeachingPackCompletionRecorder

variable (recorder : TeachingPackCompletionRecorder) {runId : RunId}

theorem persistContentGate_hasActiveGate {gatePayload : JsonObject} {db after : Db}
    {answer : Unit} (recorded : recorder.persistContentGate runId gatePayload db =
      (.ok answer, after)) :
    HasActiveGate runId "content_approval" after := by
  rcases Session.bind_eq_ok.mp recorded with ⟨_, rendered, _, recorded⟩
  rcases Session.bind_eq_ok.mp recorded with ⟨_, gated, openedEq, recorded⟩
  rcases Session.bind_eq_ok.mp recorded with ⟨_, waiting, transitionEq, recorded⟩
  rcases Session.bind_eq_ok.mp recorded with ⟨_, announced, eventEq, recorded⟩
  cases recorded
  have opened := openGate_hasActiveGate openedEq
  have transitioned := (keeps_gate_transitionStatus _).holds_after transitionEq opened
  exact (keeps_gate_writeEvent _).holds_after eventEq transitioned

theorem raises_persistContentGate_again (gatePayload : JsonObject) :
    Session.Raises (HasActiveGate runId "content_approval")
      (recorder.persistContentGate runId gatePayload) := by
  apply Session.raises_bind
  · exact Session.keeps_forEach fun snapshot _ =>
      recorder.keeps_gate_persistGateSnapshot runId snapshot
  · intro _
    exact Session.raises_bind_of_first (raises_openGate
      ⟨_, runId, "content_approval", openGatePayload ("gate-" ++ recorder.freshId 0) gatePayload⟩) _

end TeachingPackCompletionRecorder

/-- Whatever a first committed completion at the content gate recorded, a
second one raises: it never leaves what one completion leaves. -/
theorem content_gate_never_replays_as_once (recorder replayed : TeachingPackCompletionRecorder)
    {runId : RunId} {state : GraphState} (isGate : state.contentGatePayload.isSome)
    {db after : Db} (committed : recorder.persistCompletion runId state db = (.ok ⟨⟩, after))
    (elapsed : Nat) : ¬ ReplaysAsOnce replayed runId state db after elapsed := by
  rintro ⟨final, succeeded, _⟩
  rcases Option.isSome_iff_exists.mp isGate with ⟨gatePayload, isPayload⟩
  unfold TeachingPackCompletionRecorder.persistCompletion at committed succeeded
  simp only [isPayload] at committed succeeded
  rcases Session.bind_eq_ok.mp committed with ⟨_, _, _, gateEq⟩
  have hasGate := recorder.persistContentGate_hasActiveGate gateEq
  have raises : Session.Raises (HasActiveGate runId "content_approval") _ :=
    Session.raises_bind (replayed.keeps_gate_persistContentUpdate runId state) fun _ =>
      replayed.raises_persistContentGate_again gatePayload
  rcases raises { after with now := after.now + elapsed } hasGate with ⟨error, _, raised⟩
  cases succeeded.symm.trans raised

/-! ## A run that reaches the gate after an edit -/

/-- A recorder whose only snapshots would be rendered as empty pages. -/
def plainRecorder (drawn : String) : TeachingPackCompletionRecorder where
  builtin := ⟨fun _ => "", fun _ => none, fun _ => none⟩
  tools := ⟨id, fun _ => false⟩
  freshId := fun index => drawn ++ toString index
  render := fun _ => .ok ""
  writeExports := fun _ _ => .ok []
  notifications := none
  outcomeDelivery := none
  hasExportStore := true
  readProjection := none

/-- The graph waits for the approval of an edited version. -/
def editedGateState : GraphState where
  members := [("content_update_event", .obj [("payload", .obj [])])]
  interrupts := [.interrupt (.obj [("gate", .str "content_approval")])]

def generatingDb : Db :=
  { Db.empty 0 with
    runs := .single ⟨"run-1", "teacher-1", .generating, 0, none, none, none, none⟩ }

/-- The database the first completion commits. -/
def gatedDb : Db :=
  ((plainRecorder "a").persistCompletion "run-1" editedGateState generatingDb).2

theorem persistCompletion_generatingDb :
    (plainRecorder "a").persistCompletion "run-1" editedGateState generatingDb =
      (.ok ⟨⟩, gatedDb) := by
  have ret : ((plainRecorder "a").persistCompletion "run-1" editedGateState
      generatingDb).1.isOk = true := by
    decide +kernel
  refine Prod.ext ?_ rfl
  cases outcome : ((plainRecorder "a").persistCompletion "run-1" editedGateState
      generatingDb).1 with
  | ok _ => rfl
  | error _ =>
    rw [outcome] at ret
    cases ret

theorem persistCompletion_gatedDb :
    ((plainRecorder "b").persistCompletion "run-1" editedGateState gatedDb).1 =
      .error (.store .integrityError) :=
  eq_of_isRefused (by decide +kernel)

/-- The first completion leaves one gate and one event of each kind, and the
second one meets the unique index over active gates. -/
theorem content_gate_replay_refused :
    (plainRecorder "a").persistCompletion "run-1" editedGateState generatingDb =
        (.ok ⟨⟩, gatedDb) ∧
      activeGateCount "run-1" "content_approval" gatedDb = 1 ∧
      eventCount "run-1" "teaching_pack.content_approval.opened" gatedDb = 1 ∧
      eventCount "run-1" "teaching_pack.content_version.created" gatedDb = 1 ∧
      ((plainRecorder "b").persistCompletion "run-1" editedGateState gatedDb).1 =
        .error (.store .integrityError) :=
  ⟨persistCompletion_generatingDb, by decide +kernel, by decide +kernel, by decide +kernel,
    persistCompletion_gatedDb⟩

theorem edited_gate_never_replays_as_once :
    ¬ ReplaysAsOnce (plainRecorder "b") "run-1" editedGateState generatingDb gatedDb 60 :=
  content_gate_never_replays_as_once (plainRecorder "a") (plainRecorder "b") rfl
    persistCompletion_generatingDb 60

end OhMyClass.Gateway
