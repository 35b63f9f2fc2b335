import OhMyClass.Gateway.Db

/-!
# The run store

Events, status transitions and gates of a run.  Each event gets the sequence
after the largest stored one and an outbox row with the same key, inserted in
the same transaction.
-/

namespace OhMyClass.Gateway

open OhMyClass.Transition Session

structure TeachingPackEventCreate where
  runId : RunId
  eventName : String
  visibility : TeachingPackEventVisibility
  stage : Option String := none
  payload : Option JsonObject := none

structure TeachingPackEventRead where
  runId : RunId
  sequence : Nat
  eventName : String
  visibility : TeachingPackEventVisibility
  payload : Option JsonObject

/-- An event of the agents' event bus; `timestamp` is its ISO text. -/
structure ObservabilityEvent where
  eventId : String
  runId : RunId
  eventType : String
  payload : JsonObject
  timestamp : String
  teacherId : Option String
  stage : Option String

structure TeachingPackStatusTransition where
  runId : RunId
  status : RunStatus
  stage : Option String
  reason : Option String

structure TeachingPackGateCreate where
  gateId : String
  runId : RunId
  gateName : String
  payload : JsonObject

/-- `None` or the text. -/
def optionalText : Option String → Json
  | none => .null
  | some text => .str text

def observabilityEventPayload (event : ObservabilityEvent) : JsonObject :=
  [("event_id", .str event.eventId), ("observability_event_type", .str event.eventType),
    ("timestamp", .str event.timestamp), ("payload", .obj event.payload)] ++
    event.teacherId.toList.map fun teacherId => ("teacher_id", .str teacherId)

def observabilityEventRow (event : ObservabilityEvent) (sequence : Nat)
    (visibility : TeachingPackEventVisibility) (now : DateTime) : RunEvent where
  runId := event.runId
  sequence := sequence
  eventName := event.eventType
  stage := event.stage
  visibility := visibility
  payload := some (observabilityEventPayload event)
  createdAt := now

/-- The row `write_event` inserts. -/
def TeachingPackEventCreate.row (create : TeachingPackEventCreate) (sequence : Nat)
    (now : DateTime) : RunEvent where
  runId := create.runId
  sequence := sequence
  eventName := create.eventName
  stage := create.stage
  visibility := create.visibility
  payload := create.payload
  createdAt := now

def outboxRow (runId : RunId) (sequence : Nat) (now : DateTime) : RunEventOutbox where
  runId := runId
  sequence := sequence
  dedupeKey := runId ++ ":" ++ toString sequence
  status := "pending"
  attempts := 0
  createdAt := now

/-- Insert an event row; its run must exist. -/
def insertEvent (event : RunEvent) : DbSession PUnit := fun db =>
  if db.HasRun event.runId then
    match db.events.insert event with
    | none => (.error (.store .integrityError), db)
    | some events => (.ok ⟨⟩, { db with events := events })
  else
    (.error (.store .integrityError), db)

def RunEventOutboxStore.enqueue (runId : RunId) (sequence : Nat) : DbSession PUnit := fun db =>
  if db.HasRun runId then
    match db.outbox.insert (outboxRow runId sequence db.now) with
    | none => (.error (.store .integrityError), db)
    | some outbox => (.ok ⟨⟩, { db with outbox := outbox })
  else
    (.error (.store .integrityError), db)

namespace TeachingPackRunStore

/-- `coalesce(max(sequence), 0) + 1` over the stored events of the run. -/
def nextSequence (db : Db) (runId : RunId) : Nat :=
  ((db.events.rows.filter fun event => event.runId == runId).map RunEvent.sequence).foldr max 0 + 1

/-- The body the two event writers share: number the event, insert it and its
outbox row. -/
def writeRow (runId : RunId) (row : Nat → DateTime → RunEvent) :
    DbSession TeachingPackEventRead := do
  let sequence ← Session.read fun db => nextSequence db runId
  let now ← Session.read Db.now
  let event := row sequence now
  insertEvent event
  RunEventOutboxStore.enqueue runId sequence
  return { runId, sequence, eventName := event.eventName, visibility := event.visibility,
           payload := event.payload }

def writeEvent (payload : TeachingPackEventCreate) : DbSession TeachingPackEventRead :=
  writeRow payload.runId payload.row

def writeObservabilityEvent (event : ObservabilityEvent)
    (visibility : TeachingPackEventVisibility) : DbSession TeachingPackEventRead :=
  writeRow event.runId fun sequence now => observabilityEventRow event sequence visibility now

def getRunById (runId : RunId) : DbSession (Option Run) :=
  Session.read fun db => db.findRun runId

def setStatus (status : RunStatus) (run : Run) : Run :=
  { run with status := status }

/-- `select(Run).where(...)` followed by `scalar_one`. -/
def requireRun (runId : RunId) : DbSession Run := fun db =>
  match db.findRun runId with
  | none => (.error (.store .noResultFound), db)
  | some run => (.ok run, db)

def transitionStatus (payload : TeachingPackStatusTransition) : DbSession PUnit := do
  let run ← requireRun payload.runId
  match validateStatusTransition run.status payload.status with
  | .rejected _ _ reason => Session.raise (.invalidRunStatusTransition reason)
  | .accepted .. =>
    Session.write fun db => db.changeRun payload.runId (setStatus payload.status) fun _ => rfl
    Session.write fun db =>
      { db with
        statusHistory := db.statusHistory ++
          [⟨payload.runId, payload.status, payload.stage, payload.reason, db.now⟩] }
    let _ ← writeEvent
      { runId := payload.runId
        eventName := "teaching_pack.status.changed"
        visibility := .teacher
        payload := some [("status", .str payload.status.value),
          ("stage", optionalText payload.stage), ("reason", optionalText payload.reason)] }
    return ⟨⟩

/-- The run must exist, and no other active gate may have the same name. -/
def openGate (payload : TeachingPackGateCreate) : DbSession PUnit := fun db =>
  if db.HasRun payload.runId then
    match db.gates.insert
        ⟨payload.gateId, payload.runId, payload.gateName, .active, payload.payload, db.now⟩ with
    | none => (.error (.store .integrityError), db)
    | some gates => (.ok ⟨⟩, { db with gates := gates })
  else
    (.error (.store .integrityError), db)

end TeachingPackRunStore

/-! ## Outcomes of writing an event -/

namespace TeachingPackRunStore

variable {db : Db} {runId : RunId} {row : Nat → DateTime → RunEvent}

/-- The row builders of both event writers use the run, the sequence and the
clock. -/
def RowOf (runId : RunId) (row : Nat → DateTime → RunEvent) : Prop :=
  ∀ sequence now, (row sequence now).runId = runId ∧ (row sequence now).sequence = sequence ∧
    (row sequence now).createdAt = now

theorem rowOf_writeEvent (payload : TeachingPackEventCreate) :
    RowOf payload.runId payload.row :=
  fun _ _ => ⟨rfl, rfl, rfl⟩

theorem rowOf_writeObservabilityEvent (event : ObservabilityEvent)
    (visibility : TeachingPackEventVisibility) :
    RowOf event.runId fun sequence now => observabilityEventRow event sequence visibility now :=
  fun _ _ => ⟨rfl, rfl, rfl⟩

theorem sequence_lt_nextSequence {event : RunEvent} (mem : event ∈ db.events.rows) :
    event.sequence < nextSequence db event.runId := by
  have bounded (sequences : List Nat) (sequence : Nat) (among : sequence ∈ sequences) :
      sequence ≤ sequences.foldr max 0 := by
    induction sequences with
    | nil => cases among
    | cons head tail ih =>
      rcases List.mem_cons.mp among with rfl | later
      · exact Nat.le_max_left _ _
      · exact (ih later).trans (Nat.le_max_right _ _)
  exact Nat.lt_succ_of_le (bounded _ _ (List.mem_map.mpr
    ⟨event, List.mem_filter.mpr ⟨mem, beq_self_eq_true event.runId⟩, rfl⟩))

theorem not_conflict_next {stored event : RunEvent} (mem : stored ∈ db.events.rows)
    (next : event.sequence = nextSequence db event.runId) : ¬ RunEvent.Conflict stored event := by
  rintro ⟨sameRun, sameSequence⟩
  have below := sequence_lt_nextSequence mem
  rw [sameRun, sameSequence, next] at below
  exact Nat.lt_irrefl _ below

theorem nextSequence_of_no_event (noEvent : ∀ event ∈ db.events.rows, event.runId ≠ runId) :
    nextSequence db runId = 1 := by
  have none : db.events.rows.filter (fun event => event.runId == runId) = [] := by
    rw [List.filter_eq_nil_iff]
    intro event mem isRun
    exact noEvent event mem (beq_iff_eq.mp isRun)
  rw [nextSequence, none]
  rfl

theorem insertEvent_next (rowOf : RowOf runId row) (hasRun : db.HasRun runId) :
    ∃ events, events.rows = db.events.rows ++ [row (nextSequence db runId) db.now] ∧
      insertEvent (row (nextSequence db runId) db.now) db =
        (.ok ⟨⟩, { db with events := events }) := by
  have keyEq := rowOf (nextSequence db runId) db.now
  cases inserted : db.events.insert (row (nextSequence db runId) db.now) with
  | none =>
    rcases Table.insert_eq_none_iff.mp inserted with ⟨stored, mem, clash⟩
    have next : (row (nextSequence db runId) db.now).sequence =
        nextSequence db (row (nextSequence db runId) db.now).runId := by
      rw [keyEq.1, keyEq.2.1]
    exact absurd clash (not_conflict_next mem next)
  | some events =>
    have known : db.HasRun (row (nextSequence db runId) db.now).runId := by
      rw [keyEq.1]
      exact hasRun
    exact ⟨events, Table.rows_of_insert inserted, by simp only [insertEvent, if_pos known, inserted]⟩

/-- The read returned for a written row. -/
def readOf (event : RunEvent) : TeachingPackEventRead :=
  ⟨event.runId, event.sequence, event.eventName, event.visibility, event.payload⟩

/-- With a free outbox key the write succeeds and appends one row to each
table. -/
theorem writeRow_of_free (rowOf : RowOf runId row) (hasRun : db.HasRun runId)
    (free : ∀ stored ∈ db.outbox.rows,
      ¬ RunEventOutbox.Conflict stored (outboxRow runId (nextSequence db runId) db.now)) :
    ∃ events outbox, events.rows = db.events.rows ++ [row (nextSequence db runId) db.now] ∧
      outbox.rows = db.outbox.rows ++ [outboxRow runId (nextSequence db runId) db.now] ∧
      writeRow runId row db = (.ok (readOf (row (nextSequence db runId) db.now)),
        { db with events := events, outbox := outbox }) := by
  rcases insertEvent_next rowOf hasRun with ⟨events, eventRows, insertEq⟩
  cases inserted : db.outbox.insert (outboxRow runId (nextSequence db runId) db.now) with
  | none =>
    rcases Table.insert_eq_none_iff.mp inserted with ⟨stored, mem, clash⟩
    exact absurd clash (free stored mem)
  | some outbox =>
    have known : ({ db with events := events } : Db).HasRun runId := hasRun
    have enqueued : RunEventOutboxStore.enqueue runId (nextSequence db runId)
        { db with events := events } =
          (.ok ⟨⟩, { db with events := events, outbox := outbox }) := by
      simp only [RunEventOutboxStore.enqueue, if_pos known, inserted]
    have keyEq := rowOf (nextSequence db runId) db.now
    have written : writeRow runId row db = (.ok
        ⟨runId, nextSequence db runId, (row (nextSequence db runId) db.now).eventName,
          (row (nextSequence db runId) db.now).visibility,
          (row (nextSequence db runId) db.now).payload⟩,
        { db with events := events, outbox := outbox }) := by
      unfold writeRow
      rw [read_bind, read_bind, bind_apply_ok _ insertEq,
        bind_apply_ok _ enqueued]
      rfl
    refine ⟨events, outbox, eventRows, Table.rows_of_insert inserted, ?_⟩
    rw [written, readOf, keyEq.1, keyEq.2.1]

theorem writeRow_of_taken (rowOf : RowOf runId row) (hasRun : db.HasRun runId)
    {stored : RunEventOutbox} (mem : stored ∈ db.outbox.rows)
    (clash : RunEventOutbox.Conflict stored (outboxRow runId (nextSequence db runId) db.now)) :
    ∃ events, writeRow runId row db =
      (.error (.store .integrityError), { db with events := events }) := by
  rcases insertEvent_next rowOf hasRun with ⟨events, _, insertEq⟩
  have known : ({ db with events := events } : Db).HasRun runId := hasRun
  have rejected : RunEventOutboxStore.enqueue runId (nextSequence db runId)
      { db with events := events } =
        (.error (.store .integrityError), { db with events := events }) := by
    simp only [RunEventOutboxStore.enqueue, if_pos known,
      Table.insert_eq_none_iff.mpr ⟨stored, mem, clash⟩]
  refine ⟨events, ?_⟩
  unfold writeRow
  rw [read_bind, read_bind, bind_apply_ok _ insertEq,
    bind_apply_error _ rejected]

theorem writeRow_of_missing (rowOf : RowOf runId row) (missing : ¬ db.HasRun runId) :
    writeRow runId row db = (.error (.store .integrityError), db) := by
  have rejected : insertEvent (row (nextSequence db runId) db.now) db =
      (.error (.store .integrityError), db) := by
    rw [insertEvent, if_neg]
    rw [(rowOf _ _).1]
    exact missing
  unfold writeRow
  rw [read_bind, read_bind, bind_apply_error _ rejected]

/-- Whatever the outcome, writing an event touches the event log only, and only
the database refuses it. -/
theorem writeRow_outcome (db : Db) (rowOf : RowOf runId row) :
    ∃ result events outbox,
      writeRow runId row db = (result, { db with events := events, outbox := outbox }) ∧
        ∀ error, result = .error error → error = .store .integrityError := by
  have refusal (error : GatewayError)
      (isError : (.error (.store .integrityError) : Except GatewayError TeachingPackEventRead) =
        .error error) : error = .store .integrityError :=
    (Except.error.inj isError).symm
  by_cases hasRun : db.HasRun runId
  · by_cases taken : ∃ stored ∈ db.outbox.rows,
        RunEventOutbox.Conflict stored (outboxRow runId (nextSequence db runId) db.now)
    · rcases taken with ⟨stored, mem, clash⟩
      rcases writeRow_of_taken rowOf hasRun mem clash with ⟨events, raised⟩
      exact ⟨_, events, db.outbox, raised, refusal⟩
    · simp only [not_exists, not_and] at taken
      rcases writeRow_of_free rowOf hasRun taken with ⟨events, outbox, _, _, written⟩
      exact ⟨_, events, outbox, written, fun _ isError => by cases isError⟩
  · exact ⟨_, db.events, db.outbox, writeRow_of_missing rowOf hasRun, refusal⟩

/-! ## Outcomes of a transition -/

/-- The run is missing, the transition is rejected, or the status is written and
its event follows unless the database refuses it. -/
inductive TransitionOutcome (payload : TeachingPackStatusTransition) (db : Db) :
    Except GatewayError PUnit × Db → Prop
  | missing : db.findRun payload.runId = none →
      TransitionOutcome payload db (.error (.store .noResultFound), db)
  | rejected {run : Run} {fromStatus toStatus : RunStatus} {reason : String} :
      db.findRun payload.runId = some run →
      validateStatusTransition run.status payload.status =
        .rejected fromStatus toStatus reason →
      TransitionOutcome payload db (.error (.invalidRunStatusTransition reason), db)
  | written {run : Run} {fromStatus toStatus : RunStatus} {result : Except GatewayError PUnit}
      {statusHistory : List RunStatusHistory} {events : RunEvents} {outbox : RunEventOutboxes} :
      db.findRun payload.runId = some run →
      validateStatusTransition run.status payload.status = .accepted fromStatus toStatus →
      (∀ error, result = .error error → error = .store .integrityError) →
      TransitionOutcome payload db (result,
        { db.changeRun payload.runId (setStatus payload.status) fun _ => rfl with
          statusHistory := statusHistory, events := events, outbox := outbox })

theorem TransitionOutcome.of_event {payload : TeachingPackStatusTransition} {db : Db} {run : Run}
    {fromStatus toStatus : RunStatus} {statusHistory : List RunStatusHistory}
    (found : db.findRun payload.runId = some run)
    (accepted : validateStatusTransition run.status payload.status =
      .accepted fromStatus toStatus) (event : TeachingPackEventCreate) :
    TransitionOutcome payload db
      ((do let _ ← writeEvent event; return ⟨⟩ : DbSession PUnit)
        { db.changeRun payload.runId (setStatus payload.status) fun _ => rfl with
          statusHistory := statusHistory }) := by
  obtain ⟨result, events, outbox, wrote, refused⟩ := writeRow_outcome
    { db.changeRun payload.runId (setStatus payload.status) fun _ => rfl with
      statusHistory := statusHistory } (rowOf_writeEvent event)
  change writeEvent event _ = _ at wrote
  cases result with
  | ok read =>
    rw [bind_apply_ok _ wrote]
    exact .written found accepted fun _ isError => by cases isError
  | error error =>
    rw [bind_apply_error _ wrote]
    exact .written found accepted fun _ isError =>
      refused _ (congrArg _ (Except.error.inj isError))

theorem transitionStatus_outcome (payload : TeachingPackStatusTransition) (db : Db) :
    TransitionOutcome payload db (transitionStatus payload db) := by
  cases found : db.findRun payload.runId with
  | none =>
    have required : requireRun payload.runId db = (.error (.store .noResultFound), db) := by
      rw [requireRun, found]
    rw [transitionStatus, bind_apply_error _ required]
    exact .missing found
  | some run =>
    have required : requireRun payload.runId db = (.ok run, db) := by
      rw [requireRun, found]
    rw [transitionStatus, bind_apply_ok _ required]
    cases verdict : validateStatusTransition run.status payload.status with
    | rejected fromStatus toStatus reason => exact .rejected found verdict
    | accepted fromStatus toStatus =>
      exact .of_event found verdict _

end TeachingPackRunStore

end OhMyClass.Gateway
