import Mathlib.Data.Finmap
import OhMyClass.Gateway.Basic
import OhMyClass.LastWrite.Core
import OhMyClass.Sorting.Core
import OhMyClass.Table.Core

/-!
# Events of a session

The events a session can have, and the log they are appended to.
-/

namespace OhMyClass.Gateway.Teaching

/-!
## Session events and the derived read model

The state of a live session is never stored: it is folded from its events.
Every event type writes some fields of the read model and leaves the others,
so that each field is a register that keeps its last write.
-/

section

abbrev SessionId := String

abbrev CallId := Nat

inductive SessionRole where
  | controller
  | display
  | student
  | observer

inductive SessionEventType where
  | sessionStarted
  | slideChanged
  | interactionOpened
  | aggregateUpdated
  | branchSelected
  | annotationAdded
  | sessionEnded
  | contentRepublished
  deriving DecidableEq

/-- The aggregate of one interaction. -/
abbrev Tallies := Finmap fun _ : String => Int

/-- A payload of the model its event type requires. -/
inductive SessionEventPayload where
  | sessionStarted (deckId snapshotId : String)
  | slideChanged (slideId : String) (slideIndex : Option Int)
  | interactionOpened (interactionId slideId : String) (interactionKind : Option String)
  | aggregateUpdated (interactionId : String) (tallies : Tallies)
  | branchSelected (slideId branchId source : String)
  | annotationAdded (slideId annotationId : String) (annotationKind : Option String)
  | sessionEnded (reason : Option String)
  | contentRepublished (snapshotId : String)

def SessionEventPayload.eventType : SessionEventPayload → SessionEventType
  | sessionStarted .. => .sessionStarted
  | slideChanged .. => .slideChanged
  | interactionOpened .. => .interactionOpened
  | aggregateUpdated .. => .aggregateUpdated
  | branchSelected .. => .branchSelected
  | annotationAdded .. => .annotationAdded
  | sessionEnded .. => .sessionEnded
  | contentRepublished .. => .contentRepublished

structure SessionEvent where
  eventId : String
  sessionId : SessionId
  payload : SessionEventPayload
  actorRole : SessionRole
  createdAt : DateTime
  sequence : Option Nat

structure SessionReadModel where
  sessionId : SessionId
  currentSlideId : Option String
  currentBranchId : Option String
  openInteractionId : Option String
  tallies : Finmap fun _ : String => Tallies
  ended : Bool
  lastSequence : Nat
  updatedAt : Option DateTime

def initialReadModel (sessionId : SessionId) : SessionReadModel where
  sessionId := sessionId
  currentSlideId := none
  currentBranchId := none
  openInteractionId := none
  tallies := ∅
  ended := false
  lastSequence := 0
  updatedAt := none

/-- The fields an event type derives. -/
def applyPayload (state : SessionReadModel) : SessionEventPayload → SessionReadModel
  | .slideChanged slideId _ => { state with currentSlideId := some slideId }
  | .branchSelected slideId branchId _ =>
    { state with currentSlideId := some slideId, currentBranchId := some branchId }
  | .interactionOpened interactionId _ _ => { state with openInteractionId := some interactionId }
  | .aggregateUpdated interactionId tallies =>
    { state with tallies := state.tallies.insert interactionId tallies }
  | .sessionEnded _ => { state with ended := true }
  | .sessionStarted .. | .annotationAdded .. | .contentRepublished .. => state

def applySequence (state : SessionReadModel) : Option Nat → SessionReadModel
  | some sequence => { state with lastSequence := max state.lastSequence sequence }
  | none => state

def applyEvent (state : SessionReadModel) (event : SessionEvent) : SessionReadModel :=
  { applySequence (applyPayload state event.payload) event.sequence with
    updatedAt := some event.createdAt }

/-- Fold events, oldest first. -/
def applyEvents (state : SessionReadModel) (events : List SessionEvent) : SessionReadModel :=
  events.foldl applyEvent state

@[simp]
theorem applyEvents_nil (state : SessionReadModel) : applyEvents state [] = state :=
  rfl

theorem applyEvents_append (state : SessionReadModel) (older newer : List SessionEvent) :
    applyEvents state (older ++ newer) = applyEvents (applyEvents state older) newer :=
  List.foldl_append

theorem applyEvents_concat (state : SessionReadModel) (events : List SessionEvent)
    (event : SessionEvent) :
    applyEvents state (events ++ [event]) = applyEvent (applyEvents state events) event := by
  rw [applyEvents_append]
  rfl

/-! ## Fields as registers -/

inductive ReadModelField where
  | currentSlide
  | currentBranch
  | openInteraction
  | tallies (interactionId : String)
  | ended

inductive FieldValue where
  | id (id : String)
  | tallies (tallies : Tallies)
  | yes

/-- The value of a field, where it differs from the initial one. -/
def SessionReadModel.field (state : SessionReadModel) : ReadModelField → Option FieldValue
  | .currentSlide => state.currentSlideId.map .id
  | .currentBranch => state.currentBranchId.map .id
  | .openInteraction => state.openInteractionId.map .id
  | .tallies interactionId => (state.tallies.lookup interactionId).map .tallies
  | .ended => bif state.ended then some .yes else none

def SessionEvent.writes (event : SessionEvent) (field : ReadModelField) : Option FieldValue :=
  match event.payload, field with
  | .slideChanged slideId _, .currentSlide => some (.id slideId)
  | .branchSelected slideId _ _, .currentSlide => some (.id slideId)
  | .branchSelected _ branchId _, .currentBranch => some (.id branchId)
  | .interactionOpened interactionId _ _, .openInteraction => some (.id interactionId)
  | .aggregateUpdated updated tallies, .tallies interactionId =>
    if interactionId = updated then some (.tallies tallies) else none
  | .sessionEnded _, .ended => some .yes
  | _, _ => none

@[simp]
theorem field_initialReadModel (sessionId : SessionId) (field : ReadModelField) :
    (initialReadModel sessionId).field field = none := by
  cases field <;> simp [initialReadModel, SessionReadModel.field]

theorem field_applyPayload (state : SessionReadModel) (event : SessionEvent)
    (field : ReadModelField) :
    (applyPayload state event.payload).field field = (event.writes field).or (state.field field) := by
  rcases event with ⟨_, _, payload, _, _, _⟩
  cases payload with
  | aggregateUpdated updated tallies =>
    cases field with
    | tallies interactionId =>
      by_cases same : interactionId = updated
      · subst same
        simp [applyPayload, SessionEvent.writes, SessionReadModel.field]
      · simp [same, applyPayload, SessionEvent.writes, SessionReadModel.field]
    | _ => simp [applyPayload, SessionEvent.writes, SessionReadModel.field]
  | _ => cases field <;> simp [applyPayload, SessionEvent.writes, SessionReadModel.field]

theorem field_applyEvent (state : SessionReadModel) (event : SessionEvent)
    (field : ReadModelField) :
    (applyEvent state event).field field = (event.writes field).or (state.field field) := by
  rw [← field_applyPayload]
  unfold applyEvent applySequence
  cases event.sequence <;> cases field <;> rfl

theorem field_applyEvents (state : SessionReadModel) (events : List SessionEvent)
    (field : ReadModelField) :
    (applyEvents state events).field field =
      (LastWrite.current SessionEvent.writes events field).or (state.field field) := by
  induction events generalizing state with
  | nil => simp
  | cons event rest ih =>
    change (applyEvents (applyEvent state event) rest).field field = _
    rw [ih, field_applyEvent, ← List.singleton_append, LastWrite.current_append,
      LastWrite.current_singleton, Option.or_assoc]

theorem SessionReadModel.ext_field {first second : SessionReadModel}
    (sameSession : first.sessionId = second.sessionId)
    (sameFields : ∀ field, first.field field = second.field field)
    (sameSequence : first.lastSequence = second.lastSequence)
    (sameTime : first.updatedAt = second.updatedAt) : first = second := by
  have idInjective : Function.Injective FieldValue.id := fun _ _ equal => FieldValue.id.inj equal
  have talliesInjective : Function.Injective FieldValue.tallies :=
    fun _ _ equal => FieldValue.tallies.inj equal
  have sameSlide := Option.map_injective idInjective (sameFields .currentSlide)
  have sameBranch := Option.map_injective idInjective (sameFields .currentBranch)
  have sameInteraction := Option.map_injective idInjective (sameFields .openInteraction)
  have sameTallies : first.tallies = second.tallies := Finmap.ext_lookup fun interactionId =>
    Option.map_injective talliesInjective (sameFields (.tallies interactionId))
  have sameEnded : first.ended = second.ended := by
    have equal := sameFields .ended
    unfold field at equal
    cases firstEnded : first.ended <;> cases secondEnded : second.ended <;>
      simp [firstEnded, secondEnded] at equal ⊢
  cases first
  cases second
  simp_all

end

/-!
## The event log of a session

Events are numbered per session while the advisory lock of the session is
held, so a session's log is its rows in the order of their sequences and an
appended event always comes last.
-/

section

open OhMyClass.Sorting

/-- A row of `public.teaching_session_events`. -/
structure TeachingSessionEvent where
  eventId : String
  sessionId : SessionId
  sequence : Nat
  payload : SessionEventPayload
  actorRole : SessionRole
  idempotencyKey : Option String
  createdAt : DateTime

/-- The unique event id, sequence and idempotency key; nulls are distinct. -/
def TeachingSessionEvent.Conflict (first second : TeachingSessionEvent) : Prop :=
  first.eventId = second.eventId ∨
    (first.sessionId = second.sessionId ∧ first.sequence = second.sequence) ∨
    (first.sessionId = second.sessionId ∧ first.idempotencyKey.isSome ∧
      first.idempotencyKey = second.idempotencyKey)
  deriving Decidable

abbrev TeachingSessionEvents := Table TeachingSessionEvent TeachingSessionEvent.Conflict

def rowToEvent (row : TeachingSessionEvent) : SessionEvent where
  eventId := row.eventId
  sessionId := row.sessionId
  payload := row.payload
  actorRole := row.actorRole
  createdAt := row.createdAt
  sequence := some row.sequence

def sessionRows (events : TeachingSessionEvents) (sessionId : SessionId) :
    List TeachingSessionEvent :=
  events.rows.filter fun row => row.sessionId == sessionId

/-- The complete log of a session, oldest first. -/
def sessionLog (events : TeachingSessionEvents) (sessionId : SessionId) :
    List TeachingSessionEvent :=
  sortBy TeachingSessionEvent.sequence (sessionRows events sessionId)

/-- `coalesce(max(sequence), 0) + 1`. -/
def nextSequence (events : TeachingSessionEvents) (sessionId : SessionId) : Nat :=
  ((sessionRows events sessionId).map TeachingSessionEvent.sequence).foldr max 0 + 1

/-- The arguments of `append_event`, with the id and the time `build_event`
draws. -/
structure EventCreate where
  sessionId : SessionId
  payload : SessionEventPayload
  actorRole : SessionRole
  idempotencyKey : Option String
  eventId : String
  createdAt : DateTime

def buildEvent (create : EventCreate) : SessionEvent where
  eventId := create.eventId
  sessionId := create.sessionId
  payload := create.payload
  actorRole := create.actorRole
  createdAt := create.createdAt
  sequence := none

/-- The inserted values. -/
def EventCreate.row (create : EventCreate) (sequence : Nat) : TeachingSessionEvent where
  eventId := (buildEvent create).eventId
  sessionId := create.sessionId
  sequence := sequence
  payload := (buildEvent create).payload
  actorRole := create.actorRole
  idempotencyKey := create.idempotencyKey
  createdAt := (buildEvent create).createdAt

def findByIdempotencyKey (events : TeachingSessionEvents) (sessionId : SessionId)
    (idempotencyKey : String) : Option TeachingSessionEvent :=
  events.rows.find? fun row =>
    row.sessionId == sessionId && row.idempotencyKey == some idempotencyKey

/-- The row, whether it was created, and the table after the statement.  A
stored idempotency key is answered with its row; `none` is the integrity error
of another constraint. -/
def appendEvent (create : EventCreate) (events : TeachingSessionEvents) :
    Option ((TeachingSessionEvent × Bool) × TeachingSessionEvents) :=
  match create.idempotencyKey.bind (findByIdempotencyKey events create.sessionId) with
  | some existing => some ((existing, false), events)
  | none =>
    let row := create.row (nextSequence events create.sessionId)
    (events.insert row).map fun grown => ((row, true), grown)

/-- `replay_events`: the rows after a sequence, oldest first. -/
def replayEvents (events : TeachingSessionEvents) (sessionId : SessionId) (afterSequence : Nat)
    (limit : Option Nat) : List TeachingSessionEvent :=
  let replayed := sortBy TeachingSessionEvent.sequence
    (events.rows.filter fun row => row.sessionId == sessionId && afterSequence < row.sequence)
  limit.elim replayed replayed.take

def defaultRecoveryEventLimit : Nat := 500

/-- The last rows of the session, oldest first. -/
def recoveryRows (events : TeachingSessionEvents) (sessionId : SessionId) (limit : Nat) :
    List TeachingSessionEvent :=
  ((sortByDesc TeachingSessionEvent.sequence (sessionRows events sessionId)).take limit).reverse

def recoverReadModel (events : TeachingSessionEvents) (sessionId : SessionId) (limit : Nat) :
    SessionReadModel :=
  applyEvents (initialReadModel sessionId)
    ((recoveryRows events sessionId limit).map rowToEvent)

def replayedReadModel (sessionId : SessionId) (log : List TeachingSessionEvent) :
    SessionReadModel :=
  applyEvents (initialReadModel sessionId) (log.map rowToEvent)

/-- `current_state`, given what `get_hot_state` answered. -/
def currentState (hot : Option SessionReadModel) (events : TeachingSessionEvents)
    (sessionId : SessionId) : SessionReadModel :=
  hot.getD (recoverReadModel events sessionId defaultRecoveryEventLimit)

/-- `event` is always the row's event. -/
structure RecordedEvent where
  row : TeachingSessionEvent
  event : SessionEvent
  duplicate : Bool
  readModel : SessionReadModel
  ofRow : event = rowToEvent row

/-- What `record_event` returns for an appended row. -/
def recordedEvent (appended : TeachingSessionEvent × Bool) (hot : Option SessionReadModel)
    (events : TeachingSessionEvents) (sessionId : SessionId) : RecordedEvent :=
  let event := rowToEvent appended.1
  if appended.2 then
    ⟨appended.1, event, false, applyEvent (currentState hot events sessionId) event, rfl⟩
  else
    ⟨appended.1, event, true, currentState hot events sessionId, rfl⟩

@[simp]
theorem row_recordedEvent (appended : TeachingSessionEvent × Bool) (hot : Option SessionReadModel)
    (events : TeachingSessionEvents) (sessionId : SessionId) :
    (recordedEvent appended hot events sessionId).row = appended.1 := by
  cases isCreated : appended.2 <;> simp [recordedEvent, isCreated]

@[simp]
theorem duplicate_recordedEvent (appended : TeachingSessionEvent × Bool)
    (hot : Option SessionReadModel) (events : TeachingSessionEvents) (sessionId : SessionId) :
    (recordedEvent appended hot events sessionId).duplicate = !appended.2 := by
  cases isCreated : appended.2 <;> simp [recordedEvent, isCreated]

/-! ## Laws -/

variable {events : TeachingSessionEvents} {sessionId : SessionId}

theorem TeachingSessionEvent.Conflict.symm {first second : TeachingSessionEvent}
    (clash : TeachingSessionEvent.Conflict first second) :
    TeachingSessionEvent.Conflict second first := by
  rcases clash with sameId | ⟨sameSession, sameSequence⟩ | ⟨sameSession, isKey, sameKey⟩
  · exact .inl sameId.symm
  · exact .inr (.inl ⟨sameSession.symm, sameSequence.symm⟩)
  · exact .inr (.inr ⟨sameSession.symm, sameKey ▸ isKey, sameKey.symm⟩)

variable {row : TeachingSessionEvent}

@[simp]
theorem mem_sessionRows :
    row ∈ sessionRows events sessionId ↔ row ∈ events.rows ∧ row.sessionId = sessionId := by
  simp [sessionRows]

@[simp]
theorem mem_sessionLog :
    row ∈ sessionLog events sessionId ↔ row ∈ events.rows ∧ row.sessionId = sessionId := by
  simp [sessionLog]

theorem identifies_sequence (events : TeachingSessionEvents) (sessionId : SessionId) :
    Identifies TeachingSessionEvent.sequence (sessionRows events sessionId) := by
  intro first firstMem second secondMem sameSequence
  rw [mem_sessionRows] at firstMem secondMem
  exact events.eq_of_conflict (fun _ _ => TeachingSessionEvent.Conflict.symm) firstMem.1
    secondMem.1 (.inr (.inl ⟨firstMem.2.trans secondMem.2.symm, sameSequence⟩))

theorem sequence_lt_nextSequence (mem : row ∈ sessionRows events sessionId) :
    row.sequence < nextSequence events sessionId :=
  Nat.lt_succ_of_le (List.le_max_of_le' 0 (List.mem_map_of_mem mem) le_rfl)

theorem recoveryRows_eq_drop (events : TeachingSessionEvents) (sessionId : SessionId)
    (limit : Nat) :
    recoveryRows events sessionId limit =
      (sessionLog events sessionId).drop ((sessionLog events sessionId).length - limit) := by
  unfold recoveryRows sessionLog
  rw [← reverse_sortByDesc (identifies_sequence events sessionId), List.reverse_take,
    List.length_reverse]

theorem replayEvents_eq_filter (events : TeachingSessionEvents) (sessionId : SessionId)
    (afterSequence : Nat) :
    replayEvents events sessionId afterSequence none =
      (sessionLog events sessionId).filter fun row => afterSequence < row.sequence := by
  unfold sessionLog
  rw [filter_sortBy (identifies_sequence events sessionId), sessionRows]
  simp [replayEvents, Bool.and_comm]

theorem sessionLog_insert {grown : TeachingSessionEvents}
    (inserted : events.insert row = some grown) (sameSession : row.sessionId = sessionId)
    (next : row.sequence = nextSequence events sessionId) :
    sessionLog grown sessionId = sessionLog events sessionId ++ [row] := by
  have rows : sessionRows grown sessionId = sessionRows events sessionId ++ [row] := by
    simp [sessionRows, Table.rows_of_insert inserted, sameSession]
  unfold sessionLog
  rw [rows]
  apply sortBy_concat (identifies_sequence events sessionId)
  intro stored mem
  rw [next]
  exact sequence_lt_nextSequence mem

theorem appendEvent_cases {create : EventCreate} {created : Bool} {after : TeachingSessionEvents}
    (appended : appendEvent create events = some ((row, created), after)) :
    (created = false ∧ after = events ∧ row ∈ sessionLog events create.sessionId ∧
        row.idempotencyKey = create.idempotencyKey) ∨
      (created = true ∧ row = create.row (nextSequence events create.sessionId) ∧
        events.insert row = some after ∧
        sessionLog after create.sessionId = sessionLog events create.sessionId ++ [row]) := by
  unfold appendEvent at appended
  split at appended
  · next existing found =>
    cases appended
    rcases Option.bind_eq_some_iff.mp found with ⟨key, isKey, found⟩
    have matched := List.find?_some found
    rw [Bool.and_eq_true, beq_iff_eq, beq_iff_eq] at matched
    refine .inl ⟨rfl, rfl, ?_, matched.2.trans isKey.symm⟩
    rw [mem_sessionLog]
    exact ⟨List.mem_of_find?_eq_some found, matched.1⟩
  · rcases Option.map_eq_some_iff.mp appended with ⟨grown, inserted, equal⟩
    cases equal
    exact .inr ⟨rfl, rfl, inserted, sessionLog_insert inserted rfl rfl⟩

end

end OhMyClass.Gateway.Teaching
