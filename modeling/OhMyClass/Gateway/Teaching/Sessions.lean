import OhMyClass.Gateway.Teaching.EventLog
import OhMyClass.Json.Core

/-!
# Sessions and what they keep

Retention tiers, and the sessions they apply to.
-/

namespace OhMyClass.Gateway.Teaching

/-!
## Retention tiers

How identifying the data of a session may be, and which categories of data a
tier keeps at all.
-/

section

/-- Least to most identifying. -/
inductive RetentionTier where
  | none
  | aggregate
  | pseudonymous
  | identifiable
  deriving DecidableEq

def RetentionTier.value : RetentionTier → String
  | none => "none"
  | aggregate => "aggregate"
  | pseudonymous => "pseudonymous"
  | identifiable => "identifiable"

inductive SessionDataCategory where
  | events
  | aggregates
  | rawResponses
  | teacherReflections
  | aiSuggestions
  | exports
  deriving DecidableEq

def allowedDataCategoriesForTier : RetentionTier → Finset SessionDataCategory
  | .none => {.teacherReflections, .aiSuggestions}
  | .aggregate => {.events, .aggregates, .teacherReflections, .aiSuggestions, .exports}
  | .pseudonymous =>
    {.events, .aggregates, .rawResponses, .teacherReflections, .aiSuggestions, .exports}
  | .identifiable =>
    {.events, .aggregates, .rawResponses, .teacherReflections, .aiSuggestions, .exports}

inductive RetentionSelectionResult where
  | accepted (tier : RetentionTier)
  | rejected (tier : RetentionTier) (reason : String)

def identityBearingTiers : Finset RetentionTier :=
  {.pseudonymous, .identifiable}

/-- `not class_id`: missing or empty. -/
def isBlank (text : Option String) : Bool :=
  text.getD "" == ""

def validateRetentionSelection (tier : RetentionTier) (classId : Option String)
    (identifiableAcknowledged : Bool) : RetentionSelectionResult :=
  if tier ∈ identityBearingTiers ∧ isBlank classId then
    .rejected tier "class_id_required_for_identity_bearing_tier"
  else if tier = .identifiable ∧ ¬ identifiableAcknowledged then
    .rejected tier "identifiable_tier_requires_explicit_acknowledgment"
  else
    .accepted tier

end

/-!
## Teaching sessions

The lifecycle of a session, what its creation checks and writes, and the
lookup of a session by its room code.  A room code is alive as long as its
session can be joined.
-/

section

inductive SessionStatus where
  | scheduled
  | live
  | ended
  | archived
  | expired
  deriving DecidableEq

inductive DeliveryMode where
  | live
  | homework
  | review
  | flipped
  | catchUp
  deriving DecidableEq

def DeliveryMode.value : DeliveryMode → String
  | live => "live"
  | homework => "homework"
  | review => "review"
  | flipped => "flipped"
  | catchUp => "catch_up"

/-- A row of `public.teaching_sessions`. -/
structure TeachingSession where
  sessionId : SessionId
  teacherId : String
  roomCode : Option String
  classId : Option String
  deckId : String
  snapshotId : String
  status : SessionStatus
  deliveryMode : DeliveryMode
  retentionTier : RetentionTier
  deriving DecidableEq

def TeachingSession.Conflict (first second : TeachingSession) : Prop :=
  first.sessionId = second.sessionId
  deriving Decidable

abbrev TeachingSessions := Table TeachingSession TeachingSession.Conflict

/-- A row of `public.session_audit_events`. -/
structure SessionAuditEvent where
  eventId : String
  sessionId : SessionId
  actorId : String
  action : String
  eventMetadata : JsonObject

def SessionAuditEvent.Conflict (first second : SessionAuditEvent) : Prop :=
  first.eventId = second.eventId
  deriving Decidable

abbrev SessionAuditEvents := Table SessionAuditEvent SessionAuditEvent.Conflict

def allowedTransitions : SessionStatus → Finset SessionStatus
  | .scheduled => {.live, .expired}
  | .live => {.ended}
  | .ended => {.archived, .expired}
  | .archived => {.expired}
  | .expired => ∅

inductive SessionTransitionResult where
  | accepted (fromStatus toStatus : SessionStatus)
  | rejected (fromStatus toStatus : SessionStatus) (reason : String)
  deriving DecidableEq

def validateSessionTransition (fromStatus toStatus : SessionStatus) : SessionTransitionResult :=
  if fromStatus = toStatus then
    .accepted fromStatus toStatus
  else if toStatus ∈ allowedTransitions fromStatus then
    .accepted fromStatus toStatus
  else
    .rejected fromStatus toStatus "transition_not_allowed"

/-- A session that has not ended yet can be joined. -/
def joinableStatuses : Finset SessionStatus :=
  {.scheduled, .live}

theorem joinable_of_transition {fromStatus toStatus : SessionStatus}
    (accepted : validateSessionTransition fromStatus toStatus = .accepted fromStatus toStatus)
    (joinable : toStatus ∈ joinableStatuses) : fromStatus ∈ joinableStatuses := by
  revert accepted joinable
  cases fromStatus <;> cases toStatus <;> decide

/-- What the database raises, and what the code does. -/
inductive CreateSessionError where
  | omc (error : OMCError)
  | runtimeError (message : String)
  | multipleResultsFound
  | integrityError
  deriving DecidableEq

def scalarOneOrNone {α : Type} : List α → Except CreateSessionError (Option α)
  | [] => .ok none
  | [row] => .ok (some row)
  | _ :: _ :: _ => .error .multipleResultsFound

/-- The row can be joined by the code. -/
def TeachingSession.JoinableBy (code : String) (session : TeachingSession) : Prop :=
  session.roomCode = some code ∧ session.status ∈ joinableStatuses
  deriving Decidable

def joinableRows (sessions : TeachingSessions) (code : String) : List TeachingSession :=
  sessions.rows.filter fun session => session.JoinableBy code

def findJoinableSessionByRoomCode (sessions : TeachingSessions) (roomCode : String) :
    Except CreateSessionError (Option TeachingSession) :=
  scalarOneOrNone (joinableRows sessions roomCode)

/-- `f"{number:06d}"` for a random number below a million. -/
def generateRoomCode (number : Fin 1000000) : String :=
  String.ofList ((Nat.toDigits 10 number).leftpad 6 '0')

/-! ## Creation -/

/-- The arguments of `create_session`, with the id its audit event draws. -/
structure CreateSession where
  sessionId : SessionId
  teacherId : String
  deckId : String
  snapshotId : String
  classId : Option String
  retentionTier : RetentionTier
  identifiableAcknowledged : Bool
  deliveryMode : DeliveryMode
  auditEventId : String

def implementedDeliveryModes : Finset DeliveryMode :=
  {.live}

def deliveryModeNotSupported (mode : DeliveryMode) : OMCError where
  errorCode := .validationError
  message := "delivery_mode '" ++ mode.value ++ "' is not yet supported"
  details := [⟨"delivery_mode", "delivery_mode_not_yet_supported"⟩]

def retentionTierRejected (tier : RetentionTier) (reason : String) : OMCError where
  errorCode := .validationError
  message := "Retention tier '" ++ tier.value ++ "' rejected: " ++ reason
  details := [⟨"retention_tier", reason⟩]

namespace CreateSession

/-- The checks made before a room code is drawn. -/
def check (create : CreateSession) : Except OMCError Unit :=
  if create.deliveryMode ∉ implementedDeliveryModes then
    .error (deliveryModeNotSupported create.deliveryMode)
  else
    match validateRetentionSelection create.retentionTier create.classId
        create.identifiableAcknowledged with
    | .rejected tier reason => .error (retentionTierRejected tier reason)
    | .accepted _ => .ok ()

def row (create : CreateSession) (roomCode : String) : TeachingSession where
  sessionId := create.sessionId
  teacherId := create.teacherId
  roomCode := some roomCode
  classId := create.classId
  deckId := create.deckId
  snapshotId := create.snapshotId
  status := .scheduled
  deliveryMode := create.deliveryMode
  retentionTier := create.retentionTier

def auditEvent (create : CreateSession) : SessionAuditEvent where
  eventId := create.auditEventId
  sessionId := create.sessionId
  actorId := create.teacherId
  action := "retention_tier_identifiable_acknowledged"
  eventMetadata := [("tier", .str create.retentionTier.value)]

/-- The session row, then the acknowledgment of the identifiable tier; `none`
is an integrity error. -/
def write (create : CreateSession) (roomCode : String) (sessions : TeachingSessions)
    (auditEvents : SessionAuditEvents) : Option (TeachingSessions × SessionAuditEvents) :=
  match sessions.insert (create.row roomCode) with
  | none => none
  | some sessions =>
    if create.retentionTier = .identifiable then
      (auditEvents.insert create.auditEvent).map fun auditEvents => (sessions, auditEvents)
    else
      some (sessions, auditEvents)

@[simp]
theorem row_roomCode (create : CreateSession) (roomCode : String) :
    (create.row roomCode).roomCode = some roomCode :=
  rfl

theorem rows_of_write {create : CreateSession} {roomCode : String}
    {sessions grown : TeachingSessions} {auditEvents grownAudit : SessionAuditEvents}
    (written : create.write roomCode sessions auditEvents = some (grown, grownAudit)) :
    grown.rows = sessions.rows ++ [create.row roomCode] := by
  unfold write at written
  split at written
  · cases written
  · next inserted =>
    split at written
    · rcases Option.map_eq_some_iff.mp written with ⟨_, _, equal⟩
      cases equal
      exact Table.rows_of_insert inserted
    · cases written
      exact Table.rows_of_insert inserted

end CreateSession

def maxRoomCodeAttempts : Nat := 5

/-- The message of `_unique_room_code` after its last attempt. -/
def noUniqueRoomCode : CreateSessionError :=
  .runtimeError s!"Could not generate a unique room code after {maxRoomCodeAttempts} attempts"

end

end OhMyClass.Gateway.Teaching
