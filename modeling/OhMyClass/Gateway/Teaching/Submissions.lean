import OhMyClass.Gateway.Teaching.LiveSync
import OhMyClass.Gateway.Teaching.Responses

/-!
# Submissions are counted once

A submission checks its idempotency key, counts the response and logs the
aggregate with the key in one transaction, which holds the lock of its
session.  The keyed events of the log are therefore exactly the accepted
submissions, and the aggregates count them.
-/

namespace OhMyClass.Gateway.Teaching

open List Function OhMyClass.Transition

/-! ## The endpoint -/

structure SubmitResponseRequest where
  interactionId : String
  kind : ResponseKind
  payload : JsonObject
  kcIds : Option (List String)
  correct : Option Bool
  interactionAllowsFreeText : Bool
  sessionAllowsFreeText : Bool

/-- A request with its header and claims, and the ids and the time the call
draws. -/
structure Submission where
  body : SubmitResponseRequest
  idempotencyKey : String
  claimsRole : SessionRole
  studentPseudonym : String
  responseId : String
  aggregateId : String
  eventId : String
  now : DateTime

namespace Submission

def responseCreate (submission : Submission) (sessionId : SessionId) (tier : RetentionTier) :
    ResponseCreate where
  responseId := submission.responseId
  sessionId := sessionId
  interactionId := submission.body.interactionId
  retentionTier := tier
  kind := submission.body.kind
  payload := submission.body.payload
  studentPseudonym := submission.studentPseudonym
  kcIds := submission.body.kcIds
  correct := submission.body.correct
  interactionAllowsFreeText := submission.body.interactionAllowsFreeText
  sessionAllowsFreeText := submission.body.sessionAllowsFreeText
  aggregateId := submission.aggregateId
  now := submission.now

def eventCreate (submission : Submission) (sessionId : SessionId) (tallies : Tallies) :
    EventCreate where
  sessionId := sessionId
  payload := .aggregateUpdated submission.body.interactionId tallies
  actorRole := submission.claimsRole
  idempotencyKey := some submission.idempotencyKey
  eventId := submission.eventId
  createdAt := submission.now

end Submission

def currentTallies (aggregates : SessionResponseAggregates) (sessionId : SessionId)
    (interactionId : String) : Tallies :=
  match (getSessionAggregates aggregates sessionId).find? fun row =>
      row.interactionId == interactionId with
  | none => ((∅ : Tallies).insert "attempt_count" 0).insert "correct_count" 0
  | some aggregate =>
    ((∅ : Tallies).insert "attempt_count" aggregate.attemptCount).insert "correct_count"
      aggregate.correctCount

/-- `record_event`, given what the hot state answers. -/
def recordEvent (hot : Option SessionReadModel) (create : EventCreate) :
    ResponseSession RecordedEvent := fun db =>
  match appendEvent create db.events with
  | none => (.error .integrityError, db)
  | some (answer, events) =>
    (.ok (recordedEvent answer hot events create.sessionId), { db with events := events })

/-- A known key, a tier without events, or a new event. -/
inductive SubmitOutcome where
  | repeated (state : SessionReadModel)
  | ephemeral (state : SessionReadModel)
  | recorded (event : RecordedEvent)

def submitResponse (detectPii : String → PiiAuditEvent) (sessionId : SessionId)
    (tier : RetentionTier) (hot : Option SessionReadModel) (submission : Submission) :
    ResponseSession SubmitOutcome := do
  let existing ← Session.read fun db =>
    findByIdempotencyKey db.events sessionId submission.idempotencyKey
  let state ← Session.read fun db => currentState hot db.events sessionId
  if existing.isSome then
    return .repeated state
  else
    let result ← recordResponse detectPii (submission.responseCreate sessionId tier)
    match result with
    | .rejected reason => Session.raise (.httpException 422 reason)
    | .accepted .. =>
      if .events ∉ allowedDataCategoriesForTier tier then
        return .ephemeral state
      else
        let tallies ← Session.read fun db =>
          currentTallies db.aggregates sessionId submission.body.interactionId
        let recorded ← recordEvent hot (submission.eventCreate sessionId tallies)
        return .recorded recorded

/-- The controller's routes; their events carry no idempotency key. -/
inductive ControllerAction where
  | advanceSlide (slideId : String) (slideIndex : Option Int)
  | selectBranch (slideId branchId source : String)

def ControllerAction.payload : ControllerAction → SessionEventPayload
  | advanceSlide slideId slideIndex => .slideChanged slideId slideIndex
  | selectBranch slideId branchId source => .branchSelected slideId branchId source

/-- The requests that write events of a session. -/
inductive SessionRequest where
  | submit (submission : Submission)
  | control (action : ControllerAction) (eventId : String) (now : DateTime)

def SessionRequest.run (detectPii : String → PiiAuditEvent) (sessionId : SessionId)
    (tier : RetentionTier) (hot : Option SessionReadModel) :
    SessionRequest → ResponseSession SubmitOutcome
  | submit submission => submitResponse detectPii sessionId tier hot submission
  | control action eventId now => do
    let recorded ← recordEvent hot
      ⟨sessionId, action.payload, .controller, none, eventId, now⟩
    return .recorded recorded

inductive RequestPhase where
  | waiting
  | holding (request : SessionRequest) (result : Except ResponseError SubmitOutcome)
      (view : ResponseDb)
  | ended

/-- Submissions of a session with its lock. -/
structure SubmissionState where
  db : ResponseDb
  lock : Option CallId
  calls : CallId → RequestPhase

inductive SubmissionOp where
  | start (call : CallId) (request : SessionRequest) (hot : Option SessionReadModel)
  | commit (call : CallId)
  | rollback (call : CallId)

/-- What is known about a request after the step. -/
inductive SubmissionAnswer where
  | pending
  | committed (request : SessionRequest) (outcome : SubmitOutcome)
  | rolledBack

namespace SubmissionState

def setCall (state : SubmissionState) (call : CallId) (phase : RequestPhase) : SubmissionState :=
  { state with calls := Function.update state.calls call phase }

/-- The transaction sees the committed rows, which no other call changes until
the lock is free; a returning request commits, every other ending rolls
back. -/
def step (detectPii : String → PiiAuditEvent) (sessionId : SessionId) (tier : RetentionTier)
    (state : SubmissionState) : SubmissionOp → SubmissionState × SubmissionAnswer
  | .start call request hot =>
    match state.calls call, state.lock with
    | .waiting, none =>
      let transaction := request.run detectPii sessionId tier hot state.db
      ({ state.setCall call (.holding request transaction.1 transaction.2) with lock := some call },
        .pending)
    | _, _ => (state, .pending)
  | .commit call =>
    match state.calls call with
    | .holding request (.ok outcome) view =>
      ({ state.setCall call .ended with db := view, lock := none }, .committed request outcome)
    | _ => (state, .pending)
  | .rollback call =>
    match state.calls call with
    | .holding .. => ({ state.setCall call .ended with lock := none }, .rolledBack)
    | _ => (state, .pending)

/-- A session that has just been created. -/
def Fresh (sessionId : SessionId) (state : SubmissionState) : Prop :=
  (∀ row ∈ state.db.events.rows, row.sessionId ≠ sessionId) ∧
    (∀ row ∈ state.db.aggregates.rows, row.sessionId ≠ sessionId) ∧
    (∀ row ∈ state.db.responses.rows, row.sessionId ≠ sessionId) ∧
    state.lock = none ∧ ∀ call, state.calls call = .waiting

end SubmissionState

def submissionMachine (detectPii : String → PiiAuditEvent) (sessionId : SessionId)
    (tier : RetentionTier) : Machine SubmissionState SubmissionOp SubmissionAnswer where
  initial := SubmissionState.Fresh sessionId
  step := SubmissionState.step detectPii sessionId tier

/-- The accepted submission of a committed step. -/
def SubmissionAnswer.accepted : SubmissionAnswer → Option Submission
  | committed (.submit submission) (.recorded _) => some submission
  | _ => none

/-- The accepted submissions of a run, oldest first. -/
def acceptedSubmissions (history : History SubmissionOp SubmissionAnswer) : List Submission :=
  (history.filterMap fun entry => entry.2.accepted).reverse

/-! ## What a request does to the session -/

def IsAggregateUpdated (row : TeachingSessionEvent) : Prop :=
  row.payload.eventType = .aggregateUpdated
  deriving Decidable

variable {detectPii : String → PiiAuditEvent} {sessionId : SessionId} {tier : RetentionTier}
  {hot : Option SessionReadModel}

theorem findByIdempotencyKey_isSome_iff {events : TeachingSessionEvents} {key : String} :
    (findByIdempotencyKey events sessionId key).isSome ↔
      ∃ row ∈ sessionLog events sessionId, row.idempotencyKey = some key := by
  unfold findByIdempotencyKey
  rw [List.find?_isSome]
  constructor
  · rintro ⟨row, member, matched⟩
    rw [Bool.and_eq_true, beq_iff_eq, beq_iff_eq] at matched
    exact ⟨row, mem_sessionLog.mpr ⟨member, matched.1⟩, matched.2⟩
  · rintro ⟨row, member, isKey⟩
    rw [mem_sessionLog] at member
    exact ⟨row, member.1, by simp [member.2, isKey]⟩

variable {db after : ResponseDb}

theorem recordEvent_eq_ok {create : EventCreate} {recorded : RecordedEvent}
    (unknown : ∀ key ∈ create.idempotencyKey, ∀ row ∈ sessionLog db.events create.sessionId,
      row.idempotencyKey ≠ some key)
    (ret : recordEvent hot create db = (.ok recorded, after)) :
    after = { db with events := after.events } ∧
      sessionLog after.events create.sessionId =
        sessionLog db.events create.sessionId ++
          [create.row (nextSequence db.events create.sessionId)] := by
  unfold recordEvent at ret
  split at ret
  · cases ret
  · next answer events appended =>
    cases ret
    refine ⟨rfl, ?_⟩
    rcases appendEvent_cases appended with ⟨_, _, mem, sameKey⟩ | ⟨_, isRow, _, log⟩
    · -- the stored key would be that of the append itself
      unfold appendEvent at appended
      split at appended
      · next existing found =>
        rcases Option.bind_eq_some_iff.mp found with ⟨key, isKey, found⟩
        obtain ⟨stored, storedMem, storedKey⟩ := findByIdempotencyKey_isSome_iff.mp
          (Option.isSome_of_eq_some found)
        exact absurd storedKey (unknown key isKey stored storedMem)
      · rcases Option.map_eq_some_iff.mp appended with ⟨_, _, equal⟩
        cases equal
        next notCreated _ => cases notCreated
    · rw [log, isRow]

/-- What an accepted submission does: its key is new, its event ends the log, its
attempt is counted, and a raw row is kept where the tier allows one. -/
structure Accepted (sessionId : SessionId) (tier : RetentionTier) (submission : Submission)
    (db after : ResponseDb) : Prop where
  newKey : ∀ row ∈ sessionLog db.events sessionId,
    row.idempotencyKey ≠ some submission.idempotencyKey
  logged : ∃ row, sessionLog after.events sessionId = sessionLog db.events sessionId ++ [row] ∧
    row.idempotencyKey = some submission.idempotencyKey ∧ IsAggregateUpdated row
  counts : ∀ interactionId, attemptCounts after.aggregates sessionId interactionId =
    if interactionId = submission.body.interactionId then
      countsAfter submission.body.correct (attemptCounts db.aggregates sessionId interactionId)
    else attemptCounts db.aggregates sessionId interactionId
  raw : after.responses.rows =
    if .rawResponses ∈ allowedDataCategoriesForTier tier then
      db.responses.rows ++ [(submission.responseCreate sessionId tier).rawRow]
    else db.responses.rows

theorem submitResponse_eq_ok (aggregates : .aggregates ∈ allowedDataCategoriesForTier tier)
    (events : .events ∈ allowedDataCategoriesForTier tier) {submission : Submission}
    {outcome : SubmitOutcome}
    (ret : submitResponse detectPii sessionId tier hot submission db = (.ok outcome, after)) :
    (∃ state, outcome = .repeated state ∧ after = db) ∨
      (∃ recorded, outcome = .recorded recorded ∧
        Accepted sessionId tier submission db after) := by
  unfold submitResponse at ret
  rw [Session.read_bind, Session.read_bind] at ret
  by_cases isKnown : (findByIdempotencyKey db.events sessionId submission.idempotencyKey).isSome
  · rw [if_pos isKnown] at ret
    cases ret
    exact .inl ⟨_, rfl, rfl⟩
  · rw [if_neg isKnown] at ret
    have newKey : ∀ row ∈ sessionLog db.events sessionId,
        row.idempotencyKey ≠ some submission.idempotencyKey := fun row mem isKey =>
      isKnown (findByIdempotencyKey_isSome_iff.mpr ⟨row, mem, isKey⟩)
    rcases Session.bind_eq_ok.mp ret with ⟨result, between, recordedEq, ret⟩
    rcases recordResponse_eq_ok aggregates recordedEq with
      ⟨reason, rfl, _, _⟩ | ⟨persisted, rfl, _, counted⟩
    · cases ret
    · simp only [not_not.mpr events, if_false] at ret
      rw [Session.read_bind] at ret
      rcases Session.bind_eq_ok.mp ret with ⟨recorded, _, appended, ret⟩
      cases ret
      have unknown : ∀ key ∈ some submission.idempotencyKey,
          ∀ row ∈ sessionLog between.events sessionId, row.idempotencyKey ≠ some key := by
        rintro _ ⟨⟩ row mem
        rw [counted.events] at mem
        exact newKey row mem
      rcases recordEvent_eq_ok unknown appended with ⟨unchanged, log⟩
      refine .inr ⟨recorded, rfl, newKey, ?_, ?_, ?_⟩
      · rw [← counted.events]
        exact ⟨_, log, rfl, rfl⟩
      · rw [unchanged]
        exact counted.counts
      · rw [unchanged]
        exact counted.raw

theorem control_eq_ok {action : ControllerAction} {eventId : String} {now : DateTime}
    {outcome : SubmitOutcome}
    (ret : (SessionRequest.control action eventId now).run detectPii sessionId tier hot db =
      (.ok outcome, after)) :
    after.aggregates = db.aggregates ∧ after.responses = db.responses ∧
      ∃ row, sessionLog after.events sessionId = sessionLog db.events sessionId ++ [row] ∧
        row.idempotencyKey = none ∧ ¬ IsAggregateUpdated row := by
  rcases Session.bind_eq_ok.mp ret with ⟨recorded, _, appended, ret⟩
  cases ret
  have unknown : ∀ key ∈ (none : Option String), ∀ row ∈ sessionLog db.events sessionId,
      row.idempotencyKey ≠ some key := by
    simp
  rcases recordEvent_eq_ok unknown appended with ⟨unchanged, log⟩
  have notAggregate : action.payload.eventType ≠ .aggregateUpdated := by
    cases action <;> simp [ControllerAction.payload, SessionEventPayload.eventType]
  rw [unchanged]
  exact ⟨rfl, rfl, _, log, rfl, notAggregate⟩

/-! ## The invariant -/

/-- The attempts and the correct ones among submissions. -/
def countsOf (accepted : List Submission) (interactionId : String) : Nat × Nat :=
  (accepted.countP fun submission => submission.body.interactionId = interactionId,
    accepted.countP fun submission =>
      submission.body.interactionId = interactionId ∧ submission.body.correct = some true)

theorem countsOf_concat (accepted : List Submission) (submission : Submission)
    (interactionId : String) :
    countsOf (accepted ++ [submission]) interactionId =
      if interactionId = submission.body.interactionId then
        countsAfter submission.body.correct (countsOf accepted interactionId)
      else countsOf accepted interactionId := by
  unfold countsOf countsAfter
  by_cases same : interactionId = submission.body.interactionId
  · subst same
    by_cases isCorrect : submission.body.correct = some true
    · simp
    · simp
  · simp [same, Ne.symm same]

/-- The keyed events, the aggregates and the raw rows of the session are those
of the accepted submissions; the call with the lock has run on the committed
rows. -/
structure CountedOnce (detectPii : String → PiiAuditEvent) (sessionId : SessionId)
    (tier : RetentionTier) (state : SubmissionState) (accepted : List Submission) : Prop where
  holding : ∀ call request result view, state.calls call = .holding request result view →
    state.lock = some call ∧
      ∃ hot, request.run detectPii sessionId tier hot state.db = (result, view)
  keys : ((sessionLog state.db.events sessionId).filter IsAggregateUpdated).map
    TeachingSessionEvent.idempotencyKey =
      accepted.map fun submission => some submission.idempotencyKey
  unkeyed : ∀ row ∈ sessionLog state.db.events sessionId, ¬ IsAggregateUpdated row →
    row.idempotencyKey = none
  distinct : (accepted.map Submission.idempotencyKey).Nodup
  counts : ∀ interactionId,
    attemptCounts state.db.aggregates sessionId interactionId = countsOf accepted interactionId
  raw : (state.db.responses.rows.filter fun row => row.sessionId = sessionId) =
    if .rawResponses ∈ allowedDataCategoriesForTier tier then
      accepted.map fun submission => (submission.responseCreate sessionId tier).rawRow
    else []

namespace CountedOnce

variable {state : SubmissionState} {accepted : List Submission}

variable {after : SubmissionState}

section

variable (counted : CountedOnce detectPii sessionId tier state accepted)

include counted

theorem key_mem_iff {key : String} :
    (∃ row ∈ sessionLog state.db.events sessionId, row.idempotencyKey = some key) ↔
      key ∈ accepted.map Submission.idempotencyKey := by
  have keyed : some key ∈ ((sessionLog state.db.events sessionId).filter IsAggregateUpdated).map
      TeachingSessionEvent.idempotencyKey ↔
        ∃ row ∈ sessionLog state.db.events sessionId, row.idempotencyKey = some key := by
    rw [mem_map]
    constructor
    · rintro ⟨row, mem, isKey⟩
      exact ⟨row, mem_of_mem_filter mem, isKey⟩
    · rintro ⟨row, mem, isKey⟩
      refine ⟨row, mem_filter.mpr ⟨mem, ?_⟩, isKey⟩
      by_contra notAggregate
      have noKey := counted.unkeyed row mem (by simpa using notAggregate)
      rw [isKey] at noKey
      cases noKey
  rw [← keyed, counted.keys]
  simp

theorem accept {submission : Submission}
    (idle : ∀ call request result view, after.calls call ≠ .holding request result view)
    (effect : Accepted sessionId tier submission state.db after.db) :
    CountedOnce detectPii sessionId tier after (accepted ++ [submission]) := by
  rcases effect.logged with ⟨row, log, isKey, isAggregate⟩
  constructor
  · intro call request result view isHolding
    exact absurd isHolding (idle call request result view)
  · rw [log, filter_append, map_append, counted.keys]
    simp [isAggregate, isKey]
  · intro stored mem notAggregate
    rw [log, mem_append, mem_singleton] at mem
    rcases mem with earlier | rfl
    · exact counted.unkeyed stored earlier notAggregate
    · exact absurd isAggregate notAggregate
  · rw [map_append, map_singleton, nodup_append]
    refine ⟨counted.distinct, nodup_singleton _, ?_⟩
    rintro key mem _ isNew rfl
    rw [mem_singleton] at isNew
    rcases counted.key_mem_iff.mpr mem with ⟨stored, storedMem, storedKey⟩
    exact effect.newKey stored storedMem (isNew ▸ storedKey)
  · intro interactionId
    rw [effect.counts, counted.counts, countsOf_concat]
  · rw [effect.raw]
    have rows := counted.raw
    split
    · next keepsRaw =>
      rw [if_pos keepsRaw] at rows
      rw [filter_append, rows]
      simp [ResponseCreate.rawRow, Submission.responseCreate]
    · next noRaw =>
      rw [if_neg noRaw] at rows
      exact rows

theorem frame (sameDb : after.db = state.db)
    (holding : ∀ call request result view, after.calls call = .holding request result view →
      after.lock = some call ∧
        ∃ hot, request.run detectPii sessionId tier hot after.db = (result, view)) :
    CountedOnce detectPii sessionId tier after accepted := by
  constructor
  · exact holding
  · rw [sameDb]
    exact counted.keys
  · rw [sameDb]
    exact counted.unkeyed
  · exact counted.distinct
  · rw [sameDb]
    exact counted.counts
  · rw [sameDb]
    exact counted.raw

theorem control (idle : ∀ call request result view, after.calls call ≠ .holding request result view)
    (aggregates : after.db.aggregates = state.db.aggregates)
    (responses : after.db.responses = state.db.responses) {row : TeachingSessionEvent}
    (log : sessionLog after.db.events sessionId = sessionLog state.db.events sessionId ++ [row])
    (noKey : row.idempotencyKey = none) (notAggregate : ¬ IsAggregateUpdated row) :
    CountedOnce detectPii sessionId tier after accepted := by
  constructor
  · intro call request result view isHolding
    exact absurd isHolding (idle call request result view)
  · rw [log, filter_append, map_append, counted.keys]
    simp [notAggregate]
  · intro stored mem notUpdated
    rw [log, mem_append, mem_singleton] at mem
    rcases mem with earlier | rfl
    · exact counted.unkeyed stored earlier notUpdated
    · exact noKey
  · exact counted.distinct
  · rw [aggregates]
    exact counted.counts
  · rw [responses]
    exact counted.raw

theorem idle_of_ended {call : CallId} {request : SessionRequest}
    {result : Except ResponseError SubmitOutcome} {view : ResponseDb}
    (isHolding : state.calls call = .holding request result view) (other : CallId)
    (otherRequest : SessionRequest) (otherResult : Except ResponseError SubmitOutcome)
    (otherView : ResponseDb) :
    (state.setCall call .ended).calls other ≠ .holding otherRequest otherResult otherView := by
  by_cases same : other = call
  · simp [SubmissionState.setCall, same]
  · intro otherHolding
    simp only [SubmissionState.setCall, update_of_ne same] at otherHolding
    have sameLock := (counted.holding call _ _ _ isHolding).1.symm.trans
      (counted.holding other _ _ _ otherHolding).1
    exact same (Option.some.inj sameLock).symm

theorem step (aggregates : .aggregates ∈ allowedDataCategoriesForTier tier)
    (events : .events ∈ allowedDataCategoriesForTier tier) (op : SubmissionOp) :
    CountedOnce detectPii sessionId tier (state.step detectPii sessionId tier op).1
      (accepted ++ (state.step detectPii sessionId tier op).2.accepted.toList) := by
  cases op with
  | start call request hot =>
    simp only [SubmissionState.step]
    split
    · next isWaiting isFree =>
      simp only [SubmissionAnswer.accepted, Option.toList_none, append_nil]
      refine counted.frame rfl ?_
      intro other otherRequest result view isHolding
      by_cases same : other = call
      · subst same
        simp only [SubmissionState.setCall, update_self, RequestPhase.holding.injEq]
          at isHolding
        rcases isHolding with ⟨rfl, rfl, rfl⟩
        exact ⟨rfl, hot, rfl⟩
      · simp only [SubmissionState.setCall, update_of_ne same] at isHolding
        cases isFree.symm.trans (counted.holding other _ _ _ isHolding).1
    · simp only [SubmissionAnswer.accepted, Option.toList_none, append_nil]
      exact counted
  | commit call =>
    simp only [SubmissionState.step]
    split
    · next request outcome view isHolding =>
      have idle := counted.idle_of_ended isHolding
      rcases counted.holding call _ _ _ isHolding with ⟨_, hot, ran⟩
      cases request with
      | submit submission =>
        rcases submitResponse_eq_ok aggregates events ran with
          ⟨known, rfl, rfl⟩ | ⟨recorded, rfl, effect⟩
        · simp only [SubmissionAnswer.accepted, Option.toList_none, append_nil]
          exact counted.frame rfl fun other _ _ _ isOther => absurd isOther (idle other _ _ _)
        · exact counted.accept idle effect
      | control action eventId now =>
        rcases control_eq_ok ran with ⟨sameAggregates, sameResponses, row, log, noKey, notAggregate⟩
        simp only [SubmissionAnswer.accepted, Option.toList_none, append_nil]
        exact counted.control idle sameAggregates sameResponses log noKey notAggregate
    · simp only [SubmissionAnswer.accepted, Option.toList_none, append_nil]
      exact counted
  | rollback call =>
    simp only [SubmissionState.step]
    split
    · next isHolding =>
      simp only [SubmissionAnswer.accepted, Option.toList_none, append_nil]
      have idle := counted.idle_of_ended isHolding
      exact counted.frame rfl fun other _ _ _ isOther => absurd isOther (idle other _ _ _)
    · simp only [SubmissionAnswer.accepted, Option.toList_none, append_nil]
      exact counted

end

theorem of_fresh (fresh : state.Fresh sessionId) :
    CountedOnce detectPii sessionId tier state [] := by
  rcases fresh with ⟨noEvents, noAggregates, noResponses, _, allWaiting⟩
  have noLog : sessionLog state.db.events sessionId = [] := by
    apply eq_nil_iff_forall_not_mem.mpr
    intro row member
    rw [mem_sessionLog] at member
    exact noEvents row member.1 member.2
  constructor
  · intro call request result view isHolding
    rw [allWaiting call] at isHolding
    cases isHolding
  · simp [noLog]
  · simp [noLog]
  · exact nodup_nil
  · intro interactionId
    have missing : findAggregate state.db.aggregates sessionId interactionId = none := by
      apply List.find?_eq_none.mpr
      intro row member
      simp [noAggregates row member]
    simp [attemptCounts, missing, countsOf]
  · have noRows : (state.db.responses.rows.filter fun row => row.sessionId = sessionId) = [] := by
      apply filter_eq_nil_iff.mpr
      intro row member
      simpa using noResponses row member
    rw [noRows]
    split <;> rfl

theorem of_run {guard : Guard SubmissionState SubmissionOp SubmissionAnswer}
    (aggregates : .aggregates ∈ allowedDataCategoriesForTier tier)
    (events : .events ∈ allowedDataCategoriesForTier tier)
    {history : History SubmissionOp SubmissionAnswer}
    (run : (submissionMachine detectPii sessionId tier).Run guard state history) :
    CountedOnce detectPii sessionId tier state (acceptedSubmissions history) := by
  apply run.invariant fun state history =>
    CountedOnce detectPii sessionId tier state (acceptedSubmissions history)
  · exact fun _ fresh => of_fresh fresh
  · intro state history op counted _
    have stepped := counted.step aggregates events op
    have grown : acceptedSubmissions
        ((op, (state.step detectPii sessionId tier op).2) :: history) =
          acceptedSubmissions history ++
            (state.step detectPii sessionId tier op).2.accepted.toList := by
      unfold acceptedSubmissions
      cases isAccepted : (state.step detectPii sessionId tier op).2.accepted <;>
        simp [isAccepted]
    exact grown ▸ stepped

end CountedOnce

/-- The accepted submissions for an interaction, and the correct ones. -/
def acceptedFor (accepted : List Submission) (interactionId : String) : List Submission :=
  accepted.filter fun submission => submission.body.interactionId = interactionId

def correctFor (accepted : List Submission) (interactionId : String) : List Submission :=
  accepted.filter fun submission =>
    submission.body.interactionId = interactionId ∧ submission.body.correct = some true

theorem dedup_keys {accepted : List Submission}
    (distinct : (accepted.map Submission.idempotencyKey).Nodup) (selected : Submission → Bool) :
    ((accepted.filter selected).map Submission.idempotencyKey).dedup.length =
      accepted.countP selected := by
  have stillDistinct : ((accepted.filter selected).map Submission.idempotencyKey).Nodup :=
    distinct.sublist (filter_sublist.map _)
  rw [stillDistinct.dedup, length_map, countP_eq_length_filter]

/-- In every run of a session whose tier keeps aggregates and events, the
aggregate of each interaction counts the distinct keys accepted for it, the log
has one keyed event for each accepted key, and the raw rows are those of the
accepted submissions where the tier keeps raw responses. -/
theorem submissions_counted_once
    (aggregates : .aggregates ∈ allowedDataCategoriesForTier tier)
    (events : .events ∈ allowedDataCategoriesForTier tier) {state : SubmissionState}
    {history : History SubmissionOp SubmissionAnswer}
    (run : (submissionMachine detectPii sessionId tier).Run (fun _ _ _ => True) state history) :
    (∀ interactionId,
      (attemptCounts state.db.aggregates sessionId interactionId).1 =
          ((acceptedFor (acceptedSubmissions history) interactionId).map
            Submission.idempotencyKey).dedup.length ∧
        (attemptCounts state.db.aggregates sessionId interactionId).2 =
          ((correctFor (acceptedSubmissions history) interactionId).map
            Submission.idempotencyKey).dedup.length ∧
        (attemptCounts state.db.aggregates sessionId interactionId).2 ≤
          (attemptCounts state.db.aggregates sessionId interactionId).1) ∧
      (∀ key, ((sessionLog state.db.events sessionId).filter fun row =>
          IsAggregateUpdated row ∧ row.idempotencyKey = some key).length =
        if key ∈ (acceptedSubmissions history).map Submission.idempotencyKey then 1 else 0) ∧
      (state.db.responses.rows.filter fun row => row.sessionId = sessionId) =
        if .rawResponses ∈ allowedDataCategoriesForTier tier then
          (acceptedSubmissions history).map fun submission =>
            (submission.responseCreate sessionId tier).rawRow
        else [] := by
  have counted := CountedOnce.of_run aggregates events run
  refine ⟨?_, ?_, counted.raw⟩
  · intro interactionId
    rw [counted.counts, acceptedFor, correctFor, dedup_keys counted.distinct,
      dedup_keys counted.distinct]
    refine ⟨rfl, rfl, countP_mono_left fun submission _ isCorrect => ?_⟩
    simp only [decide_eq_true_eq] at isCorrect ⊢
    exact isCorrect.1
  · intro key
    have keyed : ((sessionLog state.db.events sessionId).filter fun row =>
        IsAggregateUpdated row ∧ row.idempotencyKey = some key).length =
          (((sessionLog state.db.events sessionId).filter IsAggregateUpdated).map
            TeachingSessionEvent.idempotencyKey).count (some key) := by
      rw [count_eq_countP, countP_map, countP_eq_length_filter, filter_filter]
      congr 2
      funext row
      rw [Bool.eq_iff_iff]
      simp [and_comm]
    have accepted : (acceptedSubmissions history).map (fun submission =>
        some submission.idempotencyKey) =
          ((acceptedSubmissions history).map Submission.idempotencyKey).map some := by
      simp
    rw [keyed, counted.keys, accepted, count_map_of_injective _ _ (Option.some_injective _),
      counted.distinct.count]

def emptyResponses : SubmissionState where
  db := ⟨.empty, .empty, .empty⟩
  lock := none
  calls _ := .waiting

def pollAnswer (eventId : String) : SessionRequest :=
  .submit ⟨⟨"poll-1", .pollVote, [("selected_option_id", .str "option-1")], none, some true, false,
    false⟩, "key-1", .student, "anon:session-1", "resp-" ++ eventId, "agg-1", eventId, 0⟩

/-- The answer is submitted twice and its retry is committed as well. -/
def retriedAnswer : List SubmissionOp :=
  [.start 0 (pollAnswer "evt-1") none, .commit 0, .start 1 (pollAnswer "evt-2") none, .commit 1]

def afterRetry : SubmissionState × History SubmissionOp SubmissionAnswer :=
  (submissionMachine (fun _ => ⟨[], []⟩) "session-1" .pseudonymous).drive (emptyResponses, [])
    retriedAnswer

theorem retried_answer_counted_once :
    (attemptCounts afterRetry.1.db.aggregates "session-1" "poll-1").1 =
      ((acceptedFor (acceptedSubmissions afterRetry.2) "poll-1").map
        Submission.idempotencyKey).dedup.length := by
  have fresh : emptyResponses.Fresh "session-1" := by
    simp [SubmissionState.Fresh, emptyResponses, Table.empty]
  have started : (submissionMachine (fun _ => ⟨[], []⟩) "session-1" .pseudonymous).Run
      (fun _ _ _ => True) emptyResponses [] := .start fresh
  have run := started.drive retriedAnswer
    Machine.admits_all
  exact ((submissions_counted_once (by decide) (by decide) run).1 "poll-1").1

end OhMyClass.Gateway.Teaching
