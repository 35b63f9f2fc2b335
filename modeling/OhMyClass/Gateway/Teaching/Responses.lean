import OhMyClass.Gateway.Teaching.Sessions
import OhMyClass.Transition.Session

/-!
# Student responses

A response is validated, gated and then counted in the aggregate of its
interaction; a raw row is kept only where the retention tier allows one.
-/

namespace OhMyClass.Gateway.Teaching

open OhMyClass.Transition Table

inductive ResponseKind where
  | multipleChoice
  | pollVote
  | shortStructured
  | freeText
  deriving DecidableEq

/-- `isinstance(value, str) and value`. -/
def isFilledText : Json → Bool
  | .str text => text != ""
  | _ => false

/-- The reason a payload does not have the shape of its kind. -/
def validatePayload (kind : ResponseKind) (payload : JsonObject) : Option String :=
  match kind with
  | .multipleChoice =>
    match payload.get? "selected_option_ids" with
    | some (.arr (first :: rest)) =>
      if (first :: rest).all isFilledText then none
      else some "multiple_choice_requires_selected_option_ids"
    | _ => some "multiple_choice_requires_selected_option_ids"
  | .pollVote =>
    if (payload.get? "selected_option_id").any isFilledText then none
    else some "poll_vote_requires_selected_option_id"
  | .shortStructured =>
    match payload.get? "value" with
    | some (.str value) =>
      if value = "" ∨ 200 < value.length then some "short_structured_requires_bounded_value"
      else none
    | _ => some "short_structured_requires_bounded_value"
  | .freeText =>
    if (payload.get? "text").any isFilledText then none else some "free_text_requires_text"

/-- What `detect_pii` reports about a text. -/
structure PiiAuditEvent where
  redactionCounts : List (String × Nat)
  lowConfidenceHashes : List String

def PiiAuditEvent.IsHit (audit : PiiAuditEvent) : Prop :=
  (∃ entry ∈ audit.redactionCounts, entry.2 ≠ 0) ∨ audit.lowConfidenceHashes ≠ []
  deriving Decidable

/-- The reason the text is rejected. -/
def gateFreeText (detectPii : String → PiiAuditEvent) (text : String)
    (interactionAllowsFreeText sessionAllowsFreeText : Bool) : Option String :=
  if ¬ interactionAllowsFreeText then
    some "interaction_does_not_allow_free_text"
  else if ¬ sessionAllowsFreeText then
    some "session_policy_blocks_free_text"
  else if (detectPii text).IsHit then
    some "pii_detected"
  else
    none

/-- `payload.get("text", "")`, of a payload that has been validated. -/
def freeTextOf (payload : JsonObject) : String :=
  match payload.get? "text" with
  | some (.str text) => text
  | _ => ""

/-- A row of `public.session_student_responses`. -/
structure SessionStudentResponse where
  responseId : String
  sessionId : SessionId
  interactionId : String
  studentPseudonym : String
  kind : ResponseKind
  kcIds : List String
  payload : JsonObject
  correct : Option Bool
  createdAt : DateTime

def SessionStudentResponse.Conflict (first second : SessionStudentResponse) : Prop :=
  first.responseId = second.responseId
  deriving Decidable

abbrev SessionStudentResponses := Table SessionStudentResponse SessionStudentResponse.Conflict

/-- A row of `public.session_response_aggregates`. -/
structure SessionResponseAggregate where
  aggregateId : String
  sessionId : SessionId
  interactionId : String
  kcIds : List String
  attemptCount : Nat
  correctCount : Nat

/-- The primary key and one row for each interaction of a session. -/
def SessionResponseAggregate.Conflict (first second : SessionResponseAggregate) : Prop :=
  first.aggregateId = second.aggregateId ∨
    (first.sessionId = second.sessionId ∧ first.interactionId = second.interactionId)
  deriving Decidable

abbrev SessionResponseAggregates := Table SessionResponseAggregate SessionResponseAggregate.Conflict

/-- The tables a submission writes. -/
structure ResponseDb where
  events : TeachingSessionEvents
  aggregates : SessionResponseAggregates
  responses : SessionStudentResponses

inductive ResponseError where
  | integrityError
  | httpException (statusCode : Nat) (detail : String)

abbrev ResponseSession (α : Type) := Session ResponseDb ResponseError α

/-! ## Recording a response -/

def findAggregate (aggregates : SessionResponseAggregates) (sessionId : SessionId)
    (interactionId : String) : Option SessionResponseAggregate :=
  aggregates.rows.find? fun row =>
    row.sessionId == sessionId && row.interactionId == interactionId

def countAttempt (correct : Option Bool) (aggregate : SessionResponseAggregate) :
    SessionResponseAggregate :=
  { aggregate with
    attemptCount := aggregate.attemptCount + 1
    correctCount := aggregate.correctCount + if correct = some true then 1 else 0 }

variable {correct : Option Bool}

theorem conflict_of_countAttempt {selected : SessionResponseAggregate → Bool}
    (first second : SessionResponseAggregate) (clash : SessionResponseAggregate.Conflict
      (changeSelected selected (countAttempt correct) first)
      (changeSelected selected (countAttempt correct) second)) :
    SessionResponseAggregate.Conflict first second := by
  unfold changeSelected at clash
  split at clash <;> split at clash <;> exact clash

/-- What `record_response` is given, with the ids and the time it draws. -/
structure ResponseCreate where
  responseId : String
  sessionId : SessionId
  interactionId : String
  retentionTier : RetentionTier
  kind : ResponseKind
  payload : JsonObject
  studentPseudonym : String
  kcIds : Option (List String)
  correct : Option Bool
  interactionAllowsFreeText : Bool
  sessionAllowsFreeText : Bool
  aggregateId : String
  now : DateTime

namespace ResponseCreate

def rawRow (create : ResponseCreate) : SessionStudentResponse where
  responseId := create.responseId
  sessionId := create.sessionId
  interactionId := create.interactionId
  studentPseudonym := create.studentPseudonym
  kind := create.kind
  kcIds := create.kcIds.getD []
  payload := create.payload
  correct := create.correct
  createdAt := create.now

/-- The aggregate of an interaction's first response. -/
def newAggregate (create : ResponseCreate) : SessionResponseAggregate where
  aggregateId := create.aggregateId
  sessionId := create.sessionId
  interactionId := create.interactionId
  kcIds := create.kcIds.getD []
  attemptCount := 0
  correctCount := 0

end ResponseCreate

def incrementAggregate (create : ResponseCreate) : ResponseSession PUnit := fun db =>
  match findAggregate db.aggregates create.sessionId create.interactionId with
  | none =>
    match db.aggregates.insert (countAttempt create.correct create.newAggregate) with
    | none => (.error .integrityError, db)
    | some aggregates => (.ok ⟨⟩, { db with aggregates := aggregates })
  | some aggregate =>
    (.ok ⟨⟩, { db with
      aggregates := db.aggregates.update (fun row => row.aggregateId == aggregate.aggregateId)
        (countAttempt create.correct) conflict_of_countAttempt })

def insertRawResponse (create : ResponseCreate) : ResponseSession PUnit := fun db =>
  match db.responses.insert create.rawRow with
  | none => (.error .integrityError, db)
  | some responses => (.ok ⟨⟩, { db with responses := responses })

inductive SubmitResponseResult where
  | accepted (kind : ResponseKind) (rawResponsePersisted : Bool)
  | rejected (reason : String)

/-- The shape check and, for free text, the gate. -/
def rejectionReason (detectPii : String → PiiAuditEvent) (create : ResponseCreate) :
    Option String :=
  match validatePayload create.kind create.payload with
  | some shapeError => some shapeError
  | none =>
    if create.kind = .freeText then
      gateFreeText detectPii (freeTextOf create.payload) create.interactionAllowsFreeText
        create.sessionAllowsFreeText
    else
      none

def recordResponse (detectPii : String → PiiAuditEvent) (create : ResponseCreate) :
    ResponseSession SubmitResponseResult :=
  match rejectionReason detectPii create with
  | some reason => return .rejected reason
  | none => do
    if .aggregates ∉ allowedDataCategoriesForTier create.retentionTier then
      return .accepted create.kind false
    else
      incrementAggregate create
      if .rawResponses ∈ allowedDataCategoriesForTier create.retentionTier then
        insertRawResponse create
        return .accepted create.kind true
      else
        return .accepted create.kind false

def getSessionAggregates (aggregates : SessionResponseAggregates) (sessionId : SessionId) :
    List SessionResponseAggregate :=
  aggregates.rows.filter fun row => row.sessionId == sessionId

/-- The attempts and the correct ones counted for an interaction. -/
def attemptCounts (aggregates : SessionResponseAggregates) (sessionId : SessionId)
    (interactionId : String) : Nat × Nat :=
  match findAggregate aggregates sessionId interactionId with
  | none => (0, 0)
  | some aggregate => (aggregate.attemptCount, aggregate.correctCount)

/-! ## Laws -/

theorem SessionResponseAggregate.Conflict.symm {first second : SessionResponseAggregate}
    (clash : SessionResponseAggregate.Conflict first second) :
    SessionResponseAggregate.Conflict second first := by
  rcases clash with sameId | ⟨sameSession, sameInteraction⟩
  · exact .inl sameId.symm
  · exact .inr ⟨sameSession.symm, sameInteraction.symm⟩

variable {aggregates : SessionResponseAggregates} {sessionId : SessionId}
  {aggregate : SessionResponseAggregate}

theorem of_findAggregate {interactionId : String}
    (found : findAggregate aggregates sessionId interactionId = some aggregate) :
    aggregate ∈ aggregates.rows ∧ aggregate.sessionId = sessionId ∧
      aggregate.interactionId = interactionId := by
  have matched := List.find?_some found
  rw [Bool.and_eq_true, beq_iff_eq, beq_iff_eq] at matched
  exact ⟨List.mem_of_find?_eq_some found, matched⟩

/-- The counts of an interaction after one more attempt. -/
def countsAfter (correct : Option Bool) (counts : Nat × Nat) : Nat × Nat :=
  (counts.1 + 1, counts.2 + if correct = some true then 1 else 0)

theorem attemptCounts_insert {grown : SessionResponseAggregates} {row : SessionResponseAggregate}
    (inserted : aggregates.insert row = some grown)
    (missing : findAggregate aggregates row.sessionId row.interactionId = none)
    (interactionId : String) :
    attemptCounts grown row.sessionId interactionId =
      if interactionId = row.interactionId then (row.attemptCount, row.correctCount)
      else attemptCounts aggregates row.sessionId interactionId := by
  have found : findAggregate grown row.sessionId interactionId =
      (findAggregate aggregates row.sessionId interactionId).or
        (if row.interactionId = interactionId then some row else none) := by
    unfold findAggregate
    rw [rows_of_insert inserted]
    simp
  unfold attemptCounts
  rw [found]
  by_cases same : interactionId = row.interactionId
  · subst same
    simp [missing]
  · simp [same, Ne.symm same]

theorem attemptCounts_update
    (found : findAggregate aggregates sessionId aggregate.interactionId = some aggregate)
    (interactionId : String) :
    attemptCounts (aggregates.update (fun row => row.aggregateId == aggregate.aggregateId)
        (countAttempt correct) conflict_of_countAttempt) sessionId interactionId =
      if interactionId = aggregate.interactionId then
        countsAfter correct (attemptCounts aggregates sessionId interactionId)
      else attemptCounts aggregates sessionId interactionId := by
  have changed : findAggregate (aggregates.update
      (fun row => row.aggregateId == aggregate.aggregateId) (countAttempt correct)
        conflict_of_countAttempt) sessionId interactionId =
      (findAggregate aggregates sessionId interactionId).map (changeSelected
        (fun row => row.aggregateId == aggregate.aggregateId) (countAttempt correct)) := by
    unfold findAggregate Table.update
    rw [List.find?_map]
    congr 2
    funext row
    unfold Function.comp changeSelected
    split <;> rfl
  unfold attemptCounts
  rw [changed]
  by_cases same : interactionId = aggregate.interactionId
  · subst same
    simp [found, changeSelected, countAttempt, countsAfter]
  · cases other : findAggregate aggregates sessionId interactionId with
    | none => simp [same]
    | some row =>
      have apart : row.aggregateId ≠ aggregate.aggregateId := by
        intro sameId
        rcases of_findAggregate other with ⟨rowMem, _, isInteraction⟩
        have equal := aggregates.eq_of_conflict (fun _ _ => SessionResponseAggregate.Conflict.symm)
          rowMem (of_findAggregate found).1 (.inl sameId)
        exact same (isInteraction.symm.trans (congrArg _ equal))
      simp [same, changeSelected, apart]

variable {create : ResponseCreate} {db after : ResponseDb} {answer : PUnit}

theorem incrementAggregate_eq_ok (ret : incrementAggregate create db = (.ok answer, after)) :
    after.events = db.events ∧ after.responses = db.responses ∧ ∀ interactionId,
      attemptCounts after.aggregates create.sessionId interactionId =
        if interactionId = create.interactionId then
          countsAfter create.correct (attemptCounts db.aggregates create.sessionId interactionId)
        else attemptCounts db.aggregates create.sessionId interactionId := by
  unfold incrementAggregate at ret
  split at ret
  · next missing =>
    split at ret
    · cases ret
    · next aggregates inserted =>
      cases ret
      refine ⟨rfl, rfl, fun interactionId => ?_⟩
      refine (attemptCounts_insert inserted missing interactionId).trans ?_
      by_cases same : interactionId = create.interactionId
      · subst same
        simp [attemptCounts, missing, countsAfter, countAttempt, ResponseCreate.newAggregate]
      · simp [same, countAttempt, ResponseCreate.newAggregate]
  · next aggregate found =>
    cases ret
    refine ⟨rfl, rfl, fun interactionId => ?_⟩
    rcases of_findAggregate found with ⟨_, _, isInteraction⟩
    rw [← isInteraction] at found ⊢
    exact attemptCounts_update found interactionId

theorem insertRawResponse_eq_ok (ret : insertRawResponse create db = (.ok answer, after)) :
    after.events = db.events ∧ after.aggregates = db.aggregates ∧
      after.responses.rows = db.responses.rows ++ [create.rawRow] := by
  unfold insertRawResponse at ret
  split at ret
  · cases ret
  · next responses inserted =>
    cases ret
    exact ⟨rfl, rfl, rows_of_insert inserted⟩

/-- A counted response: one more attempt, and a raw row where the tier allows
one. -/
structure Counted (create : ResponseCreate) (db after : ResponseDb) : Prop where
  events : after.events = db.events
  counts : ∀ interactionId, attemptCounts after.aggregates create.sessionId interactionId =
    if interactionId = create.interactionId then
      countsAfter create.correct (attemptCounts db.aggregates create.sessionId interactionId)
    else attemptCounts db.aggregates create.sessionId interactionId
  raw : after.responses.rows =
    if .rawResponses ∈ allowedDataCategoriesForTier create.retentionTier then
      db.responses.rows ++ [create.rawRow]
    else db.responses.rows

theorem recordResponse_eq_ok {detectPii : String → PiiAuditEvent}
    (allowed : .aggregates ∈ allowedDataCategoriesForTier create.retentionTier)
    {result : SubmitResponseResult}
    (ret : recordResponse detectPii create db = (.ok result, after)) :
    (∃ reason, result = .rejected reason ∧ rejectionReason detectPii create = some reason ∧
        after = db) ∨
      (∃ persisted, result = .accepted create.kind persisted ∧
        rejectionReason detectPii create = none ∧ Counted create db after) := by
  unfold recordResponse at ret
  cases reason : rejectionReason detectPii create with
  | some text =>
    rw [reason] at ret
    cases ret
    exact .inl ⟨text, rfl, rfl, rfl⟩
  | none =>
    simp only [reason, not_not.mpr allowed, if_false] at ret
    rcases Session.bind_eq_ok.mp ret with ⟨_, between, incremented, ret⟩
    rcases incrementAggregate_eq_ok incremented with ⟨sameEvents, sameResponses, counts⟩
    by_cases keepsRaw :
        SessionDataCategory.rawResponses ∈ allowedDataCategoriesForTier create.retentionTier
    · rw [if_pos keepsRaw] at ret
      rcases Session.bind_eq_ok.mp ret with ⟨_, written, inserted, ret⟩
      rcases insertRawResponse_eq_ok inserted with ⟨rawEvents, rawAggregates, rows⟩
      cases ret
      refine .inr ⟨true, rfl, rfl, rawEvents.trans sameEvents, ?_, ?_⟩
      · rw [rawAggregates]
        exact counts
      · rw [rows, sameResponses, if_pos keepsRaw]
    · rw [if_neg keepsRaw] at ret
      cases ret
      refine .inr ⟨false, rfl, rfl, sameEvents, counts, ?_⟩
      rw [sameResponses, if_neg keepsRaw]

end OhMyClass.Gateway.Teaching
