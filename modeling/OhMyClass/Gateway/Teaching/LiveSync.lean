import OhMyClass.Gateway.Teaching.EventLog
import OhMyClass.Text.Core
import OhMyClass.Transition.Machine

/-!
# Bounded recovery

A cold read folds only the last rows of the log.  The result is the read
model of the complete log exactly if those rows write again every field that
an older row wrote.
-/

namespace OhMyClass.Gateway.Teaching

open List OhMyClass.Sorting

/-- The rows a recovery does not read. -/
def droppedRows (events : TeachingSessionEvents) (sessionId : SessionId) (limit : Nat) :
    List TeachingSessionEvent :=
  (sessionLog events sessionId).take ((sessionLog events sessionId).length - limit)

/-- The slide, the branch, the open interaction, the end of the session and the
tallies of each interaction, where a row outside the recovery wrote them, are
written again by a row the recovery reads. -/
def RecoveryCovers (events : TeachingSessionEvents) (sessionId : SessionId) (limit : Nat) : Prop :=
  ∀ field, LastWrite.Written SessionEvent.writes
      ((droppedRows events sessionId limit).map rowToEvent) field →
    LastWrite.Written SessionEvent.writes
      ((recoveryRows events sessionId limit).map rowToEvent) field

variable {events : TeachingSessionEvents} {sessionId : SessionId} {limit : Nat}

theorem droppedRows_append_recoveryRows (events : TeachingSessionEvents) (sessionId : SessionId)
    (limit : Nat) :
    droppedRows events sessionId limit ++ recoveryRows events sessionId limit =
      sessionLog events sessionId := by
  rw [recoveryRows_eq_drop, droppedRows, take_append_drop]

theorem recoveryCovers_of_length_le (short : (sessionLog events sessionId).length ≤ limit) :
    RecoveryCovers events sessionId limit := by
  have nothingDropped : droppedRows events sessionId limit = [] := by
    rw [droppedRows, Nat.sub_eq_zero_of_le short, take_zero]
  intro field written
  rw [nothingDropped] at written
  exact absurd written LastWrite.written_nil

/-! ## What a fold of rows says -/

theorem sessionId_applyEvents (state : SessionReadModel) (log : List SessionEvent) :
    (applyEvents state log).sessionId = state.sessionId := by
  induction log generalizing state with
  | nil => rfl
  | cons event rest ih =>
    refine (ih (applyEvent state event)).trans ?_
    unfold applyEvent applySequence applyPayload
    cases event.sequence <;> cases event.payload <;> rfl

theorem lastSequence_applyEvent (state : SessionReadModel) (row : TeachingSessionEvent) :
    (applyEvent state (rowToEvent row)).lastSequence = max state.lastSequence row.sequence := by
  unfold applyEvent applySequence applyPayload rowToEvent
  cases row.payload <;> rfl

theorem replayedReadModel_concat (rows : List TeachingSessionEvent) (row : TeachingSessionEvent) :
    replayedReadModel sessionId (rows ++ [row]) =
      applyEvent (replayedReadModel sessionId rows) (rowToEvent row) := by
  unfold replayedReadModel
  rw [map_append, map_singleton, applyEvents_concat]

variable {rows : List TeachingSessionEvent}

theorem lastSequence_replayedReadModel_le {bound : Nat}
    (below : ∀ row ∈ rows, row.sequence ≤ bound) :
    (replayedReadModel sessionId rows).lastSequence ≤ bound := by
  induction rows using List.reverseRecOn with
  | nil => exact Nat.zero_le bound
  | append_singleton rows row ih =>
    rw [replayedReadModel_concat, lastSequence_applyEvent]
    apply Nat.max_le.mpr
    constructor
    · exact ih fun earlier mem => below earlier (mem_append_left _ mem)
    · exact below row (mem_append_right _ (mem_singleton.mpr rfl))

theorem lastSequence_replayedReadModel_concat {row : TeachingSessionEvent}
    (ascending : (rows ++ [row]).Pairwise fun first second => first.sequence ≤ second.sequence) :
    (replayedReadModel sessionId (rows ++ [row])).lastSequence = row.sequence := by
  rw [replayedReadModel_concat, lastSequence_applyEvent]
  apply Nat.max_eq_right
  apply lastSequence_replayedReadModel_le
  intro earlier mem
  exact (pairwise_append.mp ascending).2.2 earlier mem row (mem_singleton.mpr rfl)

variable {older newer : List TeachingSessionEvent}

/-- A nonempty suffix of sorted rows has the sequence and the time of all of
them. -/
theorem replayedReadModel_suffix (nonempty : newer ≠ [])
    (ascending : (older ++ newer).Pairwise fun first second => first.sequence ≤ second.sequence) :
    (replayedReadModel sessionId newer).lastSequence =
        (replayedReadModel sessionId (older ++ newer)).lastSequence ∧
      (replayedReadModel sessionId newer).updatedAt =
        (replayedReadModel sessionId (older ++ newer)).updatedAt := by
  rcases eq_nil_or_concat' newer with rfl | ⟨rows, row, rfl⟩
  · exact absurd rfl nonempty
  · have ascendingNewer := (pairwise_append.mp ascending).2.1
    rw [← append_assoc] at ascending ⊢
    rw [lastSequence_replayedReadModel_concat ascending,
      lastSequence_replayedReadModel_concat ascendingNewer, replayedReadModel_concat,
      replayedReadModel_concat]
    exact ⟨rfl, rfl⟩

theorem replayedReadModel_suffix_iff (nonempty : newer = [] → older = [])
    (ascending : (older ++ newer).Pairwise fun first second => first.sequence ≤ second.sequence) :
    replayedReadModel sessionId newer = replayedReadModel sessionId (older ++ newer) ↔
      ∀ field, LastWrite.Written SessionEvent.writes (older.map rowToEvent) field →
        LastWrite.Written SessionEvent.writes (newer.map rowToEvent) field := by
  have fieldEq (rows : List TeachingSessionEvent) (field : ReadModelField) :
      (replayedReadModel sessionId rows).field field =
        LastWrite.current SessionEvent.writes (rows.map rowToEvent) field := by
    rw [replayedReadModel, field_applyEvents, field_initialReadModel, Option.or_none]
  constructor
  · intro same field
    rw [← LastWrite.current_suffix_iff, ← map_append, ← fieldEq, ← fieldEq, same]
  · intro covered
    by_cases isEmpty : newer = []
    · rw [isEmpty, nonempty isEmpty, append_nil]
    · obtain ⟨sameSequence, sameTime⟩ :=
        @replayedReadModel_suffix sessionId _ _ isEmpty ascending
      apply SessionReadModel.ext_field _ _ sameSequence sameTime
      · simp [replayedReadModel, sessionId_applyEvents]
      · intro field
        rw [fieldEq, fieldEq, map_append]
        exact (LastWrite.current_suffix_iff _ _).mpr (covered field)

theorem recoverReadModel_eq_iff (events : TeachingSessionEvents) (sessionId : SessionId)
    (positive : 0 < limit) :
    recoverReadModel events sessionId limit =
        replayedReadModel sessionId (sessionLog events sessionId) ↔
      RecoveryCovers events sessionId limit := by
  have split := droppedRows_append_recoveryRows events sessionId limit
  have nonempty : recoveryRows events sessionId limit = [] →
      droppedRows events sessionId limit = [] := by
    intro isEmpty
    rw [recoveryRows_eq_drop, drop_eq_nil_iff] at isEmpty
    have noLog : (sessionLog events sessionId).length = 0 := by omega
    rw [droppedRows, eq_nil_of_length_eq_zero noLog, take_nil]
  have ascending := pairwise_sortBy TeachingSessionEvent.sequence (sessionRows events sessionId)
  change (sessionLog events sessionId).Pairwise _ at ascending
  rw [← split] at ascending ⊢
  exact replayedReadModel_suffix_iff nonempty ascending

/-- A cold read with the default limit agrees with the complete log exactly if
the last rows write again every field the older ones wrote. -/
theorem recovery_agrees_iff_covers (events : TeachingSessionEvents) (sessionId : SessionId) :
    recoverReadModel events sessionId defaultRecoveryEventLimit =
        replayedReadModel sessionId (sessionLog events sessionId) ↔
      RecoveryCovers events sessionId defaultRecoveryEventLimit :=
  recoverReadModel_eq_iff events sessionId (by decide)

/-! ## A slide shown before the last five hundred events -/

def lessonEvent (index : Nat) : TeachingSessionEvent where
  eventId := "evt-" ++ String.ofList (Nat.toDigits 10 index)
  sessionId := "session-1"
  sequence := index + 1
  payload := if index = 0 then .slideChanged "slide-1" none
    else .annotationAdded "slide-1" ("note-" ++ String.ofList (Nat.toDigits 10 index)) none
  actorRole := .controller
  idempotencyKey := none
  createdAt := index

theorem lessonEvent_apart {first second : Nat} (before : first < second) :
    ¬ TeachingSessionEvent.Conflict (lessonEvent first) (lessonEvent second) := by
  rintro (sameId | ⟨_, sameSequence⟩ | ⟨_, isKey, _⟩)
  · have sameDigits := String.ofList_injective (String.append_right_inj _ |>.mp sameId)
    exact before.ne (Text.toDigits_injective sameDigits)
  · exact before.ne (Nat.succ.inj sameSequence)
  · cases isKey

/-- One slide and a number of annotations. -/
def annotatedLesson (annotations : Nat) : TeachingSessionEvents where
  rows := (List.range (annotations + 1)).map lessonEvent
  consistent := List.pairwise_lt_range.map lessonEvent fun _ _ => lessonEvent_apart

theorem sessionLog_annotatedLesson (annotations : Nat) :
    sessionLog (annotatedLesson annotations) "session-1" =
      lessonEvent 0 :: (List.range annotations).map fun index => lessonEvent (index + 1) := by
  have rows : sessionRows (annotatedLesson annotations) "session-1" =
      (List.range (annotations + 1)).map lessonEvent := by
    apply filter_eq_self.mpr
    intro row mem
    rcases mem_map.mp mem with ⟨index, _, rfl⟩
    exact beq_self_eq_true "session-1"
  have ascending : ((List.range (annotations + 1)).map lessonEvent).Pairwise
      fun first second => first.sequence ≤ second.sequence :=
    pairwise_lt_range.map lessonEvent fun _ _ before => Nat.succ_le_succ before.le
  have sorted := eq_sortBy (identifies_sequence (annotatedLesson annotations) "session-1")
    ascending (by rw [rows])
  rw [sessionLog, ← sorted, range_succ_eq_map, map_cons, map_map]
  rfl

theorem annotatedLesson_not_covered (limit : Nat) :
    ¬ RecoveryCovers (annotatedLesson limit) "session-1" limit := by
  intro covers
  have log := sessionLog_annotatedLesson limit
  have surplus : (sessionLog (annotatedLesson limit) "session-1").length - limit = 1 := by
    simp [log]
  have dropped : droppedRows (annotatedLesson limit) "session-1" limit = [lessonEvent 0] := by
    rw [droppedRows, surplus, log]
    rfl
  have shown : (rowToEvent (lessonEvent 0)).writes .currentSlide = some (.id "slide-1") := rfl
  obtain ⟨event, mem, writes⟩ := covers .currentSlide
    ⟨rowToEvent (lessonEvent 0), by simp [dropped], by simp [shown]⟩
  rw [recoveryRows_eq_drop, surplus, log, drop_succ_cons, List.drop_zero, map_map]
    at mem
  rcases mem_map.mp mem with ⟨index, _, rfl⟩
  exact writes rfl

/-- The recovery of the annotated lesson has lost its slide. -/
theorem recovery_loses_slide :
    recoverReadModel (annotatedLesson 500) "session-1" defaultRecoveryEventLimit ≠
      replayedReadModel "session-1" (sessionLog (annotatedLesson 500) "session-1") := by
  intro agrees
  exact annotatedLesson_not_covered 500 ((recoverReadModel_eq_iff _ _ (by decide)).mp agrees)

/-! ## Live synchronisation -/

open OhMyClass.Transition

/-- How far a call has come.  Inside the transaction it sees the committed
rows and its own one; only a call with a new row goes on after the commit. -/
inductive CallPhase where
  | waiting
  | appended (answer : TeachingSessionEvent × Bool) (view : TeachingSessionEvents)
  | derived (recorded : RecordedEvent) (view : TeachingSessionEvents)
  | committed (recorded : RecordedEvent) (isNew : recorded.duplicate = false)
  | stored (recorded : RecordedEvent) (isNew : recorded.duplicate = false)
  | finished (recorded : RecordedEvent)
  | failed

namespace CallPhase

/-- The row of an open transaction, whether it is new, and what the transaction
sees. -/
@[simp]
def transaction : CallPhase → Option ((TeachingSessionEvent × Bool) × TeachingSessionEvents)
  | appended answer view => some (answer, view)
  | derived recorded view => some ((recorded.row, !recorded.duplicate), view)
  | _ => none

/-- The row a call has added to the log. -/
@[simp]
def newRow : CallPhase → Option TeachingSessionEvent
  | committed recorded _ | stored recorded _ => some recorded.row
  | finished recorded => if recorded.duplicate then none else some recorded.row
  | _ => none

/-- The row whose read model a call has written to the hot state. -/
@[simp]
def written : CallPhase → Option TeachingSessionEvent
  | stored recorded _ => some recorded.row
  | finished recorded => if recorded.duplicate then none else some recorded.row
  | _ => none

def Settled : CallPhase → Prop
  | waiting | finished _ | failed => True
  | _ => False

instance : DecidablePred Settled
  | waiting | finished _ | failed => .isTrue trivial
  | appended .. | derived .. | committed .. | stored .. => .isFalse id

end CallPhase

/-- A session: its committed events, its advisory lock, its calls, its key and
its channel in Redis. -/
structure LiveSync where
  events : TeachingSessionEvents
  lock : Option CallId
  calls : CallId → CallPhase
  hot : Option SessionReadModel
  published : List SessionEvent

inductive LiveOp where
  | appendEvent (call : CallId) (create : EventCreate)
  | deriveState (call : CallId)
  | commit (call : CallId)
  | rollback (call : CallId)
  | setHotState (call : CallId)
  | publishEvent (call : CallId)
  | expire

/-- The call that takes the step. -/
def LiveOp.call : LiveOp → Option CallId
  | appendEvent call _ | deriveState call | commit call | rollback call | setHotState call
  | publishEvent call => some call
  | expire => none

namespace LiveSync

def setCall (state : LiveSync) (call : CallId) (phase : CallPhase) : LiveSync :=
  { state with calls := Function.update state.calls call phase }

/-- `append_event`, once the lock is free. -/
def appendEvent (sessionId : SessionId) (call : CallId) (create : EventCreate)
    (state : LiveSync) : LiveSync :=
  match state.calls call, state.lock with
  | .waiting, none =>
    if create.sessionId = sessionId then
      match Teaching.appendEvent create state.events with
      | none => state.setCall call .failed
      | some (answer, view) =>
        { state.setCall call (.appended answer view) with lock := some call }
    else
      state
  | _, _ => state

/-- `current_state` and `apply_event`, still under the lock. -/
def deriveState (sessionId : SessionId) (call : CallId) (state : LiveSync) : LiveSync :=
  match state.calls call with
  | .appended answer view =>
    state.setCall call (.derived (recordedEvent answer state.hot view sessionId) view)
  | _ => state

/-- `db.commit()` releases the lock; a duplicate ends the call. -/
def commit (call : CallId) (state : LiveSync) : LiveSync :=
  match state.calls call with
  | .derived recorded view =>
    let phase := if isNew : recorded.duplicate = false then .committed recorded isNew
      else .finished recorded
    { state.setCall call phase with events := view, lock := none }
  | _ => state

def rollback (call : CallId) (state : LiveSync) : LiveSync :=
  match state.calls call with
  | .appended .. | .derived .. => { state.setCall call .failed with lock := none }
  | _ => state

def setHotState (call : CallId) (state : LiveSync) : LiveSync :=
  match state.calls call with
  | .committed recorded isNew =>
    { state.setCall call (.stored recorded isNew) with hot := some recorded.readModel }
  | _ => state

def publishEvent (call : CallId) (state : LiveSync) : LiveSync :=
  match state.calls call with
  | .stored recorded _ =>
    { state.setCall call (.finished recorded) with
      published := state.published ++ [recorded.event] }
  | _ => state

/-- The key reached its time to live, or Redis restarted. -/
def expire (state : LiveSync) : LiveSync :=
  { state with hot := none }

def step (sessionId : SessionId) (state : LiveSync) : LiveOp → LiveSync
  | .appendEvent call create => state.appendEvent sessionId call create
  | .deriveState call => state.deriveState sessionId call
  | .commit call => state.commit call
  | .rollback call => state.rollback call
  | .setHotState call => state.setHotState call
  | .publishEvent call => state.publishEvent call
  | .expire => state.expire

/-- A session that has just been created. -/
def Fresh (sessionId : SessionId) (state : LiveSync) : Prop :=
  sessionLog state.events sessionId = [] ∧ state.lock = none ∧
    (∀ call, state.calls call = .waiting) ∧ state.hot = none ∧ state.published = []

/-- Every call has ended. -/
def Quiet (state : LiveSync) : Prop :=
  ∀ call, (state.calls call).Settled

end LiveSync

def liveMachine (sessionId : SessionId) : Machine LiveSync LiveOp Unit where
  initial := LiveSync.Fresh sessionId
  step state op := (state.step sessionId op, ())

namespace LiveSync

variable {sessionId : SessionId} {state : LiveSync} {call : CallId}

/-! ## What a step can do -/

/-- What the steps do where they do anything. -/
inductive Moves (sessionId : SessionId) (state : LiveSync) : LiveOp → LiveSync → Prop
  | refused {call : CallId} {create : EventCreate} :
      state.calls call = .waiting →
      Moves sessionId state (.appendEvent call create) (state.setCall call .failed)
  | appended {call : CallId} {create : EventCreate} {answer : TeachingSessionEvent × Bool}
      {view : TeachingSessionEvents} :
      state.calls call = .waiting → state.lock = none → create.sessionId = sessionId →
      Teaching.appendEvent create state.events = some (answer, view) →
      Moves sessionId state (.appendEvent call create)
        { state.setCall call (.appended answer view) with lock := some call }
  | derived {call : CallId} {answer : TeachingSessionEvent × Bool}
      {view : TeachingSessionEvents} :
      state.calls call = .appended answer view →
      Moves sessionId state (.deriveState call) (state.setCall call
        (.derived (recordedEvent answer state.hot view sessionId) view))
  | repeated {call : CallId} {recorded : RecordedEvent} {view : TeachingSessionEvents} :
      state.calls call = .derived recorded view → recorded.duplicate = true →
      Moves sessionId state (.commit call)
        { state.setCall call (.finished recorded) with events := view, lock := none }
  | committed {call : CallId} {recorded : RecordedEvent} {view : TeachingSessionEvents}
      (isNew : recorded.duplicate = false) :
      state.calls call = .derived recorded view →
      Moves sessionId state (.commit call)
        { state.setCall call (.committed recorded isNew) with events := view, lock := none }
  | rolledBack {call : CallId} {opened : (TeachingSessionEvent × Bool) × TeachingSessionEvents} :
      (state.calls call).transaction = some opened →
      Moves sessionId state (.rollback call) { state.setCall call .failed with lock := none }
  | stored {call : CallId} {recorded : RecordedEvent} {isNew : recorded.duplicate = false} :
      state.calls call = .committed recorded isNew →
      Moves sessionId state (.setHotState call)
        { state.setCall call (.stored recorded isNew) with hot := some recorded.readModel }
  | published {call : CallId} {recorded : RecordedEvent} {isNew : recorded.duplicate = false} :
      state.calls call = .stored recorded isNew →
      Moves sessionId state (.publishEvent call)
        { state.setCall call (.finished recorded) with
          published := state.published ++ [recorded.event] }
  | expired : Moves sessionId state .expire { state with hot := none }

theorem step_cases (sessionId : SessionId) (state : LiveSync) (op : LiveOp) :
    state.step sessionId op = state ∨ Moves sessionId state op (state.step sessionId op) := by
  cases op with
  | appendEvent call create =>
    simp only [step]
    unfold appendEvent
    split
    · next isWaiting isFree =>
      split
      · next sameSession =>
        split
        · exact .inr (.refused isWaiting)
        · next appended => exact .inr (.appended isWaiting isFree sameSession appended)
      · exact .inl rfl
    · exact .inl rfl
  | deriveState call =>
    simp only [step]
    unfold deriveState
    split
    · next isAppended => exact .inr (.derived isAppended)
    · exact .inl rfl
  | commit call =>
    simp only [step]
    unfold commit
    split
    · next recorded view isDerived =>
      by_cases isNew : recorded.duplicate = false
      · simp only [isNew]
        exact .inr (.committed isNew isDerived)
      · simp only [isNew]
        exact .inr (.repeated isDerived (Bool.eq_true_of_not_eq_false isNew))
    · exact .inl rfl
  | rollback call =>
    simp only [step]
    unfold rollback
    split
    · next isAppended => exact .inr (.rolledBack (by rw [isAppended]; rfl))
    · next isDerived => exact .inr (.rolledBack (by rw [isDerived]; rfl))
    · exact .inl rfl
  | setHotState call =>
    simp only [step]
    unfold setHotState
    split
    · next isCommitted => exact .inr (.stored isCommitted)
    · exact .inl rfl
  | publishEvent call =>
    simp only [step]
    unfold publishEvent
    split
    · next isStored => exact .inr (.published isStored)
    · exact .inl rfl
  | expire => exact .inr .expired

variable {guard : Guard LiveSync LiveOp Unit} {history : History LiveOp Unit}

theorem invariant_of_moves (property : LiveSync → Prop)
    (initially : ∀ state, Fresh sessionId state → property state)
    (preserved : ∀ state history op after, property state → guard state history op →
      Moves sessionId state op after → property after)
    (run : (liveMachine sessionId).Run guard state history) :
    property state := by
  apply run.invariant fun state _ => property state
  · exact initially
  · intro state history op holds allowed
    change property (state.step sessionId op)
    rcases step_cases sessionId state op with unchanged | moved
    · rw [unchanged]
      exact holds
    · exact preserved state history op _ holds allowed moved

@[simp]
theorem setCall_self (state : LiveSync) (call : CallId) (phase : CallPhase) :
    (state.setCall call phase).calls call = phase := by
  simp [setCall]

variable {other : CallId}

theorem setCall_other (state : LiveSync) {call : CallId} (phase : CallPhase)
    (different : other ≠ call) : (state.setCall call phase).calls other = state.calls other := by
  simp [setCall, different]

variable {op : LiveOp}

theorem calls_step (sessionId : SessionId) (state : LiveSync) (different : op.call ≠ some other) :
    (state.step sessionId op).calls other = state.calls other := by
  rcases step_cases sessionId state op with unchanged | moved
  · rw [unchanged]
  · have apart {call : CallId} (isCall : op.call = some call) : other ≠ call := by
      rintro rfl
      exact different isCall
    generalize state.step sessionId op = after at moved ⊢
    cases moved with
    | expired => rfl
    | _ => exact setCall_other state _ (apart rfl)

theorem calls_drive (here : LiveSync × History LiveOp Unit) {ops : List LiveOp}
    (untouched : ∀ op ∈ ops, op.call ≠ some other) :
    ((liveMachine sessionId).drive here ops).1.calls other = here.1.calls other := by
  apply Machine.drive_frame (fun state => state.calls other) _ here untouched
  intro state op different
  exact calls_step sessionId state different

/-! ## The log -/

/-- A log numbered from one without gaps. -/
def Numbered (log : List TeachingSessionEvent) : Prop :=
  log.map TeachingSessionEvent.sequence = List.range' 1 log.length

namespace Numbered

variable {log : List TeachingSessionEvent} {row : TeachingSessionEvent}

theorem sequence_le (numbered : Numbered log) (mem : row ∈ log) :
    1 ≤ row.sequence ∧ row.sequence ≤ log.length := by
  have inRange : row.sequence ∈ List.range' 1 log.length :=
    numbered ▸ mem_map_of_mem mem
  rw [mem_range'_1] at inRange
  omega

theorem exists_sequence (numbered : Numbered log) {sequence : Nat} (positive : 1 ≤ sequence)
    (bounded : sequence ≤ log.length) : ∃ row ∈ log, row.sequence = sequence := by
  have inRange : sequence ∈ List.range' 1 log.length := by
    rw [mem_range'_1]
    omega
  rw [← numbered] at inRange
  exact mem_map.mp inRange

theorem concat (numbered : Numbered log) (next : row.sequence = log.length + 1) :
    Numbered (log ++ [row]) := by
  unfold Numbered at numbered ⊢
  rw [map_append, numbered, length_append, length_singleton, List.range'_concat]
  simp [next, Nat.add_comm]

end Numbered

theorem nextSequence_of_numbered {events : TeachingSessionEvents}
    (numbered : Numbered (sessionLog events sessionId)) :
    nextSequence events sessionId = (sessionLog events sessionId).length + 1 := by
  apply Nat.le_antisymm
  · apply Nat.succ_le_succ
    apply max_le_of_forall_le
    intro sequence mem
    rcases mem_map.mp mem with ⟨row, stored, rfl⟩
    rw [mem_sessionRows] at stored
    exact (numbered.sequence_le (mem_sessionLog.mpr stored)).2
  · by_cases isEmpty : (sessionLog events sessionId).length = 0
    · rw [isEmpty]
      exact Nat.succ_le_succ (Nat.zero_le _)
    · obtain ⟨row, mem, isLast⟩ :=
        numbered.exists_sequence (Nat.one_le_iff_ne_zero.mpr isEmpty) le_rfl
      rw [mem_sessionLog, ← mem_sessionRows] at mem
      have below := sequence_lt_nextSequence mem
      omega

/-- A call in its transaction holds the lock and sees the log with the row it
appends; the row it committed is logged, and published once it ends. -/
structure CallOrdered (sessionId : SessionId) (state : LiveSync) (call : CallId)
    (phase : CallPhase) : Prop where
  locked : ∀ opened, phase.transaction = some opened → state.lock = some call
  repeated : ∀ row view, phase.transaction = some ((row, false), view) → view = state.events
  created : ∀ row view, phase.transaction = some ((row, true), view) →
    row.sequence = (sessionLog state.events sessionId).length + 1 ∧
      sessionLog view sessionId = sessionLog state.events sessionId ++ [row]
  logged : ∀ row, phase.newRow = some row → row ∈ sessionLog state.events sessionId
  published : ∀ recorded, phase = .finished recorded → recorded.duplicate = false →
    rowToEvent recorded.row ∈ state.published

/-- Every row of the log belongs to the call that committed it. -/
structure Ordered (sessionId : SessionId) (state : LiveSync) : Prop where
  numbered : Numbered (sessionLog state.events sessionId)
  calls : ∀ call, CallOrdered sessionId state call (state.calls call)
  owned : ∀ row ∈ sessionLog state.events sessionId, ∃ call,
    (state.calls call).newRow = some row
  ofLog : ∀ event ∈ state.published, ∃ row ∈ sessionLog state.events sessionId,
    event = rowToEvent row

variable {phase : CallPhase} {after : LiveSync}

theorem CallOrdered.frame (ordered : CallOrdered sessionId state call phase)
    (kept : phase.transaction = none ∨
      (after.lock = state.lock ∧ after.events = state.events))
    (logGrows : ∀ row ∈ sessionLog state.events sessionId, row ∈ sessionLog after.events sessionId)
    (publishedGrows : ∀ event ∈ state.published, event ∈ after.published) :
    CallOrdered sessionId after call phase := by
  constructor
  · intro opened isOpen
    rcases kept with closed | ⟨sameLock, _⟩
    · cases closed.symm.trans isOpen
    · exact sameLock.trans (ordered.locked opened isOpen)
  · intro row view isOpen
    rcases kept with closed | ⟨_, sameEvents⟩
    · cases closed.symm.trans isOpen
    · exact (ordered.repeated row view isOpen).trans sameEvents.symm
  · intro row view isOpen
    rcases kept with closed | ⟨_, sameEvents⟩
    · cases closed.symm.trans isOpen
    · rw [sameEvents]
      exact ordered.created row view isOpen
  · intro row isNew
    exact logGrows row (ordered.logged row isNew)
  · intro recorded isFinished isNew
    exact publishedGrows _ (ordered.published recorded isFinished isNew)

variable {opened : (TeachingSessionEvent × Bool) × TeachingSessionEvents}

theorem Ordered.alone (ordered : Ordered sessionId state)
    (isOpen : (state.calls call).transaction = some opened) (different : other ≠ call) :
    (state.calls other).transaction = none := by
  cases otherOpen : (state.calls other).transaction with
  | none => rfl
  | some _ =>
    have sameLock := ((ordered.calls call).locked _ isOpen).symm.trans
      ((ordered.calls other).locked _ otherOpen)
    exact absurd (Option.some.inj sameLock).symm different

/-- What a move has to show: the changed call, the other calls, and the owners of
the rows it adds to the log. -/
theorem Ordered.of_setCall (ordered : Ordered sessionId state) (call : CallId) (phase : CallPhase)
    (calls : after.calls = (state.setCall call phase).calls)
    (numbered : Numbered (sessionLog after.events sessionId))
    (changed : CallOrdered sessionId after call phase)
    (others : ∀ other, other ≠ call → CallOrdered sessionId after other (state.calls other))
    (kept : ∀ row, (state.calls call).newRow = some row → phase.newRow = some row)
    (added : ∀ row ∈ sessionLog after.events sessionId,
      row ∈ sessionLog state.events sessionId ∨ phase.newRow = some row)
    (ofLog : ∀ event ∈ after.published, ∃ row ∈ sessionLog after.events sessionId,
      event = rowToEvent row) : Ordered sessionId after := by
  constructor
  · exact numbered
  · intro other
    rw [calls]
    by_cases same : other = call
    · rw [same, setCall_self]
      exact changed
    · rw [setCall_other state phase same]
      exact others other same
  · intro row mem
    rw [calls]
    rcases added row mem with earlier | isNew
    · rcases ordered.owned row earlier with ⟨owner, isOwner⟩
      refine ⟨owner, ?_⟩
      by_cases same : owner = call
      · rw [same, setCall_self]
        exact kept row (same ▸ isOwner)
      · rw [setCall_other state phase same]
        exact isOwner
    · exact ⟨call, by rw [setCall_self, isNew]⟩
  · exact ofLog

theorem CallOrdered.of_closed (closed : phase.transaction = none)
    (logged : ∀ row, phase.newRow = some row → row ∈ sessionLog state.events sessionId)
    (published : ∀ recorded, phase = .finished recorded → recorded.duplicate = false →
      rowToEvent recorded.row ∈ state.published) :
    CallOrdered sessionId state call phase := by
  constructor
  · intro opened isOpen
    cases closed.symm.trans isOpen
  · intro row view isOpen
    cases closed.symm.trans isOpen
  · intro row view isOpen
    cases closed.symm.trans isOpen
  · exact logged
  · exact published

variable {view : TeachingSessionEvents}

variable {recorded : RecordedEvent}

section

variable (ordered : Ordered sessionId state)

include ordered

theorem Ordered.of_quiet (hot : Option SessionReadModel)
    (sameTransaction : ∀ opened, phase.transaction = some opened →
      (state.calls call).transaction = some opened)
    (sameRow : phase.newRow = (state.calls call).newRow)
    (unfinished : ∀ recorded, phase ≠ .finished recorded) :
    Ordered sessionId { state.setCall call phase with hot := hot } := by
  apply ordered.of_setCall call phase
  · rfl
  · exact ordered.numbered
  · have before := ordered.calls call
    constructor
    · intro opened isOpen
      exact before.locked opened (sameTransaction _ isOpen)
    · intro row view isOpen
      exact before.repeated row view (sameTransaction _ isOpen)
    · intro row view isOpen
      exact before.created row view (sameTransaction _ isOpen)
    · intro row isNew
      exact before.logged row (sameRow ▸ isNew)
    · intro recorded isFinished _
      exact absurd isFinished (unfinished recorded)
  · intro other _
    exact (ordered.calls other).frame (.inr ⟨rfl, rfl⟩) (fun _ => id) fun _ => id
  · intro row isNew
    rw [sameRow]
    exact isNew
  · intro row mem
    exact .inl mem
  · exact ordered.ofLog

theorem Ordered.appended (isWaiting : state.calls call = .waiting) (isFree : state.lock = none)
    {create : EventCreate} (sameSession : create.sessionId = sessionId)
    {answer : TeachingSessionEvent × Bool}
    (appended : Teaching.appendEvent create state.events = some (answer, view)) :
    Ordered sessionId
      { state.setCall call (.appended answer view) with lock := some call } := by
  subst sameSession
  apply ordered.of_setCall call (.appended answer view)
  · rfl
  · exact ordered.numbered
  · have cases_ := appendEvent_cases appended
    constructor
    · intro opened _
      rfl
    · intro row seen isOpen
      cases isOpen
      rcases cases_ with ⟨_, unchanged, _⟩ | ⟨isCreated, _⟩
      · exact unchanged
      · cases isCreated
    · intro row seen isOpen
      cases isOpen
      rcases cases_ with ⟨isRepeated, _⟩ | ⟨_, isRow, _, log⟩
      · cases isRepeated
      · subst isRow
        exact ⟨nextSequence_of_numbered ordered.numbered, log⟩
    · simp
    · simp
  · intro other _
    refine (ordered.calls other).frame ?_ (fun _ => id) fun _ => id
    cases isOpen : (state.calls other).transaction with
    | none => exact .inl rfl
    | some opened => cases isFree.symm.trans ((ordered.calls other).locked opened isOpen)
  · intro row isNew
    rw [isWaiting] at isNew
    cases isNew
  · intro row mem
    exact .inl mem
  · exact ordered.ofLog

theorem Ordered.ended (isOpen : (state.calls call).transaction = some opened)
    (hadNoRow : (state.calls call).newRow = none) (closed : phase.transaction = none)
    (noRow : phase.newRow = none) :
    Ordered sessionId { state.setCall call phase with lock := none } := by
  apply ordered.of_setCall call phase
  · rfl
  · exact ordered.numbered
  · apply CallOrdered.of_closed closed
    · intro row isNew
      cases noRow.symm.trans isNew
    · rintro recorded rfl isNew
      simp [isNew] at noRow
  · intro other different
    exact (ordered.calls other).frame (.inl (ordered.alone isOpen different)) (fun _ => id)
      fun _ => id
  · intro row isNew
    cases hadNoRow.symm.trans isNew
  · intro row mem
    exact .inl mem
  · exact ordered.ofLog

theorem Ordered.committed (isDerived : state.calls call = .derived recorded view)
    (isNew : recorded.duplicate = false) :
    Ordered sessionId
      { state.setCall call (.committed recorded isNew) with events := view, lock := none } := by
  have isOpen : (state.calls call).transaction = some ((recorded.row, true), view) := by
    simp [isDerived, isNew]
  rcases (ordered.calls call).created _ _ isOpen with ⟨next, log⟩
  have grows : ∀ row ∈ sessionLog state.events sessionId, row ∈ sessionLog view sessionId := by
    intro row mem
    rw [log]
    exact mem_append_left _ mem
  apply ordered.of_setCall call (.committed recorded isNew)
  · rfl
  · rw [log]
    exact ordered.numbered.concat next
  · apply CallOrdered.of_closed rfl
    · intro row isRow
      cases isRow
      rw [log]
      exact mem_append_right _ (mem_singleton.mpr rfl)
    · simp
  · intro other different
    exact (ordered.calls other).frame (.inl (ordered.alone isOpen different)) grows fun _ => id
  · intro row hadRow
    rw [isDerived] at hadRow
    cases hadRow
  · intro row mem
    rw [log, mem_append, mem_singleton] at mem
    rcases mem with earlier | rfl
    · exact .inl earlier
    · exact .inr rfl
  · intro event published
    rcases ordered.ofLog event published with ⟨row, mem, isRow⟩
    exact ⟨row, grows row mem, isRow⟩

theorem Ordered.published {isNew : recorded.duplicate = false}
    (isStored : state.calls call = .stored recorded isNew) :
    Ordered sessionId
      { state.setCall call (.finished recorded) with
        published := state.published ++ [recorded.event] } := by
  have logged : recorded.row ∈ sessionLog state.events sessionId := by
    apply (ordered.calls call).logged
    rw [isStored]
    rfl
  apply ordered.of_setCall call (.finished recorded)
  · rfl
  · exact ordered.numbered
  · apply CallOrdered.of_closed rfl
    · intro row isRow
      simp only [CallPhase.newRow, isNew, Bool.false_eq_true, if_false, Option.some.injEq] at isRow
      exact isRow ▸ logged
    · intro ended isFinished _
      cases isFinished
      rw [← recorded.ofRow]
      exact mem_append_right _ (mem_singleton.mpr rfl)
  · intro other _
    exact (ordered.calls other).frame (.inr ⟨rfl, rfl⟩) (fun _ => id)
      fun _ => mem_append_left _
  · intro row hadRow
    rw [isStored] at hadRow
    simpa [isNew] using hadRow
  · intro row mem
    exact .inl mem
  · intro event mem
    rcases mem_append.mp mem with earlier | isEvent
    · exact ordered.ofLog event earlier
    · exact ⟨recorded.row, logged, (mem_singleton.mp isEvent).trans recorded.ofRow⟩

theorem Ordered.of_moves (moved : Moves sessionId state op after) : Ordered sessionId after := by
  cases moved with
  | refused isWaiting => exact ordered.of_quiet state.hot (by simp) (by simp [isWaiting]) (by simp)
  | appended isWaiting isFree sameSession appended =>
    exact ordered.appended isWaiting isFree sameSession appended
  | derived isAppended =>
    exact ordered.of_quiet state.hot (by simp [isAppended]) (by simp [isAppended]) (by simp)
  | @«repeated» call recorded view isDerived isDuplicate =>
    have isOpen : (state.calls call).transaction = some ((recorded.row, false), view) := by
      simp [isDerived, isDuplicate]
    rw [(ordered.calls call).repeated _ _ isOpen]
    exact ordered.ended isOpen (by simp [isDerived]) rfl (by simp [isDuplicate])
  | committed isNew isDerived => exact ordered.committed isDerived isNew
  | @rolledBack call opened isOpen =>
    apply ordered.ended isOpen _ rfl rfl
    cases isPhase : state.calls call <;> simp [isPhase] at isOpen ⊢
  | stored isCommitted => exact ordered.of_quiet _ (by simp) (by simp [isCommitted]) (by simp)
  | published isStored => exact ordered.published isStored
  | expired =>
    constructor
    · exact ordered.numbered
    · intro call
      exact (ordered.calls call).frame (.inr ⟨rfl, rfl⟩) (fun _ => id) fun _ => id
    · exact ordered.owned
    · exact ordered.ofLog

end

theorem Fresh.ordered (fresh : Fresh sessionId state) : Ordered sessionId state := by
  rcases fresh with ⟨noLog, _, allWaiting, _, nonePublished⟩
  constructor
  · rw [noLog]
    rfl
  · intro call
    rw [allWaiting call]
    exact .of_closed rfl (by simp) (by simp)
  · simp [noLog]
  · simp [nonePublished]

theorem ordered_of_run (run : (liveMachine sessionId).Run guard state history) :
    Ordered sessionId state :=
  invariant_of_moves (Ordered sessionId) (fun _ => Fresh.ordered)
    (fun _ _ _ _ ordered _ moved => ordered.of_moves moved) run

/-- A session without events and calls. -/
def newSession : LiveSync where
  events := .empty
  lock := none
  calls _ := .waiting
  hot := none
  published := []

theorem newSession_fresh (sessionId : SessionId) : newSession.Fresh sessionId :=
  ⟨rfl, rfl, fun _ => rfl, rfl, rfl⟩

/-! ## Every interleaving -/

/-- The log is numbered without gaps, a call that returned a new event has it in
the log and on the channel, and the channel carries nothing else. -/
structure LogInOrder (sessionId : SessionId) (state : LiveSync) : Prop where
  numbered : Numbered (sessionLog state.events sessionId)
  alone : ∀ first second opened other, (state.calls first).transaction = some opened →
    (state.calls second).transaction = some other → first = second
  returned : ∀ call recorded, state.calls call = .finished recorded →
    recorded.duplicate = false →
      recorded.row ∈ sessionLog state.events sessionId ∧ rowToEvent recorded.row ∈ state.published
  published : ∀ event ∈ state.published, ∃ row ∈ sessionLog state.events sessionId,
    event = rowToEvent row

/-- In every interleaving of the calls of a session. -/
theorem session_log_in_order (sessionId : SessionId) (ops : List LiveOp) :
    LogInOrder sessionId ((liveMachine sessionId).drive (newSession, []) ops).1 := by
  have started : (liveMachine sessionId).Run (fun _ _ _ => True) newSession [] :=
    .start (newSession_fresh sessionId)
  have ordered := ordered_of_run (started.drive ops Machine.admits_all)
  refine ⟨ordered.numbered, ?_, ?_, ordered.ofLog⟩
  · intro first second opened other isFirst isSecond
    exact Option.some.inj (((ordered.calls first).locked opened isFirst).symm.trans
      ((ordered.calls second).locked other isSecond))
  · intro call recorded isFinished isNew
    have phase := ordered.calls call
    exact ⟨phase.logged _ (by simp [isFinished, isNew]),
      phase.published _ isFinished isNew⟩

end LiveSync

end OhMyClass.Gateway.Teaching
