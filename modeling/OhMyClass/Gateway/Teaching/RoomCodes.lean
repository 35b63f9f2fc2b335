import OhMyClass.Gateway.Teaching.Sessions
import OhMyClass.Transition.Machine

/-!
# Room codes of joinable sessions

A creation looks its room code up among the committed sessions, inserts its
row and commits.  Nothing but the lookup keeps a code unique, so that two
creations may choose one code before either of them commits.
-/

namespace OhMyClass.Gateway.Teaching

open List Function OhMyClass.Transition

/-- How far a creation has come. -/
inductive CreatePhase where
  | waiting
  | drawing (create : CreateSession) (attempts : Nat)
  | inserting (create : CreateSession) (roomCode : String)
  | inserted (create : CreateSession) (roomCode : String)
  | created (session : TeachingSession)
  | failed (error : CreateSessionError)
  | rolledBack

namespace CreatePhase

/-- The code of a creation between its lookup and its commit. -/
@[simp]
def heldCode : CreatePhase → Option String
  | inserting _ roomCode | inserted _ roomCode => some roomCode
  | _ => none

/-- The call has an open transaction. -/
def isOpen : CreatePhase → Bool
  | drawing .. | inserting .. | inserted .. => true
  | _ => false

end CreatePhase

/-- The committed sessions and the creations on their way. -/
structure RoomCodes where
  sessions : TeachingSessions
  auditEvents : SessionAuditEvents
  calls : CallId → CreatePhase

inductive RoomOp where
  | createSession (call : CallId) (create : CreateSession)
  | drawCode (call : CallId) (number : Fin 1000000)
  | insert (call : CallId)
  | commit (call : CallId)
  | rollback (call : CallId)
  | transition (sessionId : SessionId) (toStatus : SessionStatus)

/-- The call that takes the step. -/
def RoomOp.call : RoomOp → Option CallId
  | createSession call _ | drawCode call _ | insert call | commit call | rollback call => some call
  | transition .. => none

namespace RoomCodes

def setCall (state : RoomCodes) (call : CallId) (phase : CreatePhase) : RoomCodes :=
  { state with calls := Function.update state.calls call phase }

/-- The checks of `create_session`. -/
def createSession (call : CallId) (create : CreateSession) (state : RoomCodes) : RoomCodes :=
  match state.calls call with
  | .waiting =>
    match create.check with
    | .error error => state.setCall call (.failed (.omc error))
    | .ok () => state.setCall call (.drawing create 0)
  | _ => state

/-- One attempt of `_unique_room_code`, which reads committed rows only. -/
def drawCode (call : CallId) (number : Fin 1000000) (state : RoomCodes) : RoomCodes :=
  match state.calls call with
  | .drawing create attempts =>
    let candidate := generateRoomCode number
    match scalarOneOrNone ((joinableRows state.sessions candidate).map
        TeachingSession.sessionId) with
    | .error error => state.setCall call (.failed error)
    | .ok none => state.setCall call (.inserting create candidate)
    | .ok (some _) =>
      if attempts + 1 < maxRoomCodeAttempts then
        state.setCall call (.drawing create (attempts + 1))
      else
        state.setCall call (.failed noUniqueRoomCode)
  | _ => state

/-- `db.flush()`: the rows are written but not visible to other calls. -/
def insert (call : CallId) (state : RoomCodes) : RoomCodes :=
  match state.calls call with
  | .inserting create roomCode =>
    match create.write roomCode state.sessions state.auditEvents with
    | none => state.setCall call (.failed .integrityError)
    | some _ => state.setCall call (.inserted create roomCode)
  | _ => state

/-- `db.commit()`.  An insert whose key another call has committed meanwhile
would have waited for it, and fails. -/
def commit (call : CallId) (state : RoomCodes) : RoomCodes :=
  match state.calls call with
  | .inserted create roomCode =>
    match create.write roomCode state.sessions state.auditEvents with
    | none => state.setCall call (.failed .integrityError)
    | some (sessions, auditEvents) =>
      { state.setCall call (.created (create.row roomCode)) with
        sessions := sessions, auditEvents := auditEvents }
  | _ => state

def rollback (call : CallId) (state : RoomCodes) : RoomCodes :=
  if (state.calls call).isOpen then state.setCall call .rolledBack else state

/-- A validated transition of one session. -/
def transition (sessionId : SessionId) (toStatus : SessionStatus) (state : RoomCodes) :
    RoomCodes :=
  { state with
    sessions := state.sessions.update
      (fun session => session.sessionId = sessionId ∧
        validateSessionTransition session.status toStatus = .accepted session.status toStatus)
      (fun session => { session with status := toStatus })
      (fun first second clash => by
        have keyEq (selected : TeachingSession → Bool) (session : TeachingSession) :
            (Table.changeSelected selected (fun session => { session with status := toStatus })
              session).sessionId = session.sessionId :=
          Table.changeSelected_frame TeachingSession.sessionId rfl
        simpa only [TeachingSession.Conflict, keyEq] using clash) }

def step (state : RoomCodes) : RoomOp → RoomCodes
  | .createSession call create => state.createSession call create
  | .drawCode call number => state.drawCode call number
  | .insert call => state.insert call
  | .commit call => state.commit call
  | .rollback call => state.rollback call
  | .transition sessionId toStatus => state.transition sessionId toStatus

/-- No two sessions can be joined by one code. -/
def JoinableCodesUnique (sessions : TeachingSessions) : Prop :=
  ∀ first ∈ sessions.rows, ∀ second ∈ sessions.rows, ∀ code,
    first.JoinableBy code → second.JoinableBy code → first = second

/-- Nothing is on its way. -/
def Quiet (state : RoomCodes) : Prop :=
  (∀ call, state.calls call = .waiting) ∧ JoinableCodesUnique state.sessions

end RoomCodes

def roomMachine : Machine RoomCodes RoomOp Unit where
  initial := RoomCodes.Quiet
  step state op := (state.step op, ())

namespace RoomCodes

variable {state : RoomCodes}

/-- What the steps do where they do anything. -/
inductive Moves (state : RoomCodes) : RoomOp → RoomCodes → Prop
  | released {op : RoomOp} {call : CallId} {phase : CreatePhase} :
      op.call = some call → phase.heldCode = none → Moves state op (state.setCall call phase)
  | chose {call : CallId} {number : Fin 1000000} (create : CreateSession) :
      joinableRows state.sessions (generateRoomCode number) = [] →
      Moves state (.drawCode call number)
        (state.setCall call (.inserting create (generateRoomCode number)))
  | inserted {call : CallId} {create : CreateSession} {roomCode : String} :
      state.calls call = .inserting create roomCode →
      Moves state (.insert call) (state.setCall call (.inserted create roomCode))
  | created {call : CallId} {create : CreateSession} {roomCode : String}
      {sessions : TeachingSessions} {auditEvents : SessionAuditEvents} :
      state.calls call = .inserted create roomCode →
      create.write roomCode state.sessions state.auditEvents = some (sessions, auditEvents) →
      Moves state (.commit call)
        { state.setCall call (.created (create.row roomCode)) with
          sessions := sessions, auditEvents := auditEvents }
  | transitioned {sessionId : SessionId} {toStatus : SessionStatus} :
      Moves state (.transition sessionId toStatus) (state.transition sessionId toStatus)

theorem scalarOneOrNone_eq_none_iff {α : Type} {rows : List α} :
    scalarOneOrNone rows = .ok none ↔ rows = [] := by
  rcases rows with _ | ⟨first, _ | ⟨second, rest⟩⟩ <;> simp [scalarOneOrNone]

theorem step_cases (state : RoomCodes) (op : RoomOp) :
    state.step op = state ∨ Moves state op (state.step op) := by
  cases op with
  | createSession call create =>
    simp only [step, createSession]
    split
    · split
      · exact .inr (.released rfl rfl)
      · exact .inr (.released rfl rfl)
    · exact .inl rfl
  | drawCode call number =>
    simp only [step, drawCode]
    split
    · next create attempts _ =>
      split
      · exact .inr (.released rfl rfl)
      · next isFree =>
        rw [scalarOneOrNone_eq_none_iff, map_eq_nil_iff] at isFree
        exact .inr (.chose create isFree)
      · split
        · exact .inr (.released rfl rfl)
        · exact .inr (.released rfl rfl)
    · exact .inl rfl
  | insert call =>
    simp only [step, insert]
    split
    · next isInserting =>
      split
      · exact .inr (.released rfl rfl)
      · exact .inr (.inserted isInserting)
    · exact .inl rfl
  | commit call =>
    simp only [step, commit]
    split
    · next isInserted =>
      split
      · exact .inr (.released rfl rfl)
      · next written => exact .inr (.created isInserted written)
    · exact .inl rfl
  | rollback call =>
    simp only [step, rollback]
    split
    · exact .inr (.released rfl rfl)
    · exact .inl rfl
  | transition sessionId toStatus => exact .inr .transitioned

variable {call other : CallId}

theorem setCall_other (state : RoomCodes) (phase : CreatePhase) (different : other ≠ call) :
    (state.setCall call phase).calls other = state.calls other := by
  simp [setCall, different]

variable {op : RoomOp}

theorem calls_step (state : RoomCodes) (different : op.call ≠ some other) :
    (state.step op).calls other = state.calls other := by
  rcases step_cases state op with unchanged | moved
  · rw [unchanged]
  · have apart {call : CallId} (isCall : op.call = some call) : other ≠ call := by
      rintro rfl
      exact different isCall
    generalize state.step op = after at moved ⊢
    cases moved with
    | released isCall _ => exact setCall_other state _ (apart isCall)
    | transitioned => rfl
    | _ => exact setCall_other state _ (apart rfl)

/-! ## Codes are held once -/

/-- A lookup that accepts a code does so while no other creation holds it. -/
def CodeGuard : Guard RoomCodes RoomOp Unit := fun state _ op =>
  ∀ call number, op = .drawCode call number →
    joinableRows state.sessions (generateRoomCode number) = [] →
    ∀ other, (state.calls other).heldCode ≠ some (generateRoomCode number)

/-- Sessions and creations on their way hold different codes. -/
structure HeldOnce (state : RoomCodes) : Prop where
  joinable : JoinableCodesUnique state.sessions
  reserved : ∀ call code, (state.calls call).heldCode = some code →
    ∀ session ∈ state.sessions.rows, ¬ session.JoinableBy code
  distinct : ∀ call other code, (state.calls call).heldCode = some code →
    (state.calls other).heldCode = some code → call = other

theorem heldCode_setCall {phase : CreatePhase} {code : String}
    (held : ((state.setCall call phase).calls other).heldCode = some code) :
    (other = call ∧ phase.heldCode = some code) ∨
      (other ≠ call ∧ (state.calls other).heldCode = some code) := by
  by_cases same : other = call
  · simp only [same, setCall, update_self] at held
    exact .inl ⟨same, held⟩
  · simp only [setCall, update_of_ne same] at held
    exact .inr ⟨same, held⟩

namespace HeldOnce

variable {call : CallId}

theorem setCall (held : HeldOnce state) {phase : CreatePhase}
    (free : ∀ code, phase.heldCode = some code →
      (∀ session ∈ state.sessions.rows, ¬ session.JoinableBy code) ∧
        ∀ other, (state.calls other).heldCode = some code → other = call) :
    HeldOnce (state.setCall call phase) := by
  constructor
  · exact held.joinable
  · intro other code isHeld
    rcases heldCode_setCall isHeld with ⟨_, isPhase⟩ | ⟨_, before⟩
    · exact (free code isPhase).1
    · exact held.reserved other code before
  · intro first second code firstHeld secondHeld
    rcases heldCode_setCall firstHeld with ⟨rfl, isPhase⟩ | ⟨different, before⟩
    · rcases heldCode_setCall secondHeld with ⟨rfl, _⟩ | ⟨different, before⟩
      · rfl
      · exact absurd ((free code isPhase).2 second before) different
    · rcases heldCode_setCall secondHeld with ⟨rfl, isPhase⟩ | ⟨_, also⟩
      · exact absurd ((free code isPhase).2 first before) different
      · exact held.distinct first second code before also

theorem created (held : HeldOnce state) {create : CreateSession} {roomCode : String}
    {sessions : TeachingSessions} {auditEvents : SessionAuditEvents}
    (isInserted : state.calls call = .inserted create roomCode)
    (written : create.write roomCode state.sessions state.auditEvents =
      some (sessions, auditEvents)) :
    HeldOnce { state.setCall call (.created (create.row roomCode)) with
      sessions := sessions, auditEvents := auditEvents } := by
  have grown := CreateSession.rows_of_write written
  have isHeld : (state.calls call).heldCode = some roomCode := by
    rw [isInserted]
    rfl
  have own {code : String} (joinable : (create.row roomCode).JoinableBy code) :
      roomCode = code := by
    simpa using joinable.1
  constructor
  · intro first firstMem second secondMem code firstJoinable secondJoinable
    rw [grown, mem_append, mem_singleton] at firstMem secondMem
    rcases firstMem with firstMem | rfl
    · rcases secondMem with secondMem | rfl
      · exact held.joinable first firstMem second secondMem code firstJoinable secondJoinable
      · rcases own secondJoinable with rfl
        exact absurd firstJoinable (held.reserved call _ isHeld first firstMem)
    · rcases own firstJoinable with rfl
      rcases secondMem with secondMem | rfl
      · exact absurd secondJoinable (held.reserved call _ isHeld second secondMem)
      · rfl
  · intro other code otherHeld session mem
    rcases heldCode_setCall otherHeld with ⟨_, isPhase⟩ | ⟨different, before⟩
    · cases isPhase
    · rw [grown, mem_append, mem_singleton] at mem
      rcases mem with mem | rfl
      · exact held.reserved other code before session mem
      · intro joinable
        rcases own joinable with rfl
        exact different (held.distinct other call _ before isHeld)
  · intro first second code firstHeld secondHeld
    rcases heldCode_setCall firstHeld with ⟨_, isPhase⟩ | ⟨_, before⟩
    · cases isPhase
    · rcases heldCode_setCall secondHeld with ⟨_, isPhase⟩ | ⟨_, also⟩
      · cases isPhase
      · exact held.distinct first second code before also

theorem joinable_of_mem_transition {sessionId : SessionId} {toStatus : SessionStatus}
    {session : TeachingSession}
    (mem : session ∈ (state.transition sessionId toStatus).sessions.rows) :
    ∃ stored ∈ state.sessions.rows, session.sessionId = stored.sessionId ∧
      ∀ code, session.JoinableBy code → stored.JoinableBy code := by
  rcases Table.mem_map_changeSelected.mp mem with
    ⟨stored, storedMem, selected, rfl⟩ | ⟨storedMem, _⟩
  · simp only [decide_eq_true_eq] at selected
    refine ⟨stored, storedMem, rfl, ?_⟩
    rintro code ⟨sameCode, joinable⟩
    exact ⟨sameCode, joinable_of_transition selected.2 joinable⟩
  · exact ⟨session, storedMem, rfl, fun _ => id⟩

theorem transition (held : HeldOnce state) (sessionId : SessionId) (toStatus : SessionStatus) :
    HeldOnce (state.transition sessionId toStatus) := by
  constructor
  · intro first firstMem second secondMem code firstJoinable secondJoinable
    rcases joinable_of_mem_transition firstMem with ⟨before, beforeMem, sameFirst, wasFirst⟩
    rcases joinable_of_mem_transition secondMem with ⟨also, alsoMem, sameSecond, wasSecond⟩
    have same := held.joinable before beforeMem also alsoMem code (wasFirst code firstJoinable)
      (wasSecond code secondJoinable)
    apply Table.eq_of_conflict (fun _ _ => Eq.symm) _ firstMem secondMem
    exact sameFirst.trans ((congrArg TeachingSession.sessionId same).trans sameSecond.symm)
  · intro call code isHeld session mem joinable
    rcases joinable_of_mem_transition mem with ⟨stored, storedMem, _, wasJoinable⟩
    exact held.reserved call code isHeld stored storedMem (wasJoinable code joinable)
  · exact held.distinct

variable {history : History RoomOp Unit}

theorem of_moves (held : HeldOnce state) {op : RoomOp} {after : RoomCodes}
    (allowed : CodeGuard state history op) (moved : Moves state op after) :
    HeldOnce after := by
  cases moved with
  | released _ holdsNone =>
    apply held.setCall
    intro code isHeld
    rw [holdsNone] at isHeld
    cases isHeld
  | @chose call number create isFree =>
    apply held.setCall
    rintro _ ⟨⟩
    constructor
    · intro session mem joinable
      have found : session ∈ joinableRows state.sessions (generateRoomCode number) := by
        simp [joinableRows, mem, joinable]
      rw [isFree] at found
      cases found
    · intro other isHeld
      exact absurd isHeld (allowed call number rfl isFree other)
  | @inserted call create roomCode isInserting =>
    have isHeld : (state.calls call).heldCode = some roomCode := by
      rw [isInserting]
      rfl
    apply held.setCall
    rintro _ ⟨⟩
    exact ⟨held.reserved call _ isHeld, fun other also => held.distinct other call _ also isHeld⟩
  | created isInserted written => exact held.created isInserted written
  | transitioned => exact held.transition _ _

theorem of_run (run : roomMachine.Run CodeGuard state history) :
    HeldOnce state := by
  apply run.invariant fun state _ => HeldOnce state
  · rintro state ⟨waiting, unique⟩
    constructor
    · exact unique
    · intro call code isHeld
      simp [waiting] at isHeld
    · intro call other code isHeld
      simp [waiting] at isHeld
  · intro state history op held allowed
    change HeldOnce (state.step op)
    rcases step_cases state op with unchanged | moved
    · rw [unchanged]
      exact held
    · exact held.of_moves allowed moved

end HeldOnce

theorem joinableRows_length_le_one {sessions : TeachingSessions}
    (unique : JoinableCodesUnique sessions) (code : String) :
    (joinableRows sessions code).length ≤ 1 := by
  have apart : (joinableRows sessions code).Pairwise fun first second =>
      ¬ first.Conflict second := sessions.consistent.filter _
  rcases rows : joinableRows sessions code with _ | ⟨first, _ | ⟨second, rest⟩⟩
  · exact Nat.zero_le 1
  · exact Nat.le_refl 1
  · have found (session : TeachingSession) (mem : session ∈ first :: second :: rest) :
        session ∈ sessions.rows ∧ session.JoinableBy code := by
      rw [← rows, joinableRows, mem_filter, decide_eq_true_eq] at mem
      exact mem
    have same := unique first (found first (by simp)).1 second (found second (by simp)).1 code
      (found first (by simp)).2 (found second (by simp)).2
    rw [rows] at apart
    exact absurd (congrArg TeachingSession.sessionId same) (rel_of_pairwise_cons apart (by simp))

/-- Where every code is free when a lookup accepts it, joinable sessions have
different codes and a code finds at most one of them. -/
theorem joinable_room_codes_unique {history : History RoomOp Unit}
    (run : roomMachine.Run CodeGuard state history) :
    JoinableCodesUnique state.sessions ∧
      ∀ code, (joinableRows state.sessions code).length ≤ 1 ∧
        ∃ found, findJoinableSessionByRoomCode state.sessions code = .ok found := by
  have held := HeldOnce.of_run run
  refine ⟨held.joinable, fun code => ?_⟩
  have few := joinableRows_length_le_one held.joinable code
  refine ⟨few, ?_⟩
  unfold findJoinableSessionByRoomCode
  rcases rows : joinableRows state.sessions code with _ | ⟨session, _ | ⟨other, rest⟩⟩
  · exact ⟨none, rfl⟩
  · exact ⟨some session, rfl⟩
  · simp [rows] at few

/-! ## Two creations -/

def noSessions : RoomCodes where
  sessions := .empty
  auditEvents := .empty
  calls _ := .waiting

theorem noSessions_quiet : noSessions.Quiet := by
  constructor
  · intro call
    rfl
  · simp [JoinableCodesUnique, noSessions, Table.empty]

def openRoom (sessionId : SessionId) : CreateSession where
  sessionId := sessionId
  teacherId := "teacher-1"
  deckId := "deck-1"
  snapshotId := "snapshot-1"
  classId := none
  retentionTier := .aggregate
  identifiableAcknowledged := false
  deliveryMode := .live
  auditEventId := "audit-" ++ sessionId

def afterOps (ops : List RoomOp) : RoomCodes × History RoomOp Unit :=
  roomMachine.drive (noSessions, []) ops

/-- Both creations look the code up before either of them commits. -/
def raceForCode : List RoomOp :=
  [.createSession 0 (openRoom "session-1"), .createSession 1 (openRoom "session-2"),
    .drawCode 0 7, .drawCode 1 7, .insert 0, .insert 1, .commit 0, .commit 1]

/-- Both sessions can be joined by the code, and its lookup raises. -/
theorem raced_sessions_share_code :
    roomMachine.Run (fun _ _ _ => True) (afterOps raceForCode).1 (afterOps raceForCode).2 ∧
      ¬ JoinableCodesUnique (afterOps raceForCode).1.sessions ∧
      findJoinableSessionByRoomCode (afterOps raceForCode).1.sessions "000007" =
        .error .multipleResultsFound := by
  have started : roomMachine.Run (fun _ _ _ => True) noSessions [] := .start noSessions_quiet
  constructor
  · exact started.drive raceForCode Machine.admits_all
  · constructor
    · intro unique
      have few := joinableRows_length_le_one unique "000007"
      revert few
      decide +kernel
    · decide +kernel

/-- The second creation draws the code of the first one, whose session can be
joined, and another one; then the first session ends. -/
def drawInTurn : List RoomOp :=
  [.createSession 0 (openRoom "session-1"), .drawCode 0 7, .insert 0, .commit 0,
    .createSession 1 (openRoom "session-2"), .drawCode 1 7, .drawCode 1 8, .insert 1, .commit 1,
    .transition "session-1" .live, .transition "session-1" .ended]

variable {history : History RoomOp Unit}

theorem codeGuard_of_ne (noDraw : ∀ call number, op ≠ .drawCode call number) :
    CodeGuard state history op :=
  fun call number isDraw => absurd isDraw (noDraw call number)

theorem codeGuard_of_two {ops : List RoomOp} {number : Fin 1000000}
    (ofTwo : ∀ op ∈ ops, ∀ mover ∈ op.call, mover < 2) (free : ∀ other < 2,
      ((afterOps ops).1.calls other).heldCode ≠ some (generateRoomCode number)) :
    CodeGuard (afterOps ops).1 history (.drawCode call number) := by
  rintro _ _ ⟨⟩ _ other
  by_cases isTwo : other < 2
  · exact free other isTwo
  · have untouched : ∀ op ∈ ops, op.call ≠ some other :=
      fun op mem isOther => isTwo (ofTwo op mem other isOther)
    have isWaiting : (afterOps ops).1.calls other = .waiting := by
      apply Machine.drive_frame (fun state => state.calls other) _ (noSessions, []) untouched
      intro state op different
      exact calls_step state different
    simp [isWaiting]

theorem drawInTurn_admitted : roomMachine.Admits CodeGuard (noSessions, []) drawInTurn := by
  have ofTwo : ∀ op ∈ drawInTurn, ∀ mover ∈ op.call, mover < 2 := by
    simp [drawInTurn, RoomOp.call]
  have soFar (n : Nat) : ∀ op ∈ drawInTurn.take n, ∀ mover ∈ op.call, mover < 2 :=
    fun op mem => ofTwo op (mem_of_mem_take mem)
  refine ⟨codeGuard_of_ne (by simp), codeGuard_of_two (soFar 1) (by decide +kernel),
    codeGuard_of_ne (by simp), codeGuard_of_ne (by simp), codeGuard_of_ne (by simp),
    codeGuard_of_two (soFar 5) (by decide +kernel), codeGuard_of_two (soFar 6) (by decide +kernel),
    codeGuard_of_ne (by simp), codeGuard_of_ne (by simp), codeGuard_of_ne (by simp),
    codeGuard_of_ne (by simp), trivial⟩

/-- Creations that draw in turn leave different codes. -/
theorem drawn_codes_found_once :
    JoinableCodesUnique (afterOps drawInTurn).1.sessions ∧
      ∀ code, (joinableRows (afterOps drawInTurn).1.sessions code).length ≤ 1 ∧
        ∃ found, findJoinableSessionByRoomCode (afterOps drawInTurn).1.sessions code = .ok found :=
  joinable_room_codes_unique
    ((Machine.Run.start noSessions_quiet).drive drawInTurn drawInTurn_admitted)

end RoomCodes

end OhMyClass.Gateway.Teaching
