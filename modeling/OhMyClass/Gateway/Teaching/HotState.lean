import OhMyClass.Gateway.Teaching.LiveSync

/-!
# The hot state and the log

A call derives its read model from the hot state while it holds the lock, but
writes it after it has given the lock back.  The hot state follows the log in
the runs where no call derives from a hot state that a committed event has not
reached yet, and no call overwrites the read model of a later event.
-/

namespace OhMyClass.Gateway.Teaching

open List OhMyClass.Transition

namespace LiveSync

variable {sessionId : SessionId} {state : LiveSync} {call : CallId}

/-- A new event is derived from a hot state that every committed event has
reached, or from a recovery that covers the log. -/
def DerivesCurrent (sessionId : SessionId) (state : LiveSync) (call : CallId) : Prop :=
  ∀ row view, state.calls call = .appended (row, true) view →
    (state.hot.isSome → ∀ other recorded isNew, state.calls other ≠ .committed recorded isNew) ∧
    (state.hot = none → RecoveryCovers view sessionId defaultRecoveryEventLimit)

/-- No later event has been written to the hot state. -/
def WritesInOrder (state : LiveSync) (call : CallId) : Prop :=
  ∀ recorded isNew, state.calls call = .committed recorded isNew →
    ∀ other row, (state.calls other).written = some row → row.sequence < recorded.row.sequence

def HotGuard (sessionId : SessionId) : Guard LiveSync LiveOp Unit := fun state _ op =>
  match op with
  | .deriveState call => DerivesCurrent sessionId state call
  | .setHotState call => WritesInOrder state call
  | _ => True

/-- A derived read model is that of the log up to the row of its call. -/
structure CallCurrent (sessionId : SessionId) (events : TeachingSessionEvents)
    (phase : CallPhase) : Prop where
  derived : ∀ recorded view, phase = .derived recorded view → recorded.duplicate = false →
    recorded.readModel =
      replayedReadModel sessionId (sessionLog events sessionId ++ [recorded.row])
  committed : ∀ recorded isNew, phase = .committed recorded isNew →
    recorded.readModel =
      replayedReadModel sessionId ((sessionLog events sessionId).take recorded.row.sequence)

/-- The hot state is the read model of an initial part of the log that has every
row written to it. -/
def HotCurrent (sessionId : SessionId) (state : LiveSync) : Prop :=
  ∀ model, state.hot = some model → ∃ length ≤ (sessionLog state.events sessionId).length,
    model = replayedReadModel sessionId ((sessionLog state.events sessionId).take length) ∧
      ∀ call row, (state.calls call).written = some row → row.sequence ≤ length

structure Current (sessionId : SessionId) (state : LiveSync) : Prop where
  ordered : Ordered sessionId state
  calls : ∀ call, CallCurrent sessionId state.events (state.calls call)
  hot : HotCurrent sessionId state

theorem applyEvent_idem (model : SessionReadModel) (event : SessionEvent) :
    applyEvent (applyEvent model event) event = applyEvent model event := by
  unfold applyEvent applySequence applyPayload
  cases event.sequence <;> cases event.payload <;> simp [Finmap.insert_insert]

/-- Without a call between its commit and its write the hot state is the read
model of the whole log. -/
theorem Current.hot_eq (current : Current sessionId state) {model : SessionReadModel}
    (isHot : state.hot = some model)
    (noneCommitted : ∀ call recorded isNew, state.calls call ≠ .committed recorded isNew) :
    model = replayedReadModel sessionId (sessionLog state.events sessionId) := by
  rcases current.hot model isHot with ⟨length, _, isReplayed, reached⟩
  have covered : (sessionLog state.events sessionId).length ≤ length := by
    by_cases isEmpty : (sessionLog state.events sessionId).length = 0
    · omega
    · obtain ⟨row, mem, isLast⟩ := current.ordered.numbered.exists_sequence
        (Nat.one_le_iff_ne_zero.mpr isEmpty) le_rfl
      rcases current.ordered.owned row mem with ⟨owner, isOwner⟩
      rw [← isLast]
      apply reached owner
      cases phase : state.calls owner with
      | committed recorded isNew => exact absurd phase (noneCommitted owner recorded isNew)
      | stored recorded isNew =>
        rw [phase] at isOwner
        exact isOwner
      | finished recorded =>
        rw [phase] at isOwner
        exact isOwner
      | _ => simp [phase] at isOwner
  rw [isReplayed, take_of_length_le covered]

variable {row : TeachingSessionEvent} {view : TeachingSessionEvents}

theorem Current.readModel_recordedEvent (current : Current sessionId state)
    (isAppended : state.calls call = .appended (row, true) view)
    (allowed : DerivesCurrent sessionId state call) :
    (recordedEvent (row, true) state.hot view sessionId).readModel =
      replayedReadModel sessionId (sessionLog state.events sessionId ++ [row]) := by
  rcases allowed row view isAppended with ⟨reached, covers⟩
  have isOpen : (state.calls call).transaction = some ((row, true), view) := by
    rw [isAppended]
    rfl
  rcases (current.ordered.calls call).created row view isOpen with ⟨_, log⟩
  rw [replayedReadModel_concat]
  cases isHot : state.hot with
  | some model =>
    rw [← current.hot_eq isHot (reached (by rw [isHot]; rfl))]
    rfl
  | none =>
    have recovered := (recoverReadModel_eq_iff view sessionId (by decide)).mpr (covers isHot)
    change applyEvent (recoverReadModel view sessionId defaultRecoveryEventLimit) _ = _
    rw [recovered, log, replayedReadModel_concat, applyEvent_idem]

/-! ## Preservation -/

variable {phase : CallPhase} {events : TeachingSessionEvents}

theorem CallCurrent.of_idle (notDerived : ∀ recorded view, phase ≠ .derived recorded view)
    (notCommitted : ∀ recorded isNew, phase ≠ .committed recorded isNew) :
    CallCurrent sessionId events phase := by
  constructor
  · intro recorded view isDerived
    exact absurd isDerived (notDerived recorded view)
  · intro recorded isNew isCommitted
    exact absurd isCommitted (notCommitted recorded isNew)

variable {after : LiveSync}

theorem HotCurrent.frame (current : HotCurrent sessionId state) (sameHot : after.hot = state.hot)
    (grows : sessionLog state.events sessionId <+: sessionLog after.events sessionId)
    (written : ∀ call row, (after.calls call).written = some row →
      (state.calls call).written = some row) : HotCurrent sessionId after := by
  intro model isHot
  rcases current model (sameHot ▸ isHot) with ⟨length, bounded, isReplayed, reached⟩
  rcases grows with ⟨newer, log⟩
  refine ⟨length, ?_, ?_, ?_⟩
  · rw [← log, length_append]
    omega
  · rw [← log, take_append_of_le_length bounded, isReplayed]
  · intro call row isWritten
    exact reached call row (written call row isWritten)

theorem written_setCall
    (written : ∀ row, phase.written = some row → (state.calls call).written = some row)
    (other : CallId) (row : TeachingSessionEvent)
    (isWritten : ((state.setCall call phase).calls other).written = some row) :
    (state.calls other).written = some row := by
  by_cases same : other = call
  · rw [same, setCall_self] at isWritten
    rw [same]
    exact written row isWritten
  · rw [setCall_other state phase same] at isWritten
    exact isWritten

theorem forall_setCall (changed : CallCurrent sessionId events phase)
    (others : ∀ other, other ≠ call → CallCurrent sessionId events (state.calls other))
    (other : CallId) : CallCurrent sessionId events ((state.setCall call phase).calls other) := by
  by_cases same : other = call
  · rw [same, setCall_self]
    exact changed
  · rw [setCall_other state phase same]
    exact others other same

variable {recorded : RecordedEvent}

variable {op : LiveOp} {history : History LiveOp Unit}

section

variable (current : Current sessionId state)

include current

theorem Current.of_quiet (ordered : Ordered sessionId after)
    (calls : after.calls = (state.setCall call phase).calls)
    (sameEvents : after.events = state.events) (sameHot : after.hot = state.hot)
    (changed : CallCurrent sessionId state.events phase)
    (written : ∀ row, phase.written = some row → (state.calls call).written = some row) :
    Current sessionId after := by
  constructor
  · exact ordered
  · rw [calls, sameEvents]
    exact forall_setCall changed fun other _ => current.calls other
  · apply current.hot.frame sameHot
    · rw [sameEvents]
    · rw [calls]
      exact written_setCall written

theorem Current.committed (isNew : recorded.duplicate = false)
    (isDerived : state.calls call = .derived recorded view) :
    Current sessionId
      { state.setCall call (.committed recorded isNew) with events := view, lock := none } := by
  have isOpen : (state.calls call).transaction = some ((recorded.row, true), view) := by
    simp [isDerived, isNew]
  rcases (current.ordered.calls call).created _ _ isOpen with ⟨next, log⟩
  constructor
  · exact current.ordered.committed isDerived isNew
  · apply forall_setCall
    · constructor
      · simp
      · rintro _ _ ⟨⟩
        rw [log, take_of_length_le]
        · exact (current.calls call).derived recorded view isDerived isNew
        · rw [length_append, next, length_singleton]
    · intro other different
      constructor
      · intro otherRecorded otherView otherDerived _
        have closed := current.ordered.alone isOpen different
        rw [otherDerived] at closed
        cases closed
      · intro otherRecorded otherNew otherCommitted
        have logged : otherRecorded.row ∈ sessionLog state.events sessionId := by
          apply (current.ordered.calls other).logged
          rw [otherCommitted]
          rfl
        rw [log, take_append_of_le_length (current.ordered.numbered.sequence_le logged).2]
        exact (current.calls other).committed otherRecorded otherNew otherCommitted
  · refine current.hot.frame rfl ?_ (written_setCall (by simp))
    rw [log]
    exact prefix_append _ _

theorem Current.stored {isNew : recorded.duplicate = false}
    (isCommitted : state.calls call = .committed recorded isNew)
    (inOrder : WritesInOrder state call) :
    Current sessionId
      { state.setCall call (.stored recorded isNew) with hot := some recorded.readModel } := by
  have logged : recorded.row ∈ sessionLog state.events sessionId := by
    apply (current.ordered.calls call).logged
    rw [isCommitted]
    rfl
  constructor
  · exact current.ordered.of_moves (.stored isCommitted)
  · exact forall_setCall (.of_idle (by simp) (by simp)) fun other _ => current.calls other
  · rintro _ ⟨⟩
    refine ⟨recorded.row.sequence, (current.ordered.numbered.sequence_le logged).2,
      (current.calls call).committed recorded isNew isCommitted, ?_⟩
    intro other row isWritten
    by_cases same : other = call
    · subst same
      rw [setCall_self] at isWritten
      cases isWritten
      exact le_rfl
    · rw [setCall_other state _ same] at isWritten
      exact (inOrder recorded isNew isCommitted other row isWritten).le

theorem Current.of_moves (allowed : HotGuard sessionId state history op)
    (moved : Moves sessionId state op after) :
    Current sessionId after := by
  have ordered := current.ordered.of_moves moved
  cases moved with
  | refused isWaiting =>
    exact current.of_quiet ordered rfl rfl rfl (.of_idle (by simp) (by simp)) (by simp)
  | appended isWaiting _ _ _ =>
    exact current.of_quiet ordered rfl rfl rfl (.of_idle (by simp) (by simp)) (by simp)
  | @derived call answer view isAppended =>
    apply current.of_quiet ordered rfl rfl rfl _ (by simp)
    constructor
    · rintro _ _ ⟨⟩ isNew
      rcases answer with ⟨row, created⟩
      have isCreated : created = true := by simpa using isNew
      subst isCreated
      exact current.readModel_recordedEvent isAppended allowed
    · simp
  | @«repeated» call recorded view isDerived isDuplicate =>
    have isOpen : (state.calls call).transaction = some ((recorded.row, false), view) := by
      simp [isDerived, isDuplicate]
    have unchanged := (current.ordered.calls call).repeated _ _ isOpen
    exact current.of_quiet ordered rfl unchanged rfl (.of_idle (by simp) (by simp))
      (by simp [isDuplicate])
  | committed isNew isDerived => exact current.committed isNew isDerived
  | rolledBack isOpen =>
    exact current.of_quiet ordered rfl rfl rfl (.of_idle (by simp) (by simp)) (by simp)
  | stored isCommitted => exact current.stored isCommitted allowed
  | @published call recorded isNew isStored =>
    exact current.of_quiet ordered rfl rfl rfl (.of_idle (by simp) (by simp))
      (by simp [isStored, isNew])
  | expired =>
    constructor
    · exact ordered
    · exact current.calls
    · rintro _ ⟨⟩

end

theorem Fresh.current (fresh : Fresh sessionId state) : Current sessionId state := by
  constructor
  · exact fresh.ordered
  · intro call
    rw [fresh.2.2.1 call]
    exact .of_idle (by simp) (by simp)
  · intro model isHot
    rw [fresh.2.2.2.1] at isHot
    cases isHot

/-- A move empties the key, fills it, or neither touches it nor counts as a
write. -/
theorem Moves.hot_cases (moved : Moves sessionId state op after) :
    op = .expire ∨ after.hot.isSome ∨ (after.hot = state.hot ∧
      ∀ other row, (after.calls other).written = some row →
        (state.calls other).written = some row) := by
  cases moved with
  | stored isCommitted => exact .inr (.inl rfl)
  | expired => exact .inl rfl
  | refused isWaiting => exact .inr (.inr ⟨rfl, written_setCall (by simp)⟩)
  | appended isWaiting _ _ _ => exact .inr (.inr ⟨rfl, written_setCall (by simp)⟩)
  | derived isAppended => exact .inr (.inr ⟨rfl, written_setCall (by simp)⟩)
  | «repeated» isDerived isDuplicate =>
    exact .inr (.inr ⟨rfl, written_setCall (by simp [isDuplicate])⟩)
  | committed isNew isDerived => exact .inr (.inr ⟨rfl, written_setCall (by simp)⟩)
  | rolledBack isOpen => exact .inr (.inr ⟨rfl, written_setCall (by simp)⟩)
  | @published _ _ isNew isStored =>
    exact .inr (.inr ⟨rfl, written_setCall (by simp [isStored, isNew])⟩)

theorem hot_isSome_of_written {guard : Guard LiveSync LiveOp Unit}
    (run : (liveMachine sessionId).Run guard state history)
    (unexpired : ∀ entry ∈ history, entry.1 ≠ .expire)
    (isWritten : (state.calls call).written = some row) : state.hot.isSome := by
  have filled : (∀ entry ∈ history, entry.1 ≠ .expire) →
      ∀ other row, (state.calls other).written = some row → state.hot.isSome := by
    apply run.invariant fun state history => (∀ entry ∈ history, entry.1 ≠ .expire) →
      ∀ other row, (state.calls other).written = some row → state.hot.isSome
    · intro state fresh _ other row isWritten
      rw [fresh.2.2.1 other] at isWritten
      cases isWritten
    · intro state history op filled _ unexpired other row isWritten
      have before := filled fun entry mem => unexpired entry (mem_cons_of_mem _ mem)
      change (state.step sessionId op).hot.isSome
      change ((state.step sessionId op).calls other).written = some row at isWritten
      rcases step_cases sessionId state op with unchanged | moved
      · rw [unchanged] at isWritten ⊢
        exact before other row isWritten
      · rcases moved.hot_cases with isExpire | isFilled | ⟨sameHot, wasWritten⟩
        · exact absurd isExpire (unexpired (op, ()) mem_cons_self)
        · exact isFilled
        · rw [sameHot]
          exact before other row (wasWritten other row isWritten)
  exact filled unexpired call row isWritten

/-- In the runs that derive from a current hot state and write in order, the
hot state of a quiet session is the fold of its whole log. -/
theorem quiet_hot_state_is_replayed {history : History LiveOp Unit}
    (run : (liveMachine sessionId).Run (HotGuard sessionId) state history) (quiet : state.Quiet) :
    (∀ model, state.hot = some model →
      model = replayedReadModel sessionId (sessionLog state.events sessionId)) ∧
    ((∀ entry ∈ history, entry.1 ≠ .expire) → sessionLog state.events sessionId ≠ [] →
      state.hot = some (replayedReadModel sessionId (sessionLog state.events sessionId))) := by
  have current : Current sessionId state :=
    invariant_of_moves (Current sessionId) (fun _ => Fresh.current)
      (fun _ _ _ _ current allowed moved => current.of_moves allowed moved) run
  have agrees : ∀ model, state.hot = some model →
      model = replayedReadModel sessionId (sessionLog state.events sessionId) := by
    intro model isHot
    apply current.hot_eq isHot
    intro call recorded isNew isCommitted
    have settled := quiet call
    rw [isCommitted] at settled
    exact settled
  constructor
  · exact agrees
  · intro unexpired nonempty
    rcases exists_mem_of_ne_nil _ nonempty with ⟨row, mem⟩
    rcases current.ordered.owned row mem with ⟨owner, isOwner⟩
    have isWritten : (state.calls owner).written = some row := by
      have settled := quiet owner
      cases phase : state.calls owner with
      | finished recorded =>
        rw [phase] at isOwner
        exact isOwner
      | _ => simp [phase, CallPhase.Settled] at settled isOwner
    obtain ⟨model, isHot⟩ :=
      Option.isSome_iff_exists.mp (hot_isSome_of_written run unexpired isWritten)
    rw [isHot, agrees model isHot]

/-! ## Two calls -/

def openInteraction : EventCreate :=
  ⟨"session-1", .interactionOpened "quiz-1" "slide-1" none, .controller, none, "evt-1", 0⟩

def firstAnswer : EventCreate :=
  ⟨"session-1", .aggregateUpdated "quiz-1" (Finmap.singleton "attempt_count" 1), .student,
    some "key-1", "evt-2", 1⟩

/-- Both calls derive and commit in turn. -/
def bothCommit : List LiveOp :=
  [.appendEvent 0 openInteraction, .deriveState 0, .commit 0, .appendEvent 1 firstAnswer,
    .deriveState 1, .commit 1]

/-- The earlier call writes and publishes last. -/
def writeLate : List LiveOp :=
  bothCommit ++ [.setHotState 1, .publishEvent 1, .setHotState 0, .publishEvent 0]

def writeInTurn : List LiveOp :=
  bothCommit ++ [.setHotState 0, .publishEvent 0, .setHotState 1, .publishEvent 1]

/-- The session and its history after a sequence of steps. -/
def afterOps (ops : List LiveOp) : LiveSync × History LiveOp Unit :=
  (liveMachine "session-1").drive (newSession, []) ops

theorem run_afterOps (ops : List LiveOp) :
    (liveMachine "session-1").Run (fun _ _ _ => True) (afterOps ops).1 (afterOps ops).2 :=
  (Machine.Run.start (newSession_fresh "session-1")).drive ops
    Machine.admits_all

variable {ops : List LiveOp}

theorem calls_afterOps (ofTwo : ∀ op ∈ ops, op.call = some 0 ∨ op.call = some 1) (other : CallId)
    (notFirst : other ≠ 0) (notSecond : other ≠ 1) :
    (afterOps ops).1.calls other = .waiting := by
  refine calls_drive (newSession, []) ?_
  intro op mem isOther
  rcases ofTwo op mem with isFirst | isSecond
  · exact notFirst (Option.some.inj (isOther.symm.trans isFirst))
  · exact notSecond (Option.some.inj (isOther.symm.trans isSecond))

theorem quiet_of_two (ofTwo : ∀ op ∈ ops, op.call = some 0 ∨ op.call = some 1)
    (first : ((afterOps ops).1.calls 0).Settled) (second : ((afterOps ops).1.calls 1).Settled) :
    (afterOps ops).1.Quiet := by
  intro call
  by_cases isFirst : call = 0
  · exact isFirst ▸ first
  · by_cases isSecond : call = 1
    · exact isSecond ▸ second
    · rw [calls_afterOps ofTwo call isFirst isSecond]
      trivial

/-- The hot state of the late writer misses the answer. -/
theorem late_write_loses_answer :
    (liveMachine "session-1").Run (fun _ _ _ => True) (afterOps writeLate).1
        (afterOps writeLate).2 ∧
      (afterOps writeLate).1.Quiet ∧
      (∀ entry ∈ (afterOps writeLate).2, entry.1.call.isSome) ∧
      (sessionLog (afterOps writeLate).1.events "session-1").length = 2 ∧
      (afterOps writeLate).1.hot ≠ some (replayedReadModel "session-1"
        (sessionLog (afterOps writeLate).1.events "session-1")) := by
  refine ⟨run_afterOps writeLate, quiet_of_two (by simp [writeLate, bothCommit, LiveOp.call])
    (by decide +kernel) (by decide +kernel), by decide +kernel, by decide +kernel, ?_⟩
  intro agrees
  have stale : (afterOps writeLate).1.hot.map SessionReadModel.lastSequence = some 1 := by
    decide +kernel
  rw [agrees] at stale
  cases stale

theorem derivesCurrent_of_short (ordered : Ordered sessionId state) (isCold : state.hot = none)
    (short : (sessionLog state.events sessionId).length < defaultRecoveryEventLimit) :
    DerivesCurrent sessionId state call := by
  intro row view isAppended
  have isOpen : (state.calls call).transaction = some ((row, true), view) := by
    rw [isAppended]
    rfl
  rcases (ordered.calls call).created row view isOpen with ⟨_, log⟩
  constructor
  · intro isHot
    rw [isCold] at isHot
    cases isHot
  · intro _
    apply recoveryCovers_of_length_le
    rw [log, length_append]
    exact short

theorem writesInOrder_of_two (ofTwo : ∀ op ∈ ops, op.call = some 0 ∨ op.call = some 1)
    (below : ∀ other < 2, ∀ row ∈ ((afterOps ops).1.calls other).written,
      ∀ own ∈ ((afterOps ops).1.calls call).newRow, row.sequence < own.sequence) :
    WritesInOrder (afterOps ops).1 call := by
  intro recorded isNew isCommitted other row isWritten
  have isOwn : recorded.row ∈ ((afterOps ops).1.calls call).newRow := by
    rw [isCommitted]
    rfl
  by_cases isTwo : other < 2
  · exact below other isTwo row isWritten recorded.row isOwn
  · have notFirst : other ≠ 0 := fun isFirst => isTwo (isFirst ▸ Nat.zero_lt_two)
    have notSecond : other ≠ 1 := fun isSecond => isTwo (isSecond ▸ Nat.one_lt_two)
    rw [calls_afterOps ofTwo other notFirst notSecond] at isWritten
    cases isWritten

theorem writeInTurn_admitted :
    (liveMachine "session-1").Admits (HotGuard "session-1") (newSession, []) writeInTurn := by
  have ordered (ops : List LiveOp) := ordered_of_run (run_afterOps ops)
  have ofTwo : ∀ op ∈ writeInTurn, op.call = some 0 ∨ op.call = some 1 := by
    simp [writeInTurn, bothCommit, LiveOp.call]
  refine ⟨trivial, ?_, trivial, trivial, ?_, trivial, ?_, trivial, ?_, trivial, trivial⟩
  · exact derivesCurrent_of_short (ordered (writeInTurn.take 1)) (by decide +kernel)
      (by decide +kernel)
  · exact derivesCurrent_of_short (ordered (writeInTurn.take 4)) (by decide +kernel)
      (by decide +kernel)
  · exact writesInOrder_of_two (fun op mem => ofTwo op (mem_of_mem_take mem))
      (by decide +kernel : ∀ other < 2, ∀ row ∈ ((afterOps (writeInTurn.take 6)).1.calls
        other).written, ∀ own ∈ ((afterOps (writeInTurn.take 6)).1.calls 0).newRow,
          row.sequence < own.sequence)
  · exact writesInOrder_of_two (fun op mem => ofTwo op (mem_of_mem_take mem))
      (by decide +kernel : ∀ other < 2, ∀ row ∈ ((afterOps (writeInTurn.take 8)).1.calls
        other).written, ∀ own ∈ ((afterOps (writeInTurn.take 8)).1.calls 1).newRow,
          row.sequence < own.sequence)

/-- Calls that write in turn leave the fold of both events. -/
theorem writes_in_turn_agree :
    (afterOps writeInTurn).1.hot =
      some (replayedReadModel "session-1" (sessionLog (afterOps writeInTurn).1.events "session-1")) := by
  have run := (Machine.Run.start (newSession_fresh "session-1")).drive writeInTurn
    writeInTurn_admitted
  have quiet : (afterOps writeInTurn).1.Quiet :=
    quiet_of_two (by simp [writeInTurn, bothCommit, LiveOp.call]) (by decide +kernel)
      (by decide +kernel)
  have callsOnly : ∀ entry ∈ (afterOps writeInTurn).2, entry.1.call.isSome := by
    decide +kernel
  have logged : sessionLog (afterOps writeInTurn).1.events "session-1" ≠ [] := by
    decide +kernel
  apply (quiet_hot_state_is_replayed run quiet).2 _ logged
  intro entry mem isExpire
  have isCall := callsOnly entry mem
  rw [isExpire] at isCall
  cases isCall

end LiveSync

end OhMyClass.Gateway.Teaching
