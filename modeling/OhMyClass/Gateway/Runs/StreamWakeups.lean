import OhMyClass.Gateway.Runs.StreamDelivery

/-!
# Notifications and waits

The waits of all streams over the bus, and what holds after every run of commits,
notifications, timeouts and streams.
-/

namespace OhMyClass.Gateway

open Function OhMyClass.Transition RunEventBus StatusStream

variable {requests : StreamId → TeachingPackStreamRequest} {state : StatusStreams}

/-- What a step of a stream can do to the bus and to what it holds there. -/
inductive BusMove (runId : RunId) (bus : RunEventBus) (here : StatusStream) :
    RunEventBus → StatusStream → Prop
  | kept {after : StatusStream} (sameWaiter : after.phase.waiter? = here.phase.waiter?)
      (version : ∀ version, after.phase.version? = some version →
        here.phase.version? = some version ∨ version = bus.versions runId) :
      BusMove runId bus here bus after
  | entered {after : StatusStream} {version : Nat} {grown : RunEventBus} {waiter : WaiterId}
      (isIdle : here.phase = .idle version)
      (entered : bus.enterWait runId version = some (grown, waiter))
      (isWaiting : after.phase = .waiting waiter) : BusMove runId bus here grown after
  | left {after : StatusStream} {waiter : WaiterId} (holds : here.phase.waiter? = some waiter)
      (released : after.phase.waiter? = none) (noVersion : after.phase.version? = none) :
      BusMove runId bus here (bus.leaveWait runId waiter) after

namespace StatusStream

theorem busMove_advance (request : TeachingPackStreamRequest) (events : RunEvents)
    (bus : RunEventBus) (here : StatusStream) :
    BusMove request.runId bus here (here.advance request events bus).1
      (here.advance request events bus).2 := by
  unfold advance
  split
  · next isPhase => exact .kept (by rw [isPhase]; rfl) nofun
  · next isPhase =>
    refine .kept ?_ ?_
    · rw [isPhase]
      split <;> rfl
    · split <;> nofun
  · next isPhase => split <;> exact .kept (by rw [isPhase]; rfl) nofun
  · next isPhase =>
    refine .kept (by rw [isPhase]; rfl) ?_
    rintro _ ⟨⟩
    exact .inr rfl
  · next isPhase =>
    split
    · refine .kept (by rw [isPhase]; rfl) ?_
      rintro _ ⟨⟩
      exact .inl (by rw [isPhase]; rfl)
    · exact .kept (by rw [isPhase]; rfl) nofun
  · next isPhase =>
    split
    · exact .kept (by rw [isPhase]; rfl) nofun
    · next entered => exact .entered isPhase entered rfl
  · next isPhase =>
    split
    · exact .kept (by rw [isPhase]; rfl) nofun
    · exact .kept rfl fun _ same => .inl same
  · next isPhase => exact .left (by rw [isPhase]; rfl) rfl rfl
  · next isPhase => exact .left (by rw [isPhase]; rfl) rfl rfl
  · next isPhase => split <;> exact .kept (by rw [isPhase]; rfl) nofun
  · next isPhase => exact .kept (by rw [isPhase]; rfl) nofun
  · next isPhase => exact .kept (by rw [isPhase]; rfl) nofun
  · exact .kept rfl fun _ same => .inl same

/-- A timeout leaves the event in place for the `finally` block. -/
theorem busMove_timeOut (runId : RunId) (bus : RunEventBus) (here : StatusStream) :
    BusMove runId bus here bus here.timeOut := by
  unfold timeOut
  split
  · next isPhase => exact .kept (by rw [isPhase]; rfl) nofun
  · exact .kept rfl fun _ same => .inl same

theorem busMove_close (runId : RunId) (bus : RunEventBus) (here : StatusStream) :
    BusMove runId bus here bus here.close := by
  unfold close
  split
  · next isPhase => exact .kept (by rw [isPhase]; rfl) nofun
  · exact .kept rfl fun _ same => .inl same
  · exact .kept rfl fun _ same => .inl same
  · next notWaiting notLeaving notCancelled =>
    refine .kept ?_ nofun
    cases phase : here.phase with
    | waiting waiter => exact absurd phase (notWaiting waiter)
    | leaving waiter woke => exact absurd phase (notLeaving waiter woke)
    | cancelled waiter => exact absurd phase (notCancelled waiter)
    | _ => rfl

end StatusStream

/-! ## Waits of all streams -/

namespace StatusStreams

def runOf (requests : StreamId → TeachingPackStreamRequest) (stream : StreamId) : RunId :=
  (requests stream).runId

/-- The event each stream holds while it is inside its wait. -/
def owner (state : StatusStreams) (stream : StreamId) : Option WaiterId :=
  (state.streams stream).phase.waiter?

/-- The streams' waits as the bus knows them, and the versions they go by. -/
structure Waiting (requests : StreamId → TeachingPackStreamRequest) (state : StatusStreams) :
    Prop where
  registered : RunEventBus.Registered (runOf requests) state.owner state.bus
  observed : ∀ stream version, (state.streams stream).phase.version? = some version →
    version ≤ state.bus.versions (requests stream).runId

theorem owner_setStream (state : StatusStreams) (stream : StreamId) (here : StatusStream) :
    (state.setStream stream here).owner =
      Function.update state.owner stream here.phase.waiter? := by
  funext other
  by_cases same : other = stream
  · simp [owner, setStream, same]
  · simp [owner, setStream, same]

variable {grown : RunEventBus} {here after : StatusStream}

theorem versions_of_busMove {runId : RunId} {bus : RunEventBus}
    (move : BusMove runId bus here grown after) : grown.versions = bus.versions := by
  cases move with
  | kept => rfl
  | entered _ entered => rw [(enterWait_eq_some entered).2]
  | left => rfl

variable {stream : StreamId}

theorem Waiting.move (waiting : Waiting requests state)
    (move : BusMove (requests stream).runId state.bus (state.streams stream) grown after) :
    Waiting requests { state.setStream stream after with bus := grown } := by
  have sameVersions := versions_of_busMove move
  constructor
  · change RunEventBus.Registered (runOf requests) (state.setStream stream after).owner grown
    rw [owner_setStream]
    cases move with
    | kept sameWaiter =>
      rw [sameWaiter]
      change RunEventBus.Registered _ (Function.update state.owner stream (state.owner stream)) _
      rw [update_eq_self]
      exact waiting.registered
    | entered isIdle entered isWaiting =>
      rw [isWaiting]
      exact waiting.registered.enterWait (by rw [owner, isIdle]; rfl) entered
    | left holds released =>
      rw [released]
      exact waiting.registered.leaveWait holds
  · intro other version isVersion
    rw [sameVersions]
    by_cases same : other = stream
    · rw [same]
      simp only [setStream, same, update_self] at isVersion
      cases move with
      | kept _ known =>
        rcases known version isVersion with earlier | current
        · exact waiting.observed stream version earlier
        · exact current.le
      | entered _ _ isWaiting =>
        rw [isWaiting] at isVersion
        cases isVersion
      | left _ _ noVersion =>
        rw [noVersion] at isVersion
        cases isVersion
    · simp only [setStream, update_of_ne same] at isVersion
      exact waiting.observed other version isVersion

theorem Waiting.step (waiting : Waiting requests state) (op : StreamOp) :
    Waiting requests (state.step requests op) := by
  cases op with
  | commit event =>
    simp only [StatusStreams.step, commit]
    split
    · exact waiting
    · exact ⟨waiting.registered, waiting.observed⟩
  | notify runId =>
    refine ⟨waiting.registered.notifyRunEvent runId, fun stream version isVersion => ?_⟩
    exact (waiting.observed stream version isVersion).trans
      (state.bus.le_versions_notifyRunEvent runId _)
  | setWaiter waiter =>
    refine ⟨waiting.registered.setWaiter waiter, fun stream version isVersion => ?_⟩
    change version ≤ (state.bus.setWaiter waiter).versions _
    rw [versions_setWaiter]
    exact waiting.observed stream version isVersion
  | advance stream => exact waiting.move (busMove_advance ..)
  | timeOut stream => exact waiting.move (busMove_timeOut ..)
  | close stream => exact waiting.move (busMove_close ..)

theorem le_versions_step (requests : StreamId → TeachingPackStreamRequest) (state : StatusStreams)
    (op : StreamOp) (runId : RunId) :
    state.bus.versions runId ≤ (state.step requests op).bus.versions runId := by
  cases op with
  | commit event =>
    simp only [StatusStreams.step, commit]
    split <;> exact le_rfl
  | notify notified => exact state.bus.le_versions_notifyRunEvent notified runId
  | setWaiter waiter => exact (congrFun (state.bus.versions_setWaiter waiter) runId).ge
  | advance stream =>
    exact (congrFun (versions_of_busMove (busMove_advance ..)) runId).ge
  | timeOut stream => exact le_rfl
  | close stream => exact le_rfl

variable {waiter : WaiterId}

theorem woken_step (woken : state.bus.Woken waiter) (op : StreamOp) :
    (state.step requests op).bus.Woken waiter := by
  cases op with
  | commit event =>
    simp only [StatusStreams.step, commit]
    split <;> exact woken
  | notify runId => exact woken.notifyRunEvent runId
  | setWaiter other => exact woken.setWaiter other
  | advance stream =>
    have move := busMove_advance (requests stream) state.events state.bus
      (state.streams stream)
    change ((state.streams stream).advance (requests stream) state.events state.bus).1.Woken waiter
    generalize (state.streams stream).advance (requests stream) state.events state.bus = after
      at move ⊢
    rcases after with ⟨grown, after⟩
    cases move with
    | kept => exact woken
    | entered _ entered =>
      rw [(enterWait_eq_some entered).2]
      exact woken
    | left => exact woken
  | timeOut stream => exact woken
  | close stream => exact woken

theorem streams_step {op : StreamOp} (others : op.stream? ≠ some stream) :
    (state.step requests op).streams stream = state.streams stream := by
  have apart : ∀ other here, some other ≠ some stream →
      Function.update state.streams other here stream = state.streams stream :=
    fun other here different =>
      update_of_ne (fun same => different (congrArg some same.symm)) ..
  cases op with
  | commit event =>
    simp only [StatusStreams.step, commit]
    split <;> rfl
  | notify runId => rfl
  | setWaiter waiter => rfl
  | advance other => exact apart other _ others
  | timeOut other => exact apart other _ others
  | close other => exact apart other _ others

/-! ## The guarantees -/

/-- Each stream has sent the teacher's events after the client's last one up to
some point, in the order of their sequences, each once. -/
def DeliversInOrder (requests : StreamId → TeachingPackStreamRequest) (state : StatusStreams) :
    Prop :=
  ∀ stream, ((state.events.teacherEvents (requests stream)).Pairwise fun earlier later =>
      earlier.sequence < later.sequence) ∧
    eventTexts (state.streams stream).sent <+:
      (state.events.teacherEvents (requests stream)).map formatEventStream

/-- Operations of which none is the stream's own and one notifies the run. -/
def Meanwhile (stream : StreamId) (runId : RunId) (ops : List StreamOp) : Prop :=
  (∀ op ∈ ops, op.stream? ≠ some stream) ∧ .notify runId ∈ ops

/-- If its run is notified after a stream's query, the wait returns at once; if
it is notified during the wait, the wait returns once the event is set. -/
def NoLostWakeUp (requests : StreamId → TeachingPackStreamRequest) (state : StatusStreams) : Prop :=
  ∀ stream ops, Meanwhile stream (requests stream).runId ops →
    let after := ((streaming requests).drive (state, []) ops).1
    (∀ version, (state.streams stream).phase = .idle version →
      ((after.step requests (.advance stream)).streams stream).phase = .woken true) ∧
    ∀ waiter, (state.streams stream).phase = .waiting waiter →
      (((after.step requests (.setWaiter waiter)).step requests
        (.advance stream)).streams stream).phase = .leaving waiter true

/-- No waiting list is kept for a run no stream waits for. -/
def NoStaleWaiters (requests : StreamId → TeachingPackStreamRequest) (state : StatusStreams) :
    Prop :=
  ∀ runId, (∀ stream, (requests stream).runId = runId →
    (state.streams stream).phase.waiter? = none) → state.bus.waiters runId = none

variable {version : Nat}

theorem phase_advance_idle (isIdle : (state.streams stream).phase = .idle version)
    (newer : version < state.bus.versions (requests stream).runId) :
    ((state.step requests (.advance stream)).streams stream).phase = .woken true := by
  have moved : (state.streams stream).advance (requests stream) state.events state.bus =
      (state.bus, { state.streams stream with phase := .woken true }) := by
    simp only [StatusStream.advance, isIdle, enterWait_eq_none newer]
  simp [StatusStreams.step, advance, setStream, moved]

theorem phase_advance_waiting (isWaiting : (state.streams stream).phase = .waiting waiter)
    (isSet : state.bus.isSet waiter = true) :
    ((state.step requests (.advance stream)).streams stream).phase = .leaving waiter true := by
  have moved : (state.streams stream).advance (requests stream) state.events state.bus =
      (state.bus, { state.streams stream with phase := .leaving waiter true }) := by
    simp only [StatusStream.advance, isWaiting, isSet, if_pos]
  simp [StatusStreams.step, advance, setStream, moved]

variable {ops : List StreamOp}

section

variable (waiting : Waiting requests state)

include waiting

theorem Waiting.idle_of_meanwhile (isIdle : (state.streams stream).phase = .idle version)
    (meanwhile : Meanwhile stream (requests stream).runId ops) :
    let after := ((streaming requests).drive (state, []) ops).1
    (after.streams stream).phase = .idle version ∧
      version < after.bus.versions (requests stream).runId := by
  have observed := waiting.observed stream version (by rw [isIdle]; rfl)
  let Before := fun state : StatusStreams => (state.streams stream).phase = .idle version ∧
    version ≤ state.bus.versions (requests stream).runId
  let After := fun state : StatusStreams => (state.streams stream).phase = .idle version ∧
    version < state.bus.versions (requests stream).runId
  have kept : ∀ state op, Before state → op.stream? ≠ some stream →
      Before (state.step requests op) := by
    rintro state op ⟨isIdle, older⟩ others
    exact ⟨(congrArg StatusStream.phase (streams_step others)).trans isIdle,
      older.trans (le_versions_step requests state op _)⟩
  have established : ∀ state, Before state →
      After (state.step requests (.notify (requests stream).runId)) := by
    rintro state ⟨isIdle, older⟩
    refine ⟨isIdle, ?_⟩
    change version < (state.bus.notifyRunEvent (requests stream).runId).versions _
    rw [versions_notifyRunEvent]
    exact Nat.lt_succ_of_le older
  have lasts : ∀ state op, Before state → After state → op.stream? ≠ some stream →
      After (state.step requests op) := by
    rintro state op before ⟨-, newer⟩ others
    exact ⟨(kept state op before others).1, newer.trans_le (le_versions_step requests state op _)⟩
  exact (streaming requests).drive_establishes kept established lasts
    ⟨isIdle, observed⟩ meanwhile.1 meanwhile.2

theorem Waiting.waiting_of_meanwhile (isWaiting : (state.streams stream).phase = .waiting waiter)
    (meanwhile : Meanwhile stream (requests stream).runId ops) :
    let after := ((streaming requests).drive (state, []) ops).1
    (after.streams stream).phase = .waiting waiter ∧ after.bus.Woken waiter := by
  let Before := fun state : StatusStreams =>
    (state.streams stream).phase = .waiting waiter ∧ Waiting requests state
  let After := fun state : StatusStreams =>
    (state.streams stream).phase = .waiting waiter ∧ state.bus.Woken waiter
  have kept : ∀ state op, Before state → op.stream? ≠ some stream →
      Before (state.step requests op) := by
    rintro state op ⟨isWaiting, waiting⟩ others
    exact ⟨(congrArg StatusStream.phase (streams_step others)).trans isWaiting, waiting.step op⟩
  have established : ∀ state, Before state →
      After (state.step requests (.notify (requests stream).runId)) := by
    rintro state ⟨isWaiting, waiting⟩
    refine ⟨isWaiting, ?_⟩
    have holds : state.owner stream = some waiter := by
      rw [owner, isWaiting]
      rfl
    rcases waiting.registered.heard stream waiter holds with waits | woken
    · exact waits.woken_notifyRunEvent
    · exact woken.notifyRunEvent _
  have lasts : ∀ state op, Before state → After state → op.stream? ≠ some stream →
      After (state.step requests op) := by
    rintro state op before ⟨-, woken⟩ others
    exact ⟨(kept state op before others).1, woken_step woken op⟩
  exact (streaming requests).drive_establishes kept established lasts
    ⟨isWaiting, waiting⟩ meanwhile.1 meanwhile.2

theorem Waiting.noLostWakeUp : NoLostWakeUp requests state := by
  intro stream ops meanwhile
  constructor
  · intro version isIdle
    rcases waiting.idle_of_meanwhile isIdle meanwhile with ⟨stillIdle, newer⟩
    exact phase_advance_idle stillIdle newer
  · intro waiter isWaiting
    rcases waiting.waiting_of_meanwhile isWaiting meanwhile with ⟨stillWaiting, woken⟩
    exact phase_advance_waiting stillWaiting woken.isSet_setWaiter

theorem Waiting.noStaleWaiters :
    NoStaleWaiters requests state :=
  fun _ noWait => waiting.registered.waiters_eq_none noWait

end

/-- What every run keeps. -/
structure Sound (requests : StreamId → TeachingPackStreamRequest) (state : StatusStreams) :
    Prop where
  inOrder : state.events.InOrder
  delivers : ∀ stream, (state.streams stream).Delivers (requests stream) state.events
  waiting : Waiting requests state

theorem Fresh.sound (fresh : Fresh requests state) : Sound requests state where
  inOrder := fresh.inOrder
  delivers stream := by
    rw [fresh.streams stream]
    exact delivers_connect ..
  waiting := by
    constructor
    · rw [fresh.bus]
      exact .empty _ fun stream => by rw [owner, fresh.streams stream]; rfl
    · intro stream version isVersion
      rw [fresh.streams stream] at isVersion
      cases isVersion

theorem delivers_setStream
    (delivers : ∀ stream, (state.streams stream).Delivers (requests stream) state.events)
    (moved : here.Delivers (requests stream) state.events) (other : StreamId) :
    (Function.update state.streams stream here other).Delivers (requests other) state.events := by
  by_cases same : other = stream
  · rw [same, update_self]
    exact moved
  · rw [update_of_ne same]
    exact delivers other

variable {history : History StreamOp Unit}

theorem Sound.step (sound : Sound requests state) (op : StreamOp)
    (inOrder : CommitsInOrder state history op) : Sound requests (state.step requests op) := by
  refine ⟨?_, ?_, sound.waiting.step op⟩
  · cases op with
    | commit event =>
      simp only [StatusStreams.step, commit]
      split
      · exact sound.inOrder
      · next inserted => exact sound.inOrder.insert inserted inOrder
    | _ => exact sound.inOrder
  · cases op with
    | commit event =>
      simp only [StatusStreams.step, commit]
      split
      · exact sound.delivers
      · next inserted =>
        intro stream
        rcases sound.delivers stream with ⟨read, skipped, delivering⟩
        exact ⟨read, skipped, delivering.commit inserted inOrder⟩
    | notify runId => exact sound.delivers
    | setWaiter waiter => exact sound.delivers
    | advance stream =>
      exact delivers_setStream sound.delivers ((sound.delivers stream).advance sound.inOrder _)
    | timeOut stream => exact delivers_setStream sound.delivers (sound.delivers stream).timeOut
    | close stream => exact delivers_setStream sound.delivers (sound.delivers stream).close

theorem sound_of_run (run : (streaming requests).Run CommitsInOrder state history) :
    Sound requests state := by
  refine run.invariant (fun state _ => Sound requests state) (fun _ fresh => Fresh.sound fresh) ?_
  intro state history op sound inOrder
  exact sound.step op inOrder

end StatusStreams

/-- The status streams deliver, are woken and leave no waiting list behind, however
commits, notifications, timeouts and the streams interleave. -/
theorem status_streams_deliver (requests : StreamId → TeachingPackStreamRequest)
    {state : StatusStreams} {history : History StreamOp Unit}
    (run : (streaming requests).Run CommitsInOrder state history) :
    state.DeliversInOrder requests ∧ state.NoLostWakeUp requests ∧
      state.NoStaleWaiters requests := by
  have sound := StatusStreams.sound_of_run run
  refine ⟨fun stream => ⟨?_, ?_⟩, sound.waiting.noLostWakeUp, sound.waiting.noStaleWaiters⟩
  · exact sound.inOrder.pairwise_teacherEvents (requests stream)
  · rcases sound.delivers stream with ⟨read, skipped, delivering⟩
    exact delivering.isPrefix

/-- An event of the run with a given sequence, shown to the teacher if it is odd. -/
def numberedEvent (sequence : Nat) : RunEvent where
  runId := "run"
  sequence := sequence
  eventName := "run.progress"
  stage := none
  visibility := if sequence % 2 = 1 then .teacher else .internal
  payload := none
  createdAt := 0

def newcomers (_ : StreamId) : TeachingPackStreamRequest :=
  ⟨"run", 0, false⟩

def freshStreams : StatusStreams where
  events := .empty
  bus := .empty
  streams stream := .connect (newcomers stream)

theorem run_freshStreams : (streaming newcomers).Run CommitsInOrder freshStreams [] :=
  .start ⟨List.Pairwise.nil, rfl, fun _ => rfl⟩

/-- The third event is committed and notified between a stream's query and its wait. -/
def watchedCommits : List StreamOp :=
  [.commit (numberedEvent 1), .advance 0, .commit (numberedEvent 2)] ++
    List.replicate 8 (.advance 0) ++
    [.commit (numberedEvent 3), .notify "run"] ++ List.replicate 3 (.advance 0)

theorem status_streams_deliver_watchedCommits :
    ((((streaming newcomers).drive (freshStreams, []) watchedCommits).1.streams 0).sent =
      [formatEventStream (numberedEvent 1).read, formatEventStream (numberedEvent 3).read]) ∧
    ((streaming newcomers).drive (freshStreams, []) watchedCommits).1.DeliversInOrder newcomers ∧
    ((streaming newcomers).drive (freshStreams, []) watchedCommits).1.NoLostWakeUp newcomers ∧
    ((streaming newcomers).drive (freshStreams, []) watchedCommits).1.NoStaleWaiters newcomers :=
  ⟨by decide +kernel, status_streams_deliver newcomers
    (run_freshStreams.drive watchedCommits (by decide +kernel))⟩

end OhMyClass.Gateway
