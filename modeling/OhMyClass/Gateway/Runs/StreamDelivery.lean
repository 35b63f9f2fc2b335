import OhMyClass.Cursor.Core
import OhMyClass.Gateway.Runs.EventBus
import OhMyClass.Gateway.Runs.Store
import OhMyClass.Sorting.Core
import OhMyClass.Transition.Machine

/-!
# The run status stream

A stream replays the stored events after the client's last one and then watches
the bus.  Each query, each look at the bus and each message is a step of its own;
commits, notifications, timeouts and other streams may come between any two.
-/

namespace OhMyClass.Gateway

open List OhMyClass.Transition

structure TeachingPackStreamRequest where
  runId : RunId
  afterSequence : Nat
  replayOnly : Bool

def RunEvent.read (event : RunEvent) : TeachingPackEventRead where
  runId := event.runId
  sequence := event.sequence
  eventName := event.eventName
  visibility := event.visibility
  payload := event.payload

def RunEvents.replayEvents (events : RunEvents) (runId : RunId) (afterSequence : Nat) :
    List TeachingPackEventRead :=
  (Sorting.sortBy RunEvent.sequence
    (events.rows.filter fun event => event.runId = runId ∧ afterSequence < event.sequence)).map
      RunEvent.read

/-- `{"sequence": event.sequence, **payload}`. -/
def eventData (event : TeachingPackEventRead) : JsonObject :=
  (event.payload.getD []).foldl (fun data member => data.set member.1 member.2)
    [("sequence", .int event.sequence)]

def formatEventStream (event : TeachingPackEventRead) : String :=
  "id: " ++ toString event.sequence ++ "\nevent: " ++ event.eventName ++
    "\ndata: " ++ String.ofList (Json.obj (eventData event)).chars ++ "\n\n"

def heartbeat : String := ": heartbeat\n\n"

/-! ## One stream -/

/-- Where `stream_visible_run_events` stands. -/
inductive StreamPhase where
  | connected
  /-- In the loop over the replayed events. -/
  | replaying (events : List TeachingPackEventRead)
  | watching
  | observed (version : Nat)
  /-- The query found nothing; the wait is next. -/
  | idle (version : Nat)
  | waiting (waiter : WaiterId)
  /-- In the `finally` block of the wait. -/
  | leaving (waiter : WaiterId) (woke : Bool)
  | cancelled (waiter : WaiterId)
  | woken (woke : Bool)
  /-- In the loop over the live events. -/
  | sending (events : List TeachingPackEventRead)
  | ended

namespace StreamPhase

/-- The event a stream inside the wait holds. -/
def waiter? : StreamPhase → Option WaiterId
  | .waiting waiter | .leaving waiter _ | .cancelled waiter => some waiter
  | _ => none

/-- The version a stream goes by until its wait. -/
def version? : StreamPhase → Option Nat
  | .observed version | .idle version => some version
  | _ => none

/-- The events a stream still loops over. -/
def hand : StreamPhase → List TeachingPackEventRead
  | .replaying events | .sending events => events
  | _ => []

end StreamPhase

structure StatusStream where
  phase : StreamPhase
  lastSequence : Nat
  sent : List String

namespace StatusStream

/-- A stream that has not run yet. -/
def connect (request : TeachingPackStreamRequest) : StatusStream where
  phase := .connected
  lastSequence := request.afterSequence
  sent := []

/-- The stream up to its next look at the database, at the bus or at the client. -/
def advance (request : TeachingPackStreamRequest) (events : RunEvents) (bus : RunEventBus)
    (here : StatusStream) : RunEventBus × StatusStream :=
  match here.phase with
  | .connected =>
    (bus, { here with
      phase := .replaying (events.replayEvents request.runId request.afterSequence) })
  | .replaying [] =>
    (bus, { here with phase := if request.replayOnly then .ended else .watching })
  | .replaying (event :: rest) =>
    -- an event that is not shown leaves the cursor where it is
    if event.visibility = .teacher then
      (bus, { phase := .replaying rest
              lastSequence := max here.lastSequence event.sequence
              sent := here.sent ++ [formatEventStream event] })
    else (bus, { here with phase := .replaying rest })
  | .watching =>
    (bus, { here with phase := .observed (bus.currentRunEventVersion request.runId) })
  | .observed version =>
    match events.replayEvents request.runId here.lastSequence with
    | [] => (bus, { here with phase := .idle version })
    | event :: rest => (bus, { here with phase := .sending (event :: rest) })
  | .idle version =>
    match bus.enterWait request.runId version with
    | none => (bus, { here with phase := .woken true })
    | some (bus, waiter) => (bus, { here with phase := .waiting waiter })
  | .waiting waiter =>
    if bus.isSet waiter then (bus, { here with phase := .leaving waiter true }) else (bus, here)
  | .leaving waiter woke =>
    (bus.leaveWait request.runId waiter, { here with phase := .woken woke })
  | .cancelled waiter => (bus.leaveWait request.runId waiter, { here with phase := .ended })
  | .woken woke =>
    match events.replayEvents request.runId here.lastSequence with
    | [] =>
      (bus, { here with
        phase := .sending []
        sent := if woke then here.sent else here.sent ++ [heartbeat] })
    | event :: rest => (bus, { here with phase := .sending (event :: rest) })
  | .sending [] => (bus, { here with phase := .watching })
  | .sending (event :: rest) =>
    (bus, { phase := .sending rest
            lastSequence := max here.lastSequence event.sequence
            sent := if event.visibility = .teacher then here.sent ++ [formatEventStream event]
              else here.sent })
  | .ended => (bus, here)

/-- The deadline of the wait passes. -/
def timeOut (here : StatusStream) : StatusStream :=
  match here.phase with
  | .waiting waiter => { here with phase := .leaving waiter false }
  | _ => here

/-- The client goes away, or a query fails. -/
def close (here : StatusStream) : StatusStream :=
  match here.phase with
  | .waiting waiter => { here with phase := .cancelled waiter }
  | .leaving _ _ | .cancelled _ => here
  | _ => { here with phase := .ended }

end StatusStream

abbrev StreamId := Nat

structure StatusStreams where
  events : RunEvents
  bus : RunEventBus
  streams : StreamId → StatusStream

inductive StreamOp where
  | commit (event : RunEvent)
  | notify (runId : RunId)
  | setWaiter (waiter : WaiterId)
  | advance (stream : StreamId)
  | timeOut (stream : StreamId)
  | close (stream : StreamId)

def StreamOp.stream? : StreamOp → Option StreamId
  | .advance stream | .timeOut stream | .close stream => some stream
  | _ => none

namespace StatusStreams

def setStream (state : StatusStreams) (stream : StreamId) (here : StatusStream) : StatusStreams :=
  { state with streams := Function.update state.streams stream here }

/-- `uq_run_events_run_sequence` refuses a sequence that is taken. -/
def commit (event : RunEvent) (state : StatusStreams) : StatusStreams :=
  match state.events.insert event with
  | none => state
  | some events => { state with events }

def advance (request : TeachingPackStreamRequest) (stream : StreamId) (state : StatusStreams) :
    StatusStreams :=
  let after := (state.streams stream).advance request state.events state.bus
  { state.setStream stream after.2 with bus := after.1 }

def step (requests : StreamId → TeachingPackStreamRequest) (state : StatusStreams) :
    StreamOp → StatusStreams
  | .commit event => state.commit event
  | .notify runId => { state with bus := state.bus.notifyRunEvent runId }
  | .setWaiter waiter => { state with bus := state.bus.setWaiter waiter }
  | .advance stream => state.advance (requests stream) stream
  | .timeOut stream => state.setStream stream (state.streams stream).timeOut
  | .close stream => state.setStream stream (state.streams stream).close

end StatusStreams

/-- The sequences of a run increase from row to row. -/
def RunEvents.InOrder (events : RunEvents) : Prop :=
  events.rows.Pairwise fun earlier later =>
    earlier.runId = later.runId → earlier.sequence < later.sequence

/-- A new process with any stored events, before its streams. -/
structure StatusStreams.Fresh (requests : StreamId → TeachingPackStreamRequest)
    (state : StatusStreams) : Prop where
  inOrder : state.events.InOrder
  bus : state.bus = .empty
  streams : ∀ stream, state.streams stream = .connect (requests stream)

def streaming (requests : StreamId → TeachingPackStreamRequest) :
    Machine StatusStreams StreamOp Unit where
  initial := StatusStreams.Fresh requests
  step state op := (state.step requests op, ())

/-- Events are committed with increasing sequences per run. -/
def CommitsInOrder : Guard StatusStreams StreamOp Unit := fun state _ op =>
  match op with
  | .commit event => ∀ earlier ∈ state.events.rows,
      earlier.runId = event.runId → earlier.sequence < event.sequence
  | _ => True

instance (state : StatusStreams) (history : History StreamOp Unit) :
    (op : StreamOp) → Decidable (CommitsInOrder state history op)
  | .commit event => inferInstanceAs (Decidable (∀ earlier ∈ state.events.rows,
      earlier.runId = event.runId → earlier.sequence < event.sequence))
  | .notify _ | .setWaiter _ | .advance _ | .timeOut _ | .close _ => .isTrue trivial

/-! ## What status streams deliver -/

/-- The stored events of a run, as the store reads them. -/
def RunEvents.log (events : RunEvents) (runId : RunId) : List TeachingPackEventRead :=
  (events.rows.filter fun event => event.runId = runId).map RunEvent.read

/-- The events a stream is to deliver. -/
def RunEvents.teacherEvents (events : RunEvents) (request : TeachingPackStreamRequest) :
    List TeachingPackEventRead :=
  (events.log request.runId).filter fun event =>
    event.visibility = .teacher ∧ request.afterSequence < event.sequence

namespace RunEvents

variable {events grown : RunEvents} {event : RunEvent}

theorem InOrder.ascending (inOrder : events.InOrder) (runId : RunId) :
    Cursor.Ascending TeachingPackEventRead.sequence (events.log runId) := by
  refine pairwise_map.mpr ?_
  refine (List.Pairwise.filter (fun event => event.runId = runId) inOrder).imp_of_mem ?_
  intro earlier later earlierMem laterMem ordered
  have earlierRun := of_decide_eq_true (mem_filter.mp earlierMem).2
  have laterRun := of_decide_eq_true (mem_filter.mp laterMem).2
  exact ordered (earlierRun.trans laterRun.symm)

theorem InOrder.replayEvents (inOrder : events.InOrder) (runId : RunId) (afterSequence : Nat) :
    events.replayEvents runId afterSequence =
      Cursor.above TeachingPackEventRead.sequence afterSequence (events.log runId) := by
  have ordered : (events.rows.filter fun event =>
      event.runId = runId ∧ afterSequence < event.sequence).Pairwise
      fun earlier later => earlier.sequence < later.sequence := by
    refine (List.Pairwise.filter (fun event =>
      event.runId = runId ∧ afterSequence < event.sequence) inOrder).imp_of_mem ?_
    intro earlier later earlierMem laterMem increasing
    have earlierRun := (of_decide_eq_true (mem_filter.mp earlierMem).2).1
    have laterRun := (of_decide_eq_true (mem_filter.mp laterMem).2).1
    exact increasing (earlierRun.trans laterRun.symm)
  have sorted : Sorting.sortBy RunEvent.sequence
      (events.rows.filter fun event => event.runId = runId ∧ afterSequence < event.sequence) =
      events.rows.filter fun event => event.runId = runId ∧ afterSequence < event.sequence :=
    List.Pairwise.insertionSort_eq (ordered.imp Nat.le_of_lt)
  rw [RunEvents.replayEvents, sorted, Cursor.above, log, filter_map, filter_filter]
  congr 1
  apply filter_congr
  intro event _
  by_cases isRun : event.runId = runId <;> simp [RunEvent.read, isRun]

theorem InOrder.insert (inOrder : events.InOrder) (inserted : events.insert event = some grown)
    (largest : ∀ earlier ∈ events.rows,
      earlier.runId = event.runId → earlier.sequence < event.sequence) : grown.InOrder := by
  rw [InOrder, Table.rows_of_insert inserted]
  refine pairwise_append.mpr ⟨inOrder, pairwise_singleton _ _, ?_⟩
  intro earlier mem later isNew
  rw [mem_singleton.mp isNew]
  exact largest earlier mem

theorem log_insert (inserted : events.insert event = some grown) (runId : RunId) :
    grown.log runId = events.log runId ++ if event.runId = runId then [event.read] else [] := by
  rw [log, Table.rows_of_insert inserted]
  by_cases same : event.runId = runId <;> simp [same, log]

theorem InOrder.pairwise_teacherEvents (inOrder : events.InOrder)
    (request : TeachingPackStreamRequest) :
    (events.teacherEvents request).Pairwise fun earlier later =>
      earlier.sequence < later.sequence :=
  List.Pairwise.filter _ (inOrder.ascending request.runId)

end RunEvents

/-! ## What a stream has sent -/

/-- The messages other than heartbeats. -/
def eventTexts (sent : List String) : List String :=
  sent.filter fun text => text ≠ heartbeat

theorem formatEventStream_ne_heartbeat (event : TeachingPackEventRead) :
    formatEventStream event ≠ heartbeat := by
  intro same
  have heads := congrArg (fun text : String => text.toList.head?) same
  simp [formatEventStream, heartbeat] at heads

@[simp]
theorem eventTexts_event (sent : List String) (event : TeachingPackEventRead) :
    eventTexts (sent ++ [formatEventStream event]) =
      eventTexts sent ++ [formatEventStream event] := by
  simp [eventTexts, formatEventStream_ne_heartbeat]

@[simp]
theorem eventTexts_heartbeat (sent : List String) :
    eventTexts (sent ++ [heartbeat]) = eventTexts sent := by
  simp [eventTexts]

/-- The messages for the teacher's events among those read. -/
def teacherTexts (events : List TeachingPackEventRead) : List String :=
  (events.filter fun event => event.visibility = .teacher).map formatEventStream

theorem teacherTexts_append (first second : List TeachingPackEventRead) :
    teacherTexts (first ++ second) = teacherTexts first ++ teacherTexts second := by
  simp [teacherTexts]

theorem teacherTexts_eq_nil {events : List TeachingPackEventRead}
    (internal : ∀ event ∈ events, event.visibility ≠ .teacher) : teacherTexts events = [] := by
  simpa [teacherTexts] using internal

/-- A stream that has read some events and passed over others, none of them for
the teacher, and has sent the teacher's events among those it read. -/
structure Delivering (request : TeachingPackStreamRequest) (events : RunEvents)
    (here : StatusStream) (read skipped : List TeachingPackEventRead) : Prop where
  reading : Cursor.Reading TeachingPackEventRead.sequence (events.log request.runId)
    request.afterSequence here.lastSequence read skipped here.phase.hand
  internal : ∀ event ∈ skipped, event.visibility ≠ .teacher
  sent : eventTexts here.sent = teacherTexts read
  atStart : here.phase = .connected → here.lastSequence = request.afterSequence

def StatusStream.Delivers (request : TeachingPackStreamRequest) (events : RunEvents)
    (here : StatusStream) : Prop :=
  ∃ read skipped, Delivering request events here read skipped

namespace Delivering

variable {request : TeachingPackStreamRequest} {events : RunEvents} {here after : StatusStream}
  {read skipped : List TeachingPackEventRead}

section

variable (delivering : Delivering request events here read skipped)

include delivering

theorem emptyHanded (sameSequence : after.lastSequence = here.lastSequence)
    (sameTexts : eventTexts after.sent = eventTexts here.sent) (noHand : after.phase.hand = [])
    (isStarted : after.phase ≠ .connected) : Delivering request events after read [] where
  reading := by
    rw [noHand, sameSequence]
    exact ⟨delivering.reading.upTo, nil_prefix⟩
  internal _ member := by cases member
  sent := sameTexts.trans delivering.sent
  atStart isConnected := absurd isConnected isStarted

theorem asked (inOrder : events.InOrder) (sameSequence : after.lastSequence = here.lastSequence)
    (sameTexts : eventTexts after.sent = eventTexts here.sent)
    (found : after.phase.hand = events.replayEvents request.runId here.lastSequence)
    (isStarted : after.phase ≠ .connected) : Delivering request events after read [] where
  reading := by
    rw [found, sameSequence, inOrder.replayEvents]
    exact delivering.reading.upTo.ask
  internal _ member := by cases member
  sent := sameTexts.trans delivering.sent
  atStart isConnected := absurd isConnected isStarted

theorem taken (inOrder : events.InOrder) {event : TeachingPackEventRead}
    {rest : List TeachingPackEventRead} (inHand : here.phase.hand = event :: rest)
    (nextHand : after.phase.hand = rest)
    (nextSequence : after.lastSequence = max here.lastSequence event.sequence)
    (nextTexts : eventTexts after.sent = eventTexts here.sent ++ teacherTexts [event])
    (isStarted : after.phase ≠ .connected) :
    Delivering request events after (read ++ (skipped ++ [event])) [] where
  reading := by
    have reading := delivering.reading
    rw [inHand] at reading
    rw [nextHand, nextSequence]
    exact reading.take (inOrder.ascending request.runId)
  internal _ member := by cases member
  sent := by
    rw [nextTexts, delivering.sent, teacherTexts_append, teacherTexts_append,
      teacherTexts_eq_nil delivering.internal, nil_append]
  atStart isConnected := absurd isConnected isStarted

theorem passedOver {event : TeachingPackEventRead} {rest : List TeachingPackEventRead}
    (inHand : here.phase.hand = event :: rest) (nextHand : after.phase.hand = rest)
    (isInternal : event.visibility ≠ .teacher)
    (sameSequence : after.lastSequence = here.lastSequence) (sameSent : after.sent = here.sent)
    (isStarted : after.phase ≠ .connected) :
    Delivering request events after read (skipped ++ [event]) where
  reading := by
    have reading := delivering.reading
    rw [inHand] at reading
    rw [nextHand, sameSequence]
    exact reading.passOver
  internal other member := by
    rcases mem_append.mp member with earlier | isNew
    · exact delivering.internal other earlier
    · rw [mem_singleton.mp isNew]
      exact isInternal
  sent := sameSent ▸ delivering.sent
  atStart isConnected := absurd isConnected isStarted

theorem commit {event : RunEvent} {grown : RunEvents} (inserted : events.insert event = some grown)
    (largest : ∀ earlier ∈ events.rows,
      earlier.runId = event.runId → earlier.sequence < event.sequence) :
    Delivering request grown here read skipped where
  reading := by
    rw [RunEvents.log_insert inserted]
    split
    · next same =>
      refine delivering.reading.concat fun earlier mem => ?_
      rcases mem_map.mp mem with ⟨row, rowMem, rfl⟩
      rcases mem_filter.mp rowMem with ⟨stored, isRun⟩
      exact largest row stored ((of_decide_eq_true isRun).trans same.symm)
    · rw [append_nil]
      exact delivering.reading
  internal := delivering.internal
  sent := delivering.sent
  atStart := delivering.atStart

theorem isPrefix :
    eventTexts here.sent <+: (events.teacherEvents request).map formatEventStream := by
  have initial := delivering.reading.upTo.isPrefix
  rw [delivering.sent, RunEvents.teacherEvents]
  have narrowed : ((events.log request.runId).filter fun event =>
      event.visibility = .teacher ∧ request.afterSequence < event.sequence) =
      (Cursor.above TeachingPackEventRead.sequence request.afterSequence
        (events.log request.runId)).filter fun event => event.visibility = .teacher := by
    rw [Cursor.above]
    simp
  rw [narrowed]
  exact (initial.filter _).map _

end

end Delivering

namespace StatusStream

variable {request : TeachingPackStreamRequest} {events : RunEvents} {here : StatusStream}

theorem delivers_connect (request : TeachingPackStreamRequest) (events : RunEvents) :
    Delivers request events (connect request) :=
  ⟨[], [], ⟨.start _ _, nil_prefix⟩, nofun, rfl, fun _ => rfl⟩

section

variable (delivers : here.Delivers request events)

include delivers

theorem Delivers.advance (inOrder : events.InOrder) (bus : RunEventBus) :
    (here.advance request events bus).2.Delivers request events := by
  rcases delivers with ⟨read, skipped, delivering⟩
  unfold StatusStream.advance
  split
  · next isConnected =>
    have atStart := delivering.atStart isConnected
    exact ⟨_, _, delivering.asked inOrder rfl rfl (by rw [atStart]; rfl) nofun⟩
  · exact ⟨_, _, delivering.emptyHanded rfl rfl (by dsimp only; split <;> rfl)
      (by dsimp only; split <;> nofun)⟩
  · next event rest isReplaying =>
    have inHand : here.phase.hand = event :: rest := by rw [isReplaying]; rfl
    split
    · next isTeacher =>
      exact ⟨_, _, delivering.taken inOrder inHand rfl rfl
        (by simp [teacherTexts, isTeacher]) nofun⟩
    · next isInternal => exact ⟨_, _, delivering.passedOver inHand rfl isInternal rfl rfl nofun⟩
  · exact ⟨_, _, delivering.emptyHanded rfl rfl rfl nofun⟩
  · split
    · exact ⟨_, _, delivering.emptyHanded rfl rfl rfl nofun⟩
    · next found => exact ⟨_, _, delivering.asked inOrder rfl rfl found.symm nofun⟩
  · split
    · exact ⟨_, _, delivering.emptyHanded rfl rfl rfl nofun⟩
    · exact ⟨_, _, delivering.emptyHanded rfl rfl rfl nofun⟩
  · split
    · exact ⟨_, _, delivering.emptyHanded rfl rfl rfl nofun⟩
    · exact ⟨_, _, delivering⟩
  · exact ⟨_, _, delivering.emptyHanded rfl rfl rfl nofun⟩
  · exact ⟨_, _, delivering.emptyHanded rfl rfl rfl nofun⟩
  · split
    · refine ⟨_, _, delivering.emptyHanded rfl ?_ rfl nofun⟩
      split
      · rfl
      · exact eventTexts_heartbeat _
    · next found => exact ⟨_, _, delivering.asked inOrder rfl rfl found.symm nofun⟩
  · exact ⟨_, _, delivering.emptyHanded rfl rfl rfl nofun⟩
  · next event rest isSending =>
    have inHand : here.phase.hand = event :: rest := by rw [isSending]; rfl
    refine ⟨_, _, delivering.taken inOrder inHand rfl rfl ?_ nofun⟩
    split
    · next isTeacher => simp [teacherTexts, isTeacher]
    · next isInternal => simp [teacherTexts, isInternal]
  · exact ⟨_, _, delivering⟩

theorem Delivers.timeOut :
    here.timeOut.Delivers request events := by
  rcases delivers with ⟨read, skipped, delivering⟩
  unfold StatusStream.timeOut
  split
  · exact ⟨_, _, delivering.emptyHanded rfl rfl rfl nofun⟩
  · exact ⟨_, _, delivering⟩

theorem Delivers.close :
    here.close.Delivers request events := by
  rcases delivers with ⟨read, skipped, delivering⟩
  unfold StatusStream.close
  split
  · exact ⟨_, _, delivering.emptyHanded rfl rfl rfl nofun⟩
  · exact ⟨_, _, delivering⟩
  · exact ⟨_, _, delivering⟩
  · exact ⟨_, _, delivering.emptyHanded rfl rfl rfl nofun⟩

end

end StatusStream

end OhMyClass.Gateway
