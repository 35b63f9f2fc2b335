import OhMyClass.Gateway.Teaching.LiveSync
import OhMyClass.HighWater.Core

/-!
# Relaying a session

A connected client receives the stored events after its last one and then what
is published while the relay is subscribed.  Nothing is lost, repeated or
reordered in the runs where every event published after the replay is either
part of it or reaches the subscription right after its predecessors.
-/

namespace OhMyClass.Gateway.Teaching

open List OhMyClass.Transition HighWater

/-- Between the replay query and the subscription the relay hears nothing; a
subscription reads the channel from where it stood. -/
inductive RelayPhase where
  | connecting
  | replayed
  | subscribed (cursor : Nat)

structure Relay where
  phase : RelayPhase
  lastSequence : Nat
  received : List SessionEvent

namespace Relay

/-- `_sse_relay` before its first statement. -/
def connect (afterSequence : Nat) : Relay where
  phase := .connecting
  lastSequence := afterSequence
  received := []

def replay (sessionId : SessionId) (events : TeachingSessionEvents) (relay : Relay) : Relay :=
  match relay.phase with
  | .connecting =>
    let rows := replayEvents events sessionId relay.lastSequence none
    { phase := .replayed
      lastSequence := rows.foldl (fun last row => max last row.sequence) relay.lastSequence
      received := relay.received ++ rows.map rowToEvent }
  | _ => relay

def subscribe (published : List SessionEvent) (relay : Relay) : Relay :=
  match relay.phase with
  | .replayed => { relay with phase := .subscribed published.length }
  | _ => relay

/-- `event.sequence or last_sequence`. -/
def sequenceOr (sequence : Option Nat) (last : Nat) : Nat :=
  match sequence with
  | some (sequence + 1) => sequence + 1
  | _ => last

/-- `event.sequence is not None and event.sequence <= last_sequence`. -/
def AlreadyRelayed (relay : Relay) (event : SessionEvent) : Prop :=
  ∃ sequence ∈ event.sequence, sequence ≤ relay.lastSequence
  deriving Decidable

/-- The next message of the subscription. -/
def relayNext (published : List SessionEvent) (relay : Relay) : Relay :=
  match relay.phase with
  | .subscribed cursor =>
    match published[cursor]? with
    | none => relay
    | some event =>
      if relay.AlreadyRelayed event then
        { relay with phase := .subscribed (cursor + 1) }
      else
        { phase := .subscribed (cursor + 1)
          lastSequence := sequenceOr event.sequence relay.lastSequence
          received := relay.received ++ [event] }
  | _ => relay

/-- Published messages the subscription has not read. -/
def pending (published : List SessionEvent) (relay : Relay) : List SessionEvent :=
  match relay.phase with
  | .subscribed cursor => published.drop cursor
  | _ => []

end Relay

/-- A session with one connected client. -/
structure LiveStream where
  live : LiveSync
  relay : Relay

inductive StreamOp where
  | live (op : LiveOp)
  | replay
  | subscribe
  | relayNext

namespace LiveStream

def step (sessionId : SessionId) (state : LiveStream) : StreamOp → LiveStream
  | .live op => { state with live := state.live.step sessionId op }
  | .replay => { state with relay := state.relay.replay sessionId state.live.events }
  | .subscribe => { state with relay := state.relay.subscribe state.live.published }
  | .relayNext => { state with relay := state.relay.relayNext state.live.published }

/-- The published sequences the relay has not read. -/
def queue (state : LiveStream) : List Nat :=
  (state.relay.pending state.live.published).filterMap SessionEvent.sequence

/-- The largest sequence replayed, relayed or waiting in the subscription. -/
def reach (state : LiveStream) : Nat :=
  HighWater.mark state.relay.lastSequence state.queue

/-- A published event reaches the client: the replay has it or will have it, or
it arrives at the subscription after its predecessors. -/
def PublishesInReach (state : LiveStream) (call : CallId) : Prop :=
  ∀ recorded isNew, state.live.calls call = .stored recorded isNew →
    match state.relay.phase with
    | .connecting => True
    | .replayed => recorded.row.sequence ≤ state.relay.lastSequence
    | .subscribed _ => recorded.row.sequence ≤ state.reach + 1

/-- Subscribed, with nothing left to read. -/
def CaughtUp (state : LiveStream) : Prop :=
  match state.relay.phase with
  | .subscribed cursor => state.live.published.length ≤ cursor
  | _ => False

end LiveStream

def streamMachine (sessionId : SessionId) (lastEventId : Nat) :
    Machine LiveStream StreamOp Unit where
  initial state := state.live.Fresh sessionId ∧ state.relay = .connect lastEventId
  step state op := (state.step sessionId op, ())

def StreamGuard : Guard LiveStream StreamOp Unit := fun state _ op =>
  match op with
  | .live (.publishEvent call) => state.PublishesInReach call
  | _ => True

/-! ## What the live steps do to the relay's inputs -/

namespace LiveSync

variable {sessionId : SessionId} {state : LiveSync}

theorem Ordered.step (ordered : Ordered sessionId state) (op : LiveOp) :
    Ordered sessionId (state.step sessionId op) := by
  rcases step_cases sessionId state op with unchanged | moved
  · rw [unchanged]
    exact ordered
  · exact ordered.of_moves moved

theorem Ordered.length_step (ordered : Ordered sessionId state) (op : LiveOp) :
    (sessionLog state.events sessionId).length ≤
      (sessionLog (state.step sessionId op).events sessionId).length := by
  rcases step_cases sessionId state op with unchanged | moved
  · rw [unchanged]
  · generalize state.step sessionId op = after at moved ⊢
    cases moved with
    | @«repeated» call recorded view isDerived isDuplicate =>
      have isOpen : (state.calls call).transaction = some ((recorded.row, false), view) := by
        simp [isDerived, isDuplicate]
      rw [(ordered.calls call).repeated _ _ isOpen]
    | @committed call recorded view isNew isDerived =>
      have isOpen : (state.calls call).transaction = some ((recorded.row, true), view) := by
        simp [isDerived, isNew]
      rw [((ordered.calls call).created _ _ isOpen).2, length_append]
      exact Nat.le_add_right _ _
    | _ => exact le_rfl

theorem published_step (sessionId : SessionId) (state : LiveSync) (op : LiveOp) :
    (state.step sessionId op).published = state.published ∨
      ∃ call recorded isNew, op = .publishEvent call ∧
        state.calls call = .stored recorded isNew ∧
        (state.step sessionId op).published = state.published ++ [recorded.event] := by
  rcases step_cases sessionId state op with unchanged | moved
  · exact .inl (by rw [unchanged])
  · generalize state.step sessionId op = after at moved ⊢
    cases moved with
    | published isStored => exact .inr ⟨_, _, _, rfl, isStored, rfl⟩
    | _ => exact .inl rfl

theorem Ordered.sequence_of_published (ordered : Ordered sessionId state) {event : SessionEvent}
    (isPublished : event ∈ state.published) :
    ∃ sequence, event.sequence = some sequence ∧
      sequence ≤ (sessionLog state.events sessionId).length := by
  rcases ordered.ofLog event isPublished with ⟨row, mem, rfl⟩
  exact ⟨row.sequence, rfl, (ordered.numbered.sequence_le mem).2⟩

end LiveSync

/-! ## The invariant -/

namespace LiveStream

open LiveSync

variable {sessionId : SessionId} {lastEventId : Nat} {state : LiveStream}

/-- The client has received exactly the sequences up to the mark of the relay,
and what was published since the replay is within its reach. -/
structure InOrder (sessionId : SessionId) (lastEventId : Nat) (state : LiveStream) : Prop where
  ordered : Ordered sessionId state.live
  lower : lastEventId ≤ state.relay.lastSequence
  upper : state.relay.lastSequence ≤
    max lastEventId (sessionLog state.live.events sessionId).length
  received : state.relay.received.map SessionEvent.sequence =
    (List.range' (lastEventId + 1) (state.relay.lastSequence - lastEventId)).map some
  connecting : state.relay.phase = .connecting → state.relay.lastSequence = lastEventId
  cursor : ∀ cursor, state.relay.phase = .subscribed cursor →
    cursor ≤ state.live.published.length
  reached : state.relay.phase ≠ .connecting → ∀ event ∈ state.live.published,
    ∀ sequence ∈ event.sequence, sequence ≤ state.reach
  consecutive : HighWater.Consecutive state.relay.lastSequence state.queue

theorem queue_of_unsubscribed (unsubscribed : ∀ cursor, state.relay.phase ≠ .subscribed cursor) :
    state.queue = [] := by
  unfold queue Relay.pending
  split
  · next cursor isSubscribed => exact absurd isSubscribed (unsubscribed cursor)
  · rfl

variable {cursor : Nat}

theorem queue_of_subscribed (isSubscribed : state.relay.phase = .subscribed cursor) :
    state.queue = (state.live.published.drop cursor).filterMap SessionEvent.sequence := by
  simp [queue, Relay.pending, isSubscribed]

theorem reach_of_unsubscribed (unsubscribed : ∀ cursor, state.relay.phase ≠ .subscribed cursor) :
    state.reach = state.relay.lastSequence := by
  rw [reach, queue_of_unsubscribed unsubscribed, mark_nil]

theorem InOrder.live_quiet (inOrder : InOrder sessionId lastEventId state) {op : LiveOp}
    (samePublished : (state.live.step sessionId op).published = state.live.published) :
    InOrder sessionId lastEventId { state with live := state.live.step sessionId op } := by
  have sameQueue : LiveStream.queue { state with live := state.live.step sessionId op } =
      state.queue := by
    unfold queue
    rw [samePublished]
  have sameReach : LiveStream.reach { state with live := state.live.step sessionId op } =
      state.reach := by
    unfold reach
    rw [sameQueue]
  constructor
  · exact inOrder.ordered.step op
  · exact inOrder.lower
  · exact inOrder.upper.trans (max_le_max le_rfl (inOrder.ordered.length_step op))
  · exact inOrder.received
  · exact inOrder.connecting
  · intro cursor isSubscribed
    rw [samePublished]
    exact inOrder.cursor cursor isSubscribed
  · intro heard event isPublished
    rw [samePublished] at isPublished
    rw [sameReach]
    exact inOrder.reached heard event isPublished
  · rw [sameQueue]
    exact inOrder.consecutive

variable {event : SessionEvent}

theorem queue_published {after : LiveStream} {sequence : Nat}
    (isSubscribed : state.relay.phase = .subscribed cursor)
    (within : cursor ≤ state.live.published.length) (sameRelay : after.relay = state.relay)
    (published : after.live.published = state.live.published ++ [event])
    (isSequence : event.sequence = some sequence) : after.queue = state.queue ++ [sequence] := by
  have stillSubscribed : after.relay.phase = .subscribed cursor := by
    rw [sameRelay]
    exact isSubscribed
  rw [queue_of_subscribed isSubscribed, queue_of_subscribed stillSubscribed, published,
    drop_append_of_le_length within]
  simp [isSequence]

theorem InOrder.reach_published (inOrder : InOrder sessionId lastEventId state) (after : LiveStream)
    {sequence : Nat} (sameRelay : after.relay = state.relay)
    (published : after.live.published = state.live.published ++ [event])
    (isSequence : event.sequence = some sequence) (inReach : match state.relay.phase with
      | .connecting => True
      | .replayed => sequence ≤ state.relay.lastSequence
      | .subscribed _ => sequence ≤ state.reach + 1) :
    state.reach ≤ after.reach ∧ (state.relay.phase ≠ .connecting → sequence ≤ after.reach) ∧
      HighWater.Consecutive state.relay.lastSequence after.queue := by
  cases phase : state.relay.phase with
  | subscribed cursor =>
    rw [phase] at inReach
    have grown := queue_published phase (inOrder.cursor cursor phase) sameRelay published isSequence
    have newReach : after.reach = max state.reach sequence := by
      rw [reach, grown, mark_concat, sameRelay]
      rfl
    rw [newReach, grown]
    exact ⟨Nat.le_max_left _ _, fun _ => Nat.le_max_right _ _,
      consecutive_concat.mpr ⟨inOrder.consecutive, inReach⟩⟩
  | _ =>
    have unsubscribed : ∀ cursor, state.relay.phase ≠ .subscribed cursor := by simp [phase]
    have stillUnsubscribed : ∀ cursor, after.relay.phase ≠ .subscribed cursor := by
      rw [sameRelay]
      exact unsubscribed
    rw [reach_of_unsubscribed unsubscribed, reach_of_unsubscribed stillUnsubscribed,
      queue_of_unsubscribed stillUnsubscribed]
    simp_all [HighWater.Consecutive]

theorem InOrder.live_published (inOrder : InOrder sessionId lastEventId state) {call : CallId}
    {recorded : RecordedEvent} {isNew : recorded.duplicate = false}
    (isStored : state.live.calls call = .stored recorded isNew)
    (published : (state.live.step sessionId (.publishEvent call)).published =
      state.live.published ++ [recorded.event])
    (inReach : state.PublishesInReach call) :
    InOrder sessionId lastEventId
      { state with live := state.live.step sessionId (.publishEvent call) } := by
  have isSequence : recorded.event.sequence = some recorded.row.sequence := by
    rw [recorded.ofRow]
    rfl
  obtain ⟨grows, reachesNew, consecutive⟩ := inOrder.reach_published
    { state with live := state.live.step sessionId (.publishEvent call) } rfl published isSequence
    (inReach recorded isNew isStored)
  constructor
  · exact inOrder.ordered.step (.publishEvent call)
  · exact inOrder.lower
  · exact inOrder.upper.trans (max_le_max le_rfl (inOrder.ordered.length_step _))
  · exact inOrder.received
  · exact inOrder.connecting
  · intro cursor isSubscribed
    rw [published, length_append]
    exact (inOrder.cursor cursor isSubscribed).trans (Nat.le_add_right _ _)
  · intro heard event isPublished sequence ofEvent
    rw [published, mem_append, mem_singleton] at isPublished
    rcases isPublished with earlier | rfl
    · exact (inOrder.reached heard event earlier sequence ofEvent).trans grows
    · rw [isSequence] at ofEvent
      cases ofEvent
      exact reachesNew heard
  · exact consecutive

theorem sequences_replayEvents {events : TeachingSessionEvents}
    (numbered : Numbered (sessionLog events sessionId)) (afterSequence : Nat) :
    (replayEvents events sessionId afterSequence none).map TeachingSessionEvent.sequence =
      List.range' (afterSequence + 1)
        ((sessionLog events sessionId).length - afterSequence) := by
  rw [replayEvents_eq_filter, ← filter_lt_range', ← numbered, filter_map]
  rfl

section

variable (inOrder : InOrder sessionId lastEventId state)

include inOrder

theorem InOrder.replay :
    InOrder sessionId lastEventId (state.step sessionId .replay) := by
  simp only [step, Relay.replay]
  split
  · next isConnecting =>
    have atStart := inOrder.connecting isConnecting
    have sequences := sequences_replayEvents inOrder.ordered.numbered lastEventId
    have nothingYet : state.relay.received.map SessionEvent.sequence = [] := by
      rw [inOrder.received, atStart, Nat.sub_self]
      rfl
    have last : (replayEvents state.live.events sessionId lastEventId none).foldl
        (fun last row => max last row.sequence) lastEventId =
          lastEventId + ((sessionLog state.live.events sessionId).length - lastEventId) := by
      rw [← mark_range', ← sequences, HighWater.mark, foldl_map]
    rw [atStart, last]
    constructor
    · exact inOrder.ordered
    · exact Nat.le_add_right _ _
    · change lastEventId + _ ≤ max lastEventId (sessionLog state.live.events sessionId).length
      omega
    · rw [map_append, nothingYet, Nat.add_sub_cancel_left, ← sequences, map_map,
        map_map]
      rfl
    · rintro ⟨⟩
    · rintro _ ⟨⟩
    · intro _ event isPublished sequence ofEvent
      rcases inOrder.ordered.sequence_of_published isPublished with ⟨number, isNumber, bounded⟩
      cases ofEvent.symm.trans isNumber
      change sequence ≤ lastEventId + _
      omega
    · exact trivial
  · exact inOrder

theorem InOrder.subscribe :
    InOrder sessionId lastEventId (state.step sessionId .subscribe) := by
  simp only [step, Relay.subscribe]
  split
  · next isReplayed =>
    have unsubscribed : ∀ cursor, state.relay.phase ≠ .subscribed cursor := by simp [isReplayed]
    have nothingMissed : queue { state with relay :=
        { state.relay with phase := .subscribed state.live.published.length } } = [] := by
      simp [queue, Relay.pending]
    constructor
    · exact inOrder.ordered
    · exact inOrder.lower
    · exact inOrder.upper
    · exact inOrder.received
    · exact nofun
    · rintro _ ⟨⟩
      exact le_rfl
    · intro _ event isPublished sequence ofEvent
      have within := inOrder.reached (by simp [isReplayed]) event isPublished sequence ofEvent
      rw [reach_of_unsubscribed unsubscribed] at within
      rw [reach, nothingMissed]
      exact within
    · rw [nothingMissed]
      exact trivial
  · exact inOrder

theorem InOrder.queue_head (isSubscribed : state.relay.phase = .subscribed cursor)
    (isNext : state.live.published[cursor]? = some event) :
    ∃ sequence, event.sequence = some sequence ∧
      sequence ≤ (sessionLog state.live.events sessionId).length ∧
      cursor + 1 ≤ state.live.published.length ∧
      state.queue =
        sequence :: (state.live.published.drop (cursor + 1)).filterMap SessionEvent.sequence := by
  rcases List.getElem?_eq_some_iff.mp isNext with ⟨inside, isEvent⟩
  have isPublished : event ∈ state.live.published := isEvent ▸ getElem_mem inside
  rcases inOrder.ordered.sequence_of_published isPublished with ⟨sequence, isSequence, bounded⟩
  refine ⟨sequence, isSequence, bounded, inside, ?_⟩
  rw [queue_of_subscribed isSubscribed, drop_eq_getElem_cons inside, isEvent]
  simp [isSequence]

theorem InOrder.relayNext :
    InOrder sessionId lastEventId (state.step sessionId .relayNext) := by
  simp only [step, Relay.relayNext]
  split
  · next cursor isSubscribed =>
    split
    · exact inOrder
    · next event isNext =>
      obtain ⟨sequence, isSequence, bounded, inside, isQueue⟩ :=
        inOrder.queue_head isSubscribed isNext
      have consecutive := inOrder.consecutive
      have reached := inOrder.reached (by simp [isSubscribed])
      rw [isQueue] at consecutive
      rw [reach, isQueue, mark_cons] at reached
      rcases consecutive.head_cases with ⟨known, rest⟩ | ⟨isNumber, rest⟩
      · have relayed : state.relay.AlreadyRelayed event := ⟨sequence, isSequence, known⟩
        rw [if_pos relayed]
        rw [Nat.max_eq_left known] at reached
        constructor
        · exact inOrder.ordered
        · exact inOrder.lower
        · exact inOrder.upper
        · exact inOrder.received
        · exact nofun
        · rintro _ ⟨⟩
          exact inside
        · exact fun _ => reached
        · exact rest
      · have isNew : ¬ state.relay.AlreadyRelayed event := by
          rintro ⟨number, ofEvent, known⟩
          rw [isSequence] at ofEvent
          cases ofEvent
          omega
        rw [if_neg isNew, isSequence, isNumber]
        rw [isNumber, Nat.max_eq_right (Nat.le_succ _)] at reached
        constructor
        · exact inOrder.ordered
        · exact inOrder.lower.trans (Nat.le_succ _)
        · exact (isNumber ▸ bounded).trans (Nat.le_max_right _ _)
        · change (state.relay.received ++ [event]).map SessionEvent.sequence =
            (List.range' _ (state.relay.lastSequence + 1 - lastEventId)).map some
          have isEnd : lastEventId + 1 + (state.relay.lastSequence - lastEventId) =
              state.relay.lastSequence + 1 := by
            have lower := inOrder.lower
            omega
          rw [map_append, inOrder.received, Nat.succ_sub inOrder.lower, List.range'_1_concat,
            isEnd, map_append, map_singleton, map_singleton, isSequence, isNumber]
        · exact nofun
        · rintro _ ⟨⟩
          exact inside
        · exact fun _ => reached
        · exact rest
  · exact inOrder

theorem InOrder.step {op : StreamOp} {history : History StreamOp Unit}
    (allowed : StreamGuard state history op) :
    InOrder sessionId lastEventId (state.step sessionId op) := by
  cases op with
  | live op =>
    rcases published_step sessionId state.live op with
      samePublished | ⟨call, recorded, isNew, rfl, isStored, published⟩
    · exact inOrder.live_quiet samePublished
    · exact inOrder.live_published isStored published allowed
  | replay => exact inOrder.replay
  | subscribe => exact inOrder.subscribe
  | relayNext => exact inOrder.relayNext

end

theorem inOrder_of_run {history : History StreamOp Unit}
    (run : (streamMachine sessionId lastEventId).Run StreamGuard state history) :
    InOrder sessionId lastEventId state := by
  apply run.invariant fun state _ => InOrder sessionId lastEventId state
  · rintro ⟨live, relay⟩ ⟨fresh, rfl⟩
    constructor
    · exact fresh.ordered
    · exact le_rfl
    · exact Nat.le_max_left _ _
    · simp [Relay.connect]
    · exact fun _ => rfl
    · exact nofun
    · exact fun heard => absurd rfl heard
    · exact trivial
  · intro state history op inOrder allowed
    exact inOrder.step allowed

theorem CaughtUp.heard (caughtUp : state.CaughtUp) :
    state.relay.phase ≠ .connecting ∧ state.queue = [] := by
  unfold CaughtUp at caughtUp
  split at caughtUp
  · next cursor isSubscribed =>
    rw [queue_of_subscribed isSubscribed, drop_of_length_le caughtUp]
    exact ⟨by simp [isSubscribed], rfl⟩
  · exact caughtUp.elim

theorem published_of_quiet {live : LiveSync} (ordered : Ordered sessionId live)
    (quiet : live.Quiet) {row : TeachingSessionEvent}
    (mem : row ∈ sessionLog live.events sessionId) : rowToEvent row ∈ live.published := by
  rcases ordered.owned row mem with ⟨owner, isOwner⟩
  have settled := quiet owner
  cases phase : live.calls owner with
  | finished recorded =>
    cases isNew : recorded.duplicate with
    | false =>
      simp only [phase, CallPhase.newRow, isNew, Bool.false_eq_true, if_false,
        Option.some.injEq] at isOwner
      rw [← isOwner]
      exact (ordered.calls owner).published recorded phase isNew
    | true => simp [phase, isNew] at isOwner
  | _ => simp [phase, CallPhase.Settled] at settled isOwner

/-- In the runs that publish within reach, the client receives the sequences
from its last one on without gap, repetition or reordering: once it has caught
up, up to every published event, and in a quiet session to the end of the
log. -/
theorem relay_delivers_in_order {history : History StreamOp Unit}
    (run : (streamMachine sessionId lastEventId).Run StreamGuard state history) :
    ∃ count, state.relay.received.map SessionEvent.sequence =
        (List.range' (lastEventId + 1) count).map some ∧
      (state.CaughtUp → ∀ event ∈ state.live.published, ∀ sequence ∈ event.sequence,
        sequence ≤ lastEventId + count) ∧
      (state.CaughtUp → state.live.Quiet →
        count = (sessionLog state.live.events sessionId).length - lastEventId) := by
  have inOrder := inOrder_of_run run
  have lower := inOrder.lower
  have upper := inOrder.upper
  have within : state.CaughtUp → ∀ event ∈ state.live.published, ∀ sequence ∈ event.sequence,
      sequence ≤ state.relay.lastSequence := by
    intro caughtUp event isPublished sequence ofEvent
    rcases caughtUp.heard with ⟨heard, isEmpty⟩
    have reached := inOrder.reached heard event isPublished sequence ofEvent
    rw [reach, isEmpty] at reached
    exact reached
  refine ⟨_, inOrder.received, ?_, ?_⟩
  · intro caughtUp event isPublished sequence ofEvent
    rw [Nat.add_sub_cancel' lower]
    exact within caughtUp event isPublished sequence ofEvent
  · intro caughtUp quiet
    by_cases isEmpty : (sessionLog state.live.events sessionId).length = 0
    · omega
    · obtain ⟨row, mem, isLast⟩ := inOrder.ordered.numbered.exists_sequence
        (Nat.one_le_iff_ne_zero.mpr isEmpty) le_rfl
      have known := within caughtUp _ (published_of_quiet inOrder.ordered quiet mem)
        row.sequence rfl
      omega

/-! ## An event published before the subscription -/

/-- A session without events, and a client that has seen none. -/
def newStream : LiveStream where
  live := newSession
  relay := .connect 0

theorem newStream_initial : (streamMachine "session-1" 0).initial newStream :=
  ⟨newSession_fresh "session-1", rfl⟩

def slideShown : EventCreate :=
  ⟨"session-1", .slideChanged "slide-1" none, .controller, none, "evt-1", 0⟩

def showSlide : List StreamOp :=
  [.live (.appendEvent 0 slideShown), .live (.deriveState 0), .live (.commit 0),
    .live (.setHotState 0), .live (.publishEvent 0)]

def streamAfter (ops : List StreamOp) : LiveStream × History StreamOp Unit :=
  (streamMachine "session-1" 0).drive (newStream, []) ops

/-- The slide is shown after the replay and before the subscription. -/
def showUnheard : List StreamOp :=
  .replay :: showSlide ++ [.subscribe]

def showHeard : List StreamOp :=
  [.replay, .subscribe] ++ showSlide ++ [.relayNext]

/-- The caught-up client has missed the published event. -/
theorem unheard_event_never_received :
    (streamMachine "session-1" 0).Run (fun _ _ _ => True) (streamAfter showUnheard).1
        (streamAfter showUnheard).2 ∧
      (streamAfter showUnheard).1.CaughtUp ∧
      (streamAfter showUnheard).1.live.published.map SessionEvent.sequence = [some 1] ∧
      (streamAfter showUnheard).1.relay.received = [] := by
  have nothingMore : (streamAfter showUnheard).1.live.published.length ≤ 1 := by
    decide +kernel
  refine ⟨(Machine.Run.start newStream_initial).drive showUnheard
    Machine.admits_all, ?_, by decide +kernel,
    by decide +kernel⟩
  exact nothingMore

/-- The state in which the slide is published to the subscription. -/
def slideStored : LiveStream :=
  (streamAfter (showHeard.take 6)).1

theorem slideStored_publishesInReach : slideStored.PublishesInReach 0 := by
  have within : ∀ row ∈ (slideStored.live.calls 0).newRow, row.sequence ≤ slideStored.reach + 1 := by
    decide +kernel
  intro recorded isNew isStored
  apply within
  rw [isStored]
  rfl

theorem showHeard_admitted :
    (streamMachine "session-1" 0).Admits StreamGuard (newStream, []) showHeard :=
  ⟨trivial, trivial, trivial, trivial, trivial, trivial, slideStored_publishesInReach, trivial,
    trivial⟩

theorem heard_event_received :
    ∃ count, (streamAfter showHeard).1.relay.received.map SessionEvent.sequence =
      (List.range' 1 count).map some := by
  obtain ⟨count, received, _⟩ := relay_delivers_in_order
    ((Machine.Run.start newStream_initial).drive showHeard showHeard_admitted)
  exact ⟨count, received⟩

end LiveStream

end OhMyClass.Gateway.Teaching
