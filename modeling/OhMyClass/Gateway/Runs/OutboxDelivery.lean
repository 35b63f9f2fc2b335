import Mathlib.Data.Prod.Lex
import Mathlib.Data.String.Basic
import OhMyClass.Gateway.Runs.Store
import OhMyClass.Sorting.Core
import OhMyClass.Transition.Machine

/-!
# Publishing the event outbox

A publisher claims rows, notifies the run of each, and acknowledges it or puts
it back for a retry.  What it writes is seen by others once its session commits;
until then the rows are locked, and a crash gives them back as they were.
-/

namespace OhMyClass.Gateway

open List Function OhMyClass.Sorting OhMyClass.Transition RunEventOutboxStore

/-! ## Rows -/

/-- The columns that are set when a row is enqueued. -/
structure OutboxKey where
  outboxId : Nat
  runId : RunId
  sequence : Nat
  dedupeKey : String
  createdAt : DateTime
  deriving DecidableEq

/-- A row of `public.run_event_outbox`. -/
structure OutboxRow extends OutboxKey where
  status : String
  attempts : Nat
  availableAt : Option DateTime
  leaseOwner : Option String
  leaseExpiresAt : Option DateTime
  lastError : Option String
  publishedAt : Option DateTime
  deriving DecidableEq

/-- The primary key, the unique dedupe key and the unique pair it is made of. -/
def OutboxKey.Conflict (first second : OutboxKey) : Prop :=
  first.outboxId = second.outboxId ∨ first.dedupeKey = second.dedupeKey ∨
    (first.runId = second.runId ∧ first.sequence = second.sequence)

def OutboxRow.Conflict (first second : OutboxRow) : Prop :=
  first.toOutboxKey.Conflict second.toOutboxKey
  deriving Decidable

abbrev Outbox := Table OutboxRow OutboxRow.Conflict

structure ClaimedRunEvent where
  outboxId : Nat
  runId : RunId
  sequence : Nat
  dedupeKey : String
  attempts : Nat

namespace OutboxRow

/-- A new row of `enqueue`. -/
def enqueued (outboxId : Nat) (runId : RunId) (sequence : Nat) (now : DateTime) : OutboxRow where
  outboxId := outboxId
  runId := runId
  sequence := sequence
  dedupeKey := runId ++ ":" ++ toString sequence
  createdAt := now
  status := "pending"
  attempts := 0
  availableAt := none
  leaseOwner := none
  leaseExpiresAt := none
  lastError := none
  publishedAt := none

/-- The condition of `claim_batch`. -/
def Claimable (row : OutboxRow) (claimTime : DateTime) : Prop :=
  (row.status = "pending" ∨
      (row.status = "publishing" ∧ ∃ expiresAt ∈ row.leaseExpiresAt, expiresAt ≤ claimTime)) ∧
    ∀ availableAt ∈ row.availableAt, availableAt ≤ claimTime
  deriving Decidable

def claim (leaseOwner : String) (leaseSeconds : Int) (claimTime : DateTime) (row : OutboxRow) :
    OutboxRow :=
  { row with
    status := "publishing"
    leaseOwner := some leaseOwner
    leaseExpiresAt := some (claimTime + seconds leaseSeconds)
    attempts := row.attempts + 1 }

def read (row : OutboxRow) : ClaimedRunEvent where
  outboxId := row.outboxId
  runId := row.runId
  sequence := row.sequence
  dedupeKey := row.dedupeKey
  attempts := row.attempts

end OutboxRow

namespace RunEventOutboxStore

/-- The rows that `claim_batch` writes, of those it can see and lock. -/
def claimBatch (leaseOwner : String) (limit : Nat) (leaseSeconds : Int) (claimTime : DateTime)
    (rows : List OutboxRow) : List OutboxRow :=
  ((sortBy (fun row => toLex (row.runId, row.sequence))
    (rows.filter fun row => row.Claimable claimTime)).take limit).map
      (OutboxRow.claim leaseOwner leaseSeconds claimTime)

/-- What `mark_published` writes; nothing where it answers `False`. -/
def markPublished (row : OutboxRow) (now : DateTime) : Option OutboxRow :=
  if row.status ≠ "publishing" then none
  else
    some { row with
      status := "published"
      publishedAt := some now
      leaseOwner := none
      leaseExpiresAt := none
      lastError := none }

/-- What `mark_retry` writes; nothing where it answers `False`. -/
def markRetry (row : OutboxRow) (errorSummary : String) (availableAt : DateTime) :
    Option OutboxRow :=
  if row.status ≠ "publishing" then none
  else
    some { row with
      status := "pending"
      availableAt := some availableAt
      leaseOwner := none
      leaseExpiresAt := none
      lastError := some (sliceTo errorSummary 2000) }

end RunEventOutboxStore

/-! ## Publishers -/

/-- Seconds until the next attempt. -/
def retryDelay (attempts : Nat) : Nat := min 60 (2 ^ min attempts 6)

/-- Where `publish_run_event_outbox` stands in a session. -/
inductive PublishPhase where
  | idle
  | claiming (workerId : String) (limit : Nat) (claimTime : DateTime)
  | notifying (items : List ClaimedRunEvent) (published : Nat)
  | acknowledging (item : ClaimedRunEvent) (rest : List ClaimedRunEvent) (published : Nat)
  | retrying (item : ClaimedRunEvent) (rest : List ClaimedRunEvent) (published : Nat)
      (errorSummary : String) (availableAt : DateTime)

structure OutboxState where
  /-- What is committed. -/
  outbox : Outbox
  nextId : Nat
  now : DateTime
  /-- Rows that a session has locked, as it will commit them. -/
  drafts : List (Nat × OutboxRow)
  phases : Nat → PublishPhase

inductive OutboxInput where
  | enqueue (runId : RunId) (sequence : Nat)
  | publish (session : Nat) (workerId : String) (limit : Nat)
  | claim (session : Nat)
  | notify (session : Nat) (failure : Option String)
  | mark (session : Nat)
  | commit (session : Nat)
  | crash (session : Nat)
  | tick (elapsed : Nat)

inductive OutboxAnswer where
  | nothing
  | enqueued (outboxId : Nat) (runId : RunId)
  | claimed (items : List ClaimedRunEvent)
  | notified (runId : RunId)
  | failed (item : ClaimedRunEvent) (failedAt : DateTime)
  | marked (done : Bool)

namespace OutboxState

def initial (now : DateTime) : OutboxState := ⟨.empty, 0, now, [], fun _ => .idle⟩

/-- The draft of a row, and the session that holds it. -/
def draft (state : OutboxState) (outboxId : Nat) : Option (Nat × OutboxRow) :=
  state.drafts.find? fun draft => draft.2.outboxId = outboxId

/-- The row as a session sees it; nothing where another session has locked it. -/
def lock (state : OutboxState) (session : Nat) (row : OutboxRow) : Option OutboxRow :=
  match state.draft row.outboxId with
  | none => some row
  | some (holder, draft) => if holder = session then some draft else none

/-- Keep what a session writes until it commits. -/
def write (state : OutboxState) (session : Nat) (row : OutboxRow) : OutboxState :=
  { state with
    drafts := (session, row) ::
      state.drafts.filter fun draft => draft.2.outboxId ≠ row.outboxId }

def setPhase (state : OutboxState) (session : Nat) (phase : PublishPhase) : OutboxState :=
  { state with phases := Function.update state.phases session phase }

def enqueue (state : OutboxState) (runId : RunId) (sequence : Nat) :
    OutboxState × OutboxAnswer :=
  match state.outbox.insert (.enqueued state.nextId runId sequence state.now) with
  | none => (state, .nothing)
  | some outbox =>
    ({ state with outbox := outbox, nextId := state.nextId + 1 }, .enqueued state.nextId runId)

/-- `claim_batch`, skipping locked rows. -/
def claim (state : OutboxState) (session : Nat) (workerId : String) (limit : Nat)
    (claimTime : DateTime) : OutboxState × OutboxAnswer :=
  let claimed := RunEventOutboxStore.claimBatch workerId limit 30 claimTime
    (state.outbox.rows.filterMap (state.lock session))
  let items := claimed.map OutboxRow.read
  ((claimed.foldl (fun state row => state.write session row) state).setPhase session
    (.notifying items 0), .claimed items)

/-- `notify_run_event` for the next item: it returns, or raises. -/
def notify (state : OutboxState) (session : Nat) (item : ClaimedRunEvent)
    (rest : List ClaimedRunEvent) (published : Nat) : Option String → OutboxState × OutboxAnswer
  | none => (state.setPhase session (.acknowledging item rest published), .notified item.runId)
  | some error =>
    (state.setPhase session (.retrying item rest published error
      (state.now + seconds (retryDelay item.attempts))), .failed item state.now)

/-- `_for_update` and a write to the row; it waits while another session has the
row locked. -/
def mark (state : OutboxState) (session : Nat) (item : ClaimedRunEvent)
    (change : OutboxRow → Option OutboxRow) (next : Bool → PublishPhase) :
    OutboxState × OutboxAnswer :=
  match state.outbox.rows.find? fun row => row.outboxId == item.outboxId with
  | none => (state.setPhase session (next false), .marked false)
  | some row =>
    match state.lock session row with
    | none => (state, .nothing)
    | some seen =>
      match change seen with
      | none => (state.setPhase session (next false), .marked false)
      | some written => ((state.write session written).setPhase session (next true), .marked true)

/-- The session's drafts become the rows; its other columns stay. -/
def commit (state : OutboxState) (session : Nat) : OutboxState :=
  let written (row : OutboxRow) : OutboxRow :=
    { (state.lock session row).getD row with toOutboxKey := row.toOutboxKey }
  { state with
    outbox := state.outbox.update (fun _ => true) written fun _ _ clash => clash
    drafts := state.drafts.filter fun draft => draft.1 ≠ session }

/-- The session is gone, and with it what it has not committed. -/
def crash (state : OutboxState) (session : Nat) : OutboxState :=
  { state with drafts := state.drafts.filter fun draft => draft.1 ≠ session }.setPhase session .idle

def step (state : OutboxState) : OutboxInput → OutboxState × OutboxAnswer
  | .enqueue runId sequence => state.enqueue runId sequence
  | .publish session workerId limit =>
    match state.phases session with
    | .idle | .notifying [] _ =>
      (state.setPhase session (.claiming workerId limit state.now), .nothing)
    | _ => (state, .nothing)
  | .claim session =>
    match state.phases session with
    | .claiming workerId limit claimTime => state.claim session workerId limit claimTime
    | _ => (state, .nothing)
  | .notify session failure =>
    match state.phases session with
    | .notifying (item :: rest) published => state.notify session item rest published failure
    | _ => (state, .nothing)
  | .mark session =>
    match state.phases session with
    | .acknowledging item rest published =>
      state.mark session item (RunEventOutboxStore.markPublished · state.now)
        fun done => .notifying rest (if done then published + 1 else published)
    | .retrying item rest published errorSummary availableAt =>
      state.mark session item (RunEventOutboxStore.markRetry · errorSummary availableAt)
        fun _ => .notifying rest published
    | _ => (state, .nothing)
  | .commit session => (state.commit session, .nothing)
  | .crash session => (state.crash session, .nothing)
  | .tick elapsed => ({ state with now := state.now + elapsed }, .nothing)

end OutboxState

/-- Any number of sessions over one table. -/
def outboxMachine : Machine OutboxState OutboxInput OutboxAnswer where
  initial state := ∃ now, state = .initial now
  step := OutboxState.step

/-! ## Delivery through the event outbox -/

abbrev OutboxHistory := History OutboxInput OutboxAnswer

namespace OutboxHistory

variable {history : OutboxHistory} {outboxId : Nat} {runId : RunId}

def Enqueued (history : OutboxHistory) (outboxId : Nat) (runId : RunId) : Prop :=
  ∃ entry ∈ history, entry.2 = .enqueued outboxId runId

def Claimed (history : OutboxHistory) (item : ClaimedRunEvent) : Prop :=
  ∃ entry ∈ history, ∃ items, entry.2 = .claimed items ∧ item ∈ items

/-- The run was notified after the row was enqueued. -/
def NotifiedSince (history : OutboxHistory) (outboxId : Nat) (runId : RunId) : Prop :=
  ∃ later entry earlier, history = later ++ entry :: earlier ∧
    entry.2 = .enqueued outboxId runId ∧ ∃ other ∈ later, other.2 = .notified runId

/-- The row is due again after a failed attempt, as long after it as the number
of the attempt asks for. -/
def DueAfterFailure (history : OutboxHistory) (outboxId : Nat) (availableAt : DateTime) : Prop :=
  ∃ entry ∈ history, ∃ item failedAt, entry.2 = .failed item failedAt ∧
    item.outboxId = outboxId ∧ Claimed history item ∧ 1 ≤ item.attempts ∧
      availableAt = failedAt + seconds (retryDelay item.attempts)

variable {entry : OutboxInput × OutboxAnswer}

theorem Enqueued.cons (enqueued : Enqueued history outboxId runId) :
    Enqueued (entry :: history) outboxId runId :=
  enqueued.imp fun _ => And.imp_left (mem_cons_of_mem _)

theorem Claimed.cons {item : ClaimedRunEvent} (claimed : Claimed history item) :
    Claimed (entry :: history) item :=
  claimed.imp fun _ => And.imp_left (mem_cons_of_mem _)

theorem NotifiedSince.cons (notified : NotifiedSince history outboxId runId) :
    NotifiedSince (entry :: history) outboxId runId := by
  rcases notified with ⟨later, enqueuing, earlier, rfl, isEnqueuing, other, mem, isNotifying⟩
  exact ⟨entry :: later, enqueuing, earlier, rfl, isEnqueuing, other, mem_cons_of_mem _ mem,
    isNotifying⟩

theorem Enqueued.notified (enqueued : Enqueued history outboxId runId) {input : OutboxInput} :
    NotifiedSince ((input, .notified runId) :: history) outboxId runId := by
  rcases enqueued with ⟨enqueuing, mem, isEnqueuing⟩
  rcases append_of_mem mem with ⟨later, earlier, rfl⟩
  exact ⟨_ :: later, enqueuing, earlier, rfl, isEnqueuing, _, mem_cons_self, rfl⟩

theorem DueAfterFailure.cons {availableAt : DateTime}
    (due : DueAfterFailure history outboxId availableAt) :
    DueAfterFailure (entry :: history) outboxId availableAt := by
  rcases due with ⟨failing, mem, item, failedAt, isFailing, same, claimed, attempted⟩
  exact ⟨failing, mem_cons_of_mem _ mem, item, failedAt, isFailing, same, claimed.cons,
    attempted⟩

end OutboxHistory

open OutboxHistory

structure OutboxRow.Backed (history : OutboxHistory) (row : OutboxRow) : Prop where
  enqueued : OutboxHistory.Enqueued history row.outboxId row.runId
  status : row.status = "pending" ∨ (row.status = "publishing" ∧ row.leaseExpiresAt.isSome) ∨
    (row.status = "published" ∧ NotifiedSince history row.outboxId row.runId)
  due : ∀ availableAt ∈ row.availableAt, DueAfterFailure history row.outboxId availableAt

namespace OutboxRow.Backed

variable {history : OutboxHistory} {row : OutboxRow}

theorem cons {entry : OutboxInput × OutboxAnswer} (backed : row.Backed history) :
    row.Backed (entry :: history) where
  enqueued := backed.enqueued.cons
  status := backed.status.imp_right (Or.imp_right (And.imp_right NotifiedSince.cons))
  due availableAt member := (backed.due availableAt member).cons

theorem claim (backed : row.Backed history) (leaseOwner : String) (leaseSeconds : Int)
    (claimTime : DateTime) : (row.claim leaseOwner leaseSeconds claimTime).Backed history where
  enqueued := backed.enqueued
  status := Or.inr (Or.inl ⟨rfl, rfl⟩)
  due := backed.due

variable {written : OutboxRow}

theorem markPublished (backed : row.Backed history)
    (notified : NotifiedSince history row.outboxId row.runId) {now : DateTime}
    (isWritten : RunEventOutboxStore.markPublished row now = some written) :
    written.Backed history ∧ written.toOutboxKey = row.toOutboxKey := by
  unfold RunEventOutboxStore.markPublished at isWritten
  split at isWritten
  next => cases isWritten
  next =>
    cases isWritten
    exact ⟨⟨backed.enqueued, Or.inr (Or.inr ⟨rfl, notified⟩), backed.due⟩, rfl⟩

theorem markRetry (backed : row.Backed history) {availableAt : DateTime}
    (due : DueAfterFailure history row.outboxId availableAt) {errorSummary : String}
    (isWritten : RunEventOutboxStore.markRetry row errorSummary availableAt = some written) :
    written.Backed history ∧ written.toOutboxKey = row.toOutboxKey := by
  unfold RunEventOutboxStore.markRetry at isWritten
  split at isWritten
  next => cases isWritten
  next =>
    cases isWritten
    refine ⟨⟨backed.enqueued, Or.inl rfl, ?_⟩, rfl⟩
    rintro _ ⟨⟩
    exact due

theorem published_or_claimable (backed : row.Backed history) :
    row.status = "published" ∨ ∃ since, ∀ time ≥ since, row.Claimable time := by
  have available : ∃ since, ∀ time ≥ since, ∀ availableAt ∈ row.availableAt, availableAt ≤ time := by
    cases row.availableAt with
    | none => exact ⟨0, fun _ _ _ absurd => nomatch absurd⟩
    | some availableAt => exact ⟨availableAt, fun _ late _ same => Option.some.inj same ▸ late⟩
  rcases available with ⟨since, available⟩
  rcases backed.status with pending | ⟨publishing, leased⟩ | ⟨published, _⟩
  · exact Or.inr ⟨since, fun time late => ⟨Or.inl pending, available time late⟩⟩
  · rcases Option.isSome_iff_exists.mp leased with ⟨expiresAt, isLease⟩
    refine Or.inr ⟨max since expiresAt, fun time late => ⟨Or.inr ⟨publishing, ?_⟩, ?_⟩⟩
    · exact ⟨expiresAt, isLease, le_trans (le_max_right _ _) late⟩
    · exact available time (le_trans (le_max_left _ _) late)
  · exact Or.inl published

end OutboxRow.Backed

/-! ## What every state keeps -/

/-- An item that was claimed from a row with its id and run. -/
structure ClaimedRunEvent.Backed (history : OutboxHistory) (item : ClaimedRunEvent) : Prop where
  enqueued : OutboxHistory.Enqueued history item.outboxId item.runId
  claimed : Claimed history item
  attempted : 1 ≤ item.attempts

variable {history : OutboxHistory} {entry : OutboxInput × OutboxAnswer}

theorem ClaimedRunEvent.Backed.cons {item : ClaimedRunEvent} (backed : item.Backed history) :
    item.Backed (entry :: history) :=
  ⟨backed.enqueued.cons, backed.claimed.cons, backed.attempted⟩

/-- What a publisher still has to do rests on what it has claimed and seen. -/
def PublishPhase.Backed (history : OutboxHistory) : PublishPhase → Prop
  | .idle | .claiming .. => True
  | .notifying items _ => ∀ item ∈ items, item.Backed history
  | .acknowledging item rest _ =>
    NotifiedSince history item.outboxId item.runId ∧ ∀ other ∈ item :: rest, other.Backed history
  | .retrying item rest _ _ availableAt =>
    DueAfterFailure history item.outboxId availableAt ∧
      ∀ other ∈ item :: rest, other.Backed history

theorem PublishPhase.Backed.cons {phase : PublishPhase} (backed : phase.Backed history) :
    phase.Backed (entry :: history) := by
  cases phase with
  | idle => trivial
  | claiming => trivial
  | notifying items published => exact fun item mem => (backed item mem).cons
  | acknowledging item rest published =>
    exact ⟨backed.1.cons, fun other mem => (backed.2 other mem).cons⟩
  | retrying item rest published errorSummary availableAt =>
    exact ⟨backed.1.cons, fun other mem => (backed.2 other mem).cons⟩

namespace OutboxState

/-- The row stands for a committed row that is not published. -/
def Unpublished (state : OutboxState) (row : OutboxRow) : Prop :=
  ∃ stored ∈ state.outbox.rows, stored.toOutboxKey = row.toOutboxKey ∧ stored.status ≠ "published"

structure Sound (history : OutboxHistory) (state : OutboxState) : Prop where
  rows : ∀ row ∈ state.outbox.rows, row.Backed history
  kept : ∀ outboxId runId, OutboxHistory.Enqueued history outboxId runId →
    ∃ row ∈ state.outbox.rows, row.outboxId = outboxId ∧ row.runId = runId
  drafts : ∀ draft ∈ state.drafts, draft.2.Backed history ∧ state.Unpublished draft.2
  held : state.drafts.Pairwise fun first second => first.2.outboxId ≠ second.2.outboxId
  phases : ∀ session, (state.phases session).Backed history

namespace Sound

variable {history : OutboxHistory} {state : OutboxState} {session : Nat} {row seen : OutboxRow}

theorem cons (sound : state.Sound history) (input : OutboxInput) {answer : OutboxAnswer}
    (other : ∀ outboxId runId, answer ≠ .enqueued outboxId runId) :
    state.Sound ((input, answer) :: history) where
  rows row member := (sound.rows row member).cons
  kept outboxId runId enqueued := by
    rcases enqueued with ⟨entry, member, isEnqueued⟩
    rcases mem_cons.mp member with rfl | earlier
    · exact absurd isEnqueued (other outboxId runId)
    · exact sound.kept outboxId runId ⟨entry, earlier, isEnqueued⟩
  drafts draft member := (sound.drafts draft member).imp_left OutboxRow.Backed.cons
  held := sound.held
  phases session := (sound.phases session).cons

theorem draft_spec (sound : state.Sound history) {outboxId : Nat} {draft : Nat × OutboxRow}
    (found : state.draft outboxId = some draft) :
    draft.2.outboxId = outboxId ∧ draft.2.Backed history ∧ state.Unpublished draft.2 := by
  have sameId := List.find?_some found
  exact ⟨of_decide_eq_true sameId, sound.drafts draft (mem_of_find?_eq_some found)⟩

end Sound

theorem eq_of_outboxId (state : OutboxState) {first second : OutboxRow}
    (firstMem : first ∈ state.outbox.rows) (secondMem : second ∈ state.outbox.rows)
    (same : first.outboxId = second.outboxId) : first = second := by
  refine Table.eq_of_conflict ?_ state.outbox firstMem secondMem (Or.inl same)
  rintro first second (same | same | ⟨sameRun, sameSequence⟩)
  · exact Or.inl same.symm
  · exact Or.inr (Or.inl same.symm)
  · exact Or.inr (Or.inr ⟨sameRun.symm, sameSequence.symm⟩)

variable {history : OutboxHistory} {state : OutboxState} {session : Nat} {row : OutboxRow}
  {seen : OutboxRow}

/-- A session sees a row as committed or as it has written it, and only a row
that is not published can have been written. -/
theorem Sound.lock_spec (sound : state.Sound history) (mem : row ∈ state.outbox.rows)
    (locked : state.lock session row = some seen) :
    seen.Backed history ∧ seen.toOutboxKey = row.toOutboxKey ∧
      (seen = row ∨ row.status ≠ "published") := by
  unfold lock at locked
  split at locked
  next free =>
    cases locked
    exact ⟨sound.rows row mem, rfl, Or.inl rfl⟩
  next holder draft found =>
    split at locked
    next =>
      cases locked
      rcases sound.draft_spec found with ⟨sameId, backed, stored, isStored, sameKey, unpublished⟩
      have same : stored = row :=
        state.eq_of_outboxId isStored mem
          ((congrArg OutboxKey.outboxId sameKey).trans sameId)
      subst same
      exact ⟨backed, sameKey.symm, Or.inr unpublished⟩
    next => cases locked

namespace Sound

variable {history : OutboxHistory} {state : OutboxState} {session : Nat} {row : OutboxRow}

theorem setPhase (sound : state.Sound history) {phase : PublishPhase}
    (backed : phase.Backed history) : (state.setPhase session phase).Sound history where
  rows := sound.rows
  kept := sound.kept
  drafts := sound.drafts
  held := sound.held
  phases other := by
    change (Function.update state.phases session phase other).Backed history
    by_cases same : other = session
    · subst same
      rw [update_self]
      exact backed
    · rw [update_of_ne same]
      exact sound.phases other

theorem write (sound : state.Sound history) (backed : row.Backed history)
    (unpublished : state.Unpublished row) : (state.write session row).Sound history where
  rows := sound.rows
  kept := sound.kept
  drafts draft member := by
    rcases mem_cons.mp member with rfl | other
    · exact ⟨backed, unpublished⟩
    · exact sound.drafts draft (mem_of_mem_filter other)
  held := by
    refine pairwise_cons.mpr ⟨fun draft member => ?_, sound.held.filter _⟩
    have apart := of_mem_filter member
    exact Ne.symm (of_decide_eq_true apart)
  phases := sound.phases

theorem writeAll (sound : state.Sound history) (session : Nat) {rows : List OutboxRow}
    (writable : ∀ row ∈ rows, row.Backed history ∧ state.Unpublished row) :
    (rows.foldl (fun state row => state.write session row) state).Sound history := by
  induction rows generalizing state with
  | nil => exact sound
  | cons row rest ih =>
    rcases forall_mem_cons.mp writable with ⟨first, others⟩
    exact ih (sound.write first.1 first.2) others

theorem release (sound : state.Sound history) :
    { state with drafts := state.drafts.filter fun draft => draft.1 ≠ session }.Sound history where
  rows := sound.rows
  kept := sound.kept
  drafts draft member := sound.drafts draft (mem_of_mem_filter member)
  held := sound.held.filter _
  phases := sound.phases

theorem crash (sound : state.Sound history) : (state.crash session).Sound history :=
  sound.release.setPhase trivial

theorem tick (sound : state.Sound history) (now : DateTime) :
    { state with now := now }.Sound history :=
  ⟨sound.rows, sound.kept, sound.drafts, sound.held, sound.phases⟩

end Sound

/-- The row as a session leaves it. -/
def committed (state : OutboxState) (session : Nat) (row : OutboxRow) : OutboxRow :=
  { (state.lock session row).getD row with toOutboxKey := row.toOutboxKey }

theorem rows_commit (state : OutboxState) (session : Nat) :
    (state.commit session).outbox.rows = state.outbox.rows.map (state.committed session) :=
  rfl

theorem mem_rows_commit :
    row ∈ (state.commit session).outbox.rows ↔
      ∃ stored ∈ state.outbox.rows, state.committed session stored = row := by
  rw [rows_commit, mem_map]

theorem committed_of_lock (locked : state.lock session row = some seen)
    (sameKey : seen.toOutboxKey = row.toOutboxKey) :
    state.committed session row = seen := by
  rw [committed, locked, Option.getD_some, ← sameKey]

theorem committed_of_locked (locked : state.lock session row = none) :
    state.committed session row = row := by
  rw [committed, locked, Option.getD_none]

/-- A commit leaves a row as it was, or puts what the session has written in the
place of a row that is not published. -/
theorem Sound.committed_spec (sound : state.Sound history) (session : Nat)
    (mem : row ∈ state.outbox.rows) :
    (state.committed session row).Backed history ∧
      (state.committed session row).toOutboxKey = row.toOutboxKey ∧
        (state.committed session row = row ∨ row.status ≠ "published") := by
  cases locked : state.lock session row with
  | none =>
    rw [committed_of_locked locked]
    exact ⟨sound.rows row mem, rfl, Or.inl rfl⟩
  | some seen =>
    rcases sound.lock_spec mem locked with ⟨backed, sameKey, kept⟩
    rw [committed_of_lock locked sameKey]
    exact ⟨backed, sameKey, kept⟩

theorem Sound.draft_of_mem {draft : Nat × OutboxRow} (sound : state.Sound history)
    (mem : draft ∈ state.drafts) :
    state.draft draft.2.outboxId = some draft := by
  cases found : state.draft draft.2.outboxId with
  | none =>
    have missed := List.find?_eq_none.mp found draft mem
    exact absurd (decide_eq_true rfl) missed
  | some other =>
    have sameId := (sound.draft_spec found).1
    by_contra different
    have apartSymm : Std.Symm fun first second : Nat × OutboxRow =>
        first.2.outboxId ≠ second.2.outboxId := ⟨fun _ _ => Ne.symm⟩
    exact sound.held.forall (mem_of_find?_eq_some found) mem
      (fun same => different (congrArg some same)) sameId

theorem Sound.commit (sound : state.Sound history) (session : Nat) :
    (state.commit session).Sound history where
  rows row member := by
    rcases mem_rows_commit.mp member with ⟨stored, isStored, rfl⟩
    exact (sound.committed_spec session isStored).1
  kept outboxId runId enqueued := by
    rcases sound.kept outboxId runId enqueued with ⟨row, member, sameId, sameRun⟩
    have sameKey := (sound.committed_spec session member).2.1
    exact ⟨_, mem_rows_commit.mpr ⟨row, member, rfl⟩,
      (congrArg OutboxKey.outboxId sameKey).trans sameId,
      (congrArg OutboxKey.runId sameKey).trans sameRun⟩
  drafts draft member := by
    rcases mem_filter.mp member with ⟨isDraft, others⟩
    rcases sound.drafts draft isDraft with ⟨backed, stored, isStored, sameKey, unpublished⟩
    -- another session holds the row, so this commit leaves it alone
    have locked : state.lock session stored = none := by
      have found := sound.draft_of_mem isDraft
      rw [← show stored.outboxId = draft.2.outboxId from congrArg OutboxKey.outboxId sameKey]
        at found
      rw [lock, found]
      exact if_neg (of_decide_eq_true others)
    exact ⟨backed, stored,
      mem_rows_commit.mpr ⟨stored, isStored, committed_of_locked locked⟩, sameKey, unpublished⟩
  held := sound.held.filter _
  phases := sound.phases

variable {limit : Nat} {claimTime : DateTime} {leaseOwner : String} {leaseSeconds : Int}
  {rows : List OutboxRow} {claimed : OutboxRow}

theorem mem_claimBatch (mem : claimed ∈
      claimBatch leaseOwner limit leaseSeconds claimTime rows) :
    ∃ row ∈ rows, row.Claimable claimTime ∧
      claimed = row.claim leaseOwner leaseSeconds claimTime := by
  rcases mem_map.mp mem with ⟨row, taken, rfl⟩
  rcases mem_filter.mp (mem_sortBy.mp (mem_of_mem_take taken)) with ⟨isRow, claimable⟩
  exact ⟨row, isRow, of_decide_eq_true claimable, rfl⟩

theorem claim_mem_claimBatch (mem : row ∈ rows) (claimable : row.Claimable claimTime)
    (room : rows.length ≤ limit) :
    row.claim leaseOwner leaseSeconds claimTime ∈
      claimBatch leaseOwner limit leaseSeconds claimTime rows := by
  refine mem_map_of_mem ?_
  rw [take_of_length_le]
  · exact mem_sortBy.mpr (mem_filter.mpr ⟨mem, decide_eq_true claimable⟩)
  · rw [(sortBy_perm _ _).length_eq]
    exact (length_filter_le _ _).trans room

variable {workerId : String}

/-- A claimed row was seen by its session, and is published neither there nor
where it is stored. -/
theorem Sound.claimable_spec (sound : state.Sound history)
    (mem : claimed ∈ claimBatch workerId limit 30 claimTime
      (state.outbox.rows.filterMap (state.lock session))) :
    ∃ row ∈ state.outbox.rows, ∃ seen ∈ state.lock session row,
      claimed = seen.claim workerId 30 claimTime ∧ seen.Backed history ∧
        seen.toOutboxKey = row.toOutboxKey ∧ seen.status ≠ "published" ∧
          row.status ≠ "published" := by
  rcases mem_claimBatch mem with ⟨seen, isSeen, claimable, isClaim⟩
  rcases mem_filterMap.mp isSeen with ⟨row, isRow, locked⟩
  rcases sound.lock_spec isRow locked with ⟨backed, sameKey, kept⟩
  have unpublished : seen.status ≠ "published" := by
    rcases claimable.1 with pending | ⟨publishing, _⟩
    · rw [pending]
      decide
    · rw [publishing]
      decide
  refine ⟨row, isRow, seen, locked, isClaim, backed, sameKey, unpublished, ?_⟩
  rcases kept with rfl | other
  · exact unpublished
  · exact other

theorem Sound.claim (sound : state.Sound history) (input : OutboxInput) :
    (state.claim session workerId limit claimTime).1.Sound
      ((input, (state.claim session workerId limit claimTime).2) :: history) := by
  let claimed := claimBatch workerId limit 30 claimTime
    (state.outbox.rows.filterMap (state.lock session))
  let answer : OutboxAnswer := .claimed (claimed.map OutboxRow.read)
  have observed : state.Sound ((input, answer) :: history) := sound.cons input (by simp [answer])
  have written := observed.writeAll session fun (row : OutboxRow) (mem : row ∈ claimed) => by
    rcases sound.claimable_spec mem with
      ⟨stored, isStored, seen, _, rfl, backed, sameKey, _, unpublished⟩
    exact ⟨(backed.claim workerId 30 claimTime).cons, stored, isStored, sameKey.symm, unpublished⟩
  refine written.setPhase fun item mem => ?_
  rcases mem_map.mp mem with ⟨row, isClaimed, rfl⟩
  rcases sound.claimable_spec isClaimed with ⟨_, _, seen, _, rfl, backed, _⟩
  exact
    { enqueued := backed.enqueued.cons
      claimed := ⟨_, mem_cons_self, _, rfl, mem⟩
      attempted := Nat.le_add_left 1 seen.attempts }

variable {item : ClaimedRunEvent}

theorem Sound.notify {rest : List ClaimedRunEvent} {published : Nat} (sound : state.Sound history)
    (backed : ∀ other ∈ item :: rest, other.Backed history) (input : OutboxInput)
    (failure : Option String) :
    (state.notify session item rest published failure).1.Sound
      ((input, (state.notify session item rest published failure).2) :: history) := by
  have first : item.Backed history := backed item mem_cons_self
  cases failure with
  | none =>
    refine (sound.cons input (by simp [OutboxState.notify])).setPhase ⟨?_, ?_⟩
    · exact first.enqueued.notified
    · exact fun other mem => (backed other mem).cons
  | some error =>
    refine (sound.cons input (by simp [OutboxState.notify])).setPhase ⟨?_, ?_⟩
    · exact ⟨_, mem_cons_self, item, state.now, rfl, rfl, first.claimed.cons, first.attempted,
        rfl⟩
    · exact fun other mem => (backed other mem).cons

theorem Sound.found_spec (sound : state.Sound history) (backed : item.Backed history)
    (found : state.outbox.rows.find? (fun row => row.outboxId == item.outboxId) = some row) :
    row ∈ state.outbox.rows ∧ row.outboxId = item.outboxId ∧ row.runId = item.runId := by
  have isRow := mem_of_find?_eq_some found
  have sameId : row.outboxId = item.outboxId := by
    simpa using List.find?_some found
  rcases sound.kept _ _ backed.enqueued with ⟨stored, isStored, storedId, storedRun⟩
  rw [state.eq_of_outboxId isRow isStored (sameId.trans storedId.symm)]
  exact ⟨isStored, storedId, storedRun⟩

/-- What a mark may write in place of a row it sees. -/
structure Marks (history : OutboxHistory) (item : ClaimedRunEvent)
    (change : OutboxRow → Option OutboxRow) : Prop where
  backed : ∀ seen written, seen.Backed history → seen.outboxId = item.outboxId →
    seen.runId = item.runId → change seen = some written →
      written.Backed history ∧ written.toOutboxKey = seen.toOutboxKey
  unpublished : ∀ seen written, change seen = some written → seen.status ≠ "published"

theorem Sound.mark {change : OutboxRow → Option OutboxRow} {next : Bool → PublishPhase}
    (sound : state.Sound history) (session : Nat) (backed : item.Backed history)
    (marks : Marks history item change) (follows : ∀ done, (next done).Backed history)
    (input : OutboxInput) :
    (state.mark session item change next).1.Sound
      ((input, (state.mark session item change next).2) :: history) := by
  unfold OutboxState.mark
  split
  next => exact (sound.cons input (by simp)).setPhase (follows false).cons
  next row found =>
    rcases sound.found_spec backed found with ⟨isRow, sameId, sameRun⟩
    split
    next => exact sound.cons input (by simp)
    next seen locked =>
      rcases sound.lock_spec isRow locked with ⟨seenBacked, sameKey, kept⟩
      split
      next => exact (sound.cons input (by simp)).setPhase (follows false).cons
      next written changed =>
        have seenId := (congrArg OutboxKey.outboxId sameKey).trans sameId
        have seenRun := (congrArg OutboxKey.runId sameKey).trans sameRun
        rcases marks.backed seen written seenBacked seenId seenRun changed with
          ⟨writtenBacked, writtenKey⟩
        have unpublished : row.status ≠ "published" := by
          rcases kept with rfl | other
          · exact marks.unpublished seen written changed
          · exact other
        have observed : state.Sound ((input, .marked true) :: history) :=
          sound.cons input (by simp)
        refine (observed.write writtenBacked.cons ?_).setPhase (follows true).cons
        exact ⟨row, isRow, sameKey.symm.trans writtenKey.symm, unpublished⟩

theorem marks_markPublished (notified : NotifiedSince history item.outboxId item.runId)
    (now : DateTime) :
    Marks history item (RunEventOutboxStore.markPublished · now) where
  backed seen written backed sameId sameRun isWritten :=
    backed.markPublished (by rw [sameId, sameRun]; exact notified) isWritten
  unpublished seen written isWritten := by
    unfold RunEventOutboxStore.markPublished at isWritten
    split at isWritten
    next => cases isWritten
    next publishing =>
      rw [not_not.mp publishing]
      decide

theorem marks_markRetry {availableAt : DateTime}
    (due : DueAfterFailure history item.outboxId availableAt) (errorSummary : String) :
    Marks history item (RunEventOutboxStore.markRetry · errorSummary availableAt) where
  backed seen written backed sameId _ isWritten :=
    backed.markRetry (by rw [sameId]; exact due) isWritten
  unpublished seen written isWritten := by
    unfold RunEventOutboxStore.markRetry at isWritten
    split at isWritten
    next => cases isWritten
    next publishing =>
      rw [not_not.mp publishing]
      decide

theorem Sound.enqueue (sound : state.Sound history) (runId : RunId) (sequence : Nat) :
    (state.enqueue runId sequence).1.Sound
      ((.enqueue runId sequence, (state.enqueue runId sequence).2) :: history) := by
  unfold OutboxState.enqueue
  split
  next => exact sound.cons _ (by simp)
  next outbox inserted =>
    have grown := Table.rows_of_insert inserted
    have old {row : OutboxRow} (mem : row ∈ state.outbox.rows) : row ∈ outbox.rows :=
      grown ▸ mem_append_left _ mem
    have new : OutboxRow.enqueued state.nextId runId sequence state.now ∈ outbox.rows :=
      grown ▸ mem_append_right _ mem_cons_self
    exact
      { rows := by
          intro row mem
          rw [grown, mem_append, mem_singleton] at mem
          rcases mem with earlier | rfl
          · exact (sound.rows row earlier).cons
          · exact ⟨⟨_, mem_cons_self, rfl⟩, Or.inl rfl, fun _ absurd => nomatch absurd⟩
        kept := by
          rintro outboxId other ⟨entry, mem, isEnqueued⟩
          rcases mem_cons.mp mem with rfl | earlier
          · cases isEnqueued
            exact ⟨_, new, rfl, rfl⟩
          · rcases sound.kept outboxId other ⟨entry, earlier, isEnqueued⟩ with ⟨row, isRow, same⟩
            exact ⟨row, old isRow, same⟩
        drafts := by
          intro draft mem
          rcases sound.drafts draft mem with ⟨backed, stored, isStored, unpublished⟩
          exact ⟨backed.cons, stored, old isStored, unpublished⟩
        held := sound.held
        phases := fun session => (sound.phases session).cons }

theorem Sound.step (sound : state.Sound history) (input : OutboxInput) :
    (state.step input).1.Sound ((input, (state.step input).2) :: history) := by
  cases input with
  | enqueue runId sequence => exact sound.enqueue runId sequence
  | publish session workerId limit =>
    simp only [OutboxState.step]
    split
    · exact (sound.cons _ (by simp)).setPhase trivial
    · exact (sound.cons _ (by simp)).setPhase trivial
    · exact sound.cons _ (by simp)
  | claim session =>
    simp only [OutboxState.step]
    split
    · exact sound.claim _
    · exact sound.cons _ (by simp)
  | notify session failure =>
    simp only [OutboxState.step]
    split
    next item rest published atItem =>
      have backed := sound.phases session
      rw [atItem] at backed
      exact sound.notify backed _ failure
    next => exact sound.cons _ (by simp)
  | mark session =>
    have backed := sound.phases session
    simp only [OutboxState.step]
    split
    next item rest published atItem =>
      rw [atItem] at backed
      rcases forall_mem_cons.mp backed.2 with ⟨first, others⟩
      refine sound.mark session first (marks_markPublished backed.1 state.now) ?_ _
      exact fun _ => others
    next item rest published errorSummary availableAt atItem =>
      rw [atItem] at backed
      rcases forall_mem_cons.mp backed.2 with ⟨first, others⟩
      refine sound.mark session first (marks_markRetry backed.1 errorSummary) ?_ _
      exact fun _ => others
    next => exact sound.cons _ (by simp)
  | commit session =>
    have observed : state.Sound ((.commit session, .nothing) :: history) := sound.cons _ (by simp)
    exact observed.commit session
  | crash session =>
    have observed : state.Sound ((.crash session, .nothing) :: history) := sound.cons _ (by simp)
    exact observed.crash
  | tick elapsed =>
    have observed : state.Sound ((.tick elapsed, .nothing) :: history) := sound.cons _ (by simp)
    exact observed.tick _

theorem sound_initial (now : DateTime) : (initial now).Sound [] where
  rows _ absurd := nomatch absurd
  kept _ _ := by
    rintro ⟨_, absurd, _⟩
    cases absurd
  drafts _ absurd := nomatch absurd
  held := .nil
  phases _ := trivial

theorem sound_of_run (run : outboxMachine.Run (fun _ _ _ => True) state history) :
    state.Sound history := by
  refine run.invariant (fun state history => state.Sound history) ?_ ?_
  · rintro _ ⟨now, rfl⟩
    exact sound_initial now
  · exact fun state history input sound _ => sound.step input

theorem outbox_writeAll (rows : List OutboxRow) (session : Nat) (state : OutboxState) :
    (rows.foldl (fun state row => state.write session row) state).outbox = state.outbox := by
  induction rows generalizing state with
  | nil => rfl
  | cons row rest ih => exact ih (state.write session row)

theorem outbox_mark (state : OutboxState) (session : Nat) (item : ClaimedRunEvent)
    (change : OutboxRow → Option OutboxRow) (next : Bool → PublishPhase) :
    (state.mark session item change next).1.outbox = state.outbox := by
  unfold mark
  split
  next => rfl
  next =>
    split
    next => rfl
    next =>
      split
      next => rfl
      next => rfl

theorem mem_step_or_commit (mem : row ∈ state.outbox.rows) (input : OutboxInput) :
    row ∈ (state.step input).1.outbox.rows ∨ ∃ session, input = .commit session := by
  cases input with
  | enqueue runId sequence =>
    left
    simp only [OutboxState.step, OutboxState.enqueue]
    split
    next => exact mem
    next outbox inserted =>
      exact Table.rows_of_insert inserted ▸ mem_append_left _ mem
  | publish session workerId limit =>
    left
    simp only [OutboxState.step]
    split <;> exact mem
  | claim session =>
    left
    simp only [OutboxState.step]
    split
    next =>
      change row ∈ (List.foldl (fun state row => state.write session row) state _).outbox.rows
      rw [outbox_writeAll]
      exact mem
    next => exact mem
  | notify session failure =>
    left
    simp only [OutboxState.step]
    split
    next => cases failure <;> exact mem
    next => exact mem
  | mark session =>
    left
    simp only [OutboxState.step]
    split
    next =>
      rw [outbox_mark]
      exact mem
    next =>
      rw [outbox_mark]
      exact mem
    next => exact mem
  | commit session => exact .inr ⟨session, rfl⟩
  | crash session => exact .inl mem
  | tick elapsed => exact .inl mem

theorem Sound.published_step (sound : state.Sound history) (mem : row ∈ state.outbox.rows)
    (published : row.status = "published") (input : OutboxInput) :
    row ∈ (state.step input).1.outbox.rows := by
  rcases mem_step_or_commit mem input with kept | ⟨session, rfl⟩
  · exact kept
  · refine mem_rows_commit.mpr ⟨row, mem, ?_⟩
    rcases (sound.committed_spec session mem).2.2 with same | unpublished
    · exact same
    · exact absurd published unpublished

theorem Sound.published_drive (sound : state.Sound history) (mem : row ∈ state.outbox.rows)
    (published : row.status = "published") (inputs : List OutboxInput) :
    row ∈ (outboxMachine.drive (state, history) inputs).1.outbox.rows := by
  induction inputs generalizing state history with
  | nil => exact mem
  | cons input rest ih =>
    exact ih (sound.step input) (sound.published_step mem published input)

end OutboxState

/-! ## Delivery -/

/-- At any moment of a run: what was enqueued is stored, and is published or can
be claimed from some time on, whether sessions commit or crash; a batch with
room for it has a row that can be claimed; a published row stays so and is in no
batch; it follows a notification of its run; and a row
waits for as long after a failed attempt as the number of that attempt says. -/
structure OutboxState.Delivers (history : OutboxHistory) (state : OutboxState) : Prop where
  stored : ∀ outboxId runId, OutboxHistory.Enqueued history outboxId runId →
    ∃ row ∈ state.outbox.rows, row.outboxId = outboxId ∧ row.runId = runId
  claimable : ∀ row,
    row ∈ state.outbox.rows ∨ row ∈ state.drafts.map Prod.snd →
      row.status = "published" ∨ ∃ since, ∀ time ≥ since, row.Claimable time
  offered : ∀ session workerId limit claimTime,
    state.phases session = .claiming workerId limit claimTime →
      ∀ row ∈ state.outbox.rows, row.Claimable claimTime → state.draft row.outboxId = none →
        state.outbox.rows.length ≤ limit → ∃ items, (state.step (.claim session)).2 =
          .claimed items ∧ ∃ item ∈ items, item.outboxId = row.outboxId
  final : ∀ row ∈ state.outbox.rows, row.status = "published" →
    ∀ inputs, row ∈ (outboxMachine.drive (state, history) inputs).1.outbox.rows
  claimed : ∀ session items, (state.step (.claim session)).2 = .claimed items →
    ∀ item ∈ items, ∀ row ∈ state.outbox.rows, row.outboxId = item.outboxId →
      row.status ≠ "published" ∧ ∃ seen ∈ state.lock session row,
        seen.status ≠ "published" ∧ item.attempts = seen.attempts + 1
  notified : ∀ row ∈ state.outbox.rows, row.status = "published" →
    NotifiedSince history row.outboxId row.runId
  delayed : ∀ row ∈ state.outbox.rows, ∀ availableAt ∈ row.availableAt,
    ∃ entry ∈ history, ∃ item failedAt, entry.2 = .failed item failedAt ∧
      item.outboxId = row.outboxId ∧ Claimed history item ∧
        availableAt = failedAt + seconds (min 60 (2 ^ min item.attempts 6) : Nat)

theorem OutboxState.offered (state : OutboxState) (session : Nat) (workerId : String) (limit : Nat)
    (claimTime : DateTime) (atClaim : state.phases session = .claiming workerId limit claimTime)
    (row : OutboxRow) (isRow : row ∈ state.outbox.rows) (claimable : row.Claimable claimTime)
    (free : state.draft row.outboxId = none) (room : state.outbox.rows.length ≤ limit) :
    ∃ items, (state.step (.claim session)).2 = .claimed items ∧
      ∃ item ∈ items, item.outboxId = row.outboxId := by
  have locked : state.lock session row = some row := by
    rw [OutboxState.lock, free]
  have isSeen := mem_filterMap.mpr ⟨row, isRow, locked⟩
  simp only [OutboxState.step, atClaim]
  refine ⟨_, rfl, _, mem_map_of_mem (claim_mem_claimBatch isSeen claimable ?_), rfl⟩
  exact (length_filterMap_le _ _).trans room

namespace OutboxState.Sound

variable {history : OutboxHistory} {state : OutboxState}

theorem claimable (sound : state.Sound history) (row : OutboxRow)
    (mem : row ∈ state.outbox.rows ∨ row ∈ state.drafts.map Prod.snd) :
    row.status = "published" ∨ ∃ since, ∀ time ≥ since, row.Claimable time := by
  rcases mem with isRow | isDraft
  · exact (sound.rows row isRow).published_or_claimable
  · rcases mem_map.mp isDraft with ⟨draft, mem, rfl⟩
    exact (sound.drafts draft mem).1.published_or_claimable

theorem claimed (sound : state.Sound history) (session : Nat) (items : List ClaimedRunEvent)
    (answered : (state.step (.claim session)).2 = .claimed items) (item : ClaimedRunEvent)
    (mem : item ∈ items) (row : OutboxRow) (isRow : row ∈ state.outbox.rows)
    (same : row.outboxId = item.outboxId) :
    row.status ≠ "published" ∧ ∃ seen ∈ state.lock session row,
      seen.status ≠ "published" ∧ item.attempts = seen.attempts + 1 := by
  simp only [OutboxState.step] at answered
  split at answered
  next workerId limit claimTime =>
    cases answered
    rcases mem_map.mp mem with ⟨claimed, isClaimed, rfl⟩
    rcases sound.claimable_spec isClaimed with
      ⟨stored, isStored, seen, locked, rfl, _, sameKey, unseen, unpublished⟩
    have isSame : stored = row :=
      state.eq_of_outboxId isStored isRow
        ((congrArg OutboxKey.outboxId sameKey).symm.trans same.symm)
    subst isSame
    exact ⟨unpublished, seen, locked, unseen, rfl⟩
  next => cases answered

theorem notified (sound : state.Sound history) (row : OutboxRow)
    (mem : row ∈ state.outbox.rows) (published : row.status = "published") :
    NotifiedSince history row.outboxId row.runId := by
  rcases (sound.rows row mem).status with pending | ⟨publishing, _⟩ | ⟨_, notified⟩
  · exact absurd (pending.symm.trans published) (by decide)
  · exact absurd (publishing.symm.trans published) (by decide)
  · exact notified

theorem delayed (sound : state.Sound history) (row : OutboxRow)
    (mem : row ∈ state.outbox.rows) (availableAt : DateTime)
    (isAvailable : availableAt ∈ row.availableAt) :
    ∃ entry ∈ history, ∃ item failedAt, entry.2 = .failed item failedAt ∧
      item.outboxId = row.outboxId ∧ Claimed history item ∧
        availableAt = failedAt + seconds (min 60 (2 ^ min item.attempts 6) : Nat) := by
  rcases (sound.rows row mem).due availableAt isAvailable with
    ⟨entry, isEntry, item, failedAt, failed, same, claimed, _, isDelay⟩
  exact ⟨entry, isEntry, item, failedAt, failed, same, claimed, isDelay⟩

end OutboxState.Sound

theorem outbox_delivers {history : OutboxHistory} {state : OutboxState}
    (run : outboxMachine.Run (fun _ _ _ => True) state history) : state.Delivers history where
  stored := (OutboxState.sound_of_run run).kept
  claimable := (OutboxState.sound_of_run run).claimable
  offered := state.offered
  final _ member published inputs :=
    (OutboxState.sound_of_run run).published_drive member published inputs
  claimed := (OutboxState.sound_of_run run).claimed
  notified := (OutboxState.sound_of_run run).notified
  delayed := (OutboxState.sound_of_run run).delayed

/-- A first attempt that fails, and a second one that does not. -/
def outboxRetried : List OutboxInput :=
  [.enqueue "run" 1, .publish 0 "worker" 100, .claim 0, .notify 0 (some "closed"), .mark 0,
    .commit 0, .tick 2000000, .publish 1 "worker" 100, .claim 1, .notify 1 none, .mark 1, .commit 1]

theorem outbox_delivers_retried :
    ((outboxMachine.drive (.initial 0, []) outboxRetried).1.outbox.rows.map fun row =>
        (row.status, row.attempts, row.availableAt)) = [("published", 2, some 2000000)] ∧
      (outboxMachine.drive (.initial 0, []) outboxRetried).1.Delivers
        (outboxMachine.drive (.initial 0, []) outboxRetried).2 := by
  have start : outboxMachine.Run (fun _ _ _ => True) (.initial 0) [] := .start ⟨0, rfl⟩
  have run := start.drive outboxRetried
    Machine.admits_all
  exact ⟨by decide +kernel, outbox_delivers run⟩

/-! ## Attempts -/

namespace OutboxState

variable {history : OutboxHistory} {state : OutboxState} {session : Nat}
  {row seen written : OutboxRow}

/-- A draft counts at least the attempts of the row it is to replace. -/
def Ahead (state : OutboxState) : Prop :=
  ∀ draft ∈ state.drafts, ∀ row ∈ state.outbox.rows,
    row.outboxId = draft.2.outboxId → row.attempts ≤ draft.2.attempts

theorem Ahead.attempts_le (ahead : state.Ahead) (mem : row ∈ state.outbox.rows)
    (locked : state.lock session row = some seen) : row.attempts ≤ seen.attempts := by
  unfold lock at locked
  split at locked
  next =>
    cases locked
    exact le_rfl
  next holder draft found =>
    split at locked
    next =>
      cases locked
      have sameId := List.find?_some found
      exact ahead _ (mem_of_find?_eq_some found) row mem (of_decide_eq_true sameId).symm
    next => cases locked

theorem Ahead.write (ahead : state.Ahead) (mem : row ∈ state.outbox.rows)
    (sameId : written.outboxId = row.outboxId) (more : row.attempts ≤ written.attempts) :
    (state.write session written).Ahead := by
  intro draft isDraft stored isStored same
  rcases mem_cons.mp isDraft with rfl | other
  · rw [state.eq_of_outboxId isStored mem (same.trans sameId)]
    exact more
  · exact ahead draft (mem_of_mem_filter other) stored isStored same

theorem Ahead.writeAll (ahead : state.Ahead) (session : Nat) {rows : List OutboxRow}
    (writable : ∀ written ∈ rows, ∃ row ∈ state.outbox.rows,
      written.outboxId = row.outboxId ∧ row.attempts ≤ written.attempts) :
    (rows.foldl (fun state row => state.write session row) state).Ahead := by
  induction rows generalizing state with
  | nil => exact ahead
  | cons first rest ih =>
    rcases forall_mem_cons.mp writable with ⟨⟨row, mem, sameId, more⟩, others⟩
    exact ih (ahead.write mem sameId more) others

theorem Ahead.mark {item : ClaimedRunEvent} {change : OutboxRow → Option OutboxRow}
    {next : Bool → PublishPhase} (ahead : state.Ahead) (sound : state.Sound history)
    (keeps : ∀ seen written, change seen = some written →
      written.outboxId = seen.outboxId ∧ written.attempts = seen.attempts) :
    (state.mark session item change next).1.Ahead := by
  unfold OutboxState.mark
  split
  next => exact ahead
  next row found =>
    have mem := mem_of_find?_eq_some found
    split
    next => exact ahead
    next seen locked =>
      split
      next => exact ahead
      next written changed =>
        rcases keeps seen written changed with ⟨sameId, sameAttempts⟩
        have sameKey := (sound.lock_spec mem locked).2.1
        exact ahead.write mem (sameId.trans (congrArg OutboxKey.outboxId sameKey))
          (sameAttempts ▸ ahead.attempts_le mem locked)

theorem Ahead.commit (ahead : state.Ahead) (sound : state.Sound history) (session : Nat) :
    (state.commit session).Ahead := by
  intro draft mem row isRow same
  rcases mem_filter.mp mem with ⟨isDraft, others⟩
  rcases mem_rows_commit.mp isRow with ⟨stored, isStored, rfl⟩
  have locked : state.lock session stored = none := by
    have found := sound.draft_of_mem isDraft
    rw [← show stored.outboxId = draft.2.outboxId from same] at found
    rw [lock, found]
    exact if_neg (of_decide_eq_true others)
  rw [committed_of_locked locked] at same ⊢
  exact ahead draft isDraft stored isStored same

theorem Ahead.enqueue (ahead : state.Ahead) (sound : state.Sound history) (runId : RunId)
    (sequence : Nat) : (state.enqueue runId sequence).1.Ahead := by
  unfold OutboxState.enqueue
  split
  next => exact ahead
  next outbox inserted =>
    intro draft mem row isRow same
    rcases (sound.drafts draft mem).2 with ⟨stored, isStored, sameKey, _⟩
    have old : stored ∈ outbox.rows := Table.rows_of_insert inserted ▸ mem_append_left _ isStored
    have storedId := congrArg OutboxKey.outboxId sameKey
    obtain rfl := eq_of_outboxId { state with outbox := outbox } isRow old
      (same.trans storedId.symm)
    exact ahead draft mem row isStored same

theorem Ahead.step (ahead : state.Ahead) (sound : state.Sound history) (input : OutboxInput) :
    (state.step input).1.Ahead := by
  cases input with
  | enqueue runId sequence => exact ahead.enqueue sound runId sequence
  | publish =>
    simp only [OutboxState.step]
    split <;> exact ahead
  | notify session failure =>
    simp only [OutboxState.step]
    split
    next => cases failure <;> exact ahead
    next => exact ahead
  | claim session =>
    simp only [OutboxState.step]
    split
    next =>
      refine ahead.writeAll session fun written mem => ?_
      rcases sound.claimable_spec mem with ⟨row, isRow, seen, locked, rfl, _, sameKey, _⟩
      exact ⟨row, isRow, congrArg OutboxKey.outboxId sameKey,
        (ahead.attempts_le isRow locked).trans (Nat.le_succ _)⟩
    next => exact ahead
  | mark session =>
    simp only [OutboxState.step]
    split
    next =>
      refine ahead.mark sound fun seen written isWritten => ?_
      simp only [RunEventOutboxStore.markPublished, Option.ite_none_left_eq_some] at isWritten
      cases isWritten.2
      exact ⟨rfl, rfl⟩
    next =>
      refine ahead.mark sound fun seen written isWritten => ?_
      simp only [RunEventOutboxStore.markRetry, Option.ite_none_left_eq_some] at isWritten
      cases isWritten.2
      exact ⟨rfl, rfl⟩
    next => exact ahead
  | commit session => exact ahead.commit sound session
  | crash session => exact fun draft mem => ahead draft (mem_of_mem_filter mem)
  | tick elapsed => exact ahead

theorem Ahead.attempts_step (ahead : state.Ahead) (sound : state.Sound history)
    (mem : row ∈ state.outbox.rows) (input : OutboxInput) :
    ∃ after ∈ (state.step input).1.outbox.rows,
      after.toOutboxKey = row.toOutboxKey ∧ row.attempts ≤ after.attempts := by
  rcases mem_step_or_commit mem input with kept | ⟨session, rfl⟩
  · exact ⟨row, kept, rfl, le_rfl⟩
  · refine ⟨_, mem_rows_commit.mpr ⟨row, mem, rfl⟩, rfl, ?_⟩
    cases locked : state.lock session row with
    | none => rw [committed_of_locked locked]
    | some seen =>
      rw [committed_of_lock locked (sound.lock_spec mem locked).2.1]
      exact ahead.attempts_le mem locked

theorem ahead_of_run (run : outboxMachine.Run (fun _ _ _ => True) state history) :
    state.Ahead ∧ state.Sound history := by
  refine run.invariant (fun state history => state.Ahead ∧ state.Sound history) ?_ ?_
  · rintro _ ⟨now, rfl⟩
    exact ⟨fun _ absurd => (not_mem_nil absurd).elim, sound_initial now⟩
  · exact fun _ _ input both _ => ⟨both.1.step both.2 input, both.2.step input⟩

end OutboxState

/-- No session overwrites what another one has committed: along every
interleaving a row stays, and its attempts never decrease. -/
theorem outbox_loses_no_attempt (now : DateTime) (inputs later : List OutboxInput) :
    ∀ row ∈ (outboxMachine.drive (.initial now, []) inputs).1.outbox.rows,
      ∃ after ∈ (outboxMachine.drive
          (outboxMachine.drive (.initial now, []) inputs) later).1.outbox.rows,
        after.toOutboxKey = row.toOutboxKey ∧ row.attempts ≤ after.attempts := by
  have started : outboxMachine.Run (fun _ _ _ => True) (.initial now) [] := .start ⟨now, rfl⟩
  have run := started.drive inputs Machine.admits_all
  generalize outboxMachine.drive (.initial now, []) inputs = here at run ⊢
  induction later generalizing here with
  | nil => exact fun row mem => ⟨row, mem, rfl, le_rfl⟩
  | cons input rest ih =>
    intro row mem
    rcases OutboxState.ahead_of_run run with ⟨ahead, sound⟩
    rcases ahead.attempts_step sound mem input with ⟨next, isNext, sameKey, more⟩
    rcases ih _ (.next input run trivial) next isNext with ⟨after, isAfter, lastKey, most⟩
    exact ⟨after, isAfter, lastKey.trans sameKey, more.trans most⟩

theorem outbox_loses_no_attempt_retried :
    ∃ after ∈ (outboxMachine.drive (outboxMachine.drive (.initial 0, []) (outboxRetried.take 6))
        (outboxRetried.drop 6)).1.outbox.rows, after.outboxId = 0 ∧ 1 ≤ after.attempts := by
  have failed : ((outboxMachine.drive (.initial 0, []) (outboxRetried.take 6)).1.outbox.rows.map
      fun row => (row.outboxId, row.attempts)) = [(0, 1)] := by decide +kernel
  rcases map_eq_singleton_iff.mp failed with ⟨row, isRow, entry⟩
  rcases outbox_loses_no_attempt 0 (outboxRetried.take 6) (outboxRetried.drop 6) row
    (isRow ▸ mem_singleton_self row) with ⟨after, mem, sameKey, more⟩
  rw [← (Prod.mk.inj entry).2]
  exact ⟨after, mem, (congrArg OutboxKey.outboxId sameKey).trans (Prod.mk.inj entry).1, more⟩

end OhMyClass.Gateway
