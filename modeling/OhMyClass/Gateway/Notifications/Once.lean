import OhMyClass.Gateway.Basic
import OhMyClass.Table.Core
import OhMyClass.Transition.Machine

/-!
# Notifications and their deliveries

Each call looks for a row, inserts one if there is none, and commits.  Any steps
of other calls may come between.  The tables know the primary keys and, for
deliveries, that a notification is delivered once on a channel; no constraint
says that a run has one notification of a type.
-/

namespace OhMyClass.Gateway.Notifications

open List Function OhMyClass.Transition Table

structure NotificationEvent where
  eventId : String
  runId : RunId
  teacherId : String
  eventType : String
  title : String
  message : String
  metadataJson : String

structure Notification where
  id : String
  runId : RunId
  teacherId : String
  eventType : String
  title : String
  message : String
  metadataJson : String
  deriving DecidableEq

structure NotificationDeliveryRecord where
  id : String
  notificationId : String
  channel : String
  status : String

/-- The primary key of `notifications`. -/
def Notification.Conflict (first second : Notification) : Prop :=
  first.id = second.id

/-- The primary key and `uq_notification_deliveries_notification_channel`. -/
def NotificationDeliveryRecord.Conflict (first second : NotificationDeliveryRecord) : Prop :=
  first.id = second.id ∨
    first.notificationId = second.notificationId ∧ first.channel = second.channel
  deriving Decidable

instance : DecidableRel Notification.Conflict :=
  fun _ _ => inferInstanceAs (Decidable (_ = _))

theorem NotificationDeliveryRecord.Conflict.symm {first second : NotificationDeliveryRecord}
    (clash : first.Conflict second) : second.Conflict first := by
  rcases clash with sameId | ⟨sameNotification, sameChannel⟩
  · exact .inl sameId.symm
  · exact .inr ⟨sameNotification.symm, sameChannel.symm⟩

/-- The row `create_notification` adds. -/
def NotificationEvent.row (event : NotificationEvent) : Notification where
  id := event.eventId
  runId := event.runId
  teacherId := event.teacherId
  eventType := event.eventType
  title := event.title
  message := event.message
  metadataJson := event.metadataJson

def deliveryId (notificationId channel : String) : String :=
  "del-" ++ sliceTo notificationId 12 ++ "-" ++ channel

/-- The row `deliver_notification` adds. -/
def delivery (notificationId channel : String) : NotificationDeliveryRecord where
  id := deliveryId notificationId channel
  notificationId := notificationId
  channel := channel
  status := "delivered"

/-- The lengths of the columns. -/
def Notification.fits (row : Notification) : Bool :=
  row.id.length ≤ 64 && row.runId.length ≤ 64 && row.teacherId.length ≤ 64 &&
    row.eventType.length ≤ 64 && row.title.length ≤ 200

def NotificationDeliveryRecord.fits (row : NotificationDeliveryRecord) : Bool :=
  row.id.length ≤ 64 && row.notificationId.length ≤ 64 && row.channel.length ≤ 32

/-! ## Calls -/

abbrev CallId := Nat

inductive NotificationCall where
  | create (event : NotificationEvent)
  | deliver (notificationId channel : String)

inductive NotificationError where
  | dataError
  | uniqueViolation
  | foreignKeyViolation
  deriving DecidableEq

/-- How far a call has come. -/
inductive NotificationPhase where
  | waiting
  | missing
  | flushed
  | returned (id : String)
  | failed (error : NotificationError)
  | rolledBack
  deriving DecidableEq

/-- The calls and the runs that exist. -/
structure NotificationCalls where
  call : CallId → NotificationCall
  runExists : RunId → Bool

/-- The committed rows and the calls on their way. -/
structure NotificationStore where
  notifications : Table Notification Notification.Conflict
  deliveries : Table NotificationDeliveryRecord NotificationDeliveryRecord.Conflict
  calls : CallId → NotificationPhase

inductive NotificationOp where
  | lookup (call : CallId)
  | insert (call : CallId)
  | commit (call : CallId)
  | rollback (call : CallId)

namespace NotificationStore

def setCall (store : NotificationStore) (call : CallId) (phase : NotificationPhase) :
    NotificationStore :=
  { store with calls := Function.update store.calls call phase }

def findExistingNotification (store : NotificationStore) (runId : RunId) (eventType : String) :
    Option Notification :=
  store.notifications.rows.find? fun row => row.runId = runId ∧ row.eventType = eventType

def findExistingDelivery (store : NotificationStore) (notificationId channel : String) :
    Option NotificationDeliveryRecord :=
  store.deliveries.rows.find? fun row =>
    row.notificationId = notificationId ∧ row.channel = channel

/-- The id a call returns without an insert. -/
def existing (store : NotificationStore) : NotificationCall → Option String
  | .create event =>
    (store.findExistingNotification event.runId event.eventType).map Notification.id
  | .deliver notificationId channel =>
    (store.findExistingDelivery notificationId channel).map NotificationDeliveryRecord.id

/-- The rows with that of a call, or the error of the insert: a value too long
comes before a key that is taken, and that before a parent that is missing. -/
def inserted (store : NotificationStore) (runExists : RunId → Bool) :
    NotificationCall → Except NotificationError (NotificationStore × String)
  | .create event =>
    if event.row.fits then
      match store.notifications.insert event.row with
      | none => .error .uniqueViolation
      | some grown =>
        if runExists event.runId then .ok ({ store with notifications := grown }, event.eventId)
        else .error .foreignKeyViolation
    else .error .dataError
  | .deliver notificationId channel =>
    if (delivery notificationId channel).fits then
      match store.deliveries.insert (delivery notificationId channel) with
      | none => .error .uniqueViolation
      | some grown =>
        if store.notifications.rows.any fun row => row.id = notificationId then
          .ok ({ store with deliveries := grown }, deliveryId notificationId channel)
        else .error .foreignKeyViolation
    else .error .dataError

variable (env : NotificationCalls)

def lookup (call : CallId) (store : NotificationStore) : NotificationStore :=
  match store.calls call with
  | .waiting =>
    match store.existing (env.call call) with
    | some id => store.setCall call (.returned id)
    | none => store.setCall call .missing
  | _ => store

/-- `db.add` and `db.flush()`: the row is written but not visible to others. -/
def insert (call : CallId) (store : NotificationStore) : NotificationStore :=
  match store.calls call with
  | .missing =>
    match store.inserted env.runExists (env.call call) with
    | .error error => store.setCall call (.failed error)
    | .ok _ => store.setCall call .flushed
  | _ => store

/-- An insert whose key another call has committed meanwhile would have waited
for it, and fails as it would have then. -/
def commit (call : CallId) (store : NotificationStore) : NotificationStore :=
  match store.calls call with
  | .flushed =>
    match store.inserted env.runExists (env.call call) with
    | .error error => store.setCall call (.failed error)
    | .ok (grown, id) => grown.setCall call (.returned id)
  | _ => store

def rollback (call : CallId) (store : NotificationStore) : NotificationStore :=
  match store.calls call with
  | .missing | .flushed => store.setCall call .rolledBack
  | _ => store

def step (store : NotificationStore) : NotificationOp → NotificationStore
  | .lookup call => store.lookup env call
  | .insert call => store.insert env call
  | .commit call => store.commit env call
  | .rollback call => store.rollback call

/-- No call has started, a run has one notification of a type, no stored
notification has the id of an event, and deliveries have the ids they were given. -/
structure Quiet (store : NotificationStore) : Prop where
  waiting : ∀ call, store.calls call = .waiting
  once : ∀ first ∈ store.notifications.rows, ∀ second ∈ store.notifications.rows,
    first.runId = second.runId → first.eventType = second.eventType → first = second
  fresh : ∀ call event, env.call call = .create event →
    ∀ row ∈ store.notifications.rows, row.id ≠ event.eventId
  named : ∀ row ∈ store.deliveries.rows, row.id = deliveryId row.notificationId row.channel

end NotificationStore

def notifying (env : NotificationCalls) : Machine NotificationStore NotificationOp Unit where
  initial := NotificationStore.Quiet env
  step store op := (store.step env op, ())

/-! ## Notifications are made once -/

/-- The call may still insert its row. -/
def NotificationPhase.isPending : NotificationPhase → Bool
  | waiting | missing | flushed => true
  | _ => false

/-- The call that takes the step. -/
def NotificationOp.call : NotificationOp → CallId
  | lookup call | insert call | commit call | rollback call => call

namespace NotificationStore

variable {env : NotificationCalls} {store : NotificationStore} {call : CallId}
  {phase : NotificationPhase} {op : NotificationOp}

theorem forall_setCall (holds : CallId → NotificationPhase → Prop) (own : holds call phase)
    (others : ∀ other, other ≠ call → holds other (store.calls other)) (other : CallId) :
    holds other ((store.setCall call phase).calls other) :=
  (forall_update_iff store.calls holds).mpr ⟨own, others⟩ other

@[simp]
theorem setCall_notifications : (store.setCall call phase).notifications = store.notifications :=
  rfl

@[simp]
theorem setCall_deliveries : (store.setCall call phase).deliveries = store.deliveries :=
  rfl

/-- What a step of a call does. -/
inductive Effect (env : NotificationCalls) (store : NotificationStore) (call : CallId) :
    NotificationStore → Prop
  | unchanged : Effect env store call store
  | found {id : String} (waiting : store.calls call = .waiting)
      (isExisting : store.existing (env.call call) = some id) :
      Effect env store call (store.setCall call (.returned id))
  | moved {phase : NotificationPhase} (pending : (store.calls call).isPending)
      (notReturned : ∀ id, phase ≠ .returned id) (notTaken : phase ≠ .failed .uniqueViolation)
      (ready : phase = .flushed →
        ∃ written, store.inserted env.runExists (env.call call) = .ok written) :
      Effect env store call (store.setCall call phase)
  | clashed (pending : (store.calls call).isPending)
      (taken : store.inserted env.runExists (env.call call) = .error .uniqueViolation) :
      Effect env store call (store.setCall call (.failed .uniqueViolation))
  | committed {grown : NotificationStore} {id : String} (flushed : store.calls call = .flushed)
      (written : store.inserted env.runExists (env.call call) = .ok (grown, id)) :
      Effect env store call (grown.setCall call (.returned id))

theorem effect_of_error {error : NotificationError} (pending : (store.calls call).isPending)
    (failed : store.inserted env.runExists (env.call call) = .error error) :
    Effect env store call (store.setCall call (.failed error)) := by
  by_cases taken : error = .uniqueViolation
  · rw [taken] at failed ⊢
    exact .clashed pending failed
  · refine .moved pending nofun ?_ nofun
    intro same
    exact taken (NotificationPhase.failed.inj same)

theorem effect_step (env : NotificationCalls) (store : NotificationStore) (op : NotificationOp) :
    Effect env store op.call (store.step env op) := by
  cases op with
  | lookup call =>
    simp only [step, lookup]
    split
    next waiting =>
      have pending : (store.calls call).isPending := by
        rw [waiting]
        rfl
      split
      next id isExisting => exact .found waiting isExisting
      next => exact .moved pending nofun nofun nofun
    next => exact .unchanged
  | insert call =>
    simp only [step, insert]
    split
    next missing =>
      have pending : (store.calls call).isPending := by
        rw [missing]
        rfl
      split
      next error failed => exact effect_of_error pending failed
      next written isWritten => exact .moved pending nofun nofun fun _ => ⟨written, isWritten⟩
    next => exact .unchanged
  | commit call =>
    simp only [step, commit]
    split
    next flushed =>
      have pending : (store.calls call).isPending := by
        rw [flushed]
        rfl
      split
      next error failed => exact effect_of_error pending failed
      next grown id written => exact .committed flushed written
    next => exact .unchanged
  | rollback call =>
    simp only [step, rollback]
    split
    next missing =>
      refine .moved ?_ nofun nofun nofun
      rw [NotificationOp.call, missing]
      rfl
    next flushed =>
      refine .moved ?_ nofun nofun nofun
      rw [NotificationOp.call, flushed]
      rfl
    next => exact .unchanged

/-- The row a call returns the id of. -/
def Answers (store : NotificationStore) : NotificationCall → String → Prop
  | .create event, id => ∃ row ∈ store.notifications.rows,
      row.id = id ∧ row.runId = event.runId ∧ row.eventType = event.eventType
  | .deliver notificationId channel, id => ∃ row ∈ store.deliveries.rows,
      row.id = id ∧ row.notificationId = notificationId ∧ row.channel = channel

variable {request : NotificationCall} {id : String}

theorem answers_existing (isExisting : store.existing request = some id) :
    store.Answers request id := by
  cases request with
  | create event =>
    obtain ⟨row, found, rfl⟩ := Option.map_eq_some_iff.mp isExisting
    have sameKey := List.find?_some found
    rw [decide_eq_true_eq] at sameKey
    exact ⟨row, mem_of_find?_eq_some found, rfl, sameKey⟩
  | deliver notificationId channel =>
    obtain ⟨row, found, rfl⟩ := Option.map_eq_some_iff.mp isExisting
    have sameKey := List.find?_some found
    rw [decide_eq_true_eq] at sameKey
    exact ⟨row, mem_of_find?_eq_some found, rfl, sameKey⟩

/-- What an insert of a call adds. -/
def AddsRow (store grown : NotificationStore) (id : String) : NotificationCall → Prop
  | .create event => id = event.eventId ∧
      grown.notifications.rows = store.notifications.rows ++ [event.row] ∧
      grown.deliveries = store.deliveries
  | .deliver notificationId channel => id = deliveryId notificationId channel ∧
      grown.notifications = store.notifications ∧
      grown.deliveries.rows = store.deliveries.rows ++ [delivery notificationId channel]

variable {runExists : RunId → Bool} {grown : NotificationStore}

theorem AddsRow.answers (added : store.AddsRow grown id request) : grown.Answers request id := by
  cases request with
  | create event =>
    obtain ⟨rfl, rows, _⟩ := added
    exact ⟨event.row, by simp [rows], rfl, rfl, rfl⟩
  | deliver notificationId channel =>
    obtain ⟨rfl, _, rows⟩ := added
    exact ⟨delivery notificationId channel, by simp [rows], rfl, rfl, rfl⟩

theorem AddsRow.mono (added : store.AddsRow grown id request) {other : NotificationCall}
    {otherId : String} (answers : store.Answers other otherId) : grown.Answers other otherId := by
  have notifications : ∀ row ∈ store.notifications.rows, row ∈ grown.notifications.rows := by
    intro row mem
    cases request with
    | create event => simp [added.2.1, mem]
    | deliver notificationId channel => rwa [added.2.1]
  have deliveries : ∀ row ∈ store.deliveries.rows, row ∈ grown.deliveries.rows := by
    intro row mem
    cases request with
    | create event => rwa [added.2.2]
    | deliver notificationId channel => simp [added.2.2, mem]
  cases other with
  | create event =>
    obtain ⟨row, mem, same⟩ := answers
    exact ⟨row, notifications row mem, same⟩
  | deliver notificationId channel =>
    obtain ⟨row, mem, same⟩ := answers
    exact ⟨row, deliveries row mem, same⟩

/-! ## Inserts -/

/-- The key of a call's row is that of a stored one. -/
def Taken (store : NotificationStore) : NotificationCall → Prop
  | .create event => ∃ row ∈ store.notifications.rows, row.Conflict event.row
  | .deliver notificationId channel =>
    ∃ row ∈ store.deliveries.rows, row.Conflict (delivery notificationId channel)

/-- A call's row fits the columns and has its parent. -/
def Insertable (store : NotificationStore) (runExists : RunId → Bool) : NotificationCall → Prop
  | .create event => event.row.fits ∧ runExists event.runId
  | .deliver notificationId channel =>
    (delivery notificationId channel).fits ∧
      ∃ row ∈ store.notifications.rows, row.id = notificationId

def NotificationCall.fits : NotificationCall → Bool
  | .create event => event.row.fits
  | .deliver notificationId channel => (delivery notificationId channel).fits

theorem inserted_cases (store : NotificationStore) (runExists : RunId → Bool)
    (request : NotificationCall) :
    (∃ grown id, store.inserted runExists request = .ok (grown, id) ∧
      store.Insertable runExists request ∧ ¬ store.Taken request ∧
      store.AddsRow grown id request ∧ grown.calls = store.calls) ∨
    (store.inserted runExists request = .error .uniqueViolation ∧
      NotificationCall.fits request ∧ store.Taken request) ∨
    ∃ error, store.inserted runExists request = .error error ∧ error ≠ .uniqueViolation ∧
      ¬ store.Insertable runExists request ∧
      ¬ (NotificationCall.fits request ∧ store.Taken request) := by
  cases request with
  | create event =>
    simp only [inserted, Insertable, NotificationCall.fits, Taken, ← insert_eq_none_iff]
    split
    next fits =>
      split
      next clash => exact .inr (.inl ⟨rfl, fits, clash⟩)
      next isGrown =>
        rw [isGrown]
        split
        next known =>
          exact .inl ⟨_, _, rfl, ⟨fits, known⟩, nofun, ⟨rfl, rows_of_insert isGrown, rfl⟩, rfl⟩
        next unknown =>
          exact .inr (.inr ⟨_, rfl, nofun, fun both => unknown both.2, fun both => nomatch both.2⟩)
    next tooLong =>
      exact .inr (.inr ⟨_, rfl, nofun, fun both => tooLong both.1, fun both => tooLong both.1⟩)
  | deliver notificationId channel =>
    simp only [inserted, Insertable, NotificationCall.fits, Taken, ← insert_eq_none_iff,
      any_eq_true, decide_eq_true_eq]
    split
    next fits =>
      split
      next clash => exact .inr (.inl ⟨rfl, fits, clash⟩)
      next isGrown =>
        rw [isGrown]
        split
        next known =>
          exact .inl ⟨_, _, rfl, ⟨fits, known⟩, nofun, ⟨rfl, rfl, rows_of_insert isGrown⟩, rfl⟩
        next unknown =>
          exact .inr (.inr ⟨_, rfl, nofun, fun both => unknown both.2, fun both => nomatch both.2⟩)
    next tooLong =>
      exact .inr (.inr ⟨_, rfl, nofun, fun both => tooLong both.1, fun both => tooLong both.1⟩)

theorem inserted_eq_ok (written : store.inserted runExists request = .ok (grown, id)) :
    (store.Insertable runExists request ∧ ¬ store.Taken request) ∧
      store.AddsRow grown id request ∧ grown.calls = store.calls := by
  rcases inserted_cases store runExists request with
    ⟨_, _, isOk, insertable, notTaken, added⟩ | ⟨failed, _⟩ | ⟨_, failed, _⟩
  · cases isOk.symm.trans written
    exact ⟨⟨insertable, notTaken⟩, added⟩
  · cases failed.symm.trans written
  · cases failed.symm.trans written

theorem inserted_taken_iff :
    store.inserted runExists request = .error .uniqueViolation ↔
      NotificationCall.fits request ∧ store.Taken request := by
  rcases inserted_cases store runExists request with
    ⟨_, _, isOk, _, notTaken, _⟩ | ⟨failed, taken⟩ | ⟨_, failed, isOther, _, notTaken⟩
  · rw [isOk]
    exact iff_of_false nofun fun taken => notTaken taken.2
  · exact iff_of_true failed taken
  · rw [failed, Except.error.injEq]
    exact iff_of_false isOther notTaken

theorem AddsRow.insertable {other : NotificationCall} (added : store.AddsRow grown id request)
    (insertable : store.Insertable runExists other) :
    grown.Insertable runExists other := by
  cases other with
  | create event => exact insertable
  | deliver notificationId channel =>
    obtain ⟨fits, row, mem, same⟩ := insertable
    refine ⟨fits, row, ?_, same⟩
    cases request with
    | create event => simp [added.2.1, mem]
    | deliver otherId otherChannel => rwa [added.2.1]

/-! ## What every step keeps -/

def DistinctEvents (env : NotificationCalls) : Prop :=
  ∀ first second event other, env.call first = .create event → env.call second = .create other →
    event.eventId = other.eventId → first = second

structure Sound (env : NotificationCalls) (store : NotificationStore) : Prop where
  unused : ∀ call event, env.call call = .create event → (store.calls call).isPending →
    ∀ row ∈ store.notifications.rows, row.id ≠ event.eventId
  answered : ∀ call id, store.calls call = .returned id → store.Answers (env.call call) id
  ready : ∀ call, store.calls call = .flushed → store.Insertable env.runExists (env.call call)
  named : ∀ row ∈ store.deliveries.rows, row.id = deliveryId row.notificationId row.channel

theorem Sound.setCall (sound : Sound env store)
    (pending : phase.isPending → (store.calls call).isPending)
    (answered : ∀ id, phase = .returned id → store.Answers (env.call call) id)
    (ready : phase = .flushed → store.Insertable env.runExists (env.call call)) :
    Sound env (store.setCall call phase) := by
  constructor
  · exact forall_setCall (fun other phase => ∀ event, env.call other = .create event →
        phase.isPending → ∀ row ∈ store.notifications.rows, row.id ≠ event.eventId)
      (fun event isCreate isPending => sound.unused call event isCreate (pending isPending))
      fun other _ => sound.unused other
  · exact forall_setCall (fun other phase => ∀ id, phase = .returned id →
      store.Answers (env.call other) id) answered fun other _ => sound.answered other
  · exact forall_setCall (fun other phase => phase = .flushed →
      store.Insertable env.runExists (env.call other)) ready fun other _ => sound.ready other
  · exact sound.named

theorem Sound.step (distinct : DistinctEvents env) (sound : Sound env store)
    (op : NotificationOp) : Sound env (store.step env op) := by
  have effect := effect_step env store op
  generalize store.step env op = after at effect ⊢
  cases effect with
  | unchanged => exact sound
  | found waiting isExisting =>
    refine sound.setCall nofun ?_ nofun
    intro id isId
    rw [← NotificationPhase.returned.inj isId]
    exact answers_existing isExisting
  | moved pending notReturned notTaken ready =>
    refine sound.setCall (fun _ => pending) (fun id isId => absurd isId (notReturned id)) ?_
    intro flushed
    obtain ⟨⟨_, _⟩, isWritten⟩ := ready flushed
    exact (inserted_eq_ok isWritten).1.1
  | clashed pending taken => exact sound.setCall nofun nofun nofun
  | @committed grown id flushed written =>
    obtain ⟨_, added, sameCalls⟩ := inserted_eq_ok written
    have grownSound : ∀ other, other ≠ op.call → ∀ event, env.call other = .create event →
        (store.calls other).isPending →
        ∀ row ∈ grown.notifications.rows, row.id ≠ event.eventId := by
      intro other different event isCreate pending row mem
      have stored := sound.unused other event isCreate pending row
      cases request : env.call op.call with
      | create own =>
        rw [request] at added
        rw [added.2.1, mem_append, mem_singleton] at mem
        rcases mem with old | rfl
        · exact stored old
        · intro same
          exact different (distinct other op.call event own isCreate request same.symm)
      | deliver notificationId channel =>
        rw [request] at added
        rw [added.2.1] at mem
        exact stored mem
    constructor
    · refine forall_setCall (fun other phase => ∀ event, env.call other = .create event →
        phase.isPending → ∀ row ∈ grown.notifications.rows, row.id ≠ event.eventId) ?_ ?_
      · rintro _ _ ⟨⟩
      · exact sameCalls ▸ grownSound
    · refine forall_setCall (fun other phase => ∀ id, phase = .returned id →
        grown.Answers (env.call other) id) ?_ fun other _ otherId returned => ?_
      · rintro _ ⟨⟩
        exact added.answers
      · exact added.mono (sound.answered other otherId (sameCalls ▸ returned))
    · refine forall_setCall (fun other phase => phase = .flushed →
        grown.Insertable env.runExists (env.call other)) ?_ fun other _ flushed => ?_
      · rintro ⟨⟩
      exact added.insertable (sound.ready other (sameCalls ▸ flushed))
    · intro row mem
      cases request : env.call op.call with
      | create own =>
        rw [request] at added
        rw [setCall_deliveries, added.2.2] at mem
        exact sound.named row mem
      | deliver notificationId channel =>
        rw [request] at added
        rw [setCall_deliveries, added.2.2, mem_append, mem_singleton] at mem
        rcases mem with old | rfl
        · exact sound.named row old
        · rfl

theorem Quiet.sound (quiet : Quiet env store) : Sound env store := by
  constructor
  · intro call event isCreate _
    exact quiet.fresh call event isCreate
  · intro call id ret
    rw [quiet.waiting call] at ret
    cases ret
  · intro call flushed
    rw [quiet.waiting call] at flushed
    cases flushed
  · exact quiet.named

/-! ## Once -/

/-- A run has one notification of a type. -/
def OnePerType (store : NotificationStore) : Prop :=
  ∀ first ∈ store.notifications.rows, ∀ second ∈ store.notifications.rows,
    first.runId = second.runId → first.eventType = second.eventType → first = second

/-- A run has one notification of a type, which all its callers get; a delivery
that returned has one row, and an id of its own; no call fails because of the
row of another. -/
structure OnceOnly (env : NotificationCalls) (store : NotificationStore) : Prop where
  once : store.OnePerType
  callers : ∀ call event id, env.call call = .create event → store.calls call = .returned id →
    ∃ row ∈ store.notifications.rows,
      row.id = id ∧ row.runId = event.runId ∧ row.eventType = event.eventType
  delivered : ∀ call notificationId channel id, env.call call = .deliver notificationId channel →
    store.calls call = .returned id → ∃ row ∈ store.deliveries.rows,
      row.id = id ∧ row.notificationId = notificationId ∧ row.channel = channel ∧
        ∀ other ∈ store.deliveries.rows,
          other.notificationId = notificationId → other.channel = channel → other = row
  distinctIds : ∀ (first second : CallId) (firstPair secondPair : String × String) (id : String),
    env.call first = .deliver firstPair.1 firstPair.2 →
    env.call second = .deliver secondPair.1 secondPair.2 →
    store.calls first = .returned id → store.calls second = .returned id → firstPair = secondPair
  noneFails : ∀ call, store.calls call ≠ .failed .uniqueViolation

theorem Sound.onceOnly_iff (sound : Sound env store) :
    OnceOnly env store ↔
      store.OnePerType ∧ ∀ call, store.calls call ≠ .failed .uniqueViolation := by
  constructor
  · intro onceOnly
    exact ⟨onceOnly.once, onceOnly.noneFails⟩
  · rintro ⟨once, noneFails⟩
    have alike {first second : NotificationDeliveryRecord}
        (firstMem : first ∈ store.deliveries.rows) (secondMem : second ∈ store.deliveries.rows)
        (clash : first.Conflict second) : first = second :=
      eq_of_conflict (fun _ _ => NotificationDeliveryRecord.Conflict.symm) store.deliveries
        firstMem secondMem clash
    refine ⟨once, ?_, ?_, ?_, noneFails⟩
    · intro call event id isCreate ret
      have answers := sound.answered call id ret
      rw [isCreate] at answers
      exact answers
    · intro call notificationId channel id isDeliver ret
      have answers := sound.answered call id ret
      rw [isDeliver] at answers
      obtain ⟨row, mem, isId, rfl, rfl⟩ := answers
      exact ⟨row, mem, isId, rfl, rfl, fun other otherMem sameNotification sameChannel =>
        alike otherMem mem (.inr ⟨sameNotification, sameChannel⟩)⟩
    · intro first second firstPair secondPair id isFirst isSecond firstReturned secondReturned
      have firstAnswers := sound.answered first id firstReturned
      have secondAnswers := sound.answered second id secondReturned
      rw [isFirst] at firstAnswers
      rw [isSecond] at secondAnswers
      obtain ⟨row, mem, isId, isNotification, isChannel⟩ := firstAnswers
      obtain ⟨other, otherMem, otherId, otherNotification, otherChannel⟩ := secondAnswers
      have same := alike mem otherMem (.inl (isId.trans otherId.symm))
      rw [same] at isNotification isChannel
      exact Prod.ext (isNotification.symm.trans otherNotification)
        (isChannel.symm.trans otherChannel)

/-- The first twelve characters of a notification's id, a dash and a channel
read the same. -/
def SharesText (row : NotificationDeliveryRecord) (notificationId channel : String) : Prop :=
  sliceTo row.notificationId 12 ++ "-" ++ row.channel =
    sliceTo notificationId 12 ++ "-" ++ channel
  deriving Decidable

/-- What a call has not found is still missing, and no other delivery reads the
same. -/
def StillMissing (store : NotificationStore) : NotificationCall → Prop
  | .create event => ∀ row ∈ store.notifications.rows,
      row.runId = event.runId → row.eventType ≠ event.eventType
  | .deliver notificationId channel => ∀ row ∈ store.deliveries.rows,
      (row.notificationId = notificationId → row.channel ≠ channel) ∧
        ¬ SharesText row notificationId channel

/-- A delivery is missing before its insert as well, if it fits the columns. -/
def MayInsert (store : NotificationStore) : NotificationCall → Prop
  | .create _ => True
  | .deliver notificationId channel => (delivery notificationId channel).fits →
      store.StillMissing (.deliver notificationId channel)

/-- A step that writes a row writes one that is still missing. -/
def WritesMissing (env : NotificationCalls) (store : NotificationStore) : NotificationOp → Prop
  | .insert call => store.calls call = .missing → store.MayInsert (env.call call)
  | .commit call => store.calls call = .flushed → store.StillMissing (env.call call)
  | .lookup _ | .rollback _ => True

variable {notificationId channel : String}

theorem sharesText_iff {row : NotificationDeliveryRecord} :
    SharesText row notificationId channel ↔
      deliveryId row.notificationId row.channel = deliveryId notificationId channel := by
  simp only [SharesText, deliveryId, String.append_assoc, String.append_right_inj]

theorem Sound.not_taken_iff (sound : Sound env store) :
    ¬ store.Taken (.deliver notificationId channel) ↔
      store.StillMissing (.deliver notificationId channel) := by
  simp only [Taken, StillMissing, not_exists, not_and]
  apply forall₂_congr
  intro row mem
  rw [sharesText_iff, ← sound.named row mem]
  simp only [NotificationDeliveryRecord.Conflict, delivery, not_or, not_and]
  exact and_comm

theorem Sound.not_taken (sound : Sound env store) {event : NotificationEvent}
    (isCreate : env.call call = .create event) (pending : (store.calls call).isPending) :
    ¬ store.Taken (.create event) := by
  rintro ⟨row, mem, clash⟩
  exact sound.unused call event isCreate pending row mem clash

theorem onePerType_append_iff {event : NotificationEvent}
    (rows : grown.notifications.rows = store.notifications.rows ++ [event.row])
    (fresh : ¬ store.Taken (.create event)) (once : store.OnePerType) :
    grown.OnePerType ↔ store.StillMissing (.create event) := by
  simp only [OnePerType, rows, mem_append, mem_singleton]
  constructor
  · intro grownOnce row mem sameRun sameType
    have same := grownOnce row (.inl mem) event.row (.inr rfl) sameRun sameType
    exact fresh ⟨row, mem, congrArg Notification.id same⟩
  · rintro missing first (firstMem | rfl) second (secondMem | rfl) sameRun sameType
    · exact once first firstMem second secondMem sameRun sameType
    · exact absurd sameType (missing first firstMem sameRun)
    · exact absurd sameType.symm (missing second secondMem sameRun.symm)
    · rfl

theorem noneFails_setCall (noneFails : ∀ call, store.calls call ≠ .failed .uniqueViolation)
    (isPhase : phase ≠ .failed .uniqueViolation) :
    ∀ other, (store.setCall call phase).calls other ≠ .failed .uniqueViolation := by
  exact forall_setCall (fun _ phase => phase ≠ .failed .uniqueViolation) isPhase fun other _ => noneFails other

theorem insert_onceOnly_iff {error : NotificationError} (once : store.OnePerType)
    (noneFails : ∀ call, store.calls call ≠ .failed .uniqueViolation) :
    ((store.setCall call (.failed error)).OnePerType ∧
      ∀ other, (store.setCall call (.failed error)).calls other ≠ .failed .uniqueViolation) ↔
      error ≠ .uniqueViolation := by
  constructor
  · rintro ⟨_, after⟩ rfl
    exact after call (update_self _ _ _)
  · intro isOther
    refine ⟨once, noneFails_setCall noneFails ?_⟩
    intro same
    exact isOther (NotificationPhase.failed.inj same)

/-- The first write of a call is refused exactly if it is a delivery that is no
longer missing. -/
theorem Sound.not_refused_iff (sound : Sound env store) (missing : store.calls call = .missing) :
    store.inserted env.runExists (env.call call) ≠ .error .uniqueViolation ↔
      WritesMissing env store (.insert call) := by
  simp only [WritesMissing, missing, forall_const]
  cases request : env.call call with
  | create event =>
    simp only [MayInsert, iff_true]
    intro taken
    have pending : (store.calls call).isPending := by
      rw [missing]
      rfl
    exact sound.not_taken request pending (inserted_taken_iff.mp taken).2
  | deliver notificationId channel =>
    rw [Ne, inserted_taken_iff, not_and]
    exact imp_congr_right fun _ => sound.not_taken_iff

theorem onceOnly_insert_iff (sound : Sound env store) (once : store.OnePerType)
    (noneFails : ∀ call, store.calls call ≠ .failed .uniqueViolation) (call : CallId) :
    ((store.insert env call).OnePerType ∧
        ∀ other, (store.insert env call).calls other ≠ .failed .uniqueViolation) ↔
      WritesMissing env store (.insert call) := by
  by_cases missing : store.calls call = .missing
  · rw [← sound.not_refused_iff missing]
    simp only [insert, missing]
    split
    next error failed =>
      rw [insert_onceOnly_iff once noneFails, failed, Ne, Ne, Except.error.injEq]
    next written isWritten =>
      rw [isWritten]
      exact ⟨fun _ => nofun, fun _ => ⟨once, noneFails_setCall noneFails nofun⟩⟩
  · simp only [WritesMissing, missing, false_implies, iff_true, insert]
    exact ⟨once, noneFails⟩

theorem onceOnly_commit_iff (sound : Sound env store) (once : store.OnePerType)
    (noneFails : ∀ call, store.calls call ≠ .failed .uniqueViolation) (call : CallId) :
    ((store.commit env call).OnePerType ∧
        ∀ other, (store.commit env call).calls other ≠ .failed .uniqueViolation) ↔
      WritesMissing env store (.commit call) := by
  by_cases flushed : store.calls call = .flushed
  · simp only [WritesMissing, commit, flushed, forall_const]
    rcases inserted_cases store env.runExists (env.call call) with
      ⟨grown, id, written, _, notTaken, added, sameCalls⟩ | ⟨failed, _, taken⟩ | ⟨_, _, _, refused, _⟩
    rotate_left
    · rw [failed]
      simp only [insert_onceOnly_iff once noneFails, ne_eq, not_true_eq_false, false_iff]
      intro stillMissing
      cases request : env.call call with
      | create event =>
        have pending : (store.calls call).isPending := by
          rw [flushed]
          rfl
        exact sound.not_taken request pending (request ▸ taken)
      | deliver notificationId channel =>
        rw [request] at taken stillMissing
        exact sound.not_taken_iff.mpr stillMissing taken
    · exact absurd (sound.ready call flushed) refused
    · rw [written]
      have grownFails : ∀ other, (grown.setCall call (.returned id)).calls other ≠
          .failed .uniqueViolation := by
        apply noneFails_setCall
        · rw [sameCalls]
          exact noneFails
        · nofun
      rw [and_iff_left grownFails]
      cases request : env.call call with
      | create event =>
        rw [request] at added notTaken
        exact onePerType_append_iff added.2.1 notTaken once
      | deliver notificationId channel =>
        rw [request] at added notTaken
        have sameOnce : (grown.setCall call (.returned id)).OnePerType := by
          rw [OnePerType, setCall_notifications, added.2.1]
          exact once
        exact ⟨fun _ => sound.not_taken_iff.mp notTaken, fun _ => sameOnce⟩
  · simp only [WritesMissing, flushed, false_implies, iff_true, commit]
    exact ⟨once, noneFails⟩

theorem onceOnly_step_iff (distinct : DistinctEvents env) (sound : Sound env store)
    (onceOnly : OnceOnly env store) (op : NotificationOp) :
    OnceOnly env (store.step env op) ↔ WritesMissing env store op := by
  rw [(sound.step distinct op).onceOnly_iff]
  obtain ⟨once, noneFails⟩ := sound.onceOnly_iff.mp onceOnly
  cases op with
  | lookup call =>
    simp only [WritesMissing, iff_true, step, lookup]
    split
    next => split <;> exact ⟨once, noneFails_setCall noneFails nofun⟩
    next => exact ⟨once, noneFails⟩
  | rollback call =>
    simp only [WritesMissing, iff_true, step, rollback]
    split
    next => exact ⟨once, noneFails_setCall noneFails nofun⟩
    next => exact ⟨once, noneFails_setCall noneFails nofun⟩
    next => exact ⟨once, noneFails⟩
  | insert call => exact onceOnly_insert_iff sound once noneFails call
  | commit call => exact onceOnly_commit_iff sound once noneFails call

theorem Quiet.onceOnly (quiet : Quiet env store) : OnceOnly env store := by
  refine quiet.sound.onceOnly_iff.mpr ⟨quiet.once, ?_⟩
  intro call failed
  rw [quiet.waiting call] at failed
  cases failed

def empty : NotificationStore where
  notifications := .empty
  deliveries := .empty
  calls _ := .waiting

theorem empty_quiet (env : NotificationCalls) : Quiet env empty := by
  constructor
  · exact fun _ => rfl
  · exact fun _ mem => absurd mem not_mem_nil
  · exact fun _ _ _ _ mem => absurd mem not_mem_nil
  · exact fun _ mem => absurd mem not_mem_nil

def runEvent (eventId eventType : String) : NotificationEvent where
  eventId := eventId
  runId := "run-1"
  teacherId := "teacher-1"
  eventType := eventType
  title := "Run"
  message := "Your run has news."
  metadataJson := ""

/-- The first two calls make the same notification, the third another one; the
others deliver. -/
def runCalls : NotificationCalls where
  call
    | 0 => .create (runEvent "notification-1" "run_completed")
    | 1 => .create (runEvent "notification-2" "run_completed")
    | 2 => .create (runEvent "notification-3" "blueprint_ready")
    | 3 => .deliver "notification-1" "in_app"
    | 4 => .deliver "notification-3" "email"
    | _ => .deliver "notification-3" "in_app"
  runExists _ := true

theorem runCalls_distinct : DistinctEvents runCalls := by
  intro first second event other isFirst isSecond same
  rcases first with _ | _ | _ | _ | _ | first <;> cases isFirst <;>
    rcases second with _ | _ | _ | _ | _ | second <;> cases isSecond <;>
      first | rfl | exact absurd same (by decide)

def inTurn (calls : List CallId) : List NotificationOp :=
  calls.flatMap fun call => [.lookup call, .insert call, .commit call]

instance (store : NotificationStore) : Decidable store.OnePerType := by
  unfold OnePerType
  infer_instance

instance (store : NotificationStore) (request : NotificationCall) :
    Decidable (store.StillMissing request) := by
  cases request <;> (unfold StillMissing; infer_instance)

instance (store : NotificationStore) (request : NotificationCall) :
    Decidable (store.MayInsert request) := by
  cases request <;> (unfold MayInsert; infer_instance)

instance (store : NotificationStore) (op : NotificationOp) :
    Decidable (WritesMissing env store op) := by
  cases op <;> (unfold WritesMissing; infer_instance)

end NotificationStore

end OhMyClass.Gateway.Notifications
