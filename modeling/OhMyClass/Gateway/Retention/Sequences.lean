import OhMyClass.Gateway.Retention.Rollup
import OhMyClass.Transition.Machine

/-!
# Event sequences across purges

A new event gets the sequence after the largest stored one.  The outbox keeps
the key of every event ever written, also of the purged ones, so that a run
whose events are all purged starts again at a taken key.
-/

namespace OhMyClass.Gateway

open List OhMyClass.Transition Session TeachingPackRunStore

inductive SequenceOp where
  | tick (elapsed : Nat)
  | writeEvent (payload : TeachingPackEventCreate)
  | writeObservabilityEvent (event : ObservabilityEvent) (visibility : TeachingPackEventVisibility)
  | softDeleteRun (runId : RunId) (deletedBy : String)
  | restoreRun (runId : RunId) (restoredBy : String)
  | purgeExpiredRunEvents

namespace SequenceOp

/-- The run an operation writes an event to. -/
def target : SequenceOp → Option RunId
  | tick _ => none
  | writeEvent payload => some payload.runId
  | writeObservabilityEvent event _ => some event.runId
  | softDeleteRun runId _ => some runId
  | restoreRun runId _ => some runId
  | purgeExpiredRunEvents => none

/-- Each operation is one transaction. -/
def step (db : Db) : SequenceOp → Db × Except GatewayError Unit
  | tick elapsed => ({ db with now := db.now + elapsed }, .ok ⟨⟩)
  | writeEvent payload => finish (Session.atomically (TeachingPackRunStore.writeEvent payload) db)
  | writeObservabilityEvent event visibility =>
    finish (Session.atomically (TeachingPackRunStore.writeObservabilityEvent event visibility) db)
  | softDeleteRun runId deletedBy =>
    finish (Session.atomically (Gateway.softDeleteRun runId deletedBy) db)
  | restoreRun runId restoredBy =>
    finish (Session.atomically (Gateway.restoreRun runId restoredBy) db)
  | purgeExpiredRunEvents => finish (Session.atomically Gateway.purgeExpiredRunEvents db)
where
  finish {α : Type} (outcome : Except GatewayError α × Db) : Db × Except GatewayError Unit :=
    (outcome.2, outcome.1.map fun _ => ())

end SequenceOp

/-- The events an operation adds to the stored ones. -/
def newEvents (before after : Db) : List RunEvent :=
  after.events.rows.filter fun event =>
    ¬ ∃ stored ∈ before.events.rows, RunEvent.Conflict stored event

theorem newEvents_of_subset {before after : Db}
    (subset : ∀ event ∈ after.events.rows, event ∈ before.events.rows) :
    newEvents before after = [] := by
  rw [newEvents, filter_eq_nil_iff]
  intro event mem isNew
  exact of_decide_eq_true isNew ⟨event, subset event mem, rfl, rfl⟩

theorem newEvents_of_append {before after : Db} {row : RunEvent}
    (rows : after.events.rows = before.events.rows ++ [row])
    (fresh : ∀ stored ∈ before.events.rows, ¬ RunEvent.Conflict stored row) :
    newEvents before after = [row] := by
  have noneOld : before.events.rows.filter (fun event => decide
      (¬ ∃ stored ∈ before.events.rows, RunEvent.Conflict stored event)) = [] := by
    rw [filter_eq_nil_iff]
    intro event mem isNew
    exact of_decide_eq_true isNew ⟨event, mem, rfl, rfl⟩
  have isNew : decide (¬ ∃ stored ∈ before.events.rows, RunEvent.Conflict stored row) = true := by
    apply decide_eq_true
    rintro ⟨stored, mem, clash⟩
    exact fresh stored mem clash
  rw [newEvents, rows, filter_append, noneOld, filter_cons, if_pos isNew]
  rfl

/-- The database and the keys of all events ever written to it. -/
structure EventLog where
  db : Db
  assigned : List (RunId × Nat)

namespace EventLog

/-- The keys an operation adds to the stored events. -/
def newKeys (before after : Db) : List (RunId × Nat) :=
  (newEvents before after).map fun event => (event.runId, event.sequence)

def step (log : EventLog) (op : SequenceOp) : EventLog × Except GatewayError Unit :=
  (⟨(op.step log.db).1, newKeys log.db (op.step log.db).1 ++ log.assigned⟩, (op.step log.db).2)

/-- Any database before its first event. -/
def start (db : Db) : EventLog :=
  ⟨{ db with events := .empty, outbox := .empty }, []⟩

end EventLog

def eventLogMachine : Machine EventLog SequenceOp (Except GatewayError Unit) where
  initial log := ∃ db, log = EventLog.start db
  step := EventLog.step

/-- A new event of an existing run gets a sequence above all earlier ones of
the run, and the outbox accepts it. -/
def NeverReused (log : EventLog) (op : SequenceOp) : Prop :=
  ∀ runId, op.target = some runId → log.db.HasRun runId →
    (∀ earlier ∈ log.assigned, earlier.1 = runId →
      earlier.2 < TeachingPackRunStore.nextSequence log.db runId) ∧
    (RunEventOutboxStore.enqueue runId (TeachingPackRunStore.nextSequence log.db runId) log.db).1 =
      .ok ⟨⟩

/-- An existing run an event is written to still has a stored event, or the
outbox knows none of it. -/
def KeepsAnEvent (log : EventLog) (op : SequenceOp) : Prop :=
  ∀ runId, op.target = some runId → log.db.HasRun runId →
    (∃ event ∈ log.db.events.rows, event.runId = runId) ∨
      ∀ row ∈ log.db.outbox.rows, row.runId ≠ runId

theorem dedupeKey_injective {firstRun secondRun : RunId} {first second : Nat}
    (same : firstRun ++ ":" ++ toString first = secondRun ++ ":" ++ toString second) :
    firstRun = secondRun ∧ first = second := by
  have lists := congrArg String.toList same
  simp only [String.toList_append, Nat.toString_eq_repr, Nat.toList_repr, append_assoc] at lists
  have noColon (n : Nat) : ':' ∉ Nat.toDigits 10 n := by
    intro mem
    have isDigit := Text.isDigit_of_mem_toDigits mem
    revert isDigit
    decide
  rcases Text.split_at_last (noColon first) (noColon second) lists with ⟨runs, digits⟩
  exact ⟨String.toList_injective runs, Text.toDigits_injective digits⟩

variable {db : Db} {runId : RunId}

theorem outbox_free
    (keyed : ∀ row ∈ db.outbox.rows, row.dedupeKey = row.runId ++ ":" ++ toString row.sequence)
    (above : ∀ row ∈ db.outbox.rows, row.runId = runId →
      row.sequence < TeachingPackRunStore.nextSequence db runId) (now : DateTime) :
    ∀ stored ∈ db.outbox.rows, ¬ RunEventOutbox.Conflict stored
      (outboxRow runId (TeachingPackRunStore.nextSequence db runId) now) := by
  intro stored mem clash
  have sameKey : stored.runId = runId ∧
      stored.sequence = TeachingPackRunStore.nextSequence db runId := by
    rcases clash with sameText | samePair
    · exact dedupeKey_injective ((keyed stored mem).symm.trans sameText)
    · exact samePair
  have below := above stored mem sameKey.1
  rw [sameKey.2] at below
  exact Nat.lt_irrefl _ below

/-! ## What an operation does to the log -/

/-- The operation rewrites at most the runs and then writes one row to the log
of the run, unless the outbox rejects it. -/
structure WritesRow (db : Db) (op : SequenceOp) (runId : RunId) (runs : Runs)
    (row : Nat → DateTime → RunEvent) : Prop where
  hasRun : Db.HasRun { db with runs := runs } runId
  rowOf : TeachingPackRunStore.RowOf runId row
  returned : ∀ {read after},
    TeachingPackRunStore.writeRow runId row { db with runs := runs } = (.ok read, after) →
      (op.step db).1 = after
  raised : ∀ {error after},
    TeachingPackRunStore.writeRow runId row { db with runs := runs } = (.error error, after) →
      (op.step db).1 = db

variable {op : SequenceOp}

theorem writesRow_writeRow {row : Nat → DateTime → RunEvent}
    (rowOf : TeachingPackRunStore.RowOf runId row) (hasRun : db.HasRun runId) (stepEq : op.step db =
      SequenceOp.step.finish (atomically (writeRow runId row) db)) :
    WritesRow db op runId db.runs row where
  hasRun := hasRun
  rowOf := rowOf
  returned := fun written => by
    rw [stepEq, atomically_of_ok written]
    rfl
  raised := fun rejected => by
    rw [stepEq, atomically_of_error rejected]
    rfl

theorem writesRow_markDeleted {change : DateTime → Run → Run}
    {keeps : ∀ now run, (change now run).runId = run.runId} {event : TeachingPackEventCreate}
    (sameRun : event.runId = runId) (hasRun : db.HasRun runId) (stepEq : op.step db =
      SequenceOp.step.finish (atomically (markDeleted runId change keeps event) db)) :
    WritesRow db op runId (db.changeRun runId (change db.now) (keeps db.now)).runs event.row := by
  rcases Option.isSome_iff_exists.mp (Db.findRun_isSome_iff.mpr hasRun) with ⟨run, found⟩
  constructor
  · exact Db.hasRun_changeRun (keeps db.now) hasRun
  · rw [← sameRun]
    exact rowOf_writeEvent event
  · intro read after written
    have marked : markDeleted runId change keeps event db = (.ok ⟨⟩, after) := by
      simp only [markDeleted, found, write_bind]
      apply bind_apply_ok
      rw [TeachingPackRunStore.writeEvent, sameRun]
      exact written
    rw [stepEq, atomically_of_ok marked]
    rfl
  · intro error after rejected
    have marked : markDeleted runId change keeps event db = (.error error, after) := by
      simp only [markDeleted, found, write_bind]
      apply bind_apply_error
      rw [TeachingPackRunStore.writeEvent, sameRun]
      exact rejected
    rw [stepEq, atomically_of_error marked]
    rfl

theorem SequenceOp.writesRow (isTarget : op.target = some runId) (hasRun : db.HasRun runId) :
    ∃ runs row, WritesRow db op runId runs row := by
  cases op with
  | tick | purgeExpiredRunEvents => cases isTarget
  | writeEvent payload =>
    cases isTarget
    exact ⟨_, _, writesRow_writeRow (rowOf_writeEvent payload) hasRun rfl⟩
  | writeObservabilityEvent event visibility =>
    cases isTarget
    exact ⟨_, _, writesRow_writeRow
      (rowOf_writeObservabilityEvent event visibility) hasRun rfl⟩
  | softDeleteRun | restoreRun =>
    cases isTarget
    exact ⟨_, _, writesRow_markDeleted rfl hasRun rfl⟩

theorem SequenceOp.step_of_missing (isTarget : op.target = some runId)
    (missing : ¬ db.HasRun runId) : (op.step db).1 = db := by
  have notFound : db.findRun runId = none := by
    rw [← Option.not_isSome_iff_eq_none, Db.findRun_isSome_iff]
    exact missing
  cases op with
  | tick | purgeExpiredRunEvents => cases isTarget
  | writeEvent payload =>
    cases isTarget
    have rejected := writeRow_of_missing
      (rowOf_writeEvent payload) missing
    simp only [step, step.finish, atomically, TeachingPackRunStore.writeEvent, rejected]
  | writeObservabilityEvent event visibility =>
    cases isTarget
    have rejected := writeRow_of_missing
      (rowOf_writeObservabilityEvent event visibility) missing
    simp only [step, step.finish, atomically, TeachingPackRunStore.writeObservabilityEvent,
      rejected]
  | softDeleteRun | restoreRun =>
    cases isTarget
    simp only [step, step.finish, atomically, Gateway.softDeleteRun, Gateway.restoreRun,
      markDeleted, notFound]

/-! ## The log stays sound -/

namespace EventLog

/-- The outbox holds exactly the keys ever assigned, and a run has lost none of
its events or all of them. -/
structure Sound (log : EventLog) : Prop where
  keyed : ∀ row ∈ log.db.outbox.rows, row.dedupeKey = row.runId ++ ":" ++ toString row.sequence
  recorded : ∀ row ∈ log.db.outbox.rows, (row.runId, row.sequence) ∈ log.assigned
  kept : ∀ entry ∈ log.assigned, ∃ row ∈ log.db.outbox.rows, row.runId = entry.1
  positive : ∀ entry ∈ log.assigned, 0 < entry.2
  whole : ∀ event ∈ log.db.events.rows, ∀ entry ∈ log.assigned, entry.1 = event.runId →
    ∃ stored ∈ log.db.events.rows, stored.runId = entry.1 ∧ stored.sequence = entry.2

variable {log : EventLog} {op : SequenceOp} {after : Db}

section

variable (sound : log.Sound)

include sound

/-- Where the outbox stays and whole runs lose their events, nothing else
changes. -/
theorem Sound.of_purged (selected : RunId → Bool) (outbox : after.outbox = log.db.outbox)
    (events : after.events.rows = log.db.events.rows.filter fun event => !selected event.runId) :
    Sound ⟨after, newKeys log.db after ++ log.assigned⟩ := by
  have noNew : newKeys log.db after = [] := by
    rw [newKeys, newEvents_of_subset, map_nil]
    intro event mem
    rw [events] at mem
    exact (mem_filter.mp mem).1
  rw [noNew]
  constructor
  · rw [outbox]
    exact sound.keyed
  · rw [outbox]
    exact sound.recorded
  · rw [outbox]
    exact sound.kept
  · exact sound.positive
  · intro event mem entry assigned sameRun
    rw [events] at mem ⊢
    rcases mem_filter.mp mem with ⟨stored, survives⟩
    rcases sound.whole event stored entry assigned sameRun with ⟨other, otherStored, sameKey⟩
    refine ⟨other, mem_filter.mpr ⟨otherStored, ?_⟩, sameKey⟩
    rw [sameKey.1, sameRun]
    exact survives

theorem Sound.of_unchanged (outbox : after.outbox = log.db.outbox)
    (events : after.events = log.db.events) :
    Sound ⟨after, newKeys log.db after ++ log.assigned⟩ := by
  apply sound.of_purged (fun _ => false) outbox
  rw [events]
  exact (filter_eq_self.mpr fun _ _ => rfl).symm

theorem Sound.of_written {runId : RunId} {row : RunEvent} {now : DateTime}
    (rowRun : row.runId = runId)
    (next : row.sequence = TeachingPackRunStore.nextSequence log.db runId)
    (events : after.events.rows = log.db.events.rows ++ [row])
    (outbox : after.outbox.rows = log.db.outbox.rows ++
      [outboxRow runId (TeachingPackRunStore.nextSequence log.db runId) now])
    (above : ∀ earlier ∈ log.assigned, earlier.1 = runId →
      earlier.2 < TeachingPackRunStore.nextSequence log.db runId) :
    Sound ⟨after, newKeys log.db after ++ log.assigned⟩ := by
  subst rowRun
  rw [← next] at outbox above
  have fresh : ∀ stored ∈ log.db.events.rows, ¬ RunEvent.Conflict stored row :=
    fun _ mem => not_conflict_next mem next
  rw [newKeys, newEvents_of_append events fresh, map_singleton]
  constructor
  · rw [outbox]
    intro stored mem
    rcases mem_append.mp mem with old | new
    · exact sound.keyed stored old
    · rw [mem_singleton.mp new]
      rfl
  · rw [outbox]
    intro stored mem
    rcases mem_append.mp mem with old | new
    · exact mem_cons_of_mem _ (sound.recorded stored old)
    · rw [mem_singleton.mp new]
      exact mem_cons_self
  · rw [outbox]
    intro entry assigned
    rcases mem_cons.mp assigned with rfl | earlier
    · exact ⟨_, mem_append_right _ (mem_singleton.mpr rfl), rfl⟩
    · rcases sound.kept entry earlier with ⟨stored, mem, sameRun⟩
      exact ⟨stored, mem_append_left _ mem, sameRun⟩
  · intro entry assigned
    rcases mem_cons.mp assigned with rfl | earlier
    · rw [next]
      exact Nat.succ_pos _
    · exact sound.positive entry earlier
  · rw [events]
    intro event mem entry assigned sameRun
    rcases mem_cons.mp assigned with rfl | earlier
    · exact ⟨row, mem_append_right _ (mem_singleton.mpr rfl), rfl, rfl⟩
    · obtain ⟨old, oldStored, oldRun⟩ :
          ∃ old ∈ log.db.events.rows, old.runId = event.runId := by
        rcases mem_append.mp mem with old | new
        · exact ⟨event, old, rfl⟩
        · rw [mem_singleton.mp new] at sameRun ⊢
          by_contra noEvent
          simp only [not_exists, not_and] at noEvent
          have below := above entry earlier sameRun
          rw [next, nextSequence_of_no_event noEvent] at below
          exact absurd (sound.positive entry earlier) (Nat.not_lt.mpr (Nat.le_of_lt_succ below))
      obtain ⟨stored, survives, sameKey⟩ :=
        sound.whole old oldStored entry earlier (sameRun.trans oldRun.symm)
      exact ⟨stored, mem_append_left _ survives, sameKey⟩

theorem Sound.outbox_above {runId : RunId} (above : ∀ earlier ∈ log.assigned, earlier.1 = runId →
      earlier.2 < TeachingPackRunStore.nextSequence log.db runId) :
    ∀ row ∈ log.db.outbox.rows, row.runId = runId →
      row.sequence < TeachingPackRunStore.nextSequence log.db runId :=
  fun row mem sameRun => above _ (sound.recorded row mem) sameRun

/-- The step lemma: an operation that does not reuse a sequence keeps the log
sound. -/
theorem Sound.step (neverReused : NeverReused log op) :
    (log.step op).1.Sound := by
  cases isTarget : op.target with
  | none =>
    cases op with
    | tick => exact sound.of_unchanged rfl rfl
    | purgeExpiredRunEvents => exact sound.of_purged _ rfl rfl
    | writeEvent | writeObservabilityEvent | softDeleteRun | restoreRun => cases isTarget
  | some runId =>
    by_cases hasRun : log.db.HasRun runId
    · rcases neverReused runId isTarget hasRun with ⟨above, _⟩
      rcases SequenceOp.writesRow isTarget hasRun with ⟨runs, row, writes⟩
      have free := outbox_free sound.keyed (sound.outbox_above above) log.db.now
      obtain ⟨events, outbox, eventRows, outboxRows, written⟩ :=
        writeRow_of_free writes.rowOf writes.hasRun free
      obtain ⟨runEq, sequenceEq, _⟩ :=
        writes.rowOf (TeachingPackRunStore.nextSequence log.db runId) log.db.now
      have afterEq := writes.returned written
      apply sound.of_written runEq sequenceEq
      · rw [afterEq]
        exact eventRows
      · rw [afterEq]
        exact outboxRows
      · exact above
    · have unchanged := SequenceOp.step_of_missing isTarget hasRun
      apply sound.of_unchanged
      · rw [unchanged]
      · rw [unchanged]

/-- On a sound log a sequence is fresh exactly if the run has kept an event or
never had one. -/
theorem Sound.neverReused_iff (op : SequenceOp) :
    NeverReused log op ↔ KeepsAnEvent log op := by
  constructor
  · intro neverReused runId isTarget hasRun
    rcases neverReused runId isTarget hasRun with ⟨above, _⟩
    by_cases keeps : ∃ event ∈ log.db.events.rows, event.runId = runId
    · exact .inl keeps
    · right
      intro row mem sameRun
      simp only [not_exists, not_and] at keeps
      have below := above _ (sound.recorded row mem) sameRun
      rw [nextSequence_of_no_event keeps] at below
      exact absurd (sound.positive _ (sound.recorded row mem))
        (Nat.not_lt.mpr (Nat.le_of_lt_succ below))
  · intro keepsAnEvent runId isTarget hasRun
    have above : ∀ earlier ∈ log.assigned, earlier.1 = runId →
        earlier.2 < TeachingPackRunStore.nextSequence log.db runId := by
      intro earlier assigned sameRun
      rcases keepsAnEvent runId isTarget hasRun with ⟨event, stored, eventRun⟩ | noRow
      · obtain ⟨other, otherStored, otherRun, otherSequence⟩ :=
          sound.whole event stored earlier assigned (sameRun.trans eventRun.symm)
        rw [← otherSequence, ← sameRun, ← otherRun]
        exact TeachingPackRunStore.sequence_lt_nextSequence otherStored
      · rcases sound.kept earlier assigned with ⟨row, mem, rowRun⟩
        exact absurd (rowRun.trans sameRun) (noRow row mem)
    apply And.intro above
    have free := outbox_free sound.keyed (sound.outbox_above above) log.db.now
    cases inserted : log.db.outbox.insert
        (outboxRow runId (TeachingPackRunStore.nextSequence log.db runId) log.db.now) with
    | none =>
      rcases Table.insert_eq_none_iff.mp inserted with ⟨stored, mem, clash⟩
      exact absurd clash (free stored mem)
    | some outbox =>
      simp only [RunEventOutboxStore.enqueue, if_pos hasRun, inserted]

end

theorem sound_start (db : Db) : (start db).Sound where
  keyed := nofun
  recorded := nofun
  kept := nofun
  positive := nofun
  whole := nofun

end EventLog

/-- In every history of a database, all sequences are fresh exactly if every
event goes to a run that has kept an event or never had one. -/
theorem sequences_never_reused_iff (db : Db) (ops : List SequenceOp) :
    (∀ visit ∈ eventLogMachine.visits (EventLog.start db) ops, NeverReused visit.1 visit.2) ↔
      ∀ visit ∈ eventLogMachine.visits (EventLog.start db) ops, KeepsAnEvent visit.1 visit.2 := by
  apply Machine.forall_visits_congr EventLog.Sound
  · exact fun log op sound neverReused => sound.step neverReused
  · exact fun log op sound => sound.neverReused_iff op
  · exact EventLog.sound_start db

/-- A finished run without events. -/
def completedDb : Db :=
  { Db.empty 0 with
    runs := .single ⟨"run-1", "teacher-1", .completed, 0, none, none, none, none⟩ }

/-- Deleted, purged after the retention period of its events, and restored. -/
def restoredOps : List SequenceOp :=
  [.softDeleteRun "run-1" "teacher-1", .tick (days 91).toNat, .purgeExpiredRunEvents,
    .restoreRun "run-1" "teacher-1"]

/-- The event of the restore gets the sequence of the purged one; the outbox
rejects it and the run stays deleted. -/
theorem restored_run_reuses_sequence :
    (∃ visit ∈ eventLogMachine.visits (EventLog.start completedDb) restoredOps,
      ¬ NeverReused visit.1 visit.2 ∧
        ((visit.1.step visit.2).2 = .error (.store .integrityError))) ∧
    ∃ run ∈ (eventLogMachine.drive (EventLog.start completedDb, []) restoredOps).1.db.runs.rows,
      run.runId = "run-1" ∧ run.deletedAt = some 0 := by
  constructor
  · refine ⟨_, mem_of_getElem? (i := 3) rfl, ?_, rfl⟩
    intro neverReused
    have below := (neverReused "run-1" rfl ⟨_, mem_singleton.mpr rfl, rfl⟩).1 ("run-1", 1)
      (mem_singleton.mpr rfl) rfl
    revert below
    decide
  · exact ⟨_, mem_singleton.mpr rfl, rfl, rfl⟩

end OhMyClass.Gateway
