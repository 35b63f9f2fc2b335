import Mathlib.Data.List.Dedup
import OhMyClass.Gateway.Runs.Store

/-!
# Purges and rollups

Which rows of deleted runs go, and what is kept of the events of a day.
-/

namespace OhMyClass.Gateway

/-!
## Which runs may be pruned

The retention periods and the default-deny predicate every purge asks before
it deletes rows of a soft-deleted run.
-/

section

/-- `RetentionConfig`, in days. -/
structure RetentionConfig where
  runMetadata : Int := 365
  events : Int := 90
  snapshots : Int := 180

def retention : RetentionConfig := {}

def isExpired (now : DateTime) (deletedAt : Option DateTime) (retentionDays : Int) : Bool :=
  match deletedAt with
  | none => false
  | some deletedAt => now > deletedAt + days retentionDays

structure RunPruneContext where
  runId : RunId
  status : RunStatus
  deletedAt : Option DateTime
  hasOpenGate : Bool
  fastLaneApprovedAt : Option DateTime
  exportFinalized : Bool

def fastLaneRevertWindowSeconds : Int := 900

/-- Every clause denies: terminal, no open gate, expired, and past the revert
window of a fast-lane approval. -/
def isPrunable (now : DateTime) (ctx : RunPruneContext) (retentionDays : Int) : Bool :=
  if ¬ ctx.status.IsTerminal then false
  else if ctx.hasOpenGate then false
  else if !isExpired now ctx.deletedAt retentionDays then false
  else
    match ctx.fastLaneApprovedAt with
    | none => true
    | some approvedAt =>
      if !ctx.exportFinalized then false
      else if now < approvedAt + seconds fastLaneRevertWindowSeconds then false
      else true

/-- The facts `is_prunable` needs, read from the database. -/
def buildRunPruneContext (db : Db) (run : Run) : RunPruneContext where
  runId := run.runId
  status := run.status
  deletedAt := run.deletedAt
  hasOpenGate := db.gates.rows.any fun gate =>
    gate.runId == run.runId && (gate.status == .active || gate.status == .expired)
  fastLaneApprovedAt :=
    ((db.events.rows.filter fun event =>
      event.runId == run.runId &&
        event.eventName == "teaching_pack.content_approval.auto_approved").map
      RunEvent.createdAt).max?
  exportFinalized := db.statusHistory.any fun row =>
    row.runId == run.runId && row.stage == some "export_finalize"

end

/-!
## Soft deletion and purges

A soft-deleted run stays until its retention periods have passed; each purge
then deletes one kind of row of the runs that are prunable for it.  The event
purge leaves the outbox of a run alone.
-/

section

open OhMyClass.Transition

/-- Rewrite the deletion columns of an existing run and leave an event; the
body `soft_delete_run` and `restore_run` share. -/
def markDeleted (runId : RunId) (change : DateTime → Run → Run)
    (keeps : ∀ now run, (change now run).runId = run.runId) (event : TeachingPackEventCreate) :
    DbSession PUnit := fun db =>
  match db.findRun runId with
  | none => (.ok ⟨⟩, db)
  | some _ =>
    (do
      Session.write fun db => db.changeRun runId (change db.now) (keeps db.now)
      let _ ← TeachingPackRunStore.writeEvent event
      return ⟨⟩ : DbSession PUnit) db

def softDeleteRun (runId : RunId) (deletedBy : String) : DbSession PUnit :=
  markDeleted runId
    (fun now run => { run with deletedAt := some now, deletedBy := some deletedBy })
    (fun _ _ => rfl)
    { runId := runId
      eventName := "run.soft_deleted"
      visibility := .admin
      payload := some [("deleted_by", .str deletedBy)] }

def restoreRun (runId : RunId) (restoredBy : String) : DbSession PUnit :=
  markDeleted runId
    (fun _ run => { run with deletedAt := none, deletedBy := none })
    (fun _ _ => rfl)
    { runId := runId
      eventName := "run.restored"
      visibility := .admin
      payload := some [("restored_by", .str restoredBy)] }

def deletedRuns (db : Db) : List Run :=
  db.runs.rows.filter fun run => run.deletedAt.isSome

def prunableDeletedRuns (retentionDays : Int) (db : Db) : List Run :=
  (deletedRuns db).filter fun run =>
    isPrunable db.now (buildRunPruneContext db run) retentionDays

/-- The ids of the runs one purge works on. -/
def prunableRunIds (retentionDays : Int) (db : Db) : List RunId :=
  (prunableDeletedRuns retentionDays db).map Run.runId

def purgeExpiredRunEvents : DbSession Nat := fun db =>
  let purged := (prunableRunIds retention.events db).contains
  (.ok (db.events.rows.filter fun event => purged event.runId).length, db.deleteEvents purged)

def purgeExpiredSnapshots : DbSession Nat := fun db =>
  let purged (snapshot : ArtifactSnapshot) : Bool :=
    (prunableRunIds retention.snapshots db).contains snapshot.runId
  (.ok (db.snapshots.rows.filter purged).length, db.deleteSnapshots purged)

/-- One round of the loop of `purge_expired_runs`; the facts about a run are
read after the earlier rounds have deleted theirs. -/
def purgeRun (found : Db × List RunId) (run : Run) : Db × List RunId :=
  let retentionDays := run.retentionDays.getD retention.runMetadata
  if isPrunable found.1.now (buildRunPruneContext found.1 run) retentionDays then
    (found.1.deleteRun run.runId, found.2 ++ [run.runId])
  else
    found

def purgeExpiredRuns : DbSession (List RunId) := fun db =>
  let purged := (deletedRuns db).foldl purgeRun (db, [])
  (.ok purged.2, purged.1)

end

/-!
## Daily KPI rollups

One row for each UTC day, computed from the events stored for that day and
written over the row of an earlier computation.
-/

section

open OhMyClass.Transition

def utcDay (time : DateTime) : Date :=
  time / days 1

/-- `_inner_payload`: events of the agents' event bus nest their payload. -/
def innerPayload (payload : Option JsonObject) : JsonObject :=
  match payload with
  | none => []
  | some members =>
    match members.get? "observability_event_type" with
    | none => members
    | some _ =>
      match members.get? "payload" with
      | some (.obj inner) => inner
      | _ => []

/-- `distribution[strategy] = distribution.get(strategy, 0) + 1`. -/
def countStrategy (strategy : String) : List (String × Nat) → List (String × Nat)
  | [] => [(strategy, 1)]
  | (known, count) :: rest =>
    if known = strategy then (known, count + 1) :: rest
    else (known, count) :: countStrategy strategy rest

/-- The tokens of a cost event. -/
def tokensOf (builtin : BuiltinConversions) (payload : Option JsonObject) :
    Except GatewayError Int := do
  let inner := innerPayload payload
  let promptTokens ← builtin.intOrZero ((inner.get? "prompt_tokens").getD (.int 0))
  let completionTokens ← builtin.intOrZero ((inner.get? "completion_tokens").getD (.int 0))
  return promptTokens + completionTokens

/-- One round of the loop over the events of a day; `event_count` apart. -/
def tallyEvent (builtin : BuiltinConversions) (rollup : RunEventKpiRollup) (event : RunEvent) :
    Except GatewayError RunEventKpiRollup :=
  if event.eventName = "teaching_pack.run.completed" then
    .ok { rollup with successCount := rollup.successCount + 1 }
  else if event.eventName = "teaching_pack.run.failed" then
    .ok { rollup with failCount := rollup.failCount + 1 }
  else if event.eventName = "escalate" then
    .ok { rollup with escalateCount := rollup.escalateCount + 1 }
  else if event.eventName = "breaker_tripped" then
    .ok { rollup with breakerTripCount := rollup.breakerTripCount + 1 }
  else if event.eventName = "healing_decision" then
    let strategy := builtin.str
      (((innerPayload event.payload).get? "healing_strategy").getD (.str "unknown"))
    .ok { rollup with healingDistribution := countStrategy strategy rollup.healingDistribution }
  else if event.eventName = "cost_accrued" then
    (tokensOf builtin event.payload).map fun tokens =>
      { rollup with tokensUsed := rollup.tokensUsed + tokens }
  else
    .ok rollup

/-- The stored events of a day. -/
def eventsOf (day : Date) (events : List RunEvent) : List RunEvent :=
  events.filter fun event => utcDay event.createdAt == day

def computeDailyKpiRollup (builtin : BuiltinConversions) (events : List RunEvent) (day : Date) :
    Except GatewayError RunEventKpiRollup :=
  (eventsOf day events).foldlM (tallyEvent builtin)
    ⟨day, (eventsOf day events).length, 0, 0, 0, 0, [], 0⟩

variable {builtin : BuiltinConversions} {rollup : RunEventKpiRollup}

theorem tallyEvent_keeps {tallied : RunEventKpiRollup} {event : RunEvent}
    (tallyEq : tallyEvent builtin rollup event = .ok tallied) :
    tallied.day = rollup.day ∧ tallied.eventCount = rollup.eventCount := by
  cases tokens : tokensOf builtin event.payload with
  | error | ok =>
    simp only [tallyEvent, tokens] at tallyEq
    repeat' split at tallyEq
    all_goals
      cases tallyEq <;> exact ⟨rfl, rfl⟩

theorem computeDailyKpiRollup_counts {events : List RunEvent} {day : Date}
    (computed : computeDailyKpiRollup builtin events day = .ok rollup) :
    rollup.day = day ∧ rollup.eventCount = (eventsOf day events).length := by
  have counts (rest : List RunEvent) (start : RunEventKpiRollup)
      (tallied : rest.foldlM (tallyEvent builtin) start = .ok rollup) :
      rollup.day = start.day ∧ rollup.eventCount = start.eventCount := by
    induction rest generalizing start with
    | nil =>
      cases tallied
      exact ⟨rfl, rfl⟩
    | cons event rest ih =>
      rw [List.foldlM_cons] at tallied
      cases first : tallyEvent builtin start event with
      | error =>
        rw [first] at tallied
        cases tallied
      | ok next =>
        rw [first] at tallied
        obtain ⟨dayEq, countEq⟩ := ih next tallied
        obtain ⟨nextDay, nextCount⟩ := tallyEvent_keeps first
        exact ⟨dayEq.trans nextDay, countEq.trans nextCount⟩
  exact counts _ _ computed

/-! ## Storing rollups -/

/-- Insert the row of a day, or write it over the stored one. -/
def RunEventKpiRollups.upsert (rollups : RunEventKpiRollups) (rollup : RunEventKpiRollup) :
    RunEventKpiRollups :=
  match rollups.insert rollup with
  | some grown => grown
  | none =>
    rollups.update (fun stored => stored.day == rollup.day) (fun _ => rollup)
      fun first second clash => by
        have dayEq (stored : RunEventKpiRollup) :
            (Table.changeSelected (fun stored => stored.day == rollup.day) (fun _ => rollup)
              stored).day = stored.day := by
          unfold Table.changeSelected
          split
          · next isDay => exact (beq_iff_eq.mp isDay).symm
          · rfl
        exact (dayEq first).symm.trans (clash.trans (dayEq second))

theorem RunEventKpiRollups.mem_upsert {rollups : RunEventKpiRollups} {row : RunEventKpiRollup} :
    row ∈ (rollups.upsert rollup).rows ↔
      row = rollup ∨ row ∈ rollups.rows ∧ row.day ≠ rollup.day := by
  unfold upsert
  split
  · next grown inserted =>
    rw [Table.rows_of_insert inserted, List.mem_append, List.mem_singleton]
    constructor
    · rintro (stored | isNew)
      · right
        apply And.intro stored
        intro sameDay
        have taken := Table.insert_eq_none_iff.mpr ⟨row, stored, sameDay⟩
        rw [inserted] at taken
        cases taken
      · exact .inl isNew
    · rintro (isNew | ⟨stored, _⟩)
      · exact .inr isNew
      · exact .inl stored
  · next taken =>
    obtain ⟨clashing, clashStored, sameDay⟩ := Table.insert_eq_none_iff.mp taken
    constructor
    · intro mem
      rcases Table.mem_map_changeSelected.mp mem with ⟨_, _, _, rfl⟩ | ⟨stored, otherDay⟩
      · exact .inl rfl
      · exact .inr ⟨stored, beq_eq_false_iff_ne.mp otherDay⟩
    · rintro (rfl | ⟨stored, otherDay⟩)
      · exact Table.mem_map_changeSelected.mpr
          (.inl ⟨clashing, clashStored, beq_iff_eq.mpr sameDay, rfl⟩)
      · exact Table.mem_map_changeSelected.mpr (.inr ⟨stored, beq_eq_false_iff_ne.mpr otherDay⟩)

def ensureKpiRollupForDay (builtin : BuiltinConversions) (day : Date) : DbSession PUnit := fun db =>
  match computeDailyKpiRollup builtin db.events.rows day with
  | .error error => (.error error, db)
  | .ok rollup => (.ok ⟨⟩, { db with rollups := db.rollups.upsert rollup })

/-- The days on which an event older than the retention period is stored. -/
def daysNeedingRollupBeforePurge (eventsRetentionDays : Int) (db : Db) : List Date :=
  ((db.events.rows.filter fun event => event.createdAt < db.now - days eventsRetentionDays).map
    fun event => utcDay event.createdAt).dedup.insertionSort (· ≤ ·)

/-- A returning sequence of rollups has written the row of each day and left
the rows of other days alone. -/
theorem forEach_ensureKpiRollupForDay {rolledDays : List Date} {db after : Db} {answer : PUnit}
    (ret : Session.forEach rolledDays (ensureKpiRollupForDay builtin) db =
      (.ok answer, after)) :
    after = { db with rollups := after.rollups } ∧
      (∀ day ∈ rolledDays, ∃ rollup ∈ after.rollups.rows,
        computeDailyKpiRollup builtin db.events.rows day = .ok rollup) ∧
      ∀ rollup ∈ db.rollups.rows, rollup.day ∉ rolledDays → rollup ∈ after.rollups.rows := by
  induction rolledDays generalizing db with
  | nil =>
    cases ret
    exact ⟨rfl, fun _ mem => (List.not_mem_nil mem).elim, fun _ stored _ => stored⟩
  | cons day rest ih =>
    obtain ⟨_, between, first, others⟩ := Session.bind_eq_ok.mp ret
    unfold ensureKpiRollupForDay at first
    split at first
    · cases first
    · next rollup computed =>
      cases first
      obtain ⟨afterEq, rolled, untouched⟩ := ih others
      have dayEq := (computeDailyKpiRollup_counts computed).1
      refine ⟨afterEq, ?_, ?_⟩
      · intro other mem
        rcases List.mem_cons.mp mem with rfl | later
        · by_cases again : other ∈ rest
          · exact rolled other again
          · refine ⟨rollup, ?_, computed⟩
            apply untouched rollup (RunEventKpiRollups.mem_upsert.mpr (.inl rfl))
            rw [dayEq]
            exact again
        · exact rolled other later
      · intro stored mem otherDay
        rw [List.mem_cons, not_or] at otherDay
        apply untouched stored _ otherDay.2
        apply RunEventKpiRollups.mem_upsert.mpr (.inr ⟨mem, _⟩)
        rw [dayEq]
        exact otherDay.1

end

end OhMyClass.Gateway
