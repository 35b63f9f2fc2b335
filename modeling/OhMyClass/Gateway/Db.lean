import OhMyClass.Gateway.Jobs.Store
import OhMyClass.Gateway.Runs.Status
import OhMyClass.Gateway.Snapshots.Content
import OhMyClass.Transition.Session

/-!
# The gateway database

The tables a run lives in, with their unique constraints and the cascade of a
deleted run.  A request works on the database through a session, and a
transaction commits or discards what the session wrote.
-/

namespace OhMyClass.Gateway

section

open OhMyClass.Transition

/-- A row of `public.runs`. -/
structure Run where
  runId : RunId
  teacherId : String
  status : RunStatus
  createdAt : DateTime
  deletedAt : Option DateTime
  deletedBy : Option String
  retentionDays : Option Int
  parentRunId : Option RunId

def Run.Conflict (first second : Run) : Prop :=
  first.runId = second.runId
  deriving Decidable

abbrev Runs := Table Run Run.Conflict

/-- A row of `public.run_status_history`. -/
structure RunStatusHistory where
  runId : RunId
  status : RunStatus
  stage : Option String
  reason : Option String
  createdAt : DateTime

inductive GateInterruptStatus where
  | active
  | responded
  | expired
  | cancelled
  deriving DecidableEq

/-- A row of `public.gate_interrupts`. -/
structure GateInterrupt where
  gateId : String
  runId : RunId
  gateName : String
  status : GateInterruptStatus
  payload : JsonObject
  createdAt : DateTime

/-- The primary key and the partial index over active gates. -/
def GateInterrupt.Conflict (first second : GateInterrupt) : Prop :=
  first.gateId = second.gateId ∨
    (first.status = .active ∧ second.status = .active ∧
      first.runId = second.runId ∧ first.gateName = second.gateName)
  deriving Decidable

abbrev GateInterrupts := Table GateInterrupt GateInterrupt.Conflict

inductive TeachingPackEventVisibility where
  | teacher
  | admin
  | internal
  deriving DecidableEq

/-- A row of `public.run_events`. -/
structure RunEvent where
  runId : RunId
  sequence : Nat
  eventName : String
  stage : Option String
  visibility : TeachingPackEventVisibility
  payload : Option JsonObject
  createdAt : DateTime

def RunEvent.Conflict (first second : RunEvent) : Prop :=
  first.runId = second.runId ∧ first.sequence = second.sequence
  deriving Decidable

abbrev RunEvents := Table RunEvent RunEvent.Conflict

/-- A row of `public.run_event_outbox`. -/
structure RunEventOutbox where
  runId : RunId
  sequence : Nat
  dedupeKey : String
  status : String
  attempts : Nat
  createdAt : DateTime

/-- The unique dedupe key and the unique pair it is made of. -/
def RunEventOutbox.Conflict (first second : RunEventOutbox) : Prop :=
  first.dedupeKey = second.dedupeKey ∨
    (first.runId = second.runId ∧ first.sequence = second.sequence)
  deriving Decidable

abbrev RunEventOutboxes := Table RunEventOutbox RunEventOutbox.Conflict

/-- A row of `public.export_records`. -/
structure ExportRecord where
  exportId : String
  runId : RunId
  artifactId : String
  snapshotId : String
  format : String
  storagePath : String
  capabilityVersion : Option String
  createdAt : DateTime

/-- The primary key and the unique snapshot and format. -/
def ExportRecord.Conflict (first second : ExportRecord) : Prop :=
  first.exportId = second.exportId ∨
    (first.snapshotId = second.snapshotId ∧ first.format = second.format)
  deriving Decidable

abbrev ExportRecords := Table ExportRecord ExportRecord.Conflict

/-- A UTC day, counted from the epoch. -/
abbrev Date := Int

/-- A row of `public.run_event_kpi_rollups`. -/
structure RunEventKpiRollup where
  day : Date
  eventCount : Nat
  successCount : Nat
  failCount : Nat
  escalateCount : Nat
  breakerTripCount : Nat
  healingDistribution : List (String × Nat)
  tokensUsed : Int

def RunEventKpiRollup.Conflict (first second : RunEventKpiRollup) : Prop :=
  first.day = second.day
  deriving Decidable

abbrev RunEventKpiRollups := Table RunEventKpiRollup RunEventKpiRollup.Conflict

/-! ## The database and its sessions -/

structure Db where
  now : DateTime
  runs : Runs
  statusHistory : List RunStatusHistory
  jobs : RunJobs
  gates : GateInterrupts
  events : RunEvents
  outbox : RunEventOutboxes
  snapshots : ArtifactSnapshots
  exportRecords : ExportRecords
  rollups : RunEventKpiRollups

/-- The database without rows. -/
def Db.empty (now : DateTime) : Db where
  now := now
  runs := .empty
  statusHistory := []
  jobs := .empty
  gates := .empty
  events := .empty
  outbox := .empty
  snapshots := .empty
  exportRecords := .empty
  rollups := .empty

inductive GatewayError where
  | store (error : StoreError)
  | snapshot (error : SnapshotError)
  | invalidRunStatusTransition (reason : String)
  | httpException (statusCode : Nat) (detail : String)
  | valueError
  | typeError
  | keyError (key : String)
  | emptyInputError (text : String)
  | execution (exception : JobException)

/-- The answer to a statement that breaks a constraint. -/
def isRefused {α : Type} : Except GatewayError α → Bool
  | .error (.store .integrityError) => true
  | _ => false

theorem eq_of_isRefused {α : Type} {answer : Except GatewayError α}
    (refused : isRefused answer = true) : answer = .error (.store .integrityError) := by
  unfold isRefused at refused
  split at refused
  · rfl
  · cases refused

/-- A statement that failed breaks the transaction. -/
def GatewayError.breaksTransaction : GatewayError → Bool
  | .store .integrityError | .store .pendingRollback => true
  | _ => false

/-- A request's or a worker's session on the database. -/
abbrev DbSession (α : Type) := Session Db GatewayError α

namespace Db

def findRun (db : Db) (runId : RunId) : Option Run :=
  db.runs.rows.find? fun run => run.runId == runId

/-- A foreign key into `runs` is satisfied. -/
def HasRun (db : Db) (runId : RunId) : Prop :=
  ∃ run ∈ db.runs.rows, run.runId = runId
  deriving Decidable

theorem hasRun_of_findRun {db : Db} {runId : RunId} {run : Run}
    (found : db.findRun runId = some run) : run ∈ db.runs.rows ∧ run.runId = runId :=
  ⟨List.mem_of_find?_eq_some found, by simpa using List.find?_some found⟩

theorem findRun_isSome_iff {db : Db} {runId : RunId} :
    (db.findRun runId).isSome ↔ db.HasRun runId := by
  simp only [findRun, List.find?_isSome, HasRun, beq_iff_eq]

/-- Rewrite the row of one run. -/
def changeRun (db : Db) (runId : RunId) (change : Run → Run)
    (keeps : ∀ run, (change run).runId = run.runId) : Db :=
  { db with
    runs := db.runs.update (fun run => run.runId == runId) change fun first second clash => by
      have keysEq (run : Run) :
          (Table.changeSelected (fun run => run.runId == runId) change run).runId = run.runId :=
        Table.changeSelected_frame Run.runId (keeps run)
      simpa only [Run.Conflict, keysEq] using clash }

theorem hasRun_changeRun {db : Db} {runId : RunId} {change : Run → Run}
    (keeps : ∀ run, (change run).runId = run.runId) {other : RunId} (hasRun : db.HasRun other) :
    (db.changeRun runId change keeps).HasRun other := by
  rcases hasRun with ⟨run, stored, sameId⟩
  exact ⟨_, List.mem_map_of_mem stored,
    (Table.changeSelected_frame Run.runId (keeps run)).trans sameId⟩

/-- The runs that go with a run under `ON DELETE CASCADE` of `parent_run_id`,
to the given depth of nesting. -/
def cascade (runs : List Run) : Nat → List RunId → List RunId
  | 0, deleted => deleted
  | depth + 1, deleted =>
    cascade runs depth (deleted ++ (runs.filter fun run =>
      run.parentRunId.any deleted.contains && !deleted.contains run.runId).map Run.runId)

/-- Delete the selected snapshots and the export records that cascade from
them. -/
def deleteSnapshots (db : Db) (selected : ArtifactSnapshot → Bool) : Db :=
  { db with
    snapshots := db.snapshots.delete selected
    exportRecords := db.exportRecords.delete fun record =>
      db.snapshots.rows.any fun snapshot =>
        selected snapshot && snapshot.snapshotId == record.snapshotId }

def deleteEvents (db : Db) (selected : RunId → Bool) : Db :=
  { db with events := db.events.delete fun event => selected event.runId }

def deleteRun (db : Db) (runId : RunId) : Db :=
  let deleted := cascade db.runs.rows db.runs.rows.length [runId]
  let db := (db.deleteEvents deleted.contains).deleteSnapshots fun snapshot =>
    deleted.contains snapshot.runId
  { db with
    runs := db.runs.delete fun run => deleted.contains run.runId
    statusHistory := db.statusHistory.filter fun row => !deleted.contains row.runId
    jobs := db.jobs.delete fun job => deleted.contains job.runId
    gates := db.gates.delete fun gate => deleted.contains gate.runId
    outbox := db.outbox.delete fun row => deleted.contains row.runId
    exportRecords := db.exportRecords.delete fun record => deleted.contains record.runId }

end Db

/-- Statements issued after an exception: a broken transaction refuses them
until it is rolled back. -/
def afterError {α : Type} (error : GatewayError) (statements : DbSession α) : DbSession α :=
  if error.breaksTransaction then Session.raise (.store .pendingRollback) else statements

/-- Lift a store operation on the job table. -/
def onJobs {α : Type} (operation : RunJobs → Except StoreError (α × RunJobs)) : DbSession α :=
  fun db =>
    match operation db.jobs with
    | .ok (answer, jobs) => (.ok answer, { db with jobs := jobs })
    | .error error => (.error (.store error), db)

theorem onJobs_eq_ok {α : Type} {operation : RunJobs → Except StoreError (α × RunJobs)}
    {db after : Db} {answer : α} (ret : onJobs operation db = (.ok answer, after)) :
    operation db.jobs = .ok (answer, after.jobs) := by
  unfold onJobs at ret
  split at ret
  · next operated =>
    cases ret
    exact operated
  · cases ret

end

/-!
## Conversions of JSON values

`str()`, `int()` and truth of the values found in a JSON object.  Values whose
text or number depends on the language's formatting are given as parameters.
-/

section

/-- The conversions the code falls back on: `str()` of a float, list or dict,
`int()` of a text, and `int()` of a float. -/
structure BuiltinConversions where
  text : Json → String
  parseInt : String → Option Int
  truncate : FloatLiteral → Option Int

namespace BuiltinConversions

variable (builtin : BuiltinConversions)

/-- `str(value)`. -/
def str : Json → String
  | .null => "None"
  | .bool true => "True"
  | .bool false => "False"
  | .int value => toString value
  | .str value => value
  | value => builtin.text value

/-- `int(value or 0)`; text and floats that denote no integer raise, and so do
lists and dicts. -/
def intOrZero : Json → Except GatewayError Int
  | .null => .ok 0
  | .bool true => .ok 1
  | .bool false => .ok 0
  | .int value => .ok value
  | .float value => (builtin.truncate value).elim (.error .valueError) .ok
  | .str value =>
    if value.isEmpty then .ok 0 else (builtin.parseInt value).elim (.error .valueError) .ok
  | .arr items => if items.isEmpty then .ok 0 else .error .typeError
  | .obj members => if members.isEmpty then .ok 0 else .error .typeError

end BuiltinConversions

/-- The truth of a value: zero, empty and null are false. -/
def truthy : Json → Bool
  | .null => false
  | .bool value => value
  | .int value => value != 0
  | .float value => value.text != "0.0" && value.text != "-0.0"
  | .str value => !value.isEmpty
  | .arr items => !items.isEmpty
  | .obj members => !members.isEmpty

/-- A dict as it is, anything else as an empty one. -/
def jsonObject : Option Json → JsonObject
  | some (.obj members) => members
  | _ => []

end

end OhMyClass.Gateway
