import OhMyClass.Gateway.Db

/-!
# Export records

Export records are append-only, one for each snapshot and format: a repeated
submission finds the record of the first one.
-/

namespace OhMyClass.Gateway

open OhMyClass.Transition

structure ExportRecordCreate where
  exportId : String
  runId : RunId
  artifactId : String
  snapshotId : String
  format : String
  storagePath : String
  capabilityVersion : Option String := none

/-- The row `create_export_record` inserts. -/
def ExportRecordCreate.row (create : ExportRecordCreate) (now : DateTime) : ExportRecord where
  exportId := create.exportId
  runId := create.runId
  artifactId := create.artifactId
  snapshotId := create.snapshotId
  format := create.format
  storagePath := create.storagePath
  capabilityVersion := create.capabilityVersion
  createdAt := now

namespace TeachingPackExportStore

/-- The record of a snapshot in a format. -/
def findExport (snapshotId format : String) (db : Db) : Option ExportRecord :=
  db.exportRecords.rows.find? fun record =>
    record.snapshotId == snapshotId && record.format == format

/-- The insert ignores a conflict on the snapshot and format only; the run and
the snapshot must exist. -/
def insertExport (row : ExportRecord) : DbSession Unit := fun db =>
  if (findExport row.snapshotId row.format db).isSome then (.ok ⟨⟩, db)
  else if db.HasRun row.runId ∧ ∃ snapshot ∈ db.snapshots.rows,
      snapshot.snapshotId = row.snapshotId then
    match db.exportRecords.insert row with
    | none => (.error (.store .integrityError), db)
    | some exportRecords => (.ok ⟨⟩, { db with exportRecords := exportRecords })
  else
    (.error (.store .integrityError), db)

/-- The stored record is returned, whether this call inserted it or not. -/
def createExportRecord (payload : ExportRecordCreate) : DbSession ExportRecord := do
  let now ← Session.read Db.now
  insertExport (payload.row now)
  let stored ← Session.read (findExport payload.snapshotId payload.format)
  match stored with
  | none => Session.raise (.store .noResultFound)
  | some record => return record

end TeachingPackExportStore

/-! ## Files and the snapshots they were made from -/

/-- The last component of a path. -/
def pathName (path : String) : List Char :=
  ((path.toList.splitOn '/').filter fun part => !part.isEmpty && part != ['.']).getLastD []

/-- `Path.stem` and `Path.suffix`: a leading or a trailing dot starts no
suffix. -/
def splitSuffix (name : List Char) : List Char × List Char :=
  let extension := (name.reverse.takeWhile fun c => c != '.').reverse
  let stem := name.take (name.length - extension.length - 1)
  if extension.isEmpty || stem.isEmpty then (name, []) else (stem, '.' :: extension)

/-- `suffix.lstrip(".") or "unknown"`. -/
def exportFormat (suffix : List Char) : String :=
  let format := suffix.dropWhile fun c => c == '.'
  if format.isEmpty then "unknown" else String.ofList format

section

variable (builtin : BuiltinConversions)

/-- `str(members.get(key, default))`. -/
def textOr (members : JsonObject) (key default : String) : String :=
  builtin.str ((members.get? key).getD (.str default))

/-- The dicts of a list, the rest dropped. -/
def dictsOf (items : List Json) : List JsonObject :=
  items.filterMap fun item =>
    match item with
    | .obj members => some members
    | _ => none

def approvedSnapshotIds (state : JsonObject) : List String :=
  match state.get? "approved_snapshot_ids" with
  | some (.arr values) => values.map builtin.str
  | _ => []

/-- The rendered snapshots an export reads: those of the state, or of its
approval gate when the state has no list. -/
def exportableSnapshots (state : JsonObject) : List JsonObject :=
  match state.get? "rendered_snapshots" with
  | some (.arr values) => dictsOf values
  | _ =>
    match (jsonObject (state.get? "approval_gate")).get? "rendered_snapshots" with
    | some (.arr values) => dictsOf values
    | _ => []

def approvedSnapshotsForExport (state : JsonObject) : List JsonObject :=
  (exportableSnapshots state).filter fun snapshot =>
    (approvedSnapshotIds builtin state).contains (textOr builtin snapshot "snapshot_id" "")

/-- The snapshots a file was made from: the one its name gives, else all. -/
def exportTargets (approvedSnapshots : List JsonObject) (file : String) : List JsonObject :=
  let stem := String.ofList (splitSuffix (pathName file)).1
  match approvedSnapshots.reverse.find? fun snapshot =>
      textOr builtin snapshot "snapshot_id" "" == stem with
  | none => approvedSnapshots
  | some matched => [matched]

/-- `_export_records_from_files`; the records take fresh ids in order. -/
def exportRecordsFromFiles (freshId : Nat → String) (runId : RunId) (exportedFiles : List String)
    (approvedSnapshots : List JsonObject) : List ExportRecordCreate :=
  (exportedFiles.flatMap fun file =>
    (exportTargets builtin approvedSnapshots file).map (file, ·)).mapIdx
      fun index (file, snapshot) =>
        { exportId := "export-" ++ freshId index
          runId := runId
          artifactId := textOr builtin snapshot "artifact_id" ""
          snapshotId := textOr builtin snapshot "snapshot_id" ""
          format := exportFormat (splitSuffix (pathName file)).2
          storagePath := file }

end

end OhMyClass.Gateway
