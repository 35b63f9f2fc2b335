import OhMyClass.Gateway.Db
import OhMyClass.Gateway.Snapshots.AnswerKeys

/-!
# The snapshot store

A snapshot is inserted unless one with the same content hash is stored, in
whatever run.  The row that answers the call is then looked up again, first by
its id and then by its hash, within the run of the submission.
-/

namespace OhMyClass.Gateway

open OhMyClass.Transition Session

/-- The digest of a text and the check for external assets of an HTML page. -/
structure SnapshotTools where
  sha256 : String → String
  isStandaloneHtml : String → Bool

namespace ArtifactSnapshotCreate

/-- `student_rendered_html or rendered_html`. -/
def studentHtml (payload : ArtifactSnapshotCreate) : String :=
  match payload.studentRenderedHtml with
  | none => payload.renderedHtml
  | some html => if html.isEmpty then payload.renderedHtml else html

def contentHash (tools : SnapshotTools) (payload : ArtifactSnapshotCreate) : String :=
  snapshotContentHash tools.sha256 payload.storedContent payload.renderedHtml

/-- The row `create_snapshot` inserts. -/
def row (tools : SnapshotTools) (payload : ArtifactSnapshotCreate) (now : DateTime) :
    ArtifactSnapshot where
  snapshotId := payload.snapshotId
  runId := payload.runId
  artifactId := payload.artifactId
  artifactType := payload.artifactType
  contentHash := payload.contentHash tools
  htmlHash := tools.sha256 payload.renderedHtml
  contentJson := some payload.storedContent
  renderedHtml := payload.renderedHtml
  studentRenderedHtml := removeAnswerKeysFromHtml payload.studentHtml
  rendererVersion := payload.rendererVersion
  templateVersion := payload.templateVersion
  themeVersion := payload.themeVersion
  standaloneValid := tools.isStandaloneHtml payload.renderedHtml
  approvedAt := none
  createdAt := now

/-- The two checks for answer keys, in the order they are made. -/
def checkAnswerKeys (payload : ArtifactSnapshotCreate) : Except GatewayError Unit :=
  let teacherOnlyPaths := teacherOnlyValuePaths payload.storedContent
  let isolationIssues := validateAnswerKeyIsolation payload.renderedHtml
  if !teacherOnlyPaths.isEmpty then
    .error (.snapshot (.answerKeyLeakage payload.snapshotId teacherOnlyPaths))
  else if !isolationIssues.isEmpty then
    .error (.snapshot (.answerKeyLeakage payload.snapshotId isolationIssues))
  else
    .ok ⟨⟩

/-- The stored row was made by other versions of the renderer, the template or
the theme. -/
def OtherVersions (payload : ArtifactSnapshotCreate) (snapshot : ArtifactSnapshot) : Prop :=
  snapshot.rendererVersion ≠ payload.rendererVersion ∨
    snapshot.templateVersion ≠ payload.templateVersion ∨
      snapshot.themeVersion ≠ payload.themeVersion
  deriving Decidable

end ArtifactSnapshotCreate

def validateSnapshotVersions (payload : ArtifactSnapshotCreate) (snapshot : ArtifactSnapshot) :
    Except GatewayError Unit :=
  if payload.versionMismatchPolicy = .warn then .ok ⟨⟩
  else if payload.OtherVersions snapshot then
    .error (.snapshot (.versionMismatch snapshot.snapshotId))
  else
    .ok ⟨⟩

namespace TeachingPackSnapshotStore

def getByContentHash (contentHash : String) (db : Db) : Option ArtifactSnapshot :=
  db.snapshots.rows.find? fun snapshot => snapshot.contentHash == contentHash

def getSnapshot (runId : RunId) (snapshotId : String) (db : Db) : Option ArtifactSnapshot :=
  db.snapshots.rows.find? fun snapshot =>
    snapshot.runId == runId && snapshot.snapshotId == snapshotId

def getByRunContentHash (runId : RunId) (contentHash : String) (db : Db) :
    Option ArtifactSnapshot :=
  db.snapshots.rows.find? fun snapshot =>
    snapshot.runId == runId && snapshot.contentHash == contentHash

/-- The snapshots of an artifact of a run. -/
def lineage (runId : RunId) (artifactId : String) (db : Db) : List ArtifactSnapshot :=
  db.snapshots.rows.filter fun snapshot =>
    snapshot.runId == runId && snapshot.artifactId == artifactId

/-- The newest of them. -/
def getLatestSnapshot (runId : RunId) (artifactId : String) (db : Db) : Option ArtifactSnapshot :=
  (lineage runId artifactId db).argmax ArtifactSnapshot.createdAt

/-- The insert ignores a conflict on the content hash only. -/
def insertSnapshot (row : ArtifactSnapshot) : DbSession PUnit := fun db =>
  if (getByContentHash row.contentHash db).isSome then (.ok ⟨⟩, db)
  else if db.HasRun row.runId then
    match db.snapshots.insert row with
    | none => (.error (.store .integrityError), db)
    | some snapshots => (.ok ⟨⟩, { db with snapshots := snapshots })
  else (.error (.store .integrityError), db)

/-- The version check on the row with the submitted content. -/
def checkStoredVersions (tools : SnapshotTools) (payload : ArtifactSnapshotCreate) (db : Db) :
    Except GatewayError Unit :=
  match getByContentHash (payload.contentHash tools) db with
  | none => .ok ⟨⟩
  | some existing => validateSnapshotVersions payload existing

/-- The row that answers a submission, looked up after the insert. -/
def lookupSubmitted (tools : SnapshotTools) (payload : ArtifactSnapshotCreate) (db : Db) :
    Except GatewayError ArtifactSnapshot :=
  match checkStoredVersions tools payload db with
  | .error error => .error error
  | .ok _ =>
    match (getSnapshot payload.runId payload.snapshotId db).or
        (getByRunContentHash payload.runId (payload.contentHash tools) db) with
    | none => .error (.snapshot (.persistence payload.snapshotId))
    | some snapshot => .ok snapshot

def createSnapshot (tools : SnapshotTools) (payload : ArtifactSnapshotCreate) :
    DbSession ArtifactSnapshot := do
  Session.call payload.checkAnswerKeys
  let now ← Session.read Db.now
  insertSnapshot (payload.row tools now)
  let submitted ← Session.read (lookupSubmitted tools payload)
  Session.call submitted

/-- An edit is created only on top of the current head. -/
def createScopedEditSnapshot (tools : SnapshotTools) (runId : RunId)
    (artifactId baseSnapshotId : String) (newSnapshot : ArtifactSnapshotCreate) :
    DbSession ArtifactSnapshot := do
  let head ← Session.read (getLatestSnapshot runId artifactId)
  if head.map ArtifactSnapshot.snapshotId = some baseSnapshotId then
    createSnapshot tools newSnapshot
  else
    Session.raise (.snapshot (.baseVersionConflict baseSnapshotId
      (head.map ArtifactSnapshot.snapshotId)))

/-! ## Outcomes -/

variable {tools : SnapshotTools} {payload : ArtifactSnapshotCreate} {db : Db}

theorem getByContentHash_eq_none_iff {contentHash : String} :
    getByContentHash contentHash db = none ↔
      ∀ stored ∈ db.snapshots.rows, stored.contentHash ≠ contentHash := by
  simp [getByContentHash]

theorem of_getByContentHash {contentHash : String} {stored : ArtifactSnapshot}
    (found : getByContentHash contentHash db = some stored) :
    stored ∈ db.snapshots.rows ∧ stored.contentHash = contentHash :=
  ⟨List.mem_of_find?_eq_some found, by simpa using List.find?_some found⟩

theorem createSnapshot_of_stored (passes : payload.checkAnswerKeys = .ok ⟨⟩)
    {existing : ArtifactSnapshot}
    (stored : getByContentHash (payload.contentHash tools) db = some existing) :
    createSnapshot tools payload db = (lookupSubmitted tools payload db, db) := by
  have ignored : insertSnapshot (payload.row tools db.now) db = (.ok ⟨⟩, db) := by
    have isStored : (getByContentHash (payload.row tools db.now).contentHash db).isSome = true := by
      change (getByContentHash (payload.contentHash tools) db).isSome = true
      rw [stored]
      rfl
    rw [insertSnapshot, if_pos isStored]
  unfold createSnapshot
  rw [call_bind_of_ok passes, read_bind, bind_apply_ok _ ignored]
  rfl

theorem lookupSubmitted_of_inserted {snapshots : ArtifactSnapshots} {now : DateTime}
    (rows : snapshots.rows = db.snapshots.rows ++ [payload.row tools now])
    (newContent : ∀ stored ∈ db.snapshots.rows, stored.contentHash ≠ payload.contentHash tools)
    (newId : ∀ stored ∈ db.snapshots.rows, stored.snapshotId ≠ payload.snapshotId) :
    lookupSubmitted tools payload { db with snapshots := snapshots } =
      .ok (payload.row tools now) := by
  have byHash : getByContentHash (payload.contentHash tools) { db with snapshots := snapshots } =
      some (payload.row tools now) := by
    rw [getByContentHash, rows, List.find?_append, List.find?_eq_none.mpr, Option.none_or]
    · exact List.find?_cons_of_pos (beq_self_eq_true _)
    · intro stored mem
      rw [beq_iff_eq]
      exact newContent stored mem
  have byId : getSnapshot payload.runId payload.snapshotId { db with snapshots := snapshots } =
      some (payload.row tools now) := by
    rw [getSnapshot, rows, List.find?_append, List.find?_eq_none.mpr, Option.none_or]
    · apply List.find?_cons_of_pos
      rw [Bool.and_eq_true]
      exact ⟨beq_self_eq_true _, beq_self_eq_true _⟩
    · intro stored mem
      rw [Bool.and_eq_true, beq_iff_eq, beq_iff_eq]
      exact fun found => newId stored mem found.2
  have sameVersions : validateSnapshotVersions payload (payload.row tools now) = .ok ⟨⟩ := by
    unfold validateSnapshotVersions
    split
    · rfl
    · rw [if_neg]
      rintro (other | other | other) <;> exact other rfl
  have versions : checkStoredVersions tools payload { db with snapshots := snapshots } =
      .ok ⟨⟩ := by
    rw [checkStoredVersions, byHash]
    exact sameVersions
  rw [lookupSubmitted, versions, byId]
  rfl

theorem createSnapshot_of_new (passes : payload.checkAnswerKeys = .ok ⟨⟩)
    (newContent : getByContentHash (payload.contentHash tools) db = none)
    (newId : ∀ stored ∈ db.snapshots.rows, stored.snapshotId ≠ payload.snapshotId)
    (hasRun : db.HasRun payload.runId) :
    ∃ snapshots, snapshots.rows = db.snapshots.rows ++ [payload.row tools db.now] ∧
      createSnapshot tools payload db =
        (.ok (payload.row tools db.now), { db with snapshots := snapshots }) := by
  have noConflict := getByContentHash_eq_none_iff.mp newContent
  cases inserted : db.snapshots.insert (payload.row tools db.now) with
  | none =>
    rcases Table.insert_eq_none_iff.mp inserted with ⟨stored, mem, sameId | sameHash⟩
    · exact absurd sameId (newId stored mem)
    · exact absurd sameHash (noConflict stored mem)
  | some snapshots =>
    have rows := Table.rows_of_insert inserted
    have grown : insertSnapshot (payload.row tools db.now) db =
        (.ok ⟨⟩, { db with snapshots := snapshots }) := by
      have notStored : ¬ (getByContentHash (payload.row tools db.now).contentHash db).isSome := by
        change ¬ (getByContentHash (payload.contentHash tools) db).isSome
        rw [newContent]
        exact Bool.false_ne_true
      have known : db.HasRun (payload.row tools db.now).runId := hasRun
      rw [insertSnapshot, if_neg notStored, if_pos known, inserted]
    refine ⟨snapshots, rows, ?_⟩
    unfold createSnapshot
    rw [call_bind_of_ok passes, read_bind, bind_apply_ok _ grown,
      read_bind, lookupSubmitted_of_inserted rows noConflict newId]
    rfl

theorem createSnapshot_outcome_snapshots (tools : SnapshotTools) (payload : ArtifactSnapshotCreate)
    (db : Db) :
    ∃ result snapshots, createSnapshot tools payload db =
      (result, { db with snapshots := snapshots }) := by
  have inserts (row : ArtifactSnapshot) :
      ∃ result snapshots, insertSnapshot row db = (result, { db with snapshots := snapshots }) := by
    unfold insertSnapshot
    split
    · exact ⟨_, db.snapshots, rfl⟩
    · split
      · split
        · exact ⟨_, db.snapshots, rfl⟩
        · next snapshots _ => exact ⟨_, snapshots, rfl⟩
      · exact ⟨_, db.snapshots, rfl⟩
  unfold createSnapshot
  cases checked : payload.checkAnswerKeys with
  | error error => exact ⟨.error error, db.snapshots, bind_apply_error _ rfl⟩
  | ok _ =>
    rw [call_bind_of_ok rfl, read_bind]
    rcases inserts (payload.row tools db.now) with ⟨result, snapshots, inserted⟩
    cases result with
    | error error => exact ⟨.error error, snapshots, bind_apply_error _ inserted⟩
    | ok _ =>
      rw [bind_apply_ok _ inserted]
      exact ⟨_, snapshots, rfl⟩

theorem createSnapshot_eq_ok {after : Db} {answer : ArtifactSnapshot}
    (ret : createSnapshot tools payload db = (.ok answer, after)) :
    (after = db ∧ ∃ existing ∈ db.snapshots.rows,
        existing.contentHash = payload.contentHash tools) ∨
      (∀ stored ∈ db.snapshots.rows, stored.contentHash ≠ payload.contentHash tools) ∧
        ∃ snapshots, snapshots.rows = db.snapshots.rows ++ [payload.row tools db.now] ∧
          after = { db with snapshots := snapshots } := by
  rcases Session.bind_eq_ok.mp ret with ⟨_, checked, checkEq, rest⟩
  rcases call_eq_ok.mp checkEq with ⟨_, rfl⟩
  rw [read_bind] at rest
  rcases Session.bind_eq_ok.mp rest with ⟨_, inserted, insertEq, lookup⟩
  rcases call_eq_ok.mp lookup with ⟨_, rfl⟩
  unfold insertSnapshot at insertEq
  split at insertEq
  · next isStored =>
    cases insertEq
    rcases Option.isSome_iff_exists.mp isStored with ⟨existing, found⟩
    exact .inl ⟨rfl, existing, of_getByContentHash found⟩
  · next notStored =>
    right
    constructor
    · rw [Option.not_isSome_iff_eq_none] at notStored
      exact getByContentHash_eq_none_iff.mp notStored
    · split at insertEq
      · split at insertEq
        · cases insertEq
        · next snapshots grown =>
          cases insertEq
          exact ⟨snapshots, Table.rows_of_insert grown, rfl⟩
      · cases insertEq

end TeachingPackSnapshotStore

end OhMyClass.Gateway
