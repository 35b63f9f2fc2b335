import OhMyClass.Projection.RoundTrip
import OhMyClass.Table.Core
import OhMyClass.Tenancy.Context

/-!
# Rows of tenants

The content store behind the guard of a tenant, and what it stores.
-/

namespace OhMyClass.Tenancy

/-!
## The content store of a tenant

Documents, answer sets and dependencies in one database, the store that writes
and reads them, and the guard of one tenant around it.  A transaction that
fails leaves the database as it was.
-/

section

open OhMyClass.Contracts hiding ArtifactDocument
open OhMyClass.Projection

structure ArtifactDocumentRecord where
  documentId : String
  runId : String
  artifactId : String
  version : Int
  documentJson : JsonObject

/-- The primary key and `uq_artifact_documents_version`. -/
def ArtifactDocumentRecord.Conflict (first second : ArtifactDocumentRecord) : Prop :=
  first.documentId = second.documentId ∨
    first.runId = second.runId ∧ first.artifactId = second.artifactId ∧
      first.version = second.version
  deriving Decidable

structure AnswerSetRecord where
  answerSetId : String
  sourceDocumentId : String
  sourceVersion : Int
  answerSetJson : Json

/-- The primary key and `uq_answer_sets_document_version`. -/
def AnswerSetRecord.Conflict (first second : AnswerSetRecord) : Prop :=
  first.answerSetId = second.answerSetId ∨
    first.sourceDocumentId = second.sourceDocumentId ∧ first.sourceVersion = second.sourceVersion
  deriving Decidable

/-- A dependency of the kind `answer_projection`, the only one stored here. -/
structure ContentDependencyRecord where
  documentId : String
  sourceDocumentId : String
  deriving DecidableEq

structure ContentDb where
  runs : List String
  documents : Table ArtifactDocumentRecord ArtifactDocumentRecord.Conflict
  answerSets : Table AnswerSetRecord AnswerSetRecord.Conflict
  dependencies : List ContentDependencyRecord

inductive ContentStoreError where
  | projection (error : ProjectionError)
  | database
  | documentNotFound (documentId : String)
  | validation (error : SchemaError)
  | tenant (error : TenantError)
  | noOwner (documentId : String)

namespace ContentDb

variable (db : ContentDb)

def document? (documentId : String) : Option ArtifactDocumentRecord :=
  db.documents.rows.find? fun row => row.documentId = documentId

/-- `ON CONFLICT (document_id) DO NOTHING`. -/
def insertDocument (row : ArtifactDocumentRecord) : Except ContentStoreError ContentDb :=
  if (db.document? row.documentId).isSome then .ok db
  else if row.runId ∉ db.runs then .error .database
  else
    match db.documents.insert row with
    | none => .error .database
    | some grown => .ok { db with documents := grown }

/-- `ON CONFLICT` on the version `DO NOTHING`; the id has a column of 80
characters. -/
def insertAnswerSet (row : AnswerSetRecord) : Except ContentStoreError ContentDb :=
  if 80 < row.answerSetId.length then .error .database
  else if ∃ stored ∈ db.answerSets.rows, stored.sourceDocumentId = row.sourceDocumentId ∧
      stored.sourceVersion = row.sourceVersion then .ok db
  else if (db.document? row.sourceDocumentId).isNone then .error .database
  else
    match db.answerSets.insert row with
    | none => .error .database
    | some grown => .ok { db with answerSets := grown }

def insertDependency (row : ContentDependencyRecord) : Except ContentStoreError ContentDb :=
  if row ∈ db.dependencies then .ok db
  else if (db.document? row.documentId).isNone ∨ (db.document? row.sourceDocumentId).isNone then
    .error .database
  else .ok { db with dependencies := db.dependencies ++ [row] }

/-- Run a transaction: it commits if it returns. -/
def transaction {α : Type} (body : ContentDb → Except ContentStoreError (α × ContentDb)) :
    Except ContentStoreError α × ContentDb :=
  match body db with
  | .ok (value, after) => (.ok value, after)
  | .error error => (.error error, db)

end ContentDb

/-! ## The gateway's store -/

structure ArtifactPersistenceResult where
  artifact : ArtifactContent
  answerSet : Option AnswerSet
  dependencyDocumentIds : List String

structure ArtifactDocumentReference where
  documentId : String
  artifactId : String
  artifactType : ArtifactDocumentType
  generationId : String
  version : Int
  title : String

structure PersistedArtifactDocument where
  document : ArtifactDocument
  answerSet : Option AnswerSet

variable (coercions : Coercions) (printable : Char → Bool) (sha256 : String → String)

/-- `AnswerSet.model_validate(answer_json)`, if there is a row. -/
def readAnswers : Option AnswerSetRecord → Except ContentStoreError (Option AnswerSet)
  | none => .ok none
  | some row => (((answerSet coercions).decode row.answerSetJson).mapError .validation).map some

def readPersisted (documentId : String) (db : ContentDb) :
    Except ContentStoreError PersistedArtifactDocument :=
  match db.document? documentId with
  | none => .error (.documentNotFound documentId)
  | some row => do
    let document ← ((artifactDocument coercions).decode (.obj row.documentJson)).mapError
      .validation
    let answers ← readAnswers coercions (db.answerSets.rows.find? fun answers =>
      answers.sourceDocumentId = documentId ∧ answers.sourceVersion = row.version)
    return ⟨document, answers⟩

def documentRecord (runId : String) (document : ArtifactDocument) : ArtifactDocumentRecord where
  documentId := document.documentId
  runId := runId
  artifactId := document.artifactId
  version := document.version
  documentJson := document.modelDump coercions

/-- The row of an answer set, which `model_copy` ties to its document. -/
def answerSetRecord (document : ArtifactDocument) (answers : AnswerSet) : AnswerSetRecord :=
  let tied := { answers with
    sourceDocumentId := document.documentId
    sourceVersion := document.version
    answerSetId := "answers-" ++ document.documentId ++ "-v" ++ toString document.version }
  { answerSetId := tied.answerSetId
    sourceDocumentId := tied.sourceDocumentId
    sourceVersion := tied.sourceVersion
    answerSetJson := (answerSet coercions).encode tied }

/-- `_insert_answer_set`, if there is one. -/
def insertAnswers (document : ArtifactDocument) (answers : Option AnswerSet) (db : ContentDb) :
    Except ContentStoreError ContentDb :=
  match answers with
  | none => .ok db
  | some answers => db.insertAnswerSet (answerSetRecord coercions document answers)

/-- `ArtifactDocumentStore.persist`, which reads back what it has written. -/
def persistDocument (runId : String) (document : ArtifactDocument)
    (result : ArtifactPersistenceResult) (db : ContentDb) :
    Except ContentStoreError (PersistedArtifactDocument × ContentDb) := do
  let db ← db.insertDocument (documentRecord coercions runId document)
  let db ← insertAnswers coercions document result.answerSet db
  let db ← result.dependencyDocumentIds.foldlM (fun db sourceDocumentId =>
    db.insertDependency ⟨document.documentId, sourceDocumentId⟩) db
  let persisted ← readPersisted coercions document.documentId db
  return (persisted, db)

namespace GatewayArtifactDocumentContentStore

def persistResult (runId generationId : String) (result : ArtifactPersistenceResult)
    (artifactId : String) (db : ContentDb) :
    Except ContentStoreError ArtifactDocumentReference × ContentDb :=
  let documentId := generationId ++ ":" ++ artifactId
  match artifactDocumentFromContent coercions printable result.artifact documentId artifactId 1 with
  | .error error => (.error (.projection error), db)
  | .ok document =>
    db.transaction fun db => do
      let (_, after) ← persistDocument coercions runId document result db
      return ({
        documentId := document.documentId
        artifactId := document.artifactId
        artifactType := document.artifactType
        generationId := generationId
        version := document.version
        title := document.title }, after)

def readProjection (documentId : String) (db : ContentDb) :
    Except ContentStoreError ArtifactContent := do
  let persisted ← readPersisted coercions documentId db
  (artifactContentFromDocument coercions persisted.document none).mapError .projection

def readAnswerSet (documentId : String) (db : ContentDb) :
    Except ContentStoreError (Option AnswerSet) := do
  let persisted ← readPersisted coercions documentId db
  return persisted.answerSet

end GatewayArtifactDocumentContentStore

namespace TenantContext

def auditFingerprint (tenant : TenantContext) : String :=
  String.ofList ((sha256 (tenant.organizationId ++ "|" ++ tenant.principalId ++ "|" ++
    match tenant.principalRole with
    | .teacher => "teacher"
    | .reviewer => "reviewer"
    | .schoolAdmin => "school_admin"
    | .systemAdmin => "system_admin"
    | .worker => "worker")).toList.take 20)

/-- The metadata a tenant stores. -/
def ownMetadata (tenant : TenantContext) (metadata : JsonObject) : JsonObject :=
  (metadata.set "organization_id" (.str tenant.organizationId)).set "tenant_audit_fingerprint"
    (.str (tenant.auditFingerprint sha256))

end TenantContext

/-- The owner a content names. -/
def ownerOf (metadata : JsonObject) : Option String :=
  match metadata.get? "organization_id" with
  | some (.str owner) => some owner
  | _ => none

namespace TenantScopedArtifactContentStore

variable (tenant : TenantContext)

def persistResult (runId generationId : String) (result : ArtifactPersistenceResult)
    (artifactId : String) (db : ContentDb) :
    Except ContentStoreError ArtifactDocumentReference × ContentDb :=
  let allowed := match ownerOf result.artifact.metadata with
    | some owner => tenant.requireOrganization owner
    | none => .ok ()
  match allowed with
  | .error error => (.error (.tenant error), db)
  | .ok () =>
    let artifact := { result.artifact with
      metadata := tenant.ownMetadata sha256 result.artifact.metadata }
    GatewayArtifactDocumentContentStore.persistResult coercions printable runId generationId
      { result with artifact := artifact } artifactId db

/-- The check of the owner after a read. -/
def requireOwner (documentId : String) (metadata : JsonObject) : Except ContentStoreError Unit :=
  match ownerOf metadata with
  | none => .error (.noOwner documentId)
  | some owner => (tenant.requireOrganization owner).mapError .tenant

def readProjection (documentId : String) (db : ContentDb) :
    Except ContentStoreError ArtifactContent := do
  let projection ← GatewayArtifactDocumentContentStore.readProjection coercions documentId db
  requireOwner tenant documentId projection.metadata
  return projection

def readAnswerSet (documentId : String) (db : ContentDb) :
    Except ContentStoreError (Option AnswerSet) := do
  let _ ← readProjection coercions tenant documentId db
  GatewayArtifactDocumentContentStore.readAnswerSet coercions documentId db

end TenantScopedArtifactContentStore

end

/-!
## What a tenant's transaction stores

Rows are written once.  Every row that was written through the store of some
tenant can be read and names its owner.
-/

section

open OhMyClass.Contracts hiding ArtifactDocument
open OhMyClass.Projection OhMyClass.Raising

variable {coercions : Coercions} {printable : Char → Bool} {sha256 : String → String}

theorem ownerOf_congr {metadata other : JsonObject}
    (same : metadata.get? "organization_id" = other.get? "organization_id") :
    ownerOf metadata = ownerOf other := by
  unfold ownerOf
  rw [same]

theorem ownerOf_studentMembers (metadata : JsonObject) :
    ownerOf (studentMembers metadata) = ownerOf metadata := by
  unfold ownerOf
  rw [get?_studentMembers metadata (by simp [forbiddenKeys])]
  cases metadata.get? "organization_id" with
  | none => rfl
  | some value => cases value <;> rfl

theorem ownerOf_deckMetadata (metadata : JsonObject) :
    ownerOf (deckMetadata metadata .student) = ownerOf metadata := by
  unfold deckMetadata
  rw [if_pos rfl, ownerOf_studentMembers]
  exact ownerOf_congr (JsonObject.get?_filter metadata (fun key => key ≠ "slide_deck_data")
    (by simp))

theorem ownerOf_ownMetadata (tenant : TenantContext) (metadata : JsonObject) :
    ownerOf (tenant.ownMetadata sha256 metadata) = some tenant.organizationId := by
  have found : (tenant.ownMetadata sha256 metadata).get? "organization_id" =
      some (.str tenant.organizationId) := by
    unfold TenantContext.ownMetadata
    rw [JsonObject.get?_set_of_ne _ _ (by simp), JsonObject.get?_set_self]
  unfold ownerOf
  rw [found]

variable {documentId : String} {document : ArtifactDocument}

theorem ownerOf_projected {content : ArtifactContent} (isInstance : IsInstance coercions content)
    {artifactId : String} {version : Int}
    (ret : artifactDocumentFromContent coercions printable content documentId artifactId
      version = .ok document) :
    ownerOf document.metadata = ownerOf content.metadata ∧ document.documentId = documentId := by
  rcases artifactDocumentFromContent_eq_ok.mp ret with
    ⟨parsed, payload, projected, ⟨rfl, _⟩, _⟩
  refine ⟨?_, rfl⟩
  rcases projected_of_projectContent isInstance.valid projected with
    _ | _ | ⟨_, _, _, _, same | student, _⟩
  · exact ownerOf_deckMetadata _
  · exact ownerOf_studentMembers _
  · exact congrArg ownerOf same
  · exact (congrArg ownerOf student).trans (ownerOf_studentMembers _)

theorem ownerOf_converted {content : ArtifactContent}
    (ret : artifactContentFromDocument coercions document none = .ok content) :
    ownerOf content.metadata = ownerOf document.metadata := by
  have isMetadata : content.metadata = contentMetadata coercions document := by
    rcases bind_eq_ok.mp ret with ⟨sections, _, decoded⟩
    have read := (Codec.checked_decode_eq_ok.mp (validated_eq_ok.mp decoded)).1
    unfold contentFields at read
    simp only [Codec.model_decode_obj, Fields.imap_read_eq_ok, Fields.and_read_eq_ok] at read
    have isRead := read.2.2.2.2.1
    rw [Fields.optional_read_eq_ok] at isRead
    rcases isRead with ⟨json, found, isObject⟩ | ⟨missing, _⟩
    · cases found
      exact (Codec.object_decode_obj_eq_ok.mp isObject).symm
    · cases missing
  rw [isMetadata]
  have base : ((document.metadata.set "document_id" (.str document.documentId)).set
      "document_version" (.int document.version)).get? "organization_id" =
      document.metadata.get? "organization_id" := by
    rw [JsonObject.get?_set_of_ne _ _ (by simp), JsonObject.get?_set_of_ne _ _ (by simp)]
  apply ownerOf_congr
  unfold contentMetadata
  split
  · rw [JsonObject.get?_set_of_ne _ _ (by simp), base]
  · exact base

/-! ## Rows are written once -/

variable {db after : ContentDb}

theorem documents_of_insertAnswerSet {row : AnswerSetRecord}
    (inserted : db.insertAnswerSet row = .ok after) :
    after.documents = db.documents ∧ (after.answerSets.rows = db.answerSets.rows ∨
      after.answerSets.rows = db.answerSets.rows ++ [row]) := by
  unfold ContentDb.insertAnswerSet at inserted
  split at inserted
  · cases inserted
  · split at inserted
    · cases inserted
      exact ⟨rfl, .inl rfl⟩
    · split at inserted
      · cases inserted
      · split at inserted
        · cases inserted
        · next grown isGrown =>
          cases inserted
          exact ⟨rfl, .inr (Table.rows_of_insert isGrown)⟩

theorem same_of_insertDependency {row : ContentDependencyRecord}
    (inserted : db.insertDependency row = .ok after) :
    after.documents = db.documents ∧ after.answerSets = db.answerSets := by
  unfold ContentDb.insertDependency at inserted
  split at inserted
  · cases inserted
    exact ⟨rfl, rfl⟩
  · split at inserted
    · cases inserted
    · cases inserted
      exact ⟨rfl, rfl⟩

theorem same_of_insertDependencies {sources : List String}
    (inserted : sources.foldlM (fun db sourceDocumentId =>
      db.insertDependency ⟨documentId, sourceDocumentId⟩) db = .ok after) :
    after.documents = db.documents ∧ after.answerSets = db.answerSets := by
  induction sources generalizing db with
  | nil =>
    cases inserted
    exact ⟨rfl, rfl⟩
  | cons source rest ih =>
    rcases bind_eq_ok.mp inserted with ⟨next, first, others⟩
    rcases same_of_insertDependency first with ⟨sameDocuments, sameAnswers⟩
    rcases ih others with ⟨restDocuments, restAnswers⟩
    exact ⟨restDocuments.trans sameDocuments, restAnswers.trans sameAnswers⟩

theorem documents_of_insertDocument {row : ArtifactDocumentRecord}
    (inserted : db.insertDocument row = .ok after) :
    after.answerSets = db.answerSets ∧
      (after.documents = db.documents ∧ (db.document? row.documentId).isSome ∨
        after.documents.rows = db.documents.rows ++ [row] ∧ db.document? row.documentId = none) := by
  unfold ContentDb.insertDocument at inserted
  split at inserted
  · next known =>
    cases inserted
    exact ⟨rfl, .inl ⟨rfl, known⟩⟩
  · next unknown =>
    split at inserted
    · cases inserted
    · split at inserted
      · cases inserted
      · next grown isGrown =>
        cases inserted
        exact ⟨rfl, .inr ⟨Table.rows_of_insert isGrown, Option.not_isSome_iff_eq_none.mp unknown⟩⟩

/-- What a committed write has done. -/
structure Written (coercions : Coercions) (runId : String) (document : ArtifactDocument)
    (db after : ContentDb) : Prop where
  documents : after.documents = db.documents ∧ (db.document? document.documentId).isSome ∨
    after.documents.rows = db.documents.rows ++ [documentRecord coercions runId document] ∧
      db.document? document.documentId = none
  answers : ∀ documentId ≠ document.documentId, ∀ version,
    (after.answerSets.rows.find? fun answers =>
      answers.sourceDocumentId = documentId ∧ answers.sourceVersion = version) =
    db.answerSets.rows.find? fun answers =>
      answers.sourceDocumentId = documentId ∧ answers.sourceVersion = version
  readable : ∃ persisted, readPersisted coercions document.documentId after = .ok persisted

variable {runId : String}

theorem written_of_persistDocument {result : ArtifactPersistenceResult}
    {persisted : PersistedArtifactDocument}
    (ret : persistDocument coercions runId document result db = .ok (persisted, after)) :
    Written coercions runId document db after := by
  rcases bind_eq_ok.mp ret with ⟨first, insertedDocument, ret⟩
  rcases bind_eq_ok.mp ret with ⟨second, insertedAnswers, ret⟩
  rcases bind_eq_ok.mp ret with ⟨third, insertedDependencies, ret⟩
  rcases bind_eq_ok.mp ret with ⟨_, isRead, final⟩
  cases final
  rcases documents_of_insertDocument insertedDocument with ⟨firstAnswers, firstDocuments⟩
  rcases same_of_insertDependencies insertedDependencies with ⟨thirdDocuments, thirdAnswers⟩
  have secondSame : second.documents = first.documents ∧
      (second.answerSets.rows = first.answerSets.rows ∨ ∃ answers,
        second.answerSets.rows = first.answerSets.rows ++
          [answerSetRecord coercions document answers]) := by
    unfold insertAnswers at insertedAnswers
    split at insertedAnswers
    · cases insertedAnswers
      exact ⟨rfl, .inl rfl⟩
    · next answers _ =>
      rcases documents_of_insertAnswerSet insertedAnswers with ⟨same, kept | grown⟩
      · exact ⟨same, .inl kept⟩
      · exact ⟨same, .inr ⟨answers, grown⟩⟩
  rcases secondSame with ⟨secondDocuments, secondAnswers⟩
  refine ⟨?_, ?_, persisted, isRead⟩
  · rw [thirdDocuments, secondDocuments]
    exact firstDocuments
  · intro documentId other version
    rw [thirdAnswers]
    rcases secondAnswers with kept | ⟨answers, grown⟩
    · rw [kept, firstAnswers]
    · rw [grown, firstAnswers, List.find?_append]
      have notThis : ([answerSetRecord coercions document answers].find? fun answers =>
          answers.sourceDocumentId = documentId ∧ answers.sourceVersion = version) = none := by
        simp [answerSetRecord, Ne.symm other]
      rw [notThis, Option.or_none]

theorem Written.document?_of_some (written : Written coercions runId document db after)
    {row : ArtifactDocumentRecord} (found : db.document? documentId = some row) :
    after.document? documentId = some row := by
  unfold ContentDb.document? at found ⊢
  rcases written.documents with ⟨same, _⟩ | ⟨grown, _⟩
  · rw [same]
    exact found
  · rw [grown, List.find?_append, found, Option.some_or]

theorem Written.document?_self (written : Written coercions runId document db after) :
    after.document? document.documentId =
      some ((db.document? document.documentId).getD (documentRecord coercions runId document)) := by
  cases found : db.document? document.documentId with
  | some row => exact written.document?_of_some found
  | none =>
    rcases written.documents with ⟨_, known⟩ | ⟨grown, _⟩
    · rw [found] at known
      cases known
    · unfold ContentDb.document? at found ⊢
      rw [grown, List.find?_append, found, Option.none_or]
      exact List.find?_singleton.trans (if_pos (decide_eq_true rfl))

end

end OhMyClass.Tenancy
