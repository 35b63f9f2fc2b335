import OhMyClass.Contracts.Artifacts
import OhMyClass.Gateway.Basic
import OhMyClass.Sorting.Core
import OhMyClass.Table.Core
import OhMyClass.Transition.Machine

/-!
# Stored artifact documents

Versions of artifacts in a table that only grows.  A document id is a primary
key and a version number is unique within its run and artifact; a write with a
known document id is repeated silently, one with a known version number fails.
-/

namespace OhMyClass.Gateway.Documents

open List

section

open OhMyClass.Contracts OhMyClass.Sorting

structure ArtifactDocumentRecord where
  documentId : String
  runId : RunId
  artifactId : String
  artifactType : ArtifactDocumentType
  version : Int
  language : DocumentLanguage
  audience : DocumentAudience
  authority : DocumentAuthority
  parentDocumentId : Option String
  sourceDocumentId : Option String
  documentJson : ArtifactDocument

/-- The primary key and `uq_artifact_documents_version`. -/
def ArtifactDocumentRecord.Conflict (first second : ArtifactDocumentRecord) : Prop :=
  first.documentId = second.documentId ∨
    first.runId = second.runId ∧ first.artifactId = second.artifactId ∧
      first.version = second.version
  deriving Decidable

theorem ArtifactDocumentRecord.Conflict.symm {first second : ArtifactDocumentRecord}
    (clash : first.Conflict second) : second.Conflict first := by
  rcases clash with sameId | ⟨sameRun, sameArtifact, sameVersion⟩
  · exact .inl sameId.symm
  · exact .inr ⟨sameRun.symm, sameArtifact.symm, sameVersion.symm⟩

abbrev ArtifactDocuments := Table ArtifactDocumentRecord ArtifactDocumentRecord.Conflict

inductive DocumentStoreError where
  | artifactHasNoVersions (artifactId : String)
  | artifactVersionNotFound (artifactId : String) (version : Int)
  | alreadyInTargetLanguage (artifactId : String) (language : DocumentLanguage)
  | staleArtifactVersion (artifactId : String) (baseVersion : Int) (currentVersion : Option Int)
  | documentNotFound (documentId : String)
  | validationError (error : DocumentError)
  | integrityError

/-- The row `persist` inserts. -/
def record (runId : RunId) (document : ArtifactDocument) : ArtifactDocumentRecord where
  documentId := document.documentId
  runId := runId
  artifactId := document.artifactId
  artifactType := document.artifactType
  version := document.version
  language := document.language
  audience := document.audience
  authority := document.authority
  parentDocumentId := document.parentDocumentId
  sourceDocumentId := document.sourceDocumentId
  documentJson := document

/-- The insert of `persist`, `ON CONFLICT (document_id) DO NOTHING`. -/
def insertDocument (documents : ArtifactDocuments) (row : ArtifactDocumentRecord) :
    Except DocumentStoreError ArtifactDocuments :=
  if ∃ stored ∈ documents.rows, stored.documentId = row.documentId then
    .ok documents
  else
    match documents.insert row with
    | none => .error .integrityError
    | some grown => .ok grown

def readPersisted (documents : ArtifactDocuments) (documentId : String) :
    Except DocumentStoreError ArtifactDocument :=
  match documents.rows.find? fun row => row.documentId = documentId with
  | none => .error (.documentNotFound documentId)
  | some row => .ok row.documentJson

/-- All versions of one artifact, newest first. -/
def listVersions (documents : ArtifactDocuments) (runId : RunId) (artifactId : String) :
    List ArtifactDocumentRecord :=
  sortByDesc ArtifactDocumentRecord.version
    (documents.rows.filter fun row => row.runId = runId ∧ row.artifactId = artifactId)

def getLatest (documents : ArtifactDocuments) (runId : RunId) (artifactId : String) :
    Option ArtifactDocumentRecord :=
  (listVersions documents runId artifactId).head?

/-- The check of `create_edit` under its lock. -/
def checkBaseVersion (documents : ArtifactDocuments) (runId : RunId) (artifactId : String)
    (baseVersion : Int) : Except DocumentStoreError Unit :=
  let currentVersion := (getLatest documents runId artifactId).map ArtifactDocumentRecord.version
  if currentVersion = some baseVersion then .ok ()
  else .error (.staleArtifactVersion artifactId baseVersion currentVersion)

variable {documents grown : ArtifactDocuments} {runId : RunId} {artifactId : String}
  {row : ArtifactDocumentRecord}

theorem mem_listVersions :
    row ∈ listVersions documents runId artifactId ↔
      row ∈ documents.rows ∧ row.runId = runId ∧ row.artifactId = artifactId := by
  rw [listVersions, (sortByDesc_perm _ _).mem_iff, mem_filter, decide_eq_true_eq]

theorem mem_of_getLatest (latest : getLatest documents runId artifactId = some row) :
    row ∈ documents.rows ∧ row.runId = runId ∧ row.artifactId = artifactId :=
  mem_listVersions.mp (mem_of_mem_head? latest)

theorem getLatest_eq_none_iff :
    getLatest documents runId artifactId = none ↔
      ∀ stored ∈ documents.rows, stored.runId = runId → stored.artifactId ≠ artifactId := by
  rw [getLatest, List.head?_eq_none_iff, eq_nil_iff_forall_not_mem]
  simp only [mem_listVersions, not_and]

theorem rows_of_insertDocument
    (isNew : ∀ stored ∈ documents.rows, stored.documentId ≠ row.documentId)
    (inserted : insertDocument documents row = .ok grown) :
    grown.rows = documents.rows ++ [row] ∧
      ∀ stored ∈ documents.rows, ¬ stored.Conflict row := by
  unfold insertDocument at inserted
  rw [if_neg (by simpa using isNew)] at inserted
  split at inserted
  · cases inserted
  · next written =>
    cases inserted
    constructor
    · exact Table.rows_of_insert written
    · intro stored mem clash
      rw [Table.insert_eq_none_iff.mpr ⟨stored, mem, clash⟩] at written
      cases written

theorem prefix_of_insertDocument (inserted : insertDocument documents row = .ok grown) :
    documents.rows <+: grown.rows := by
  unfold insertDocument at inserted
  split at inserted
  · cases inserted
    exact prefix_rfl
  · split at inserted
    · cases inserted
    · next written =>
      cases inserted
      exact ⟨[row], (Table.rows_of_insert written).symm⟩

theorem readPersisted_of_mem (mem : row ∈ documents.rows) :
    readPersisted documents row.documentId = .ok row.documentJson := by
  unfold readPersisted
  split
  · next missing =>
    have unequal := List.find?_eq_none.mp missing row mem
    simp at unequal
  · next found isFound =>
    have same : found.documentId = row.documentId := by
      simpa using List.find?_some isFound
    have foundMem := mem_of_find?_eq_some isFound
    have clash : found.Conflict row := .inl same
    rw [Table.eq_of_conflict (fun _ _ => ArtifactDocumentRecord.Conflict.symm) documents foundMem
      mem clash]

theorem listVersions_of_append (appended : grown.rows = documents.rows ++ [row])
    (other : ¬ (row.runId = runId ∧ row.artifactId = artifactId)) :
    listVersions grown runId artifactId = listVersions documents runId artifactId := by
  unfold listVersions
  rw [appended, filter_append, filter_cons_of_neg (by simpa using other),
    filter_nil, append_nil]

theorem listVersions_of_append_above (appended : grown.rows = documents.rows ++ [row])
    (above : ∀ stored ∈ listVersions documents row.runId row.artifactId,
      stored.version < row.version) :
    listVersions grown row.runId row.artifactId =
      row :: listVersions documents row.runId row.artifactId := by
  have selected : [row].filter (fun stored =>
      stored.runId = row.runId ∧ stored.artifactId = row.artifactId) = [row] := by
    simp
  have identifies : Identifies ArtifactDocumentRecord.version
      (documents.rows.filter fun stored =>
        stored.runId = row.runId ∧ stored.artifactId = row.artifactId) := by
    intro first firstMem second secondMem same
    simp only [mem_filter, decide_eq_true_eq] at firstMem secondMem
    exact Table.eq_of_conflict (fun _ _ => ArtifactDocumentRecord.Conflict.symm) documents
      firstMem.1 secondMem.1 (.inr ⟨firstMem.2.1.trans secondMem.2.1.symm,
        firstMem.2.2.trans secondMem.2.2.symm, same⟩)
  unfold listVersions at above ⊢
  rw [appended, filter_append, selected]
  apply sortByDesc_concat identifies
  intro stored mem
  exact above stored ((sortByDesc_perm _ _).mem_iff.mpr mem)

end

/-!
## Edits, restores and derived versions

Each call is a transaction that drafts the next version of an artifact from
what it reads, checks its base version under an advisory lock where it has
one, inserts its row and commits.  Any statements of other calls may come
between two statements of a call.
-/

section

open OhMyClass.Contracts OhMyClass.Transition

abbrev CallId := Nat

inductive VariantKind where
  | semanticSupport
  | challenge
  | languageScaffold
  | accessibility
  deriving DecidableEq

def VariantKind.text : VariantKind → String
  | semanticSupport => "semantic_support"
  | challenge => "challenge"
  | languageScaffold => "language_scaffold"
  | accessibility => "accessibility"

/-- The arguments of `edit_artifact_document`. -/
structure Edit where
  artifactId : String
  baseVersion : Int
  payload : ArtifactPayload
  authority : DocumentAuthority

/-- The arguments of `_persist_or_extend_derived_lineage`. -/
structure Derivation where
  sourceArtifactId : String
  derivedArtifactId : String
  language : DocumentLanguage
  authority : DocumentAuthority
  payload : ArtifactPayload

inductive LineageCall where
  | editArtifactDocument (edit : Edit)
  | restoreArtifactDocument (artifactId : String) (targetVersion : Int)
  | createLanguageVersion (sourceArtifactId : String) (targetLanguage : DocumentLanguage)
      (payload : ArtifactPayload) (authority : DocumentAuthority)
  | createContentVariant (sourceArtifactId : String) (variantKind : VariantKind)
      (payload : ArtifactPayload) (authority : DocumentAuthority)

def derivedArtifactId (sourceArtifactId suffix : String) : String :=
  sliceTo (sourceArtifactId ++ "--" ++ suffix) 80

/-- The artifact that gets a new version. -/
def LineageCall.artifactId : LineageCall → String
  | editArtifactDocument edit => edit.artifactId
  | restoreArtifactDocument artifactId _ => artifactId
  | createLanguageVersion sourceArtifactId targetLanguage _ _ =>
    derivedArtifactId sourceArtifactId ("lang-" ++ targetLanguage.text)
  | createContentVariant sourceArtifactId variantKind _ _ =>
    derivedArtifactId sourceArtifactId ("variant-" ++ variantKind.text)

/-- The calls and what they draw from outside: the id `uuid4` gives each of
them, and the database's hash of lock names. -/
structure LineageCalls where
  runId : CallId → RunId
  call : CallId → LineageCall
  newDocumentId : CallId → String
  hashtext : String → Int

/-- How far a call has come. -/
inductive LineagePhase where
  | waiting
  | editing (edit : Edit)
  | awaitingSource (derivation : Derivation)
  | extending (derivation : Derivation) (source : ArtifactDocumentRecord)
  | drafted (document : ArtifactDocument) (baseVersion : Int)
  | locked (document : ArtifactDocument) (baseVersion : Int)
  | persisting (document : ArtifactDocument)
  | inserted (document : ArtifactDocument)
  | returned (document : ArtifactDocument)
  | failed (error : DocumentStoreError)
  | rolledBack

/-- The call has an open transaction. -/
def LineagePhase.isOpen : LineagePhase → Bool
  | waiting | returned _ | failed _ | rolledBack => false
  | _ => true

/-! ## Drafts -/

/-- The `next_document` of an edit. -/
def nextDocument (documentId : String) (edit : Edit) (latest : ArtifactDocumentRecord) :
    ArtifactDocument where
  documentId := documentId
  artifactId := edit.artifactId
  artifactType := latest.artifactType
  version := latest.version + 1
  language := latest.language
  audience := latest.audience
  authority := edit.authority
  payload := edit.payload
  parentDocumentId := some latest.documentId
  sourceDocumentId :=
    match latest.sourceDocumentId with
    | none | some "" => some latest.documentId
    | some source => some source

def derivedDocument (documentId : String) (derivation : Derivation)
    (source : ArtifactDocumentRecord) (derivedLatest : Option ArtifactDocumentRecord) :
    ArtifactDocument where
  documentId := documentId
  artifactId := derivation.derivedArtifactId
  artifactType := source.artifactType
  version :=
    match derivedLatest with
    | none => 1
    | some latest => latest.version + 1
  language := derivation.language
  audience := source.audience
  authority := derivation.authority
  payload := derivation.payload
  parentDocumentId := derivedLatest.map ArtifactDocumentRecord.documentId
  sourceDocumentId := some source.documentId

/-- Go on with a document unless its constructor raises. -/
def draft (document : ArtifactDocument) (next : LineagePhase) : LineagePhase :=
  match document.validate with
  | .error error => .failed (.validationError error)
  | .ok () => next

section Reads

variable (documents : ArtifactDocuments) (runId : RunId)

def editArtifactDocument (documentId : String) (edit : Edit) : LineagePhase :=
  match getLatest documents runId edit.artifactId with
  | none => .failed (.artifactHasNoVersions edit.artifactId)
  | some latest =>
    let document := nextDocument documentId edit latest
    draft document (.drafted document edit.baseVersion)

def restoreArtifactDocument (artifactId : String) (targetVersion : Int) : LineagePhase :=
  match listVersions documents runId artifactId with
  | [] => .failed (.artifactHasNoVersions artifactId)
  | latest :: older =>
    match (latest :: older).find? fun record => record.version = targetVersion with
    | none => .failed (.artifactVersionNotFound artifactId targetVersion)
    | some target => .editing ⟨artifactId, latest.version, target.documentJson.payload, .restored⟩

def createLanguageVersion (sourceArtifactId : String) (targetLanguage : DocumentLanguage)
    (payload : ArtifactPayload) (authority : DocumentAuthority) : LineagePhase :=
  match getLatest documents runId sourceArtifactId with
  | none => .failed (.artifactHasNoVersions sourceArtifactId)
  | some sourceLatest =>
    if sourceLatest.language = targetLanguage then
      .failed (.alreadyInTargetLanguage sourceArtifactId targetLanguage)
    else
      .awaitingSource ⟨sourceArtifactId,
        derivedArtifactId sourceArtifactId ("lang-" ++ targetLanguage.text),
        targetLanguage, authority, payload⟩

def createContentVariant (sourceArtifactId : String) (variantKind : VariantKind)
    (payload : ArtifactPayload) (authority : DocumentAuthority) : LineagePhase :=
  match getLatest documents runId sourceArtifactId with
  | none => .failed (.artifactHasNoVersions sourceArtifactId)
  | some sourceLatest =>
    .awaitingSource ⟨sourceArtifactId,
      derivedArtifactId sourceArtifactId ("variant-" ++ variantKind.text),
      sourceLatest.language, authority, payload⟩

/-- `_persist_or_extend_derived_lineage` reads its source again. -/
def readSource (derivation : Derivation) : LineagePhase :=
  match getLatest documents runId derivation.sourceArtifactId with
  | none => .failed (.artifactHasNoVersions derivation.sourceArtifactId)
  | some sourceLatest => .extending derivation sourceLatest

/-- A first version is persisted without a lock, a later one by `create_edit`. -/
def persistOrExtend (documentId : String) (derivation : Derivation)
    (source : ArtifactDocumentRecord) : LineagePhase :=
  let derivedLatest := getLatest documents runId derivation.derivedArtifactId
  let document := derivedDocument documentId derivation source derivedLatest
  match derivedLatest with
  | none => draft document (.persisting document)
  | some latest => draft document (.drafted document latest.version)

def startCall (documentId : String) : LineageCall → LineagePhase
  | .editArtifactDocument edit => editArtifactDocument documents runId documentId edit
  | .restoreArtifactDocument artifactId targetVersion =>
    restoreArtifactDocument documents runId artifactId targetVersion
  | .createLanguageVersion sourceArtifactId targetLanguage payload authority =>
    createLanguageVersion documents runId sourceArtifactId targetLanguage payload authority
  | .createContentVariant sourceArtifactId variantKind payload authority =>
    createContentVariant documents runId sourceArtifactId variantKind payload authority

end Reads

/-! ## Transactions -/

/-- The committed documents, the calls on their way and the advisory locks they
hold. -/
structure DocumentLineages where
  documents : ArtifactDocuments
  calls : CallId → LineagePhase
  locks : Int → Option CallId

inductive LineageOp where
  | read (call : CallId)
  | lock (call : CallId)
  | check (call : CallId)
  | insert (call : CallId)
  | commit (call : CallId)
  | rollback (call : CallId)

/-- The call that takes the step. -/
@[simp]
def LineageOp.call : LineageOp → CallId
  | read call | lock call | check call | insert call | commit call | rollback call => call

namespace DocumentLineages

variable (env : LineageCalls)

def setCall (state : DocumentLineages) (call : CallId) (phase : LineagePhase) :
    DocumentLineages :=
  { state with calls := Function.update state.calls call phase }

/-- The transaction ends and releases its locks. -/
def finish (state : DocumentLineages) (call : CallId) (phase : LineagePhase) :
    DocumentLineages :=
  { state.setCall call phase with
    locks := fun key => if state.locks key = some call then none else state.locks key }

/-- The next select of a call that has drafted nothing yet. -/
def read (call : CallId) (state : DocumentLineages) : DocumentLineages :=
  match state.calls call with
  | .waiting =>
    state.setCall call
      (startCall state.documents (env.runId call) (env.newDocumentId call) (env.call call))
  | .editing edit =>
    state.setCall call
      (editArtifactDocument state.documents (env.runId call) (env.newDocumentId call) edit)
  | .awaitingSource derivation =>
    state.setCall call (readSource state.documents (env.runId call) derivation)
  | .extending derivation source =>
    state.setCall call
      (persistOrExtend state.documents (env.runId call) (env.newDocumentId call) derivation source)
  | _ => state

/-- `pg_advisory_xact_lock(hashtext(artifact_id))`, which waits while another
transaction holds the lock. -/
def lock (call : CallId) (state : DocumentLineages) : DocumentLineages :=
  match state.calls call with
  | .drafted document baseVersion =>
    let key := env.hashtext document.artifactId
    if state.locks key = none then
      { state.setCall call (.locked document baseVersion) with
        locks := Function.update state.locks key (some call) }
    else
      state
  | _ => state

def check (call : CallId) (state : DocumentLineages) : DocumentLineages :=
  match state.calls call with
  | .locked document baseVersion =>
    match checkBaseVersion state.documents (env.runId call) document.artifactId baseVersion with
    | .error error => state.finish call (.failed error)
    | .ok () => state.setCall call (.persisting document)
  | _ => state

/-- The row is written but not visible to other calls. -/
def insert (call : CallId) (state : DocumentLineages) : DocumentLineages :=
  match state.calls call with
  | .persisting document =>
    match insertDocument state.documents (record (env.runId call) document) with
    | .error error => state.finish call (.failed error)
    | .ok _ => state.setCall call (.inserted document)
  | _ => state

/-- `db.commit()`.  An insert whose key another call has committed meanwhile
would have waited for it, and does or fails to do what it would have then. -/
def commit (call : CallId) (state : DocumentLineages) :
    DocumentLineages × Option (CallId × ArtifactDocument) :=
  match state.calls call with
  | .inserted document =>
    match insertDocument state.documents (record (env.runId call) document) with
    | .error error => (state.finish call (.failed error), none)
    | .ok grown =>
      match readPersisted grown document.documentId with
      | .error error => (state.finish call (.failed error), none)
      | .ok persisted =>
        ({ state.finish call (.returned persisted) with documents := grown },
          some (call, persisted))
  | _ => (state, none)

def rollback (call : CallId) (state : DocumentLineages) : DocumentLineages :=
  if (state.calls call).isOpen then state.finish call .rolledBack else state

/-- One statement of one call; a commit answers what its call returns. -/
def step (state : DocumentLineages) :
    LineageOp → DocumentLineages × Option (CallId × ArtifactDocument)
  | .read call => (state.read env call, none)
  | .lock call => (state.lock env call, none)
  | .check call => (state.check env call, none)
  | .insert call => (state.insert env call, none)
  | .commit call => state.commit env call
  | .rollback call => (state.rollback call, none)

/-- `newer` is the version after `older`. -/
def Succeeds (newer older : ArtifactDocumentRecord) : Prop :=
  newer.version = older.version + 1 ∧ newer.parentDocumentId = some older.documentId

/-- The versions of every artifact, newest first, follow one another. -/
def Linear (documents : ArtifactDocuments) : Prop :=
  ∀ runId artifactId, (listVersions documents runId artifactId).IsChain Succeeds

/-- No call has started, and no stored document has an id still to be drawn. -/
structure Quiet (state : DocumentLineages) : Prop where
  waiting : ∀ call, state.calls call = .waiting
  unlocked : ∀ key, state.locks key = none
  linear : Linear state.documents
  unused : ∀ row ∈ state.documents.rows, ∀ call, row.documentId ≠ env.newDocumentId call

end DocumentLineages

def lineageMachine (env : LineageCalls) :
    Machine DocumentLineages LineageOp (Option (CallId × ArtifactDocument)) where
  initial := DocumentLineages.Quiet env
  step := DocumentLineages.step env

end

end OhMyClass.Gateway.Documents
