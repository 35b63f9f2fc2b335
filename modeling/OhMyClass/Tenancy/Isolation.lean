import OhMyClass.Tenancy.Stored

/-!
# Isolation of tenants

Over the runs of a database that tenants write to, an artifact is read by its
own organization and by no other.
-/

namespace OhMyClass.Tenancy

open OhMyClass.Contracts hiding ArtifactDocument
open OhMyClass.Projection OhMyClass.Raising Relation

variable {coercions : Coercions} {printable : Char → Bool} {sha256 : String → String}

/-! ## Runs of a database -/

/-- One step of the database: a run is created, or some tenant persists an
artifact. -/
inductive Step (coercions : Coercions) (printable : Char → Bool) (sha256 : String → String) :
    ContentDb → ContentDb → Prop
  | createRun (db : ContentDb) (runId : String) :
      Step coercions printable sha256 db { db with runs := db.runs ++ [runId] }
  | persist (db : ContentDb) (tenant : TenantContext) (runId generationId : String)
      (result : ArtifactPersistenceResult) (artifactId : String) :
      IsInstance coercions result.artifact →
      Step coercions printable sha256 db
        (TenantScopedArtifactContentStore.persistResult coercions printable sha256 tenant runId
          generationId result artifactId db).2

def ContentDb.start : ContentDb :=
  ⟨[], .empty, .empty, []⟩

/-- The databases that steps lead to. -/
abbrev Reachable (coercions : Coercions) (printable : Char → Bool) (sha256 : String → String) :
    ContentDb → Prop :=
  ReflTransGen (Step coercions printable sha256) .start

/-- The document a row was written for. -/
structure Stored (coercions : Coercions) (printable : Char → Bool) (row : ArtifactDocumentRecord)
    (document : ArtifactDocument) : Prop where
  json : row.documentJson = document.modelDump coercions
  readsBack : ReadsBack coercions printable document
  owned : (ownerOf document.metadata).isSome

/-- Every row was written for a document, and can be read. -/
structure Consistent (coercions : Coercions) (printable : Char → Bool) (db : ContentDb) : Prop where
  stored : ∀ row ∈ db.documents.rows, ∃ document, Stored coercions printable row document
  readable : ∀ row ∈ db.documents.rows, ∃ persisted,
    readPersisted coercions row.documentId db = .ok persisted

/-- The artifact a tenant hands to the store. -/
def ownArtifact (sha256 : String → String) (tenant : TenantContext) (artifact : ArtifactContent) :
    ArtifactContent :=
  { artifact with metadata := tenant.ownMetadata sha256 artifact.metadata }

theorem isInstance_ownArtifact {artifact : ArtifactContent} (sha256 : String → String)
    (tenant : TenantContext) (isInstance : IsInstance coercions artifact) :
    IsInstance coercions (ownArtifact sha256 tenant artifact) where
  valid := artifactContent_valid_iff.mpr (artifactContent_valid_iff.mp isInstance.valid)
  distinct := isInstance.distinct

variable {tenant : TenantContext} {runId generationId artifactId : String}
  {result : ArtifactPersistenceResult} {db after : ContentDb}

theorem persistResult_cases {outcome : Except ContentStoreError ArtifactDocumentReference}
    (ret : TenantScopedArtifactContentStore.persistResult coercions printable sha256 tenant
      runId generationId result artifactId db = (outcome, after)) :
    ((∃ error, outcome = .error error) ∧ after = db) ∨
      ∃ document reference, outcome = .ok reference ∧
        artifactDocumentFromContent coercions printable (ownArtifact sha256 tenant result.artifact)
          (generationId ++ ":" ++ artifactId) artifactId 1 = .ok document ∧
        reference.documentId = document.documentId ∧
        Written coercions runId document db after := by
  unfold TenantScopedArtifactContentStore.persistResult at ret
  simp only at ret
  split at ret
  · cases ret
    exact .inl ⟨⟨_, rfl⟩, rfl⟩
  · unfold GatewayArtifactDocumentContentStore.persistResult at ret
    simp only at ret
    split at ret
    · cases ret
      exact .inl ⟨⟨_, rfl⟩, rfl⟩
    · next document projected =>
      unfold ContentDb.transaction at ret
      split at ret
      · next reference final committed =>
        cases ret
        rcases bind_eq_ok.mp committed with ⟨⟨persisted, written⟩, isPersisted, isFinal⟩
        cases isFinal
        exact .inr ⟨document, _, rfl, projected, rfl, written_of_persistDocument isPersisted⟩
      · cases ret
        exact .inl ⟨⟨_, rfl⟩, rfl⟩

variable {documentId : String} {row : ArtifactDocumentRecord}

theorem decode_of_readPersisted {persisted : PersistedArtifactDocument}
    (found : db.document? documentId = some row)
    (read : readPersisted coercions documentId db = .ok persisted) :
    (artifactDocument coercions).decode (.obj row.documentJson) = .ok persisted.document := by
  unfold readPersisted at read
  rw [found] at read
  rcases bind_eq_ok.mp read with ⟨document, decoded, rest⟩
  rcases bind_eq_ok.mp rest with ⟨answers, _, final⟩
  cases final
  cases isRead : (artifactDocument coercions).decode (.obj row.documentJson) with
  | error _ =>
    rw [isRead] at decoded
    cases decoded
  | ok found =>
    rw [isRead] at decoded
    cases decoded
    rfl

variable {document : ArtifactDocument}

theorem document_of_readPersisted {persisted : PersistedArtifactDocument}
    (stored : Stored coercions printable row document) (found : db.document? documentId = some row)
    (read : readPersisted coercions documentId db = .ok persisted) :
    persisted.document = document := by
  have decoded := decode_of_readPersisted found read
  rw [stored.json, stored.readsBack.validates] at decoded
  cases decoded
  rfl

theorem mem_of_document? (found : db.document? documentId = some row) :
    row ∈ db.documents.rows ∧ row.documentId = documentId := by
  have same := List.find?_some found
  exact ⟨List.mem_of_find?_eq_some found, of_decide_eq_true same⟩

theorem document?_of_mem (mem : row ∈ db.documents.rows) :
    db.document? row.documentId = some row := by
  cases found : db.document? row.documentId with
  | none => exact absurd (decide_eq_true rfl) (List.find?_eq_none.mp found row mem)
  | some other =>
    rcases mem_of_document? found with ⟨otherMember, same⟩
    have symmetric : ∀ first second : ArtifactDocumentRecord,
        first.Conflict second → second.Conflict first := by
      rintro first second (sameId | ⟨sameRun, sameArtifact, sameVersion⟩)
      · exact .inl sameId.symm
      · exact .inr ⟨sameRun.symm, sameArtifact.symm, sameVersion.symm⟩
    rw [Table.eq_of_conflict symmetric db.documents otherMember mem (.inl same)]

theorem consistent_of_step (consistent : Consistent coercions printable db)
    (step : Step coercions printable sha256 db after) :
    Consistent coercions printable after ∧
      ∀ documentId row, db.document? documentId = some row →
        after.document? documentId = some row := by
  cases step with
  | createRun runId => exact ⟨⟨consistent.stored, consistent.readable⟩, fun _ _ found => found⟩
  | persist tenant runId generationId result artifactId isInstance =>
    generalize ret : TenantScopedArtifactContentStore.persistResult coercions printable sha256
      tenant runId generationId result artifactId db = outcome
    rcases persistResult_cases ret with ⟨_, rfl⟩ |
      ⟨document, reference, _, projected, _, written⟩
    · exact ⟨consistent, fun _ _ found => found⟩
    · have own := isInstance_ownArtifact sha256 tenant isInstance
      refine ⟨⟨?_, ?_⟩, fun _ _ found => written.document?_of_some found⟩
      · intro row mem
        rcases written.documents with ⟨same, _⟩ | ⟨grown, isNew⟩
        · rw [same] at mem
          exact consistent.stored row mem
        · rw [grown] at mem
          rcases List.mem_append.mp mem with old | new
          · exact consistent.stored row old
          · rw [List.mem_singleton.mp new]
            rcases written.readable with ⟨persisted, read⟩
            have found := written.document?_self
            rw [isNew] at found
            refine ⟨document, rfl, readsBack_of_decode own projected
              (decode_of_readPersisted found read), ?_⟩
            rw [(ownerOf_projected own projected).1]
            exact congrArg Option.isSome (ownerOf_ownMetadata tenant _)
      · intro row mem
        by_cases isThis : row.documentId = document.documentId
        · rw [isThis]
          exact written.readable
        · have old : row ∈ db.documents.rows := by
            rcases written.documents with ⟨same, _⟩ | ⟨grown, _⟩
            · rw [same] at mem
              exact mem
            · rw [grown] at mem
              rcases List.mem_append.mp mem with old | new
              · exact old
              · exact absurd (congrArg ArtifactDocumentRecord.documentId
                  (List.mem_singleton.mp new)) isThis
          rcases consistent.readable row old with ⟨persisted, read⟩
          refine ⟨persisted, ?_⟩
          rw [← read]
          unfold readPersisted
          rw [document?_of_mem old, written.document?_of_some (document?_of_mem old)]
          simp only [written.answers row.documentId isThis]

theorem consistent_of_steps (consistent : Consistent coercions printable db)
    (steps : ReflTransGen (Step coercions printable sha256) db after) :
    Consistent coercions printable after ∧
      ∀ documentId row, db.document? documentId = some row →
        after.document? documentId = some row := by
  induction steps with
  | refl => exact ⟨consistent, fun _ _ found => found⟩
  | tail _ step ih =>
    rcases ih with ⟨middle, kept⟩
    rcases consistent_of_step middle step with ⟨last, keptLast⟩
    exact ⟨last, fun documentId row found => keptLast documentId row (kept documentId row found)⟩

theorem consistent_of_reachable (reachable : Reachable coercions printable sha256 db) :
    Consistent coercions printable db :=
  (consistent_of_steps ⟨List.forall_mem_nil _, List.forall_mem_nil _⟩ reachable).1

theorem ok_bind {ε α β : Type} (value : α) (next : α → Except ε β) :
    (Except.ok value >>= next) = next value :=
  rfl

theorem readProjection_of_stored (consistent : Consistent coercions printable db) {owner : String}
    (found : db.document? documentId = some row) (stored : Stored coercions printable row document)
    (isOwner : ownerOf document.metadata = some owner) (tenant : TenantContext) :
    (owner = tenant.organizationId → ∃ projection,
      TenantScopedArtifactContentStore.readProjection coercions tenant documentId db =
        .ok projection) ∧
    (owner ≠ tenant.organizationId →
      TenantScopedArtifactContentStore.readProjection coercions tenant documentId db =
        .error (.tenant (.accessDenied tenant.organizationId owner))) := by
  rcases mem_of_document? found with ⟨mem, rfl⟩
  rcases consistent.readable row mem with ⟨persisted, read⟩
  rcases stored.readsBack.converts with ⟨content, _, converted, _⟩
  have isProjection : GatewayArtifactDocumentContentStore.readProjection coercions row.documentId
      db = .ok content := by
    unfold GatewayArtifactDocumentContentStore.readProjection
    rw [read]
    change (artifactContentFromDocument coercions persisted.document none).mapError _ = _
    rw [document_of_readPersisted stored found read, converted]
    rfl
  have projectionOwner : ownerOf content.metadata = some owner :=
    (ownerOf_converted converted).trans isOwner
  unfold TenantScopedArtifactContentStore.readProjection
  rw [isProjection, ok_bind]
  unfold TenantScopedArtifactContentStore.requireOwner TenantContext.requireOrganization
  rw [projectionOwner]
  constructor
  · rintro rfl
    refine ⟨content, ?_⟩
    simp only [ne_eq, not_true_eq_false, if_false]
    rfl
  · intro other
    simp only [ne_eq, Ne.symm other, not_false_eq_true, if_true]
    rfl

theorem readAnswerSet_of_denied {error : ContentStoreError}
    (denied : TenantScopedArtifactContentStore.readProjection coercions tenant documentId db =
      .error error) :
    TenantScopedArtifactContentStore.readAnswerSet coercions tenant documentId db =
      .error error := by
  unfold TenantScopedArtifactContentStore.readAnswerSet
  rw [denied]
  rfl

/-! ## Tenants -/

/-- The owner a row names. -/
def rowOwner (row : ArtifactDocumentRecord) : Option String :=
  match row.documentJson.get? "metadata" with
  | some (.obj metadata) => ownerOf metadata
  | _ => none

/-- What a tenant who has persisted an artifact can rely on. -/
structure Isolated (coercions : Coercions) (printable : Char → Bool) (sha256 : String → String)
    (tenant other : TenantContext) (documentId : String) (after : ContentDb) : Prop where
  reads : ∀ later, ReflTransGen (Step coercions printable sha256) after later →
    ∀ reader : TenantContext, reader.organizationId = tenant.organizationId → ∃ projection,
      TenantScopedArtifactContentStore.readProjection coercions reader documentId later =
        .ok projection
  denies : ∀ later, ReflTransGen (Step coercions printable sha256) after later →
    other.organizationId ≠ tenant.organizationId →
      (∃ error, TenantScopedArtifactContentStore.readProjection coercions other documentId later =
        .error error) ∧
      ∃ error, TenantScopedArtifactContentStore.readAnswerSet coercions other documentId later =
        .error error
  keepsOwners : ∀ db runId generationId result artifactId owner,
    ownerOf result.artifact.metadata = some owner → owner ≠ tenant.organizationId →
      TenantScopedArtifactContentStore.persistResult coercions printable sha256 tenant runId
        generationId result artifactId db =
          (.error (.tenant (.accessDenied tenant.organizationId owner)), db)
  keys : other.organizationId ≠ tenant.organizationId → tenant.KeysApart other

theorem rowOwner_of_stored (stored : Stored coercions printable row document) :
    rowOwner row = ownerOf document.metadata := by
  have found : row.documentJson.get? "metadata" = some (.obj document.metadata) := by
    rw [stored.json]
    rfl
  unfold rowOwner
  rw [found]

theorem persistResult_of_foreign {owner : String}
    (isOwner : ownerOf result.artifact.metadata = some owner)
    (foreign : owner ≠ tenant.organizationId) :
    TenantScopedArtifactContentStore.persistResult coercions printable sha256 tenant runId
      generationId result artifactId db =
        (.error (.tenant (.accessDenied tenant.organizationId owner)), db) := by
  unfold TenantScopedArtifactContentStore.persistResult
  rw [isOwner]
  unfold TenantContext.requireOrganization
  simp [Ne.symm foreign]

/-- Tenants are isolated after a write if and only if the document id was not
taken by another organization and the trimmed ids of the two differ. -/
theorem isolated_iff (reachable : Reachable coercions printable sha256 db) {other : TenantContext}
    (isInstance : IsInstance coercions result.artifact) {reference : ArtifactDocumentReference}
    (persisted : TenantScopedArtifactContentStore.persistResult coercions printable sha256 tenant
      runId generationId result artifactId db = (.ok reference, after)) :
    Isolated coercions printable sha256 tenant other reference.documentId after ↔
      (∀ row, db.document? (generationId ++ ":" ++ artifactId) = some row →
        rowOwner row = some tenant.organizationId) ∧
      (other.organizationId ≠ tenant.organizationId →
        strip tenant.organizationId = strip other.organizationId →
        ∃ error, safeKeyPart tenant.organizationId = .error error) := by
  have consistent := consistent_of_reachable reachable
  have step : Step coercions printable sha256 db after := by
    have made : Step coercions printable sha256 db _ :=
      .persist db tenant runId generationId result artifactId isInstance
    rwa [persisted] at made
  have consistentAfter := (consistent_of_step consistent step).1
  rcases persistResult_cases persisted with ⟨⟨_, isError⟩, _⟩ |
    ⟨document, _, isReference, projected, sameId, written⟩
  · cases isError
  cases isReference
  have own := isInstance_ownArtifact sha256 tenant isInstance
  rcases ownerOf_projected own projected with ⟨ownOwner, isId⟩
  have ownerOfDocument : ownerOf document.metadata = some tenant.organizationId :=
    ownOwner.trans (ownerOf_ownMetadata tenant _)
  have found := written.document?_self
  rw [sameId]
  rw [isId] at found ⊢
  generalize isRow : (db.document? (generationId ++ ":" ++ artifactId)).getD
    (documentRecord coercions runId document) = row at found
  rcases consistentAfter.stored row (mem_of_document? found).1 with ⟨kept, stored⟩
  rcases Option.isSome_iff_exists.mp stored.owned with ⟨owner, isOwner⟩
  have owned : (∀ row, db.document? (generationId ++ ":" ++ artifactId) = some row →
      rowOwner row = some tenant.organizationId) ↔ owner = tenant.organizationId := by
    cases before : db.document? (generationId ++ ":" ++ artifactId) with
    | none =>
      rw [before] at isRow
      have isOwn : rowOwner row = some tenant.organizationId := by
        rw [← isRow]
        exact ownerOfDocument
      rw [rowOwner_of_stored stored, isOwner] at isOwn
      exact iff_of_true nofun (Option.some.inj isOwn)
    | some stale =>
      rw [before, Option.getD_some] at isRow
      simp only [Option.some.injEq, forall_eq']
      rw [isRow, rowOwner_of_stored stored, isOwner, Option.some.injEq]
  rw [owned]
  have reading : ∀ later, ReflTransGen (Step coercions printable sha256) after later →
      ∀ reader : TenantContext, (owner = reader.organizationId → ∃ projection,
        TenantScopedArtifactContentStore.readProjection coercions reader
          (generationId ++ ":" ++ artifactId) later = .ok projection) ∧
      (owner ≠ reader.organizationId →
        TenantScopedArtifactContentStore.readProjection coercions reader
          (generationId ++ ":" ++ artifactId) later =
            .error (.tenant (.accessDenied reader.organizationId owner))) := by
    intro later steps reader
    rcases consistent_of_steps consistentAfter steps with ⟨consistentLater, sameRows⟩
    exact readProjection_of_stored consistentLater (sameRows _ _ found) stored isOwner reader
  constructor
  · intro isolated
    refine ⟨Decidable.byContradiction fun foreign => ?_, fun different same =>
      keysApart_iff.mp (isolated.keys different) same⟩
    rcases isolated.reads after .refl tenant rfl with ⟨projection, read⟩
    rw [(reading after .refl tenant).2 foreign] at read
    cases read
  · rintro ⟨rfl, separate⟩
    refine ⟨?_, ?_, fun _ _ _ _ _ _ => persistResult_of_foreign, fun different =>
      keysApart_iff.mpr (separate different)⟩
    · intro later steps reader sameOrganization
      exact (reading later steps reader).1 sameOrganization.symm
    · intro later steps different
      have denied := (reading later steps other).2 (Ne.symm different)
      exact ⟨⟨_, denied⟩, _, readAnswerSet_of_denied denied⟩

/-- When a tenant that has persisted an artifact is isolated from another one. -/
theorem tenants_isolated_iff (db after : ContentDb)
    (reachable : Reachable coercions printable sha256 db) (tenant other : TenantContext)
    (runId generationId artifactId : String) (result : ArtifactPersistenceResult)
    (isInstance : IsInstance coercions result.artifact) (reference : ArtifactDocumentReference)
    (persisted : TenantScopedArtifactContentStore.persistResult coercions printable sha256 tenant
      runId generationId result artifactId db = (.ok reference, after)) :
    Isolated coercions printable sha256 tenant other reference.documentId after ↔
      (∀ row, db.document? (generationId ++ ":" ++ artifactId) = some row →
        rowOwner row = some tenant.organizationId) ∧
      (other.organizationId ≠ tenant.organizationId →
        strip tenant.organizationId = strip other.organizationId →
        ∃ error, safeKeyPart tenant.organizationId = .error error) :=
  isolated_iff reachable isInstance persisted

/-- The organization `school`. -/
def school : TenantContext where
  organizationId := "school"
  principalId := "worker:school"
  principalRole := .worker
  teacherId := none
  classId := none
  organizationId_bounds := by decide
  principalId_bounds := by decide
  teacherId_bounds := fitsId_none
  classId_bounds := fitsId_none

/-- Another organization, whose id ends in a blank. -/
def paddedSchool : TenantContext :=
  { school with
    organizationId := "school "
    organizationId_bounds := by decide }

def schoolDigest : String → String := fun _ =>
  "47c1eb75671af855bff3753b14a5e61b9f2075af64035219774a26bc15c2acbf"

def lesson : ArtifactPersistenceResult where
  artifact := {
    artifactType := .lesson
    theme := "default"
    title := "Tenant-safe lesson"
    sections := [[("title", .str "Lesson"), ("content", .str "Approved content")]]
    metadata := []
    accessibility := [] }
  answerSet := none
  dependencyDocumentIds := []

def oneRun : ContentDb :=
  { ContentDb.start with runs := ["run-1"] }

/-- Persisting the lesson. -/
def lessonOutcome : Except ContentStoreError ArtifactDocumentReference × ContentDb :=
  TenantScopedArtifactContentStore.persistResult plainCoercions (fun _ => true) schoolDigest school
    "run-1" "run-1:artifact:1" lesson "lesson-1" oneRun

def lessonReference : ArtifactDocumentReference where
  documentId := "run-1:artifact:1:lesson-1"
  artifactId := "lesson-1"
  artifactType := .lesson
  generationId := "run-1:artifact:1"
  version := 1
  title := "Tenant-safe lesson"

theorem lesson_persisted : TenantScopedArtifactContentStore.persistResult plainCoercions
    (fun _ => true) schoolDigest school "run-1" "run-1:artifact:1" lesson "lesson-1" oneRun =
      (.ok lessonReference, lessonOutcome.2) := by
  rfl

theorem lesson_isInstance : IsInstance plainCoercions lesson.artifact where
  valid := artifactContent_valid_iff.mpr
    ⟨⟨Codec.text_valid_iff.mpr (by decide), Nat.le_refl 1⟩, rfl⟩
  distinct := by
    simp [lesson, Json.KeysDistinct, Json.membersKeysDistinct]

theorem oneRun_reachable : Reachable plainCoercions (fun _ => true) schoolDigest oneRun :=
  .single (.createRun .start "run-1")

theorem tenants_isolated_school :
    Isolated plainCoercions (fun _ => true) schoolDigest school paddedSchool
        lessonReference.documentId lessonOutcome.2 ↔
      (∀ row, oneRun.document? ("run-1:artifact:1" ++ ":" ++ "lesson-1") = some row →
        rowOwner row = some school.organizationId) ∧
      (paddedSchool.organizationId ≠ school.organizationId →
        strip school.organizationId = strip paddedSchool.organizationId →
        ∃ error, safeKeyPart school.organizationId = .error error) :=
  tenants_isolated_iff oneRun lessonOutcome.2 oneRun_reachable school paddedSchool "run-1"
    "run-1:artifact:1" "lesson-1" lesson lesson_isInstance lessonReference lesson_persisted

/-- Two schools share the keys of their resources. -/
theorem paddedSchool_not_isolated : ¬ ∀ db after,
    Reachable plainCoercions (fun _ => true) schoolDigest db → ∀ tenant other : TenantContext,
      ∀ runId generationId artifactId result, IsInstance plainCoercions result.artifact →
        ∀ reference, TenantScopedArtifactContentStore.persistResult plainCoercions (fun _ => true)
          schoolDigest tenant runId generationId result artifactId db = (.ok reference, after) →
          Isolated plainCoercions (fun _ => true) schoolDigest tenant other reference.documentId
            after := by
  intro claim
  have isolated := claim oneRun lessonOutcome.2 oneRun_reachable school paddedSchool "run-1"
    "run-1:artifact:1" "lesson-1" lesson lesson_isInstance lessonReference lesson_persisted
  rcases keysApart_iff.mp (isolated.keys (by decide)) (by decide) with ⟨error, isUnsafe⟩
  cases isUnsafe

end OhMyClass.Tenancy
