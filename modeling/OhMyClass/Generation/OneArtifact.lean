import OhMyClass.Generation.Families
import OhMyClass.Projection.StudentCopies

/-!
# Generating one artifact

A worker branch: what it creates is deepened, compiled and validated behind a
guard; its answers are derived and it is stored after that.
-/

namespace OhMyClass.Generation

open OhMyClass.Assessment OhMyClass.Contracts OhMyClass.Projection OhMyClass.Raising
open OhMyClass.Tenancy

def nativelyDispatchedArtifactTypes : List String :=
  ["answer_key", "slide_deck"]

def answerSetArtifactTypes : List String :=
  ["quiz", "drill", "exit_ticket"]

/-- The keys of `SPECIALIST_REGISTRY`. -/
def specialistRegistry : List String :=
  ["lesson", "worksheet", "quiz", "drill", "roadmap", "reading_passage", "infographic",
    "exit_ticket", "recap", "flashcard_deck"]

inductive CapabilityStatus where
  | supported
  | degraded
  | unsupported
  deriving DecidableEq

structure CapabilityResolution where
  artifactType : String
  status : CapabilityStatus
  specialistId : Option String := none
  policyNote : Option String := none
  supportedAlternatives : List String := []

def resolveSpecialistCapability (artifactType : String) (genericFallbackEnabled : Bool) :
    CapabilityResolution :=
  let supportedAlternatives :=
    Sorting.sortBy id (specialistRegistry ++ nativelyDispatchedArtifactTypes)
  if artifactType ∈ nativelyDispatchedArtifactTypes then
    { artifactType := artifactType
      status := .supported
      specialistId := some ("native:" ++ artifactType) }
  else if artifactType ∈ specialistRegistry then
    { artifactType := artifactType
      status := .supported
      specialistId := some ("registry:" ++ artifactType) }
  else if genericFallbackEnabled then
    { artifactType := artifactType
      status := .degraded
      policyNote := some ("generic_content_creator_fallback_v1: experimental/development-only " ++
        "reach for an undeclared artifact type; output is never certified")
      supportedAlternatives := supportedAlternatives }
  else
    { artifactType := artifactType
      status := .unsupported
      supportedAlternatives := supportedAlternatives }

/-! ## Stores -/

structure ArtifactDocumentReference where
  documentId : String
  artifactId : String
  artifactType : String
  generationId : String
  version : Int
  title : String

def ArtifactDocumentReference.asState (reference : ArtifactDocumentReference) : JsonObject :=
  [("document_id", .str reference.documentId), ("artifact_id", .str reference.artifactId),
    ("artifact_type", .str reference.artifactType), ("generation_id", .str reference.generationId),
    ("version", .int reference.version), ("title", .str reference.title)]

structure ArtifactPersistenceResult where
  artifact : ArtifactContent
  answerSet : Option AnswerSet
  dependencyDocumentIds : List String

/-- `InMemoryArtifactContentStore`; what was put last stands first. -/
structure ContentStore where
  projections : List (String × ArtifactContent)
  answerSets : List (String × AnswerSet)

/-- The model without the keys of a document. -/
def ContentStore.put (store : ContentStore) (documentId : String) (projection : ArtifactContent)
    (answerSet : Option AnswerSet) : ContentStore where
  projections := (documentId, projection) :: store.projections
  answerSets := (answerSet.map fun answers => (documentId, answers)).toList ++ store.answerSets

def tenantAccessDenied : TenantError → GenerationError
  | .accessDenied organizationId resourceOrganizationId =>
    .other "TenantAccessDeniedError" ("tenant '" ++ organizationId ++
      "' cannot access resource owned by '" ++ resourceOrganizationId ++ "'")
  | _ => .other "TenantAccessDeniedError" ""

def requireOrganization (tenant : TenantContext) (owner : String) : Except GenerationError Unit :=
  (tenant.requireOrganization owner).mapError tenantAccessDenied

section Stores

variable (services : Services)

/-- `_student_projection` and the two dictionaries of `persist_result`. -/
def ContentStore.persistResult (store : ContentStore) (generationId : String)
    (result : ArtifactPersistenceResult) (artifactId : String) :
    Except GenerationError (ArtifactDocumentReference × ContentStore) := do
  let projection ← (studentProjection services.coercions services.printable result.artifact
    artifactId).mapError services.projectionError
  let documentId := generationId ++ ":" ++ artifactId
  let answerSet := result.answerSet.map fun answers =>
    { answers with
      sourceDocumentId := documentId
      sourceVersion := 1
      answerSetId := "answers-" ++ documentId ++ "-v1" }
  return ({ documentId := documentId, artifactId := artifactId
            artifactType := projection.artifactType.text, generationId := generationId
            version := 1, title := projection.title },
    store.put documentId projection answerSet)

/-- `TenantScopedArtifactContentStore.persist_result`, up to the delegate. -/
def scopedArtifact (tenant : TenantContext) (artifact : ArtifactContent) :
    Except GenerationError ArtifactContent := do
  match artifact.metadata.get? "organization_id" with
  | some (.str existingOwner) => requireOrganization tenant existingOwner
  | _ => pure ()
  return { artifact with
    metadata := withMembers artifact.metadata
      [("organization_id", .str tenant.organizationId),
        ("tenant_audit_fingerprint", .str (services.auditFingerprint tenant))] }

end Stores

/-- The document id of a reference; a key that is no text is in no dictionary. -/
def documentIdOf (reference : JsonObject) : Except GenerationError String :=
  match reference.get? "document_id" with
  | some (.str documentId) => .ok documentId
  | some value =>
    match unhashableClass value with
    | some className => .error (unhashable className)
    | none => .error (.other "KeyError" "document_id")
  | none => .error (.other "KeyError" "'document_id'")

/-- `read_projection`, with the check of the tenant where the store is scoped. -/
def ContentStore.readProjection (store : ContentStore) (tenant : Option TenantContext)
    (documentId : String) : Except GenerationError ArtifactContent := do
  match store.projections.lookup documentId with
  | none => .error (.other "KeyError" documentId)
  | some projection =>
    match tenant with
    | none => return projection
    | some tenant =>
      match projection.metadata.get? "organization_id" with
      | some (.str owner) =>
        requireOrganization tenant owner
        return projection
      | _ => .error (.other "PermissionError"
        ("artifact '" ++ documentId ++ "' has no organization ownership metadata"))

def ContentStore.readProjections (store : ContentStore) (tenant : Option TenantContext)
    (references : List JsonObject) : Except GenerationError (List ArtifactContent) :=
  references.mapM fun reference => do
    let documentId ← documentIdOf reference
    store.readProjection tenant documentId

def ContentStore.readAnswerSet (store : ContentStore) (tenant : Option TenantContext)
    (documentId : String) : Except GenerationError (Option AnswerSet) := do
  if tenant.isSome then
    let _ ← store.readProjection tenant documentId
  return store.answerSets.lookup documentId

structure Dependencies where
  artifacts : List JsonObject
  answerSets : List (String × AnswerSet)

def documentIds (references : List JsonObject) : List String :=
  references.filterMap fun reference =>
    match reference.get? "document_id" with
    | some (.str documentId) => some documentId
    | _ => none

section Branch

variable (services : Services)

/-- `model_dump(mode="json")`. -/
def contentDump (content : ArtifactContent) : JsonObject :=
  contentFields.write content

/-- What is read of the dependencies, where there is a store. -/
def readDependencies (contentStore : Option ContentStore) (tenant : Option TenantContext)
    (references : List JsonObject) : Except GenerationError Dependencies :=
  match contentStore with
  | none => .ok ⟨[], []⟩
  | some store => do
    let projections ← store.readProjections tenant references
    let answerSets ← (documentIds references).mapM fun documentId => do
      let answerSet ← store.readAnswerSet tenant documentId
      return answerSet.map fun answers => (documentId, answers)
    return ⟨projections.map contentDump, answerSets.reduceOption⟩

def derivedAnswerKey (dependencies : Dependencies) (references : List JsonObject)
    (theme : String) : Except GenerationError JsonObject :=
  let isQuiz (artifact : JsonObject) : Bool :=
    match artifact.get? "artifact_type" with
    | some (.str artifactType) => artifactType = "quiz"
    | _ => false
  match dependencies.artifacts.findIdx? isQuiz with
  | none => .error (.value (valueError "answer_key requires a generated quiz dependency"))
  | some quizIndex =>
    let quiz := dependencies.artifacts.getD quizIndex []
    let documentId := (documentIds (references[quizIndex]?).toList).head?
    match documentId.bind fun documentId => dependencies.answerSets.lookup documentId with
    | none => .error (.value (valueError "quiz dependency has no teacher-only answer set"))
    | some answerSet =>
      let language :=
        match quiz.get? "accessibility" with
        | some (.obj accessibility) =>
          services.str ((JsonObject.get? accessibility "language").getD (.str "vi"))
        | _ => "vi"
      (deriveAnswerKeyArtifact (fun number => services.coercions.number number = 0)
        services.printable quiz answerSet theme language).mapError services.answerSetError

def singleArtifact (result : JsonObject) : Except GenerationError JsonObject :=
  match result.get? "artifacts" with
  | some (.arr [.obj artifact]) => .ok artifact
  | some (.arr [_]) =>
    .error (.value (valueError "content_creator_node returned a non-object artifact"))
  | _ => .error (.value (valueError "content_creator_node must return exactly one artifact"))

def storeTenant (payload : GenerateOneArtifactPayload) : Option TenantContext :=
  if payload.namesTenant then some payload.request.tenant else none

/-- The first part of the guarded block: the context of the compiler and the
artifact as the specialist or the content creator returns it. -/
def createArtifact (payload : GenerateOneArtifactPayload) (contentStore : Option ContentStore) :
    Except GenerationError (CompilerContext × JsonObject) := do
  let request := payload.request
  let context ← services.compileIntelligenceContext request
  let dependencies ← readDependencies contentStore (storeTenant payload)
    request.dependencyArtifactReferences
  if payload.artifactType = "answer_key" then
    let artifact ← derivedAnswerKey services dependencies request.dependencyArtifactReferences
      request.theme
    return (context, artifact)
  else if payload.artifactType = "slide_deck" then
    let artifact ← services.slideDeckArtifact request dependencies.artifacts
    return (context, artifact)
  else if payload.artifactType ∈ specialistRegistry then
    let artifact ← services.specialist request
    return (context, artifact.set "theme" (.str request.theme))
  else
    let result ← services.contentCreatorNode request dependencies.artifacts
    let artifact ← singleArtifact result
    return (context, artifact)

structure ParsedArtifact where
  content : ArtifactContent
  artifactId : String

/-- The depth of the family, where a specialist or a native branch made the
artifact. -/
def deepenCreated (request : OrchestratorRequest) (artifact : JsonObject) :
    Except GenerationError JsonObject :=
  match familyFor request.artifactType with
  | some family =>
    if request.artifactType ∈ specialistRegistry ∨
        request.artifactType ∈ nativelyDispatchedArtifactTypes then do
      let deepened ← deepenSpecialistOutput services artifact family request.contentBrief
        request.lessonPlan request.researchBrief
      enforceSpecialistDeclaration services deepened request
      return deepened
    else
      .ok artifact
  | none => .ok artifact

/-- The compiled artifact as a content, with its id. -/
def parseCompiled (artifactType : String) (artifact : JsonObject) :
    Except GenerationError ParsedArtifact := do
  let actual := services.str ((artifact.get? "artifact_type").getD (.str ""))
  if actual ≠ artifactType then
    throw (.value (artifactTypeMismatchError artifactType actual))
  let content ← services.validate (artifactContent services.coercions) (.obj artifact)
  return ⟨content, services.str ((artifact.get? "artifact_id").getD (.str (artifactType ++ "-1")))⟩

/-- The second part of the guarded block. -/
def parseCreated (request : OrchestratorRequest) (context : CompilerContext)
    (created : JsonObject) : Except GenerationError ParsedArtifact := do
  let deepened ← deepenCreated services request created
  let compiled ← compileArtifactWithContext services deepened context
  parseCompiled services request.artifactType compiled

def guardedBlock (payload : GenerateOneArtifactPayload) (contentStore : Option ContentStore) :
    Except GenerationError ParsedArtifact := do
  let (context, created) ← createArtifact services payload contentStore
  parseCreated services payload.request context created

/-- `metadata.setdefault(key, value)`. -/
def setDefault (metadata : JsonObject) (member : String × Json) : JsonObject :=
  if (metadata.get? member.1).isSome then metadata else metadata.set member.1 member.2

/-- One source of the brief, if it has an excerpt. -/
def researchSource : Json → Option Json
  | .obj source =>
    (filledText (JsonObject.get? source "excerpt")).map fun excerpt =>
      .obj ([("title", .str (services.str ((JsonObject.get? source "title").getD (.str "")))),
        ("content", .str excerpt)] ++
        ((filledText (JsonObject.get? source "url")).map fun url => ("url", Json.str url)).toList)
  | _ => none

/-- `_stamp_research_sources`. -/
def researchStamps (researchBrief : JsonObject) : List (String × Json) :=
  match researchBrief.get? "sources" with
  | some (.arr sources) =>
    match sources.filterMap (researchSource services) with
    | [] => []
    | first :: rest => [("research_sources", .arr (first :: rest))]
  | _ => []

/-- The grade of a lesson plan, under its own key. -/
def gradeMember (lessonPlan : JsonObject) : Option (String × Json) :=
  ["grade", "grade_level"].findSome? fun key =>
    match lessonPlan.get? key with
    | some (.int grade) => some (key, .int grade)
    | some (.bool grade) => some (key, .bool grade)
    | some (.str grade) => some (key, .str grade)
    | _ => none

/-- `_stamp_pedagogy_context`. -/
def pedagogyStamps (lessonPlan : JsonObject) : List (String × Json) :=
  let objectives : List (String × Json) :=
    match lessonPlan.get? "learning_objectives" with
    | some (.arr (first :: rest)) => [("learning_objectives", .arr (first :: rest))]
    | _ => []
  match objectives ++ (gradeMember lessonPlan).toList with
  | [] => []
  | first :: rest => [("pedagogy_context", .obj (first :: rest))]

/-- `_FIELDS_BY_FAMILY`. -/
def consumedFields : SpecialistFamily → List String
  | .lessonDesign => ["objectives", "scope", "methodology", "learning_moves", "must_include", "avoid"]
  | .assessment => ["objectives", "scope", "terminology", "answer_policy", "dependency_document_ids"]
  | .practice => ["objectives", "scope", "methodology", "learning_moves", "answer_policy"]
  | .synthesis =>
    ["objectives", "scope", "terminology", "source_citation_ids", "must_include", "avoid"]
  | .presentation =>
    ["objectives", "scope", "methodology", "learning_moves", "source_citation_ids"]

/-- `_stamp_specialist_lineage`: every type with a family has a module. -/
def lineageStamps (artifactType : String) (resolution : CapabilityResolution) :
    List (String × Json) :=
  match familyFor artifactType with
  | none => []
  | some family =>
    [("specialist_lineage", .obj [("artifact_type", .str artifactType),
      ("specialist_id", .str (resolution.specialistId.getD ("unresolved:" ++ artifactType))),
      ("module_version", .str "v2"),
      ("consumed_content_brief_fields", texts (consumedFields family))])]

/-- `_stamp_orchestration_context`. -/
def orchestrationStamps (request : OrchestratorRequest) : List (String × Json) :=
  [("content_brief_id", .str request.contentBrief.contentBriefId),
    ("knowledge_db_version", (request.contentBrief.knowledgeDbVersion.map Json.str).getD .null),
    ("organization_id", .str request.tenant.organizationId),
    ("tenant_audit_fingerprint", .str (services.auditFingerprint request.tenant)),
    ("generation_budget", .obj [("timeout_seconds", .float request.budget.timeoutSeconds),
      ("max_tokens", .int request.budget.maxTokens),
      ("max_parallelism", .int request.budget.maxParallelism)])]

def stamped (request : OrchestratorRequest) (resolution : CapabilityResolution)
    (content : ArtifactContent) : ArtifactContent :=
  { content with
    metadata := (researchStamps services request.researchBrief ++
      pedagogyStamps request.lessonPlan ++ lineageStamps request.artifactType resolution ++
      orchestrationStamps services request).foldl setDefault content.metadata }

/-! ## The branch -/

inductive WorkflowStatus where
  | passed
  | failed

structure ArtifactWorkflowState where
  workflowId : String
  artifactGenerationId : String
  artifactId : String
  artifactType : String
  status : WorkflowStatus
  errorClass : Option String := none
  errorSummary : Option String := none

/-- The keys of a result; references may be missing. -/
structure GenerateOneArtifactResult where
  artifactReferences : Option (List JsonObject)
  artifactWorkflowStates : List ArtifactWorkflowState

def workflowState (payload : GenerateOneArtifactPayload) (status : WorkflowStatus)
    (error : Option GenerationError) (artifactId : Option String) : ArtifactWorkflowState where
  workflowId := payload.artifactGenerationId ++ ":" ++ payload.artifactType
  artifactGenerationId := payload.artifactGenerationId
  artifactId := (artifactId.filter fun text => text ≠ "").getD payload.artifactType
  artifactType := payload.artifactType
  status := status
  errorClass := error.map GenerationError.errorClass
  errorSummary := error.map fun error => String.ofList (error.message.toList.take 240)

def failedResult (payload : GenerateOneArtifactPayload) (error : GenerationError) :
    GenerateOneArtifactResult where
  artifactReferences := none
  artifactWorkflowStates := [workflowState payload .failed (some error) none]

def passedResult (payload : GenerateOneArtifactPayload) (artifactId : String)
    (references : Option (List JsonObject)) : GenerateOneArtifactResult where
  artifactReferences := references
  artifactWorkflowStates := [workflowState payload .passed none (some artifactId)]

def answersOf (payload : GenerateOneArtifactPayload) (parsed : ParsedArtifact) :
    Except GenerationError (Option AnswerSet) :=
  if payload.artifactType ∈ answerSetArtifactTypes then do
    let answerSet ← (deriveAnswerSet services.coercions (contentDump parsed.content)
      (payload.artifactGenerationId ++ ":" ++ parsed.artifactId) 1).mapError services.answerSetError
    return some answerSet
  else
    .ok none

/-- What follows the guarded block. -/
def publish (payload : GenerateOneArtifactPayload) (contentStore : Option ContentStore)
    (parsed : ParsedArtifact) :
    Except GenerationError (GenerateOneArtifactResult × Option ContentStore) := do
  let request := payload.request
  let resolution := resolveSpecialistCapability payload.artifactType
    services.genericContentCreatorFallback
  let answerSet ← answersOf services payload parsed
  let projection := stamped services request resolution parsed.content
  match contentStore with
  | none => return (passedResult payload parsed.artifactId none, none)
  | some store =>
    let persisted ← services.validate (artifactContent services.coercions)
      ((artifactContent services.coercions).encode projection)
    let artifact ← match storeTenant payload with
      | some tenant => scopedArtifact services tenant persisted
      | none => .ok persisted
    let (reference, after) ← store.persistResult services payload.artifactGenerationId
      { artifact := artifact
        answerSet := answerSet
        dependencyDocumentIds :=
          if payload.artifactType = "answer_key" then
            documentIds request.dependencyArtifactReferences
          else [] }
      parsed.artifactId
    return (passedResult payload parsed.artifactId (some [reference.asState]), some after)

/-- `generate_one_artifact`, with the store it leaves. -/
def generateOneArtifact (payload : GenerateOneArtifactPayload)
    (contentStore : Option ContentStore) :
    Except GenerationError (GenerateOneArtifactResult × Option ContentStore) :=
  let resolution := resolveSpecialistCapability payload.artifactType
    services.genericContentCreatorFallback
  if resolution.status = .unsupported then
    .ok (failedResult payload (.value (unsupportedArtifactCapabilityError payload.artifactType
      resolution.supportedAlternatives)), contentStore)
  else
    guarded GenerationError.isCaught (fun error => (failedResult payload error, contentStore))
      (guardedBlock services payload contentStore) (publish services payload contentStore)

end Branch

end OhMyClass.Generation
