import OhMyClass.Assessment.AcceptedAnswers
import OhMyClass.Generation.OneArtifact

/-!
# What the guarded block raises

Every exception that follows the creation of an artifact is a `ValueError`,
except that an answer without a hash is looked up among the options of its card.
-/

namespace OhMyClass.Generation

open List OhMyClass.Contracts OhMyClass.Projection OhMyClass.Raising OnlyRaises

/-- Whether a branch turns an exception into a state. -/
def Caught (error : GenerationError) : Prop :=
  error.isCaught = true

@[simp]
theorem caught_value (error : RaisedValueError) : Caught (.value error) :=
  rfl

theorem not_caught_unhashable (className : String) : ¬ Caught (unhashable className) :=
  nofun

theorem get?_withMembers_of_not_mem {object : JsonObject} {members : List (String × Json)}
    {key : String} (absent : key ∉ members.map Prod.fst) :
    (withMembers object members).get? key = object.get? key := by
  unfold withMembers
  induction members generalizing object with
  | nil => rfl
  | cons member rest ih =>
    rw [map_cons, mem_cons, not_or] at absent
    rw [List.foldl_cons, ih absent.2, JsonObject.get?_set_of_ne object member.2 absent.1]

theorem sectionsOf_withMetadata (artifact : JsonObject) (members : List (String × Json)) :
    sectionsOf (withMetadata artifact members) = sectionsOf artifact := by
  unfold sectionsOf withMetadata
  rw [JsonObject.get?_set_of_ne artifact _ (by decide)]

section Services

variable {services : Services}

/-- The card has options and an answer without a hash. -/
def HasUnhashableAnswer (card : JsonObject) : Prop :=
  (∃ options, card.get? "options" = some (.obj options)) ∧
    (unhashableClass ((card.get? "answer").getD .null)).isSome

variable (services) in
/-- A card with such an answer comes after selected responses only. -/
inductive MeetsUnhashable : List JsonObject → Prop
  | here {card : JsonObject} {rest : List JsonObject} : HasUnhashableAnswer card →
      MeetsUnhashable (card :: rest)
  | later {card : JsonObject} {rest : List JsonObject} :
      isSelectedResponse services card = .ok true → MeetsUnhashable rest →
      MeetsUnhashable (card :: rest)

variable {options : JsonObject} {answer : Json}

theorem isOptionOf_raises :
    OnlyRaises Caught (isOptionOf options answer) ↔ unhashableClass answer = none := by
  unfold isOptionOf
  cases hashed : unhashableClass answer with
  | some className =>
    rw [onlyRaises_error]
    exact iff_of_false (not_caught_unhashable className) nofun
  | none =>
    refine iff_of_true ?_ rfl
    cases answer with
    | str text => exact onlyRaises_ok
    | null | bool _ | int _ | float _ | arr _ | obj _ => exact onlyRaises_ok

variable {card : JsonObject}

theorem isSelectedResponse_raises :
    OnlyRaises Caught (isSelectedResponse services card) ↔ ¬ HasUnhashableAnswer card := by
  unfold isSelectedResponse HasUnhashableAnswer
  split
  · next options found =>
    rw [onlyRaises_bind, isOptionOf_raises, found]
    simp [pure, Except.pure]
  · next other =>
    refine iff_of_true onlyRaises_ok ?_
    rintro ⟨⟨options, found⟩, _⟩
    exact other options found

variable {cards : List JsonObject}

theorem allSelectedResponse_raises :
    OnlyRaises Caught (allSelectedResponse services cards) ↔ ¬ MeetsUnhashable services cards := by
  induction cards with
  | nil => exact iff_of_true onlyRaises_ok nofun
  | cons card rest ih =>
    rw [allSelectedResponse, onlyRaises_bind, isSelectedResponse_raises]
    constructor
    · rintro ⟨hashed, continues⟩ (unhashed | ⟨selected, meets⟩)
      · exact hashed unhashed
      · have others := continues true selected
        exact ih.mp others meets
    · intro never
      refine ⟨fun unhashed => never (.here unhashed), fun selected isSelected => ?_⟩
      cases selected with
      | true => exact ih.mpr fun meets => never (.later isSelected meets)
      | false => exact onlyRaises_ok

theorem hashed_of_allSelectedResponse (selected : allSelectedResponse services cards = .ok true) :
    ∀ card ∈ cards, ¬ HasUnhashableAnswer card := by
  induction cards with
  | nil => exact forall_mem_nil _
  | cons card rest ih =>
    rcases bind_eq_ok.mp selected with ⟨isSelected, first, others⟩
    cases isSelected with
    | false => cases others
    | true =>
      rw [forall_mem_cons]
      refine ⟨fun unhashed => ?_, ih others⟩
      exact isSelectedResponse_raises.mp (first ▸ onlyRaises_ok) unhashed

/-! ## Blueprints and cards -/

variable {α : Type}

theorem validate_raises (codec : Codec α) (value : Json) :
    OnlyRaises Caught (services.validate codec value) :=
  mapError _ fun _ => rfl

instance : (Codec.enum [.foundational, .developing, .secure, .transfer] Difficulty.text).Faithful :=
  Codec.enum_faithful fun first second same => by cases first <;> cases second <;> trivial

instance : (Codec.enum [.solver, .declaredAnswer, .rubric, .teacherReview]
    VerificationMethod.text).Faithful :=
  Codec.enum_faithful fun first second same => by cases first <;> cases second <;> trivial

instance : (Codec.enum PracticeStage.all PracticeStage.text).Faithful :=
  Codec.enum_faithful fun first second same => by cases first <;> cases second <;> trivial

instance : assessmentItemBlueprint.Faithful := by
  unfold assessmentItemBlueprint
  infer_instance

theorem validate_eq_ok {codec : Codec α} {value : Json} {result : α} :
    services.validate codec value = .ok result ↔ codec.decode value = .ok result := by
  unfold Services.validate
  cases codec.decode value with
  | error error => simp [Except.mapError]
  | ok value => simp [Except.mapError]

variable {lessonPlan : JsonObject} {practice : Bool}

theorem responseType_of_buildItemBlueprints {count : Nat} {responseType : String}
    {blueprints : List AssessmentItemBlueprint}
    (built : buildItemBlueprints services lessonPlan count responseType practice = .ok blueprints) :
    ∀ blueprint ∈ blueprints, blueprint.responseType = responseType := by
  unfold buildItemBlueprints at built
  split at built
  · cases built
  · intro blueprint mem
    rcases exists_left_of_forall₂ (mapM_eq_ok_iff.mp built) mem with ⟨index, _, validated⟩
    rcases Codec.decode_encode_iff.mp (validate_eq_ok.mp validated) with ⟨rfl, _⟩
    rfl

theorem buildItemBlueprints_raises (lessonPlan : JsonObject) (count : Nat) (responseType : String)
    (practice : Bool) :
    OnlyRaises Caught (buildItemBlueprints services lessonPlan count responseType practice) := by
  unfold buildItemBlueprints
  split
  · exact onlyRaises_error.mpr rfl
  · exact mapM fun index _ => validate_raises _ _

theorem validateOptions_raises (blueprint : AssessmentItemBlueprint)
    (hashed : unhashableClass answer = none) :
    OnlyRaises Caught (validateOptions services options answer blueprint) := by
  have lookedUp : OnlyRaises Caught (isOptionOf options answer) := isOptionOf_raises.mpr hashed
  unfold validateOptions
  simp only
  split
  · exact onlyRaises_error.mpr rfl
  · refine onlyRaises_bind.mpr ⟨lookedUp, fun isOption _ => ?_⟩
    split
    · exact throwIf rfl
    · exact onlyRaises_error.mpr rfl

variable {blueprint : AssessmentItemBlueprint}

theorem not_mem_blueprintMembers {key : String}
    (other : key ∉ ["blueprint_id", "objective_id", "knowledge_component_id",
      "cognitive_demand", "difficulty", "misconception_target_id", "evidence_statement_id",
      "verification_method", "practice_stage", "verification"]) :
    key ∉ (blueprintMembers services card blueprint).map Prod.fst := by
  unfold blueprintMembers
  cases blueprint.practiceStage with
  | none =>
    split <;> simp at other ⊢ <;> simp [other]
  | some stage =>
    split <;> simp at other ⊢ <;> simp [other]

theorem validateQuestionCard_raises {question : JsonObject}
    (hashed : blueprint.responseType = "selected_response" → ¬ HasUnhashableAnswer question) :
    OnlyRaises Caught (validateQuestionCard services question blueprint) := by
  unfold validateQuestionCard
  simp only
  split
  · next selected =>
    split
    · next options found =>
      refine onlyRaises_bind.mpr ⟨validateOptions_raises blueprint ?_, fun _ _ =>
        throwIf rfl⟩
      by_contra unhashed
      exact hashed selected ⟨⟨options, found⟩, Option.isSome_iff_ne_none.mpr unhashed⟩
    · exact throwIf rfl
  · exact throwIf rfl

theorem deepenCard_raises
    (hashed : blueprint.responseType = "selected_response" → ¬ HasUnhashableAnswer card) :
    OnlyRaises Caught (deepenCard services card blueprint) := by
  have kept (key : String) (other : key ∈ ["options", "answer"]) :
      (withMembers card (blueprintMembers services card blueprint)).get? key = card.get? key := by
    refine get?_withMembers_of_not_mem (not_mem_blueprintMembers ?_)
    revert key
    decide
  refine onlyRaises_bind.mpr ⟨validateQuestionCard_raises fun selected => ?_, fun _ _ => onlyRaises_ok⟩
  unfold HasUnhashableAnswer
  rw [kept "options" (by decide), kept "answer" (by decide)]
  exact hashed selected

theorem deepenAssessment_raises {artifact : JsonObject} :
    OnlyRaises Caught (deepenAssessment services artifact lessonPlan practice) ↔
      ¬ MeetsUnhashable services (cardsToDeepen artifact lessonPlan practice) := by
  unfold deepenAssessment
  split
  · next none =>
    rw [none]
    exact iff_of_true onlyRaises_ok nofun
  · next first rest found =>
    rw [found, onlyRaises_bind, allSelectedResponse_raises]
    refine and_iff_left_of_imp fun _ selected allSelected => ?_
    refine onlyRaises_bind.mpr ⟨buildItemBlueprints_raises _ _ _ _, fun blueprints built => ?_⟩
    refine onlyRaises_bind.mpr ⟨mapM ?_, fun _ _ => onlyRaises_ok⟩
    rintro ⟨card, blueprint⟩ isPair
    apply deepenCard_raises
    intro isSelected
    rw [responseType_of_buildItemBlueprints built blueprint (of_mem_zip isPair).2] at isSelected
    cases selected with
    | true => exact hashed_of_allSelectedResponse allSelected card (of_mem_zip isPair).1
    | false => exact absurd isSelected (by decide)

/-- Whether a family deepens question cards. -/
def deepensCards : SpecialistFamily → Bool
  | .assessment | .practice => true
  | .lessonDesign | .synthesis | .presentation => false

variable (services) in
/-- An answer without a hash is looked up while a family deepens what was
created. -/
def LooksUpUnhashable (family : SpecialistFamily) (created lessonPlan : JsonObject) : Prop :=
  deepensCards family = true ∧
    MeetsUnhashable services (cardsToDeepen created lessonPlan (family = .practice))

theorem cardsToDeepen_withMetadata (artifact lessonPlan : JsonObject) (practice : Bool)
    (members : List (String × Json)) :
    cardsToDeepen (withMetadata artifact members) lessonPlan practice =
      cardsToDeepen artifact lessonPlan practice := by
  unfold cardsToDeepen replacesCards questionCardsOf
  rw [sectionsOf_withMetadata]

variable {created : JsonObject} {family : SpecialistFamily}

theorem deepenSpecialistOutput_raises {researchBrief : JsonObject} {contentBrief : ContentBrief} :
    OnlyRaises Caught
        (deepenSpecialistOutput services created family contentBrief lessonPlan researchBrief) ↔
      ¬ LooksUpUnhashable services family created lessonPlan := by
  unfold deepenSpecialistOutput LooksUpUnhashable
  cases family with
  | lessonDesign => simp [deepensCards, mapError]
  | assessment => simp [deepensCards, deepenAssessment_raises, cardsToDeepen_withMetadata]
  | practice => simp [deepensCards, deepenAssessment_raises, cardsToDeepen_withMetadata]
  | synthesis => simp [deepensCards, mapError]
  | presentation => simp [deepensCards]

theorem enforceSpecialistDeclaration_raises (artifact : JsonObject) (request : OrchestratorRequest) :
    OnlyRaises Caught (enforceSpecialistDeclaration services artifact request) := by
  unfold enforceSpecialistDeclaration
  split
  · refine onlyRaises_bind.mpr ⟨validate_raises _ _, fun produced _ => ?_⟩
    unfold enforceContentBriefCompliance
    split
    · exact onlyRaises_ok
    · exact onlyRaises_error.mpr rfl
  · exact onlyRaises_error.mpr rfl

theorem specialistFamilies_dispatched : ∀ entry ∈ specialistFamilies,
    entry.1 ∈ specialistRegistry ∨ entry.1 ∈ nativelyDispatchedArtifactTypes := by
  decide

theorem dispatched_of_familyFor {artifactType : String}
    (known : familyFor artifactType = some family) :
    artifactType ∈ specialistRegistry ∨ artifactType ∈ nativelyDispatchedArtifactTypes := by
  rcases lookup_eq_some_iff.mp known with ⟨earlier, later, listed, _⟩
  refine specialistFamilies_dispatched (artifactType, family) ?_
  rw [listed]
  exact mem_append_right _ mem_cons_self

variable {request : OrchestratorRequest}

theorem deepenCreated_raises :
    OnlyRaises Caught (deepenCreated services request created) ↔
      ∀ family, familyFor request.artifactType = some family →
        ¬ LooksUpUnhashable services family created request.lessonPlan := by
  unfold deepenCreated
  split
  · next family known =>
    rw [if_pos (dispatched_of_familyFor known), onlyRaises_bind, deepenSpecialistOutput_raises]
    constructor
    · rintro ⟨hashed, _⟩ other isOther
      rw [known] at isOther
      cases isOther
      exact hashed
    · refine fun hashed => ⟨hashed family known, fun deepened _ => ?_⟩
      exact onlyRaises_bind.mpr ⟨enforceSpecialistDeclaration_raises _ _, fun _ _ => onlyRaises_ok⟩
  · next unknown => simp [unknown]

theorem compileArtifactWithContext_raises (artifact : JsonObject) (context : CompilerContext) :
    OnlyRaises Caught (compileArtifactWithContext services artifact context) := by
  unfold compileArtifactWithContext
  simp only
  split
  · exact onlyRaises_error.mpr rfl
  · exact onlyRaises_ok

theorem parseCompiled_raises (artifactType : String) (artifact : JsonObject) :
    OnlyRaises Caught (parseCompiled services artifactType artifact) := by
  unfold parseCompiled
  simp only
  split
  · exact onlyRaises_error.mpr rfl
  · exact onlyRaises_bind.mpr ⟨validate_raises _ _, fun _ _ => onlyRaises_ok⟩

/-- What follows the creation of an artifact raises what is caught, unless an
answer without a hash is looked up. -/
theorem parseCreated_raises {context : CompilerContext} :
    OnlyRaises Caught (parseCreated services request context created) ↔
      ∀ family, familyFor request.artifactType = some family →
        ¬ LooksUpUnhashable services family created request.lessonPlan := by
  unfold parseCreated
  rw [onlyRaises_bind, deepenCreated_raises]
  refine and_iff_left_of_imp fun _ deepened _ => ?_
  exact onlyRaises_bind.mpr ⟨compileArtifactWithContext_raises _ _, fun compiled _ =>
    parseCompiled_raises _ _⟩

end Services

/-! ## Every branch reports a status -/

open OhMyClass.Assessment OhMyClass.Tenancy

/-- There is one reference, to a stored artifact, where there was a store. -/
def PersistsReference (contentStore after : Option ContentStore)
    (references : Option (List JsonObject)) : Prop :=
  match contentStore with
  | none => references = none
  | some _ => ∃ (reference : ArtifactDocumentReference) (store : ContentStore) (artifact : ArtifactContent),
    references = some [reference.asState] ∧ after = some store ∧
      store.projections.lookup reference.documentId = some artifact

/-- One state of the payload's type: passed, with what was stored, or failed,
without a reference. -/
def ReportsStatus (payload : GenerateOneArtifactPayload) (contentStore : Option ContentStore)
    (outcome : GenerateOneArtifactResult × Option ContentStore) : Prop :=
  ∃ state, outcome.1.artifactWorkflowStates = [state] ∧
    state.artifactType = payload.artifactType ∧
      (state.status = .passed ∧
          PersistsReference contentStore outcome.2 outcome.1.artifactReferences ∨
        state.status = .failed ∧ outcome.1.artifactReferences = none)

section Services

variable (services : Services)

def stampedContent (payload : GenerateOneArtifactPayload) (parsed : ParsedArtifact) :
    ArtifactContent :=
  stamped services payload.request
    (resolveSpecialistCapability payload.artifactType services.genericContentCreatorFallback)
    parsed.content

def storedContent (payload : GenerateOneArtifactPayload) (parsed : ParsedArtifact) :
    ArtifactContent :=
  let projection := stampedContent services payload parsed
  match storeTenant payload with
  | some tenant =>
    { projection with
      metadata := withMembers projection.metadata
        [("organization_id", .str tenant.organizationId),
          ("tenant_audit_fingerprint", .str (services.auditFingerprint tenant))] }
  | none => projection

/-- What is not guarded goes through: the answers of an assessment are accepted,
no other organization owns the content, and students can be shown a copy. -/
structure ContentAccepted (payload : GenerateOneArtifactPayload)
    (contentStore : Option ContentStore) (parsed : ParsedArtifact) : Prop where
  answers : payload.artifactType ∈ answerSetArtifactTypes →
    AnswersAccepted (parsed.content.sections.flatMap questionCards)
      (payload.artifactGenerationId ++ ":" ++ parsed.artifactId)
  owner : contentStore.isSome → payload.namesTenant → ∀ owner,
    parsed.content.metadata.get? "organization_id" = some (.str owner) →
      owner = payload.request.tenant.organizationId
  copied : contentStore.isSome →
    Projectable services.coercions services.printable (storedContent services payload parsed)
      parsed.artifactId

/-- What was created is deepened without looking up an answer that has no hash,
and is rejected by the guarded validation or accepted by what follows. -/
structure CreatedAccepted (payload : GenerateOneArtifactPayload)
    (contentStore : Option ContentStore) (context : CompilerContext) (created : JsonObject) : Prop where
  hashed : ∀ family, familyFor payload.artifactType = some family →
    ¬ LooksUpUnhashable services family created payload.request.lessonPlan
  accepted : ∀ parsed, parseCreated services payload.request context created = .ok parsed →
    ContentAccepted services payload contentStore parsed

end Services

variable {services : Services} {payload : GenerateOneArtifactPayload}
  {contentStore : Option ContentStore} {parsed : ParsedArtifact}

theorem reportsStatus_failedResult (error : GenerationError) (after : Option ContentStore) :
    ReportsStatus payload contentStore (failedResult payload error, after) :=
  ⟨_, rfl, rfl, .inr ⟨rfl, rfl⟩⟩

theorem sectionCards_map_obj (sections : List JsonObject) :
    sectionCards (sections.map .obj) = sections.flatMap questionCards := by
  unfold sectionCards
  rw [flatMap_map]

theorem exists_answersOf_iff :
    (∃ answers, answersOf services payload parsed = .ok answers) ↔
      (payload.artifactType ∈ answerSetArtifactTypes →
        AnswersAccepted (parsed.content.sections.flatMap questionCards)
          (payload.artifactGenerationId ++ ":" ++ parsed.artifactId)) := by
  have iterated : artifactSections (contentDump parsed.content) =
      .ok (parsed.content.sections.map .obj) := rfl
  unfold answersOf
  split
  · next assessed =>
    rw [← sectionCards_map_obj, ← exists_deriveAnswerSet_iff iterated]
    simp only [bind_eq_ok, mapError_eq_ok, assessed, true_implies]
    constructor
    · rintro ⟨_, answers, derived, _⟩
      exact ⟨answers, derived⟩
    · rintro ⟨answers, derived⟩
      exact ⟨some answers, answers, derived, rfl⟩
  · next other => exact iff_of_true ⟨none, rfl⟩ fun assessed => absurd assessed other

theorem get?_setDefault (metadata : JsonObject) (member : String × Json) (key : String) :
    (setDefault metadata member).get? key =
      (metadata.get? key).or (JsonObject.get? [member] key) := by
  unfold setDefault
  by_cases same : key = member.1
  · subst same
    have given : JsonObject.get? [member] member.1 = some member.2 := lookup_cons_self
    rw [given]
    split
    · next known => rw [Option.or_of_isSome known]
    · next unknown =>
      rw [JsonObject.get?_set_self, Option.not_isSome_iff_eq_none.mp unknown, Option.none_or]
  · have given : JsonObject.get? [member] key = none := by
      unfold JsonObject.get?
      rw [lookup_cons, beq_eq_false_iff_ne.mpr same]
      rfl
    rw [given, Option.or_none]
    split
    · rfl
    · exact JsonObject.get?_set_of_ne metadata member.2 same

theorem get?_append (first second : JsonObject) (key : String) :
    JsonObject.get? (first ++ second) key = (first.get? key).or (second.get? key) :=
  lookup_append

theorem get?_foldl_setDefault (stamps : List (String × Json)) (metadata : JsonObject) (key : String) :
    (stamps.foldl setDefault metadata).get? key =
      (metadata.get? key).or (JsonObject.get? stamps key) := by
  induction stamps generalizing metadata with
  | nil => exact Option.or_none.symm
  | cons mem rest ih =>
    rw [List.foldl_cons, ih, get?_setDefault, Option.or_assoc, ← get?_append]
    rfl

theorem get?_researchStamps (researchBrief : JsonObject) :
    JsonObject.get? (researchStamps services researchBrief) "organization_id" = none := by
  unfold researchStamps
  split
  · split <;> rfl
  · rfl

theorem get?_pedagogyStamps (lessonPlan : JsonObject) :
    JsonObject.get? (pedagogyStamps lessonPlan) "organization_id" = none := by
  unfold pedagogyStamps
  split
  · rfl
  · simp only
    split <;> rfl

theorem get?_lineageStamps (artifactType : String) (resolution : CapabilityResolution) :
    JsonObject.get? (lineageStamps artifactType resolution) "organization_id" = none := by
  unfold lineageStamps
  split <;> rfl

theorem get?_organization_stamped (resolution : CapabilityResolution) (content : ArtifactContent) :
    (stamped services payload.request resolution content).metadata.get? "organization_id" =
      some ((content.metadata.get? "organization_id").getD
        (.str payload.request.tenant.organizationId)) := by
  have given : JsonObject.get? (orchestrationStamps services payload.request) "organization_id" =
      some (.str payload.request.tenant.organizationId) := rfl
  unfold stamped
  rw [get?_foldl_setDefault, get?_append, get?_append, get?_append, get?_researchStamps,
    get?_pedagogyStamps, get?_lineageStamps, given, Option.none_or, Option.none_or, Option.none_or,
    Option.or_some]

theorem owner_stampedContent_iff :
    (∀ owner, (stampedContent services payload parsed).metadata.get? "organization_id" =
        some (.str owner) → owner = payload.request.tenant.organizationId) ↔
      ∀ owner, parsed.content.metadata.get? "organization_id" = some (.str owner) →
        owner = payload.request.tenant.organizationId := by
  unfold stampedContent
  rw [get?_organization_stamped]
  cases parsed.content.metadata.get? "organization_id" with
  | none =>
    refine iff_of_true ?_ nofun
    rintro _ ⟨⟩
    rfl
  | some value => rfl

/-! ## The store -/

theorem valid_withMetadata {content : ArtifactContent}
    (valid : (artifactContent services.coercions).Valid content) (metadata : JsonObject) :
    (artifactContent services.coercions).Valid { content with metadata := metadata } := by
  exact valid

theorem requireOrganization_eq_ok_iff {tenant : TenantContext} {owner : String} :
    requireOrganization tenant owner = .ok () ↔ owner = tenant.organizationId := by
  unfold requireOrganization
  rw [TenantContext.requireOrganization]
  split
  · next different => exact iff_of_false nofun (Ne.symm different)
  · next same => exact iff_of_true rfl (not_not.mp same).symm

theorem scopedArtifact_eq_ok_iff {tenant : TenantContext} {content stored : ArtifactContent} :
    scopedArtifact services tenant content = .ok stored ↔
      (∀ owner, content.metadata.get? "organization_id" = some (.str owner) →
        owner = tenant.organizationId) ∧
      { content with
        metadata := withMembers content.metadata
          [("organization_id", .str tenant.organizationId),
            ("tenant_audit_fingerprint", .str (services.auditFingerprint tenant))] } = stored := by
  unfold scopedArtifact
  split
  · next owner found =>
    rw [found, bind_eq_ok]
    constructor
    · rintro ⟨_, isOwner, same⟩
      cases same
      refine ⟨?_, rfl⟩
      rintro _ ⟨⟩
      exact requireOrganization_eq_ok_iff.mp isOwner
    · rintro ⟨isOwner, rfl⟩
      exact ⟨(), requireOrganization_eq_ok_iff.mpr (isOwner owner rfl), rfl⟩
  · next other =>
    constructor
    · intro same
      cases same
      exact ⟨fun owner found => absurd found (other owner), rfl⟩
    · rintro ⟨_, rfl⟩
      rfl

theorem returns_persistResult_iff {store : ContentStore} {result : ArtifactPersistenceResult}
    (valid : (artifactContent services.coercions).Valid result.artifact) {artifactId : String} :
    Returns (ReportsStatus payload (some store)) (do
        let (reference, after) ← store.persistResult services payload.artifactGenerationId result
          artifactId
        return (passedResult payload artifactId (some [reference.asState]), some after)) ↔
      Projectable services.coercions services.printable result.artifact artifactId := by
  rw [← exists_studentProjection_iff valid, returns_bind]
  constructor
  · rintro ⟨_, persisted, _⟩
    rcases bind_eq_ok.mp persisted with ⟨copy, copied, _⟩
    exact ⟨copy, mapError_eq_ok.mp copied⟩
  · rintro ⟨copy, copied⟩
    refine ⟨_, bind_eq_ok.mpr ⟨copy, mapError_eq_ok.mpr copied, rfl⟩, _, rfl, ?_⟩
    exact ⟨_, rfl, rfl, .inl ⟨rfl, _, _, copy, rfl, rfl, lookup_cons_self⟩⟩

theorem returns_publish_iff (valid : (artifactContent services.coercions).Valid parsed.content) :
    Returns (ReportsStatus payload contentStore) (publish services payload contentStore parsed) ↔
      ContentAccepted services payload contentStore parsed := by
  unfold publish
  rw [returns_bind]
  cases contentStore with
  | none =>
    have passed : ReportsStatus payload none (passedResult payload parsed.artifactId none, none) :=
      ⟨_, rfl, rfl, .inl ⟨rfl, rfl⟩⟩
    constructor
    · rintro ⟨answers, derived, _⟩
      exact ⟨exists_answersOf_iff.mp ⟨answers, derived⟩, nofun, nofun⟩
    · intro accepted
      rcases exists_answersOf_iff.mpr accepted.answers with ⟨answers, derived⟩
      exact ⟨answers, derived, _, rfl, passed⟩
  | some store =>
    have accepted_iff : ContentAccepted services payload (some store) parsed ↔
        (payload.artifactType ∈ answerSetArtifactTypes →
          AnswersAccepted (parsed.content.sections.flatMap questionCards)
            (payload.artifactGenerationId ++ ":" ++ parsed.artifactId)) ∧
        (payload.namesTenant → ∀ owner,
          parsed.content.metadata.get? "organization_id" = some (.str owner) →
            owner = payload.request.tenant.organizationId) ∧
        Projectable services.coercions services.printable (storedContent services payload parsed)
          parsed.artifactId :=
      ⟨fun accepted => ⟨accepted.answers, accepted.owner rfl, accepted.copied rfl⟩,
        fun ⟨answers, owner, copied⟩ => ⟨answers, fun _ => owner, fun _ => copied⟩⟩
    have stampedValid : (artifactContent services.coercions).Valid
        (stampedContent services payload parsed) := valid_withMetadata valid _
    have validated : services.validate (artifactContent services.coercions)
        ((artifactContent services.coercions).encode (stampedContent services payload parsed)) =
          .ok (stampedContent services payload parsed) :=
      validate_eq_ok.mpr ((artifactContent services.coercions).decode_encode stampedValid)
    change (∃ answers, _ ∧ Returns _ (services.validate (artifactContent services.coercions)
        ((artifactContent services.coercions).encode (stampedContent services payload parsed)) >>=
          _)) ↔ _
    rw [accepted_iff, ← exists_answersOf_iff, ← exists_and_right, validated]
    refine exists_congr fun answers => and_congr_right fun _ => ?_
    rw [returns_bind]
    simp only [Except.ok.injEq, exists_eq_left']
    cases named : payload.namesTenant with
    | true =>
      have isTenant : storeTenant payload = some payload.request.tenant := if_pos named
      have isStored : storedContent services payload parsed =
          { stampedContent services payload parsed with
            metadata := withMembers (stampedContent services payload parsed).metadata
              [("organization_id", .str payload.request.tenant.organizationId),
                ("tenant_audit_fingerprint",
                  .str (services.auditFingerprint payload.request.tenant))] } := by
        unfold storedContent
        rw [isTenant]
      have storedValid : (artifactContent services.coercions).Valid
          (storedContent services payload parsed) := isStored ▸ valid_withMetadata stampedValid _
      rw [isTenant]
      simp only
      rw [returns_bind]
      constructor
      · rintro ⟨stored, taken, persisted⟩
        rcases scopedArtifact_eq_ok_iff.mp taken with ⟨isOwner, rfl⟩
        rw [← isStored] at persisted
        exact ⟨fun _ => owner_stampedContent_iff.mp isOwner,
          (returns_persistResult_iff storedValid).mp persisted⟩
      · rintro ⟨isOwner, copied⟩
        refine ⟨storedContent services payload parsed, scopedArtifact_eq_ok_iff.mpr
          ⟨owner_stampedContent_iff.mpr (isOwner trivial), isStored.symm⟩, ?_⟩
        exact (returns_persistResult_iff storedValid).mpr copied
    | false =>
      have isTenant : storeTenant payload = none := if_neg (by rw [named]; decide)
      have isStored : storedContent services payload parsed = stampedContent services payload parsed := by
        unfold storedContent
        rw [isTenant]
      rw [isTenant, isStored]
      simp only [Except.ok.injEq, exists_eq_left', Bool.false_eq_true, false_implies, true_and]
      exact returns_persistResult_iff stampedValid

theorem valid_of_parseCreated {context : CompilerContext} {created : JsonObject}
    (ret : parseCreated services payload.request context created = .ok parsed) :
    (artifactContent services.coercions).Valid parsed.content := by
  rcases bind_eq_ok.mp ret with ⟨deepened, _, continued⟩
  rcases bind_eq_ok.mp continued with ⟨compiled, _, final⟩
  unfold parseCompiled at final
  simp only at final
  split at final
  · cases final
  · rcases bind_eq_ok.mp final with ⟨content, validated, same⟩
    cases same
    exact (artifactContent services.coercions).valid_of_decode (validate_eq_ok.mp validated)

/-- A branch reports a status if and only if its type is not supported, or nothing
but what is caught is raised until there is an artifact, and that is accepted. -/
theorem generateOneArtifact_reportsStatus_iff (services : Services)
    (payload : GenerateOneArtifactPayload) (contentStore : Option ContentStore) :
    Returns (ReportsStatus payload contentStore) (generateOneArtifact services payload contentStore) ↔
      (resolveSpecialistCapability payload.artifactType
          services.genericContentCreatorFallback).status = .unsupported ∨
        OnlyRaises Caught (createArtifact services payload contentStore) ∧
          ∀ context created, createArtifact services payload contentStore = .ok (context, created) →
            CreatedAccepted services payload contentStore context created := by
  unfold generateOneArtifact
  simp only
  split
  · next unsupported =>
    exact iff_of_true ⟨_, rfl, reportsStatus_failedResult _ _⟩ (.inl unsupported)
  · next supported =>
    rw [returns_guarded_iff fun error => reportsStatus_failedResult error contentStore,
      or_iff_right supported]
    unfold guardedBlock
    rw [onlyRaises_bind, and_assoc]
    refine and_congr_right fun _ => ?_
    constructor
    · rintro ⟨raises, returns⟩ context created isCreated
      refine ⟨parseCreated_raises.mp (raises (context, created) isCreated), fun parsed isParsed => ?_⟩
      refine (returns_publish_iff (valid_of_parseCreated isParsed)).mp (returns parsed ?_)
      exact bind_eq_ok.mpr ⟨(context, created), isCreated, isParsed⟩
    · intro accepted
      refine ⟨fun (context, created) isCreated =>
        parseCreated_raises.mpr (accepted context created isCreated).hashed, fun parsed block => ?_⟩
      rcases bind_eq_ok.mp block with ⟨⟨context, created⟩, isCreated, isParsed⟩
      exact (returns_publish_iff (valid_of_parseCreated isParsed)).mpr
        ((accepted context created isCreated).accepted parsed isParsed)

/-! ## A drill of five cards -/

/-- Some option has no text. -/
def hasBlankOption (card : JsonObject) : Bool :=
  match card.get? "options" with
  | some (.obj options) => options.any fun option => (filledText (some option.2)).isNone
  | _ => false

theorem not_cardFits_of_hasBlankOption {card : JsonObject} (blank : hasBlankOption card = true) :
    ¬ CardFits card := by
  rintro ⟨question, carries, valid⟩
  unfold hasBlankOption at blank
  rw [carries.options] at blank
  rcases any_eq_true.mp blank with ⟨_, isOption, unfilled⟩
  rcases mem_map.mp isOption with ⟨option, mem, rfl⟩
  have filled : filledText (some (.str option.text)) = some option.text :=
    Projection.filledText_eq_some.mpr ⟨rfl, ne_empty_of_valid (valid.2.2.2 option mem).2⟩
  rw [filled] at unfilled
  cases unfilled

/-- The guarded block makes an assessment, and some card of it that students would
be shown has a blank option. -/
def showsBlankOption (services : Services) (payload : GenerateOneArtifactPayload)
    (contentStore : Option ContentStore) : Bool :=
  match guardedBlock services payload contentStore with
  | .ok parsed =>
    let stored := storedContent services payload parsed
    stored.artifactType.isAssessment &&
      ((shownContent stored).sections.flatMap questionCards).any hasBlankOption
  | .error _ => false

def drillTeacher : TenantContext where
  organizationId := "teacher:t1"
  principalId := "t1"
  principalRole := .teacher
  teacherId := some "t1"
  classId := none
  organizationId_bounds := by decide
  principalId_bounds := by decide
  teacherId_bounds := by
    rintro _ ⟨⟩
    decide
  classId_bounds := fitsId_none

def drillRequest : OrchestratorRequest where
  runId := "run-1"
  artifactGenerationId := "generation-1"
  artifactType := "drill"
  lessonPlan := [("topic", .str "Fractions"), ("learning_objectives", .arr [.obj
    [("objective_id", .str "o1"), ("description", .str "Add fractions")]])]
  researchBrief := []
  theme := "default"
  revisionFeedback := ""
  dependencyArtifactReferences := []
  contentBrief := ⟨"brief-1", ["Add fractions"], "direct_instruction", [], [], none, by decide⟩
  tenant := drillTeacher
  budget := ⟨⟨"120.0", by decide⟩, 12000, 4⟩

def drillCard (level : Nat) : Json :=
  .obj [("type", .str "question_card"), ("id", .str ("drill-objective-1-" ++ toString level)),
    ("text", .str ("Level " ++ toString level ++ ": Practice this objective: Add fractions")),
    ("options", .obj [("A", .str "Add fractions"), ("B", .str "Use an unrelated skill."),
      ("C", .str "Skip the practice."), ("D", .str "Repeat the prompt without responding.")]),
    ("answer", .str "A"),
    ("explain", .str ("Level " ++ toString level ++ " reinforces the approved objective.")),
    ("difficulty_level", .int level)]

/-- What the specialist for drills returns: five cards, for any request of at most
five objectives. -/
def drillOfFive : JsonObject :=
  [("artifact_type", .str "drill"), ("theme", .str "default"), ("title", .str "Drill: Fractions"),
    ("sections", .arr [.obj [("id", .str "progressive-drill"),
      ("title", .str "Progressive Practice"),
      ("components", .arr [drillCard 1, drillCard 2, drillCard 3, drillCard 4, drillCard 5])]]),
    ("metadata", .obj [("subject", .str "General"), ("gradeLevel", .str ""),
      ("drill_scorecard", .obj [("progression", .float ⟨"1.0", by decide⟩),
        ("activity_identity", .float ⟨"1.0", by decide⟩),
        ("answer_verifiability", .float ⟨"1.0", by decide⟩),
        ("scoped_repairability", .float ⟨"1.0", by decide⟩)]),
      ("grounding_source_count", .int 0)]),
    ("accessibility", .obj [("language", .str "vi")])]

def drillServices : Services where
  coercions := plainCoercions
  printable := fun _ => true
  casefold c := [c.toLower]
  validationText _ := "validation error"
  auditFingerprint _ := "fingerprint"
  genericContentCreatorFallback := false
  compileIntelligenceContext _ := .ok ⟨fun _ _ => .obj [], [], fun _ => "hash"⟩
  buildInstructionalDesignPlan _ := .error (valueError "no phases")
  buildSynthesisPlan _ _ _ := .error (valueError "no claims")
  prerequisiteOrder _ := .ok []
  specialist _ := .ok drillOfFive
  slideDeckArtifact _ _ := .error .timeout
  contentCreatorNode _ _ := .error .timeout

theorem showsBlankOption_drillOfFive :
    showsBlankOption drillServices ⟨drillRequest, true⟩ (some ⟨[], []⟩) = true := by
  decide +kernel

/-- Five cards are too few for a practice.  The cards that replace them pass the
guard, but students cannot be shown their blank options. -/
theorem drillOfFive_ends_branch : ¬ ∀ (services : Services) (payload : GenerateOneArtifactPayload)
    (contentStore : Option ContentStore) (created : CompilerContext × JsonObject),
    createArtifact services payload contentStore = .ok created →
      Returns (ReportsStatus payload contentStore)
        (generateOneArtifact services payload contentStore) := by
  intro claim
  have shows := showsBlankOption_drillOfFive
  unfold showsBlankOption at shows
  cases block : guardedBlock drillServices ⟨drillRequest, true⟩ (some ⟨[], []⟩) with
  | error error =>
    rw [block] at shows
    cases shows
  | ok parsed =>
    rw [block] at shows
    rcases Bool.and_eq_true_iff.mp shows with ⟨isAssessment, blank⟩
    rcases any_eq_true.mp blank with ⟨card, isCard, isBlank⟩
    rcases bind_eq_ok.mp block with ⟨⟨context, created⟩, isCreated, isParsed⟩
    have returns := claim _ _ _ _ isCreated
    unfold generateOneArtifact at returns
    rw [block] at returns
    have accepted := (returns_publish_iff (valid_of_parseCreated isParsed)).mp returns
    have fits := (accepted.copied rfl).questions isAssessment
    exact not_cardFits_of_hasBlankOption isBlank (fits.fits card isCard)

end OhMyClass.Generation
