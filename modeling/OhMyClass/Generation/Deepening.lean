import Mathlib.Algebra.Order.Ring.Rat
import OhMyClass.Assessment.AnswerSets
import OhMyClass.Tenancy.Context

/-!
# Requests for one artifact

What a worker branch is asked for, what it calls outside of itself, and the
exceptions that may end it.
-/

namespace OhMyClass.Generation

open OhMyClass.Assessment OhMyClass.Contracts OhMyClass.Projection OhMyClass.Tenancy

/-- A `ValueError`, or an exception of a class derived from it. -/
structure RaisedValueError where
  errorClass : String
  message : String

inductive GenerationError where
  | value (error : RaisedValueError)
  | timeout
  /-- An exception of any other class. -/
  | other (errorClass message : String)

namespace GenerationError

/-- Whether `except (ArtifactTypeMismatchError, ValidationError, ValueError, TimeoutError)`
catches the exception. -/
def isCaught : GenerationError → Bool
  | value _ | timeout => true
  | other _ _ => false

/-- `type(error).__name__`. -/
def errorClass : GenerationError → String
  | value error => error.errorClass
  | timeout => "TimeoutError"
  | other errorClass _ => errorClass

/-- `str(error)`. -/
def message : GenerationError → String
  | value error => error.message
  | timeout => ""
  | other _ message => message

end GenerationError

def valueError (message : String) : RaisedValueError :=
  ⟨"ValueError", message⟩

def artifactTypeMismatchError (expected actual : String) : RaisedValueError :=
  ⟨"ArtifactTypeMismatchError", "expected " ++ expected ++ ", got " ++ actual⟩

def unsupportedArtifactCapabilityError (artifactType : String)
    (supportedAlternatives : List String) : RaisedValueError :=
  ⟨"UnsupportedArtifactCapabilityError",
    "'" ++ artifactType ++ "' has no registered specialist; supported artifact types: " ++
      ", ".intercalate supportedAlternatives⟩

/-- The fields of a `ContentBrief` that generation reads. -/
structure ContentBrief where
  contentBriefId : String
  objectives : List String
  methodology : String
  learningMoves : List String
  sourceCitationIds : List String
  knowledgeDbVersion : Option String
  methodology_bounds : 1 ≤ methodology.length ∧ methodology.length ≤ 80

structure GenerationBudget where
  timeoutSeconds : FloatLiteral
  maxTokens : Int
  maxParallelism : Int

structure OrchestratorRequest where
  runId : String
  artifactGenerationId : String
  artifactType : String
  lessonPlan : JsonObject
  researchBrief : JsonObject
  theme : String
  revisionFeedback : String
  dependencyArtifactReferences : List JsonObject
  contentBrief : ContentBrief
  tenant : TenantContext
  budget : GenerationBudget

/-- A payload that `request_from_payload` accepts. -/
structure GenerateOneArtifactPayload where
  request : OrchestratorRequest
  /-- `"tenant" in payload` -/
  namesTenant : Bool

namespace GenerateOneArtifactPayload

variable (payload : GenerateOneArtifactPayload)

def artifactType : String :=
  payload.request.artifactType

def artifactGenerationId : String :=
  payload.request.artifactGenerationId

end GenerateOneArtifactPayload

structure LessonPhasePlan where
  phaseId : String
  title : String
  objectiveIds : List String
  timeboxMinutes : Int
  /-- `teacher_actions`, of which there is at least one. -/
  firstAction : String
  otherActions : List String
  studentActions : List String
  materials : List String
  checksForUnderstanding : List String
  anticipatedResponses : List String
  misconceptionResponses : List String
  differentiation : List String
  transition : String
  closure : String

structure InstructionalDesignPlan where
  planVersion : String
  objectiveIds : List String
  phases : List LessonPhasePlan
  allocatedMinutes : Int
  transitionReserveMinutes : Int
  contingencyMinutes : Int

structure SynthesisClaim where
  claimId : String
  text : String
  evidenceIds : List String
  authority : String
  required : Bool

structure SynthesisPlan where
  planVersion : String
  retainedClaims : List SynthesisClaim
  omittedClaimIds : List String
  terminologyPolicy : List String
  audience : String
  targetLengthWords : Int
  discourseStructure : List String
  warnings : List String

/-- What `compile_artifact_with_context` writes into the metadata of an
artifact, given its type and its audience, and the hash of the result. -/
structure CompilerContext where
  pedagogicalCompiler : String → String → Json
  lineage : List (String × Json)
  compileHash : JsonObject → String

/-- The specialists and the content creator, the plans and contexts that are
made of a request alone, and the texts and hashes of libraries.  The builders of
plans raise nothing but `ValueError`. -/
structure Services where
  coercions : Coercions
  printable : Char → Bool
  casefold : Char → List Char
  validationText : SchemaError → String
  auditFingerprint : TenantContext → String
  genericContentCreatorFallback : Bool
  compileIntelligenceContext : OrchestratorRequest → Except GenerationError CompilerContext
  buildInstructionalDesignPlan : JsonObject → Except RaisedValueError InstructionalDesignPlan
  buildSynthesisPlan : JsonObject → JsonObject → Nat → Except RaisedValueError SynthesisPlan
  prerequisiteOrder : JsonObject → Except RaisedValueError (List String)
  specialist : OrchestratorRequest → Except GenerationError JsonObject
  slideDeckArtifact : OrchestratorRequest → List JsonObject → Except GenerationError JsonObject
  contentCreatorNode : OrchestratorRequest → List JsonObject → Except GenerationError JsonObject

namespace Services

variable (services : Services)

def validationError (error : SchemaError) : RaisedValueError :=
  ⟨"ValidationError", services.validationText error⟩

def answerSetError : AnswerSetError → GenerationError
  | .validation error => .value (services.validationError error)
  | .verification message => .value ⟨"AnswerSetVerificationError", message⟩
  | .type => .other "TypeError" "object is not iterable"

def projectionError : ProjectionError → GenerationError
  | .validation error => .value (services.validationError error)
  | .conversion message => .value ⟨"ArtifactProjectionConversionError", message⟩

def validate {α : Type} (codec : Codec α) (value : Json) : Except GenerationError α :=
  (codec.decode value).mapError fun error => .value (services.validationError error)

/-- `bool(value)`. -/
def truthy : Json → Bool :=
  Python.truthy fun number => services.coercions.number number = 0

/-- `str(value)`. -/
def str : Json → String :=
  Python.str services.printable

/-- `text.strip().casefold()`. -/
def fold (text : String) : String :=
  String.ofList ((strip text).toList.flatMap services.casefold)

/-- `str(value or default)`, where `value` is that of a key. -/
def textOr (members : JsonObject) (key default : String) : String :=
  match (members.get? key).filter services.truthy with
  | some value => services.str value
  | none => default

end Services

/-! ## The depth of a specialist family -/

def texts (values : List String) : Json :=
  .arr (values.map .str)

/-- Assignments to the keys of a dictionary, in turn. -/
def withMembers (object : JsonObject) (members : List (String × Json)) : JsonObject :=
  members.foldl (fun object member => object.set member.1 member.2) object

/-- `_metadata`. -/
def metadataOf (artifact : JsonObject) : JsonObject :=
  match artifact.get? "metadata" with
  | some (.obj metadata) => metadata
  | _ => []

def withMetadata (artifact : JsonObject) (members : List (String × Json)) : JsonObject :=
  artifact.set "metadata" (.obj (withMembers (metadataOf artifact) members))

/-- The sections of an artifact, if they are a list. -/
def sectionsOf (artifact : JsonObject) : Option (List Json) :=
  match artifact.get? "sections" with
  | some (.arr sections) => some sections
  | _ => none

structure Objective where
  objectiveId : String
  description : String
  bloomLevel : Option String

/-- `value.strip()` of a text that is not blank. -/
def strippedText : Option Json → Option String
  | some (.str text) => if strip text = "" then none else some (strip text)
  | _ => none

/-- One item of `learning_objectives`; items are numbered from one. -/
def objective (item : Json × Nat) : Option Objective :=
  match item.1 with
  | .str text =>
    (strippedText (some (.str text))).map fun description =>
      ⟨"objective-" ++ toString item.2, description, none⟩
  | .obj members =>
    (strippedText (JsonObject.get? members "description")).map fun description =>
      ⟨(strippedText (JsonObject.get? members "objective_id")).getD ("objective-" ++ toString item.2),
        description, strippedText (JsonObject.get? members "bloom_level")⟩
  | _ => none

def objectives (lessonPlan : JsonObject) : List Objective :=
  match lessonPlan.get? "learning_objectives" with
  | some (.arr items) => (items.zipIdx 1).filterMap objective
  | _ => []

def defaultObjective : Objective :=
  ⟨"objective-1", "Demonstrate the approved learning objective.", none⟩

/-- `_objective_records`, of which there is at least one. -/
def objectiveRecords (lessonPlan : JsonObject) : Objective × List Objective :=
  match objectives lessonPlan with
  | [] => (defaultObjective, [])
  | first :: rest => (first, rest)

def objectiveList (lessonPlan : JsonObject) : List Objective :=
  (objectiveRecords lessonPlan).1 :: (objectiveRecords lessonPlan).2

def objectiveLineage (lessonPlan : JsonObject) (contentBrief : ContentBrief) : List Json :=
  (objectiveList lessonPlan).map fun record =>
    .obj [("objective_id", .str record.objectiveId), ("description", .str record.description),
      ("content_brief_id", .str contentBrief.contentBriefId)]

def LessonPhasePlan.teacherActions (phase : LessonPhasePlan) : List String :=
  phase.firstAction :: phase.otherActions

/-- What a phase says about its section. -/
def LessonPhasePlan.members (phase : LessonPhasePlan) : JsonObject :=
  [("objective_ids", texts phase.objectiveIds), ("timebox_minutes", .int phase.timeboxMinutes),
    ("teacher_actions", texts phase.teacherActions),
    ("student_actions", texts phase.studentActions), ("materials", texts phase.materials),
    ("checks_for_understanding", texts phase.checksForUnderstanding),
    ("anticipated_responses", texts phase.anticipatedResponses),
    ("misconception_responses", texts phase.misconceptionResponses),
    ("differentiation", texts phase.differentiation), ("transition", .str phase.transition),
    ("closure", .str phase.closure)]

/-- `plan.model_dump(mode="json")`. -/
def InstructionalDesignPlan.modelDump (plan : InstructionalDesignPlan) : Json :=
  .obj [("plan_version", .str plan.planVersion), ("objective_ids", texts plan.objectiveIds),
    ("phases", .arr (plan.phases.map fun phase =>
      .obj ([("phase_id", .str phase.phaseId), ("title", .str phase.title)] ++ phase.members))),
    ("allocated_minutes", .int plan.allocatedMinutes),
    ("transition_reserve_minutes", .int plan.transitionReserveMinutes),
    ("contingency_minutes", .int plan.contingencyMinutes)]

section Services

variable (services : Services)

/-- Whether `str(section.get("id"))` is the id of the phase. -/
def isPhaseSection (phase : LessonPhasePlan) : Json → Bool
  | .obj part => services.str ((JsonObject.get? part "id").getD .null) = phase.phaseId
  | _ => false

def withPhase (phase : LessonPhasePlan) : Json → Json
  | .obj part => .obj (withMembers part phase.members)
  | part => part

/-- The section of a phase is the last one with its id, or a new one.  New
sections, the second list, are not looked up. -/
def placePhase (sections : List Json × List Json) (phase : LessonPhasePlan) :
    List Json × List Json :=
  match sections.1.reverse.findIdx? (isPhaseSection services phase) with
  | some index => ((sections.1.reverse.modify index (withPhase phase)).reverse, sections.2)
  | none =>
    (sections.1, sections.2 ++ [withPhase phase (.obj [("id", .str phase.phaseId),
      ("title", .str phase.title), ("content", .str phase.firstAction)])])

def deepenLesson (artifact lessonPlan : JsonObject) : Except RaisedValueError JsonObject := do
  let plan ← services.buildInstructionalDesignPlan lessonPlan
  let planned := withMetadata artifact [("instructional_design_plan", plan.modelDump)]
  match sectionsOf planned with
  | none => return planned
  | some sections =>
    let placed := plan.phases.foldl (placePhase services) (sections, [])
    return planned.set "sections" (.arr (placed.1 ++ placed.2))

end Services

/-! ## Blueprints -/

inductive PracticeStage where
  | workedExample
  | guided
  | independent
  | retrieval
  | interleaved
  | transfer
  deriving DecidableEq

namespace PracticeStage

def text : PracticeStage → String
  | workedExample => "worked_example"
  | guided => "guided"
  | independent => "independent"
  | retrieval => "retrieval"
  | interleaved => "interleaved"
  | transfer => "transfer"

def all : List PracticeStage :=
  [workedExample, guided, independent, retrieval, interleaved, transfer]

/-- `_practice_stages`, at one index. -/
def ofIndex : Nat → PracticeStage
  | 0 => workedExample
  | 1 => guided
  | 2 => independent
  | 3 => retrieval
  | 4 => interleaved
  | _ => transfer

/-- What `_practice_cards` asks for in a stage. -/
def prompt : PracticeStage → String
  | workedExample => "Study the worked reasoning, then identify the decisive step"
  | guided => "Complete the next step using the provided scaffold"
  | independent => "Solve independently and justify the choice"
  | retrieval => "Recall the idea without looking back at the example"
  | interleaved => "Choose when this idea applies among mixed cases"
  | transfer => "Apply the idea in a new context and explain what stays invariant"

end PracticeStage

inductive Difficulty where
  | foundational
  | developing
  | secure
  | transfer
  deriving DecidableEq

namespace Difficulty

def text : Difficulty → String
  | foundational => "foundational"
  | developing => "developing"
  | secure => "secure"
  | transfer => "transfer"

/-- `_demand_for_difficulty`. -/
def demand : Difficulty → String
  | foundational => "understand"
  | developing => "apply"
  | secure => "analyze"
  | transfer => "evaluate"

/-- `_difficulty`; `0.25` and `0.6` as fractions. -/
def ofIndex (index count : Nat) : Option PracticeStage → Difficulty
  | some .workedExample => foundational
  | some .guided => developing
  | stage =>
    if stage = some .transfer ∨ index + 1 = count then transfer
    else if stage = some .retrieval ∨ stage = some .interleaved then secure
    else if 4 * (index + 1) ≤ count then foundational
    else if 5 * (index + 1) ≤ 3 * count then developing
    else secure

end Difficulty

inductive VerificationMethod where
  | solver
  | declaredAnswer
  | rubric
  | teacherReview
  deriving DecidableEq

def VerificationMethod.text : VerificationMethod → String
  | solver => "solver"
  | declaredAnswer => "declared_answer"
  | rubric => "rubric"
  | teacherReview => "teacher_review"

structure AssessmentItemBlueprint where
  itemId : String
  objectiveId : String
  knowledgeComponentId : String
  cognitiveDemand : String
  difficulty : Difficulty
  misconceptionTargetId : String
  evidenceStatementId : String
  responseType : String
  scoringMethod : String
  verificationMethod : VerificationMethod
  practiceStage : Option PracticeStage

theorem enum_encode_ne_null {α : Type} {values : List α} {name : α → String} (value : α) :
    (Codec.enum values name).encode value ≠ .null :=
  nofun

def assessmentItemBlueprint : Codec AssessmentItemBlueprint :=
  .strictModel <|
    ((Fields.required "item_id" (boundedText 120)).and <|
      (Fields.required "objective_id" (boundedText 120)).and <|
      (Fields.required "knowledge_component_id" (boundedText 120)).and <|
      (Fields.required "cognitive_demand" (boundedText 80)).and <|
      (Fields.required "difficulty" (.enum [.foundational, .developing, .secure, .transfer]
        Difficulty.text)).and <|
      (Fields.required "misconception_target_id" (boundedText 160)).and <|
      (Fields.required "evidence_statement_id" (boundedText 160)).and <|
      (Fields.required "response_type" (boundedText 80)).and <|
      (Fields.required "scoring_method" (boundedText 80)).and <|
      (Fields.required "verification_method" (.enum [.solver, .declaredAnswer, .rubric,
        .teacherReview] VerificationMethod.text)).and <|
      Fields.optional "practice_stage"
        (.nullable (.enum PracticeStage.all PracticeStage.text) enum_encode_ne_null) none
        Codec.nullable_valid_none).imap
    (fun (itemId, objectiveId, knowledgeComponentId, cognitiveDemand, difficulty,
        misconceptionTargetId, evidenceStatementId, responseType, scoringMethod,
        verificationMethod, practiceStage) =>
      ⟨itemId, objectiveId, knowledgeComponentId, cognitiveDemand, difficulty,
        misconceptionTargetId, evidenceStatementId, responseType, scoringMethod,
        verificationMethod, practiceStage⟩)
    (fun blueprint => (blueprint.itemId, blueprint.objectiveId, blueprint.knowledgeComponentId,
      blueprint.cognitiveDemand, blueprint.difficulty, blueprint.misconceptionTargetId,
      blueprint.evidenceStatementId, blueprint.responseType, blueprint.scoringMethod,
      blueprint.verificationMethod, blueprint.practiceStage))
    (fun _ => rfl) (fun _ => rfl)

def itemBlueprint (record : Objective) (index count : Nat) (responseType : String)
    (method : VerificationMethod) (practice : Bool) : AssessmentItemBlueprint :=
  let stage := if practice then some (PracticeStage.ofIndex index) else none
  let difficulty := Difficulty.ofIndex index count stage
  { itemId := responseType ++ "-" ++ record.objectiveId ++ "-" ++ toString (index + 1)
    objectiveId := record.objectiveId
    knowledgeComponentId := "kc:" ++ record.objectiveId
    cognitiveDemand := record.bloomLevel.getD difficulty.demand
    difficulty := difficulty
    misconceptionTargetId := "misconception:" ++ record.objectiveId ++ ":common"
    evidenceStatementId := "evidence:" ++ record.objectiveId ++ ":" ++ toString (index + 1)
    responseType := responseType
    scoringMethod :=
      if method = .solver ∨ method = .declaredAnswer then "deterministic" else "analytic_rubric"
    verificationMethod := method
    practiceStage := stage }

section Services

variable (services : Services)

/-- The method of a response type and a subject. -/
def verificationMethod (lessonPlan : JsonObject) (responseType : String) : VerificationMethod :=
  let subject := (services.fold (services.textOr lessonPlan "subject" "general")).map fun c =>
    if c = ' ' then '_' else c
  if responseType ∈ ["essay", "constructed_response", "short_answer"] then .rubric
  else if subject ∈ ["math", "science"] then .solver
  else if subject ∈ ["language_and_literacy", "humanities_and_social_studies"] then .declaredAnswer
  else .teacherReview

def buildItemBlueprints (lessonPlan : JsonObject) (count : Nat) (responseType : String)
    (practice : Bool) : Except GenerationError (List AssessmentItemBlueprint) :=
  match objectives lessonPlan with
  | [] => .error (.value (valueError "assessment blueprints require approved objectives"))
  | first :: rest =>
    let method := verificationMethod services lessonPlan responseType
    (List.range count).mapM fun index =>
      let record := (first :: rest).getD (index % (rest.length + 1)) first
      services.validate assessmentItemBlueprint
        (assessmentItemBlueprint.encode (itemBlueprint record index count responseType method practice))

/-! ## Question cards -/

/-- `_question_cards`. -/
def questionCardsOf (artifact : JsonObject) : List JsonObject :=
  sectionCards ((sectionsOf artifact).getD [])

/-- The name of the class of a value that has no hash. -/
def unhashableClass : Json → Option String
  | .arr _ => some "list"
  | .obj _ => some "dict"
  | _ => none

def unhashable (className : String) : GenerationError :=
  .other "TypeError" ("unhashable type: '" ++ className ++ "'")

/-- `answer in options`. -/
def isOptionOf (options : JsonObject) (answer : Json) : Except GenerationError Bool :=
  match unhashableClass answer, answer with
  | some className, _ => .error (unhashable className)
  | none, .str text => .ok (options.get? text).isSome
  | none, _ => .ok false

/-- The texts of the options that are not blank. -/
def filledOptions (options : JsonObject) : List String :=
  (options.map fun option => strip (services.str option.2)).filter fun text => text ≠ ""

/-- Whether a card asks for one of at least two options. -/
def isSelectedResponse (card : JsonObject) : Except GenerationError Bool :=
  match card.get? "options" with
  | some (.obj options) => do
    let isOption ← isOptionOf options ((card.get? "answer").getD .null)
    return isOption && 2 ≤ (filledOptions services options).length
  | _ => .ok false

/-- Whether all cards do: later cards are not looked at once one does not. -/
def allSelectedResponse : List JsonObject → Except GenerationError Bool
  | [] => .ok true
  | card :: rest => do
    if ← isSelectedResponse services card then allSelectedResponse rest else return false

def assessmentVerificationError (blueprint : AssessmentItemBlueprint) (message : String) :
    GenerationError :=
  .value ⟨"AssessmentVerificationError", blueprint.itemId ++ ": " ++ message⟩

/-- The options of `validate_question_card`. -/
def validateOptions (options : JsonObject) (answer : Json) (blueprint : AssessmentItemBlueprint) :
    Except GenerationError Unit := do
  let normalized := (filledOptions services options).map services.fold
  if ¬ normalized.Nodup then
    throw (assessmentVerificationError blueprint "duplicate option or distractor collision")
  if ← isOptionOf options answer then
    let correct := match answer with
      | .str text => services.fold (services.str ((options.get? text).getD .null))
      | _ => ""
    if normalized.count correct ≠ 1 then
      throw (assessmentVerificationError blueprint "multiple equivalent correct options")
  else
    throw (assessmentVerificationError blueprint "declared answer is not an option id")

def validateQuestionCard (question : JsonObject) (blueprint : AssessmentItemBlueprint) :
    Except GenerationError Unit := do
  if blueprint.responseType = "selected_response" then
    match question.get? "options" with
    | some (.obj options) =>
      validateOptions services options ((question.get? "answer").getD .null) blueprint
    | _ => pure ()
  if blueprint.verificationMethod = .solver ∧
      ¬ services.truthy ((question.get? "verification").getD .null) then
    throw (assessmentVerificationError blueprint "solver-supported item has no solver trace")

/-- What a blueprint says about its card. -/
def blueprintMembers (card : JsonObject) (blueprint : AssessmentItemBlueprint) :
    List (String × Json) :=
  [("blueprint_id", .str blueprint.itemId), ("objective_id", .str blueprint.objectiveId),
    ("knowledge_component_id", .str blueprint.knowledgeComponentId),
    ("cognitive_demand", .str blueprint.cognitiveDemand),
    ("difficulty", .str blueprint.difficulty.text),
    ("misconception_target_id",
      .str (services.textOr card "misconception_id" blueprint.misconceptionTargetId)),
    ("evidence_statement_id", .str blueprint.evidenceStatementId),
    ("verification_method", .str blueprint.verificationMethod.text)] ++
  (blueprint.practiceStage.map fun stage => ("practice_stage", Json.str stage.text)).toList ++
  if blueprint.verificationMethod = .solver then
    [("verification", .obj [("method", .str "deterministic_solver"),
      ("trace", .str (services.textOr card "explain" "solver-generated subject capability item"))])]
  else []

def deepenCard (card : JsonObject) (blueprint : AssessmentItemBlueprint) :
    Except GenerationError JsonObject := do
  let deepened := withMembers card (blueprintMembers services card blueprint)
  validateQuestionCard services deepened blueprint
  return deepened

/-! ## Assessments -/

def practiceCards (lessonPlan : JsonObject) : List JsonObject :=
  let records := objectiveRecords lessonPlan
  PracticeStage.all.zipIdx.map fun (stage, index) =>
    let record := (objectiveList lessonPlan).getD (index % (records.2.length + 1)) records.1
    [("type", .str "question_card"),
      ("id", .str ("practice-" ++ stage.text ++ "-" ++ toString (index + 1))),
      ("text", .str (stage.prompt ++ ": " ++ record.description)),
      ("options", .obj [("A", .str "Write or select the response supported by the lesson evidence."),
        ("B", .str ""), ("C", .str ""), ("D", .str "")]),
      ("answer", .str record.description),
      ("explain", .str "Teacher reference only; the student projection removes this field."),
      ("objective_id", .str record.objectiveId)]

def replaceQuestionCards (artifact : JsonObject) (cards : List JsonObject) : JsonObject :=
  match sectionsOf artifact with
  | some (.obj first :: rest) =>
    artifact.set "sections" (.arr (.obj (withMembers first
      [("components", .arr (cards.map .obj)), ("title", .str "Practice progression")]) :: rest))
  | _ =>
    artifact.set "sections" (.arr [.obj [("id", .str "practice"),
      ("title", .str "Practice progression"), ("components", .arr (cards.map .obj))]])

/-- Put cards in the places of the question cards among components, in turn. -/
def placeInComponents : List Json → List JsonObject → List Json × List JsonObject
  | [], cards => ([], cards)
  | .obj members :: rest, card :: others =>
    if isQuestionCard members then
      let placed := placeInComponents rest others
      (.obj card :: placed.1, placed.2)
    else
      let placed := placeInComponents rest (card :: others)
      (.obj members :: placed.1, placed.2)
  | component :: rest, cards =>
    let placed := placeInComponents rest cards
    (component :: placed.1, placed.2)

def placeInSections : List Json → List JsonObject → List Json
  | [], _ => []
  | .obj part :: rest, cards =>
    match JsonObject.get? part "components" with
    | some (.arr components) =>
      let placed := placeInComponents components cards
      .obj (JsonObject.set part "components" (.arr placed.1)) :: placeInSections rest placed.2
    | _ => .obj part :: placeInSections rest cards
  | part :: rest, cards => part :: placeInSections rest cards

/-- Whether the cards of a practice are too few and are replaced. -/
def replacesCards (artifact : JsonObject) (practice : Bool) : Bool :=
  practice && (questionCardsOf artifact).length < 6

def cardsToDeepen (artifact lessonPlan : JsonObject) (practice : Bool) : List JsonObject :=
  if replacesCards artifact practice then practiceCards lessonPlan else questionCardsOf artifact

def countMethod (blueprints : List AssessmentItemBlueprint) (method : VerificationMethod) : Json :=
  .int (blueprints.countP fun blueprint => blueprint.verificationMethod = method)

def assessmentMetadata (blueprints : List AssessmentItemBlueprint) (practice : Bool) :
    List (String × Json) :=
  [("item_blueprints", .arr (blueprints.map assessmentItemBlueprint.encode))] ++
  (if practice then
    [("practice_progression",
      texts (blueprints.filterMap fun blueprint => blueprint.practiceStage.map PracticeStage.text))]
  else []) ++
  [("verification_summary", .obj [("solver", countMethod blueprints .solver),
    ("declared_answer", countMethod blueprints .declaredAnswer),
    ("rubric", countMethod blueprints .rubric),
    ("teacher_review", countMethod blueprints .teacherReview)])]

def deepenAssessment (artifact lessonPlan : JsonObject) (practice : Bool) :
    Except GenerationError JsonObject :=
  match cardsToDeepen artifact lessonPlan practice with
  | [] => .ok artifact
  | first :: rest => do
    let cards := first :: rest
    let selected ← allSelectedResponse services cards
    let responseType := if selected then "selected_response" else "constructed_response"
    let blueprints ← buildItemBlueprints services lessonPlan cards.length responseType practice
    let deepened ← (cards.zip blueprints).mapM fun (card, blueprint) =>
      deepenCard services card blueprint
    let placed :=
      if replacesCards artifact practice then replaceQuestionCards artifact deepened
      else artifact.set "sections" (.arr (placeInSections ((sectionsOf artifact).getD []) deepened))
    return withMetadata placed (assessmentMetadata blueprints practice)

end Services

end OhMyClass.Generation
