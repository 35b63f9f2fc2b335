import OhMyClass.Contracts.SlideDeck

/-!
# Artifacts

The documents of teaching artifacts, the components of their contents, and the
answers to assessments.
-/

namespace OhMyClass.Contracts

/-!
## Canonical artifact documents

One immutable version of a teaching artifact.  Its constructor checks the
ranges of its fields, the payload against the artifact type, and that student
documents carry no answers.
-/

section

inductive ArtifactDocumentType where
  | lesson
  | worksheet
  | quiz
  | drill
  | recap
  | infographic
  | answerKey
  | roadmap
  | flashcardDeck
  | slideDeck
  | exitTicket
  | readingPassage
  deriving DecidableEq

inductive DocumentAudience where
  | student
  | teacher
  | print
  deriving DecidableEq

inductive DocumentAuthority where
  | generated
  | teacherEdit
  | aiAssistedEdit
  | restored
  | translated
  | variantGenerated
  deriving DecidableEq

inductive DocumentLanguage where
  | en
  | vi
  deriving DecidableEq

inductive PayloadKind where
  | blockDocument
  | assessmentDocument
  | richDocument
  | slideDeckDocument
  deriving DecidableEq

namespace ArtifactDocumentType

def text : ArtifactDocumentType → String
  | lesson => "lesson"
  | worksheet => "worksheet"
  | quiz => "quiz"
  | drill => "drill"
  | recap => "recap"
  | infographic => "infographic"
  | answerKey => "answer_key"
  | roadmap => "roadmap"
  | flashcardDeck => "flashcard_deck"
  | slideDeck => "slide_deck"
  | exitTicket => "exit_ticket"
  | readingPassage => "reading_passage"

/-- The types whose payload is an assessment. -/
def isAssessment : ArtifactDocumentType → Bool
  | quiz | drill | exitTicket => true
  | _ => false

end ArtifactDocumentType

def DocumentLanguage.text : DocumentLanguage → String
  | en => "en"
  | vi => "vi"

/-- A typed payload; its members as they are dumped. -/
structure ArtifactPayload where
  payloadKind : PayloadKind
  members : JsonObject

def teacherOnlyKeys : List String :=
  ["answer", "answer_set", "accepted_answers", "correct_option_ids", "explain", "rationale",
    "wrong_reasons", "rubric_solution"]

mutual

def hasTeacherOnlyValue : Json → Bool
  | .arr items => hasTeacherOnlyItem items
  | .obj members => hasTeacherOnlyMember members
  | _ => false

def hasTeacherOnlyItem : List Json → Bool
  | [] => false
  | item :: rest => hasTeacherOnlyValue item || hasTeacherOnlyItem rest

def hasTeacherOnlyMember : List (String × Json) → Bool
  | [] => false
  | member :: rest =>
    member.1 ∈ teacherOnlyKeys || hasTeacherOnlyValue member.2 || hasTeacherOnlyMember rest

end

structure ArtifactDocument where
  documentId : String
  artifactId : String
  artifactType : ArtifactDocumentType
  version : Int
  language : DocumentLanguage
  audience : DocumentAudience
  authority : DocumentAuthority
  payload : ArtifactPayload
  parentDocumentId : Option String
  sourceDocumentId : Option String

/-- Why the constructor raises: the fields out of range, or the error of the
model validator. -/
inductive DocumentError where
  | fields (names : List String)
  | custom (code message : String)

namespace ArtifactDocument

/-- `Field(min_length=1, max_length=80)`. -/
def isIdText (text : String) : Bool :=
  1 ≤ text.length && text.length ≤ 80

def fieldErrors (document : ArtifactDocument) : List String :=
  [("document_id", isIdText document.documentId), ("artifact_id", isIdText document.artifactId),
    ("version", decide (1 ≤ document.version)),
    ("parent_document_id", document.parentDocumentId.all isIdText),
    ("source_document_id", document.sourceDocumentId.all isIdText)].filterMap
    fun check => if check.2 then none else some check.1

/-- `_payload_matches_artifact_type`.  None of the document's own keys is
reserved for teachers, so that the payload's members decide. -/
def payloadMatchesArtifactType (document : ArtifactDocument) : Except DocumentError Unit :=
  let kind := document.payload.payloadKind
  if document.artifactType.isAssessment ∧ kind ≠ .assessmentDocument then
    .error (.custom "artifact_payload_mismatch"
      (document.artifactType.text ++ " requires an assessment_document payload"))
  else if document.artifactType = .slideDeck ∧ kind ≠ .slideDeckDocument then
    .error (.custom "artifact_payload_mismatch"
      "slide_deck requires a slide_deck_document payload")
  else if ¬ document.artifactType.isAssessment ∧ document.artifactType ≠ .slideDeck ∧
      kind ≠ .blockDocument ∧ kind ≠ .richDocument then
    .error (.custom "artifact_payload_mismatch"
      (document.artifactType.text ++ " requires a block_document or rich_document payload"))
  else if document.audience = .student ∧ hasTeacherOnlyMember document.payload.members then
    .error (.custom "student_answer_leakage"
      "student ArtifactDocument payloads must not contain teacher-only answer material")
  else
    .ok ()

def validate (document : ArtifactDocument) : Except DocumentError Unit :=
  if document.fieldErrors = [] then document.payloadMatchesArtifactType
  else .error (.fields document.fieldErrors)

end ArtifactDocument

end

/-!
## Content components

Which values the discriminated union of component variants accepts.  Accepted
values are kept as they were given, so that only acceptance is modelled.
-/

section

/-! ## Checks of values -/

abbrev Check := Json → Bool

namespace Check

def isText : Check
  | .str _ => true
  | _ => false

def isOneOf (texts : List String) : Check
  | .str text => texts.contains text
  | _ => false

def orNull (check : Check) : Check
  | .null => true
  | json => check json

def isListOf (check : Check) : Check
  | .arr items => items.all check
  | _ => false

/-- `dict[str, str]`. -/
def isTextDict : Check
  | .obj members => members.all fun member => isText member.2
  | _ => false

/-- A field with a default may be missing. -/
structure Field where
  name : String
  check : Check
  hasDefault : Bool := false

def Field.accepts (members : JsonObject) (field : Field) : Bool :=
  match members.get? field.name with
  | some json => field.check json
  | none => field.hasDefault

def isModel (fields : List Field) : Check
  | .obj members => fields.all (Field.accepts members)
  | _ => false

/-- `str`. -/
def text (name : String) : Field :=
  ⟨name, isText, false⟩

/-- `str | None = None`. -/
def optionalText (name : String) : Field :=
  ⟨name, orNull isText, true⟩

def defaultText (name : String) : Field :=
  ⟨name, isText, true⟩

/-- `list[Model]`. -/
def models (name : String) (fields : List Field) : Field :=
  ⟨name, isListOf (isModel fields), false⟩

/-- `list[Model]` with a default. -/
def optionalModels (name : String) (fields : List Field) : Field :=
  ⟨name, isListOf (isModel fields), true⟩

end Check

open Check

/-! ## The variants -/

namespace Components

variable (coercions : Coercions)

def heading : List Field :=
  [⟨"level", (fun | .int level => [1, 2, 3, 4].contains level | _ => false), false⟩,
    text "text", optionalText "id"]

def paragraph : List Field :=
  [text "text"]

def callout : List Field :=
  [⟨"variant", isOneOf ["note", "warning", "tip", "alert"], false⟩, optionalText "title",
    text "body"]

/-- `ordered_list` and `unordered_list`. -/
def itemList : List Field :=
  [⟨"items", isListOf isText, false⟩]

def table : List Field :=
  [⟨"columns", isListOf isText, false⟩, ⟨"rows", isListOf (isListOf isText), false⟩,
    optionalText "caption"]

def statGrid : List Field :=
  [models "stats" [text "label", text "value",
    ⟨"variant", isOneOf ["target", "now", "default"], true⟩]]

def patternGrid : List Field :=
  [models "patterns" [text "id", text "group", text "title", text "description"]]

def traitGrid : List Field :=
  [models "traits" [text "icon", text "title", text "body"]]

def taxonomyGrid : List Field :=
  [models "items" [text "icon", text "title", text "body", text "example"]]

def phaseBlock : List Field :=
  [text "label", ⟨"items", orNull (isListOf isText), true⟩, optionalText "text",
    ⟨"full", (fun json => (coercions.bool json).isSome), true⟩]

def roadmapPhase : List Field :=
  [text "title", text "when", optionalText "goal", optionalModels "blocks" (phaseBlock coercions),
    optionalText "output", defaultText "group"]

def phaseTimeline : List Field :=
  [models "phases" (roadmapPhase coercions)]

def flowStep : List Field :=
  [models "steps" [text "time", text "title", text "body"]]

/-- `int | str`. -/
def isIntOrText : Check
  | .str _ => true
  | json => (coercions.int json).isSome

def questionCard : List Field :=
  [⟨"id", isIntOrText coercions, false⟩, text "text", ⟨"options", isTextDict, false⟩,
    optionalText "answer", optionalText "explain", defaultText "group",
    ⟨"wrong_reasons", orNull isTextDict, true⟩, optionalText "essence", optionalText "tip",
    ⟨"kc_ids", isListOf isText, true⟩, optionalText "blueprint_id", optionalText "objective_id",
    optionalText "knowledge_component_id", optionalText "cognitive_demand",
    optionalText "difficulty", optionalText "misconception_target_id",
    optionalText "evidence_statement_id", optionalText "verification_method",
    ⟨"verification", orNull isTextDict, true⟩, optionalText "practice_stage"]

def questionList : List Field :=
  [models "questions" (⟨"type", isOneOf ["question_card"], true⟩ :: questionCard coercions),
    text "section_key", text "group", text "title", optionalText "sub",
    optionalText "instruction", optionalText "summary", optionalText "range"]

def conceptMap : List Field :=
  [models "nodes" [text "id", text "label"],
    optionalModels "edges" [text "source", text "target",
      ⟨"relation", isOneOf ["synonymy", "contrast", "collocation", "register", "part_of",
        "example_of"], false⟩, optionalText "label"]]

def timeline : List Field :=
  [models "events" [text "time", text "label"]]

def vocabCluster : List Field :=
  [text "title", optionalText "description",
    optionalModels "items" [text "word", text "definition", optionalText "example"],
    optionalText "discrimination_prompt"]

def contrastivePairs : List Field :=
  [optionalText "title", optionalModels "rows" [text "terms", text "distinction"]]

def phrasalVerbCluster : List Field :=
  [optionalModels "groups" [text "label", ⟨"color", isOneOf ["a", "b", "c", "d", "e"], true⟩,
    optionalModels "items" [text "verb", text "meaning", optionalText "example"]]]

def filmClipActivity : List Field :=
  [optionalModels "clips" [text "title", text "description"],
    ⟨"hunt_chips", isListOf isText, true⟩, optionalText "post_viewing_note"]

def roleplayScript : List Field :=
  [optionalModels "lines" [text "speaker", optionalText "speaker_class", text "text"],
    ⟨"answer_key", isListOf isText, true⟩, optionalText "instruction"]

def activeRecallPrompt : List Field :=
  [text "instruction",
    ⟨"time_minutes", (fun json => (coercions.int json).any fun minutes =>
      1 ≤ minutes && minutes ≤ 30), true⟩, optionalText "scaffold_hint"]

/-- The variants by their `type`. -/
def variants : List (String × List Field) :=
  [("heading", heading), ("paragraph", paragraph), ("callout", callout),
    ("ordered_list", itemList), ("unordered_list", itemList), ("table", table),
    ("stat_grid", statGrid), ("pattern_grid", patternGrid), ("trait_grid", traitGrid),
    ("taxonomy_grid", taxonomyGrid), ("phase_timeline", phaseTimeline coercions),
    ("flow_step", flowStep), ("question_card", questionCard coercions),
    ("question_list", questionList coercions), ("concept_map", conceptMap),
    ("timeline", timeline), ("vocab_cluster", vocabCluster),
    ("contrastive_pairs", contrastivePairs), ("phrasal_verb_cluster", phrasalVerbCluster),
    ("film_clip_activity", filmClipActivity), ("roleplay_script", roleplayScript),
    ("active_recall_prompt", activeRecallPrompt coercions)]

end Components

/-- `ContentComponent`, discriminated on `type`. -/
def contentComponent (coercions : Coercions) (members : JsonObject) : Bool :=
  match members.get? "type" with
  | some (.str type) =>
    match (Components.variants coercions).lookup type with
    | some fields => isModel fields (.obj members)
    | none => false
  | _ => false

end

/-!
## Answer sets

The teacher's answers to the questions of one version of an assessment.
-/

section

structure AnswerEntry where
  entityId : String
  questionId : String
  correctOptionIds : List String
  acceptedAnswers : List String
  rationale : Option String

def answerEntry : Codec AnswerEntry :=
  .model <|
    ((Fields.required "entity_id" (boundedText 80)).and <|
      (Fields.required "question_id" (boundedText 80)).and <|
      (listField "correct_option_ids" (.text 0 none)).and <|
      (listField "accepted_answers" (.text 0 none)).and <|
      Fields.optional "rationale" (.nullable (boundedText 2000)) none
        Codec.nullable_valid_none).imap
    (fun (entityId, questionId, correctOptionIds, acceptedAnswers, rationale) =>
      ⟨entityId, questionId, correctOptionIds, acceptedAnswers, rationale⟩)
    (fun entry => (entry.entityId, entry.questionId, entry.correctOptionIds,
      entry.acceptedAnswers, entry.rationale))
    (fun _ => rfl) (fun _ => rfl)

structure AnswerSet where
  answerSetId : String
  sourceDocumentId : String
  sourceVersion : Int
  authority : {text // text ∈ ["generated", "teacher_edit", "ai_assisted_edit"]}
  entries : List AnswerEntry

def answerSet (coercions : Coercions) : Codec AnswerSet :=
  .model <|
    ((Fields.required "answer_set_id" (boundedText 80)).and <|
      (Fields.required "source_document_id" (boundedText 80)).and <|
      (Fields.required "source_version" (.int coercions (some 1))).and <|
      (Fields.optional "authority" (.literal _) ⟨"generated", List.mem_cons_self⟩
        Codec.literal_valid).and <|
      Fields.required "entries" (.listOf 1 answerEntry)).imap
    (fun (answerSetId, sourceDocumentId, sourceVersion, authority, entries) =>
      ⟨answerSetId, sourceDocumentId, sourceVersion, authority, entries⟩)
    (fun answers => (answers.answerSetId, answers.sourceDocumentId, answers.sourceVersion,
      answers.authority, answers.entries))
    (fun _ => rfl) (fun _ => rfl)

end

end OhMyClass.Contracts
