import OhMyClass.Contracts.Artifacts

/-!
# Documents and contents

The two forms of an artifact between which the projection mapper converts.
-/

namespace OhMyClass.Projection

/-!
## Artifact documents with all their fields

The stored document with its typed payload.  Its constructor takes a payload
instance as it is, while reading validates the payload as well.
-/

section

open OhMyClass.Contracts

variable (coercions : Coercions)

def artifactDocumentType : Codec ArtifactDocumentType :=
  .enum [.lesson, .worksheet, .quiz, .drill, .recap, .infographic, .answerKey, .roadmap,
    .flashcardDeck, .slideDeck, .exitTicket, .readingPassage] ArtifactDocumentType.text

theorem artifactDocumentType_valid (value : ArtifactDocumentType) :
    artifactDocumentType.Valid value := by
  cases value <;> rfl

def audienceText : DocumentAudience → String
  | .student => "student"
  | .teacher => "teacher"
  | .print => "print"

def documentAudience : Codec DocumentAudience :=
  .enum [.student, .teacher, .print] audienceText

def authorityText : DocumentAuthority → String
  | .generated => "generated"
  | .teacherEdit => "teacher_edit"
  | .aiAssistedEdit => "ai_assisted_edit"
  | .restored => "restored"
  | .translated => "translated"
  | .variantGenerated => "variant_generated"

def documentAuthority : Codec DocumentAuthority :=
  .enum [.generated, .teacherEdit, .aiAssistedEdit, .restored, .translated, .variantGenerated]
    authorityText

def documentLanguage : Codec DocumentLanguage :=
  .enum [.en, .vi] DocumentLanguage.text

def payloadKindText : PayloadKind → String
  | .blockDocument => "block_document"
  | .assessmentDocument => "assessment_document"
  | .richDocument => "rich_document"
  | .slideDeckDocument => "slide_deck_document"

def payloadKind : Codec PayloadKind :=
  .enum [.blockDocument, .assessmentDocument, .richDocument, .slideDeckDocument] payloadKindText

/-! ## Payloads -/

inductive BlockKind where
  | heading
  | paragraph
  deriving DecidableEq

def BlockKind.text : BlockKind → String
  | heading => "heading"
  | paragraph => "paragraph"

structure DocumentBlock where
  entityId : String
  blockKind : BlockKind
  text : String
  level : Option {number : Int // number ∈ ([1, 2, 3, 4] : List Int)}

/-- `_validate_shape` of a block. -/
def DocumentBlock.check (block : DocumentBlock) : Except String Unit :=
  match block.blockKind, block.level with
  | .heading, none => .error "heading blocks require level"
  | .paragraph, some _ => .error "paragraph blocks must not set level"
  | _, _ => .ok ()

def documentBlock : Codec DocumentBlock :=
  .checked (.strictModel <|
    ((Fields.required "entity_id" (boundedText 80)).and <|
      (Fields.required "block_kind" (.enum [.heading, .paragraph] BlockKind.text)).and <|
      (Fields.required "text" (boundedText 10000)).and <|
      Fields.optional "level" (.nullable (.intLiteral _)) none Codec.nullable_valid_none).imap
    (fun (entityId, blockKind, text, level) => ⟨entityId, blockKind, text, level⟩)
    (fun block => (block.entityId, block.blockKind, block.text, block.level))
    (fun _ => rfl) (fun _ => rfl)) DocumentBlock.check

structure DocumentSection where
  entityId : String
  title : String
  blocks : List DocumentBlock

def documentSection : Codec DocumentSection :=
  .model <|
    ((Fields.required "entity_id" (boundedText 80)).and <|
      (Fields.required "title" (boundedText 200)).and <|
      Fields.required "blocks" (.listOf 1 documentBlock)).imap
    (fun (entityId, title, blocks) => ⟨entityId, title, blocks⟩)
    (fun part => (part.entityId, part.title, part.blocks))
    (fun _ => rfl) (fun _ => rfl)

structure AssessmentOption where
  entityId : String
  text : String

def assessmentOption : Codec AssessmentOption :=
  .model <|
    ((Fields.required "entity_id" (boundedText 80)).and <|
      Fields.required "text" (boundedText 2000)).imap
    (fun (entityId, text) => ⟨entityId, text⟩)
    (fun option => (option.entityId, option.text))
    (fun _ => rfl) (fun _ => rfl)

structure AssessmentQuestion where
  entityId : String
  prompt : String
  options : List AssessmentOption

def assessmentQuestion : Codec AssessmentQuestion :=
  .model <|
    ((Fields.required "entity_id" (boundedText 80)).and <|
      (Fields.required "prompt" (boundedText 10000)).and <|
      listField "options" assessmentOption).imap
    (fun (entityId, prompt, options) => ⟨entityId, prompt, options⟩)
    (fun question => (question.entityId, question.prompt, question.options))
    (fun _ => rfl) (fun _ => rfl)

structure RichDocumentSection where
  entityId : String
  title : String
  components : List JsonObject

def richDocumentSection : Codec RichDocumentSection :=
  .model <|
    ((Fields.required "entity_id" (boundedText 80)).and <|
      (Fields.required "title" (boundedText 200)).and <|
      Fields.required "components" (.listOf 1 .object)).imap
    (fun (entityId, title, components) => ⟨entityId, title, components⟩)
    (fun part => (part.entityId, part.title, part.components))
    (fun _ => rfl) (fun _ => rfl)

structure ArtifactPayload where
  payloadKind : PayloadKind
  sections : Option (List DocumentSection) := none
  questions : Option (List AssessmentQuestion) := none
  richSections : Option (List RichDocumentSection) := none
  slideDeck : Option SlideDeckData := none

namespace ArtifactPayload

/-- `not items`, where `items` is a list or `None`. -/
def isEmpty {α : Type} : Option (List α) → Bool
  | none | some [] => true
  | some (_ :: _) => false

/-- `_validate_shape` of a payload. -/
def check (payload : ArtifactPayload) : Except String Unit :=
  match payload.payloadKind with
  | .blockDocument =>
    if isEmpty payload.sections ∨ payload.questions.isSome ∨ payload.richSections.isSome ∨
        payload.slideDeck.isSome then
      .error "block_document requires sections and forbids questions"
    else .ok ()
  | .assessmentDocument =>
    if isEmpty payload.questions ∨ payload.sections.isSome ∨ payload.richSections.isSome ∨
        payload.slideDeck.isSome then
      .error "assessment_document requires questions and forbids sections"
    else .ok ()
  | .richDocument =>
    if isEmpty payload.richSections ∨ payload.sections.isSome ∨ payload.questions.isSome ∨
        payload.slideDeck.isSome then
      .error "rich_document requires rich_sections and forbids sections and questions"
    else .ok ()
  | .slideDeckDocument =>
    if payload.slideDeck.isNone ∨ payload.sections.isSome ∨ payload.questions.isSome ∨
        payload.richSections.isSome then
      .error "slide_deck_document requires slide_deck and forbids sections and questions"
    else .ok ()

end ArtifactPayload

def artifactPayload : Codec ArtifactPayload :=
  .checked (.strictModel <|
    ((Fields.required "payload_kind" payloadKind).and <|
      (Fields.optional "sections" (.nullable (.listOf 0 documentSection)) none Codec.nullable_valid_none).and <|
      (Fields.optional "questions" (.nullable (.listOf 0 assessmentQuestion)) none Codec.nullable_valid_none).and <|
      (Fields.optional "rich_sections" (.nullable (.listOf 0 richDocumentSection)) none
        Codec.nullable_valid_none).and <|
      Fields.optional "slide_deck" (.nullable (slideDeckData coercions)) none Codec.nullable_valid_none).imap
    (fun (kind, sections, questions, richSections, slideDeck) =>
      ⟨kind, sections, questions, richSections, slideDeck⟩)
    (fun payload => (payload.payloadKind, payload.sections, payload.questions,
      payload.richSections, payload.slideDeck))
    (fun _ => rfl) (fun _ => rfl)) ArtifactPayload.check

structure ArtifactDocument where
  documentId : String
  artifactId : String
  educationPolicyVersion : {text // text ∈ ["education_policy.v1"]}
  artifactType : ArtifactDocumentType
  version : Int
  language : DocumentLanguage
  audience : DocumentAudience
  authority : DocumentAuthority
  title : String
  theme : String
  metadata : JsonObject
  payload : ArtifactPayload
  parentDocumentId : Option String
  sourceDocumentId : Option String

theorem educationPolicy_listed : "education_policy.v1" ∈ ["education_policy.v1"] :=
  List.mem_cons_self

/-- The fields of a document, with a way to read its payload. -/
def documentFields (payload : Codec ArtifactPayload) : Fields ArtifactDocument :=
  ((Fields.required "document_id" (boundedText 80)).and <|
    (Fields.required "artifact_id" (boundedText 80)).and <|
    (Fields.optional "education_policy_version" (.literal _)
      ⟨"education_policy.v1", educationPolicy_listed⟩ Codec.literal_valid).and <|
    (Fields.required "artifact_type" artifactDocumentType).and <|
    (Fields.required "version" (.int coercions (some 1))).and <|
    (Fields.required "language" documentLanguage).and <|
    (Fields.required "audience" documentAudience).and <|
    (Fields.required "authority" documentAuthority).and <|
    (Fields.optional "title" (.text 3 (some 200)) "Untitled artifact"
      (Codec.text_valid_iff.mpr (by decide))).and <|
    (Fields.optional "theme" (boundedText 80) "default" boundedText_default).and <|
    (Fields.optional "metadata" .object [] Codec.object_valid).and <|
    (Fields.required "payload" payload).and <|
    (Fields.optional "parent_document_id" (.nullable (boundedText 80)) none Codec.nullable_valid_none).and <|
    Fields.optional "source_document_id" (.nullable (boundedText 80)) none Codec.nullable_valid_none).imap
  (fun (documentId, artifactId, educationPolicyVersion, artifactType, version, language, audience,
      authority, title, theme, metadata, payload, parentDocumentId, sourceDocumentId) =>
    ⟨documentId, artifactId, educationPolicyVersion, artifactType, version, language, audience,
      authority, title, theme, metadata, payload, parentDocumentId, sourceDocumentId⟩)
  (fun document => (document.documentId, document.artifactId, document.educationPolicyVersion,
    document.artifactType, document.version, document.language, document.audience,
    document.authority, document.title, document.theme, document.metadata, document.payload,
    document.parentDocumentId, document.sourceDocumentId))
  (fun _ => rfl) (fun _ => rfl)

namespace ArtifactDocument

/-- `model_dump(mode="json")`. -/
def modelDump (document : ArtifactDocument) : JsonObject :=
  (documentFields coercions (artifactPayload coercions)).write document

/-- `_payload_matches_artifact_type`. -/
def check (document : ArtifactDocument) : Except String Unit :=
  let kind := document.payload.payloadKind
  if document.artifactType.isAssessment ∧ kind ≠ .assessmentDocument then
    .error (document.artifactType.text ++ " requires an assessment_document payload")
  else if document.artifactType = .slideDeck ∧ kind ≠ .slideDeckDocument then
    .error "slide_deck requires a slide_deck_document payload"
  else if ¬ document.artifactType.isAssessment ∧ document.artifactType ≠ .slideDeck ∧
      kind ≠ .blockDocument ∧ kind ≠ .richDocument then
    .error (document.artifactType.text ++
      " requires a block_document or rich_document payload")
  else if document.audience = .student ∧ hasTeacherOnlyMember (document.modelDump coercions) then
    .error "student ArtifactDocument payloads must not contain teacher-only answer material"
  else
    .ok ()

end ArtifactDocument

/-- `ArtifactDocument.model_validate` of a stored value. -/
def artifactDocument : Codec ArtifactDocument :=
  .checked (.model (documentFields coercions (artifactPayload coercions)))
    (ArtifactDocument.check coercions)

/-- `ArtifactDocument(...)` with a payload instance, which is not validated
again. -/
def constructDocument (arguments : JsonObject) (payload : ArtifactPayload) :
    Except SchemaError ArtifactDocument :=
  (Codec.checked (.model (documentFields coercions (.given payload)))
    (ArtifactDocument.check coercions)).decode
      (.obj (arguments ++ [("payload", .null)]))

/-! ## Faithful codecs -/

instance : artifactDocumentType.Faithful :=
  Codec.enum_faithful fun first second same => by cases first <;> cases second <;> trivial

instance : documentAudience.Faithful :=
  Codec.enum_faithful fun first second same => by cases first <;> cases second <;> trivial

instance : documentAuthority.Faithful :=
  Codec.enum_faithful fun first second same => by cases first <;> cases second <;> trivial

instance : documentLanguage.Faithful :=
  Codec.enum_faithful fun first second same => by cases first <;> cases second <;> trivial

instance : payloadKind.Faithful :=
  Codec.enum_faithful fun first second same => by cases first <;> cases second <;> trivial

instance : documentBlock.Faithful := by
  have kinds : (Codec.enum [BlockKind.heading, .paragraph] BlockKind.text).Faithful :=
    Codec.enum_faithful fun first second same => by cases first <;> cases second <;> trivial
  unfold documentBlock
  infer_instance

instance : documentSection.Faithful := by
  unfold documentSection
  infer_instance

instance : assessmentOption.Faithful := by
  unfold assessmentOption
  infer_instance

instance : assessmentQuestion.Faithful := by
  unfold assessmentQuestion
  infer_instance

instance : richDocumentSection.Faithful := by
  unfold richDocumentSection
  infer_instance

instance : (artifactPayload coercions).Faithful := by
  unfold artifactPayload
  infer_instance

instance : (artifactDocument coercions).Faithful := by
  unfold artifactDocument documentFields
  infer_instance

end

/-!
## Artifact contents

The content of one artifact as it is generated and rendered.
-/

section

open OhMyClass.Contracts

variable (coercions : Coercions)

structure ArtifactContent where
  artifactType : ArtifactDocumentType
  theme : String
  title : String
  sections : List JsonObject
  metadata : JsonObject
  accessibility : JsonObject

def contentFields : Fields ArtifactContent :=
  ((Fields.required "artifact_type" artifactDocumentType).and <|
    (Fields.optional "theme" (.text 0 none) "default" Codec.text_valid_of_unbounded).and <|
    (Fields.required "title" (.text 3 (some 200))).and <|
    (Fields.required "sections" (.listOf 1 .object)).and <|
    (Fields.optional "metadata" .object [] Codec.object_valid).and <|
    Fields.optional "accessibility" .object [] Codec.object_valid).imap
  (fun (artifactType, theme, title, sections, metadata, accessibility) =>
    ⟨artifactType, theme, title, sections, metadata, accessibility⟩)
  (fun content => (content.artifactType, content.theme, content.title, content.sections,
    content.metadata, content.accessibility))
  (fun _ => rfl) (fun _ => rfl)

/-- `section.get("components")`, if it is a list. -/
def sectionComponents (part : JsonObject) : List Json :=
  match part.get? "components" with
  | some (.arr components) => components
  | _ => []

/-- Typed components are validated; other entries are kept. -/
def acceptsEntry : Json → Bool
  | .obj members =>
    (JsonObject.get? members "type").isNone || contentComponent coercions members
  | _ => true

/-- `_validate_components`. -/
def ArtifactContent.check (content : ArtifactContent) : Except String Unit :=
  if content.sections.all fun part => (sectionComponents part).all (acceptsEntry coercions) then
    .ok ()
  else
    .error "invalid component"

def artifactContent : Codec ArtifactContent :=
  .checked (.model contentFields) (ArtifactContent.check coercions)

end

end OhMyClass.Projection
