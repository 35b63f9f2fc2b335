import OhMyClass.Projection.Document
import OhMyClass.Python.Text

/-!
# The projection mapper

`artifact_document_from_content` and `artifact_content_from_document`.  Student
documents lose their answers: typed decks lose the teacher objects, all other
contents the keys that hold answers.
-/

namespace OhMyClass.Projection

section

open OhMyClass.Contracts

inductive ProjectionError where
  | validation (error : SchemaError)
  | conversion (message : String)

variable (coercions : Coercions) (printable : Char → Bool)

/-- A model that does not validate. -/
def validated {α : Type} (result : Except SchemaError α) : Except ProjectionError α :=
  result.mapError .validation

def forbiddenKeys : List String :=
  ["answer", "answer_set", "accepted_answers", "correct_option_ids", "explain", "rationale",
    "wrong_reasons"]

mutual

def studentValue : Json → Json
  | .arr items => .arr (studentItems items)
  | .obj members => .obj (studentMembers members)
  | value => value

def studentItems : List Json → List Json
  | [] => []
  | item :: rest => studentValue item :: studentItems rest

def studentMembers : List (String × Json) → List (String × Json)
  | [] => []
  | member :: rest =>
    if member.1 ∈ forbiddenKeys then studentMembers rest
    else (member.1, studentValue member.2) :: studentMembers rest

end

def studentContent (content : ArtifactContent) : Except ProjectionError ArtifactContent :=
  validated <| (artifactContent coercions).decode <| (artifactContent coercions).encode
    { content with
      metadata := studentMembers content.metadata
      sections := content.sections.map studentMembers }

def studentSafeSlideDeck (deck : SlideDeckData) : SlideDeckData :=
  { deck with
    slides := deck.slides.map fun slide =>
      { slide with
        teacherNotes := none
        interactions := slide.interactions.map fun interaction =>
          { interaction with teacherOnly := none } } }

/-! ## Payloads -/

/-- Whether `component.get("type") == "question_card"`. -/
def isQuestionCard (component : JsonObject) : Bool :=
  match component.get? "type" with
  | some (.str type) => type = "question_card"
  | _ => false

/-- The question cards among the components of a section. -/
def questionCards (part : JsonObject) : List JsonObject :=
  (sectionComponents part).filterMap fun component =>
    match component with
    | .obj members => if isQuestionCard members then some members else none
    | _ => none

def filledText : Option Json → Option String
  | some (.str text) => if text = "" then none else some text
  | _ => none

/-- Check the options in turn and build them. -/
def questionOptions : JsonObject → Except ProjectionError (List AssessmentOption)
  | [] => .ok []
  | (optionId, text) :: rest => do
    let option ← validated (assessmentOption.decode
      (.obj [("entity_id", .str optionId), ("text", text)]))
    let options ← questionOptions rest
    return option :: options

def questionFromCard (component : JsonObject) : Except ProjectionError AssessmentQuestion :=
  match filledText (component.get? "id"), filledText (component.get? "text") with
  | some questionId, some prompt =>
    match component.get? "options" with
    | some (.obj options) =>
      if options.all fun option => option.1 ≠ "" && (filledText (some option.2)).isSome then do
        let built ← questionOptions options
        validated <| assessmentQuestion.decode <|
          .obj [("entity_id", .str questionId), ("prompt", .str prompt),
            ("options", .arr (built.map assessmentOption.encode))]
      else
        .error (.conversion "question_card requires string option identifiers and text")
    | _ => .error (.conversion "question_card requires string option identifiers and text")
  | _, _ => .error (.conversion "question_card requires a non-empty id and text")

/-- A payload built of instances: only its shape is checked. -/
def constructPayload (payload : ArtifactPayload) : Except ProjectionError ArtifactPayload :=
  match payload.check with
  | .error message => .error (.validation (.custom message))
  | .ok () => .ok payload

def assessmentPayload (content : ArtifactContent) : Except ProjectionError ArtifactPayload := do
  match ← (content.sections.flatMap questionCards).mapM questionFromCard with
  | [] => .error (.conversion "assessment requires answer-bearing question_card components")
  | questions => constructPayload { payloadKind := .assessmentDocument, questions := some questions }

/-- The components of a section, or its content as one paragraph. -/
def mappableComponents (index : Nat) (part : JsonObject) : Except ProjectionError (List Json) :=
  match sectionComponents part with
  | component :: rest => .ok (component :: rest)
  | [] =>
    match filledText (part.get? "content") with
    | some text => .ok [.obj [("type", .str "paragraph"), ("text", .str text)]]
    | none => .error (.conversion
      ("section " ++ toString index ++ " has no mappable student-safe content"))

/-- `str(section.get("id") or f"section-{index}")`. -/
def sectionId (index : Nat) (part : JsonObject) : String :=
  match part.get? "id" with
  | some value =>
    if Python.truthy (fun number => coercions.number number = 0) value then
      Python.str printable value
    else "section-" ++ toString index
  | none => "section-" ++ toString index

def sectionTitle (index : Nat) (part : JsonObject) : String :=
  (filledText (part.get? "title")).getD ("Section " ++ toString index)

def richSection (part : JsonObject × Nat) : Except ProjectionError RichDocumentSection := do
  let components ← mappableComponents part.2 part.1
  validated <| richDocumentSection.decode <|
    .obj [("entity_id", .str (sectionId coercions printable part.2 part.1)),
      ("title", .str (sectionTitle part.2 part.1)), ("components", .arr components)]

def richPayload (content : ArtifactContent) : Except ProjectionError ArtifactPayload := do
  let sections ← (content.sections.zipIdx 1).mapM (richSection coercions printable)
  constructPayload { payloadKind := .richDocument, richSections := some sections }

def slideDeckPayload (content : ArtifactContent) (audience : DocumentAudience) :
    Except ProjectionError ArtifactPayload :=
  match content.metadata.get? "slide_deck_data" with
  | some (.obj deckData) => do
    let deck ← validated ((slideDeckData coercions).decode (.obj deckData))
    constructPayload
      { payloadKind := .slideDeckDocument
        slideDeck := some (if audience = .student then studentSafeSlideDeck deck else deck) }
  | _ => .error (.conversion "slide_deck requires metadata.slide_deck_data")

/-- `_document_language`. -/
def languageOf (accessibility : JsonObject) : DocumentLanguage :=
  match accessibility.get? "language" with
  | some (.str language) => if language = "vi" then .vi else .en
  | _ => .en

def contentAudience (content : ArtifactContent) : DocumentAudience :=
  if content.artifactType = .answerKey then .teacher else .student

def deckMetadata (metadata : JsonObject) (audience : DocumentAudience) : JsonObject :=
  let others := metadata.filter fun member => member.1 ≠ "slide_deck_data"
  if audience = .student then studentMembers others else others

/-- The content whose fields the document takes over, and its payload. -/
def projectContent (content : ArtifactContent) :
    Except ProjectionError (ArtifactContent × ArtifactPayload) :=
  let audience := contentAudience content
  if content.artifactType = .slideDeck then do
    let payload ← slideDeckPayload coercions content audience
    return ({ content with metadata := deckMetadata content.metadata audience }, payload)
  else do
    let parsed ← if audience = .student then studentContent coercions content else .ok content
    let payload ←
      if parsed.artifactType.isAssessment then assessmentPayload parsed
      else richPayload coercions printable parsed
    return (parsed, payload)

def documentArguments (parsed : ArtifactContent) (audience : DocumentAudience)
    (documentId artifactId : String) (version : Int) : JsonObject :=
  [("document_id", .str documentId), ("artifact_id", .str artifactId),
    ("artifact_type", .str parsed.artifactType.text), ("version", .int version),
    ("language", .str (languageOf parsed.accessibility).text),
    ("audience", .str (audienceText audience)), ("authority", .str "generated"),
    ("title", .str parsed.title), ("theme", .str parsed.theme),
    ("metadata", .obj parsed.metadata)]

def artifactDocumentFromContent (content : ArtifactContent) (documentId artifactId : String)
    (version : Int) : Except ProjectionError ArtifactDocument := do
  let (parsed, payload) ← projectContent coercions printable content
  validated <| constructDocument coercions
    (documentArguments parsed (contentAudience content) documentId artifactId version) payload

/-- A dict comprehension: a repeated key keeps its place and the last value. -/
def dictOf (members : List (String × Json)) : JsonObject :=
  members.foldl (fun dict member => dict.set member.1 member.2) []

def cardOfQuestion (question : AssessmentQuestion) : JsonObject :=
  [("type", .str "question_card"), ("id", .str question.entityId),
    ("text", .str question.prompt),
    ("options", .obj (dictOf (question.options.map fun option =>
      (option.entityId, .str option.text))))]

def componentOfBlock (block : DocumentBlock) : JsonObject :=
  [("type", .str (if block.blockKind = .heading then "heading" else "paragraph")),
    ("text", .str block.text)] ++
  block.level.toList.map fun level => ("level", .int level.1)

def sectionOf (entityId title : String) (components : List JsonObject) : JsonObject :=
  [("id", .str entityId), ("title", .str title), ("components", .arr (components.map .obj))]

def contentSections (payload : ArtifactPayload) : Except ProjectionError (List JsonObject) :=
  match payload.payloadKind with
  | .assessmentDocument =>
    .ok [[("title", .str "Questions"),
      ("components", .arr ((payload.questions.getD []).map fun question =>
        .obj (cardOfQuestion question)))]]
  | .blockDocument =>
    .ok ((payload.sections.getD []).map fun part =>
      sectionOf part.entityId part.title (part.blocks.map componentOfBlock))
  | .richDocument =>
    .ok ((payload.richSections.getD []).map fun part =>
      sectionOf part.entityId part.title part.components)
  | .slideDeckDocument =>
    match payload.slideDeck with
    | none => .error (.conversion "slide_deck_document requires slide_deck")
    | some _ =>
      .ok [[("title", .str "Deck"), ("components",
        .arr [.obj [("type", .str "paragraph"), ("text", .str "Slide deck")]])]]

def contentMetadata (document : ArtifactDocument) : JsonObject :=
  let metadata := (document.metadata.set "document_id" (.str document.documentId)).set
    "document_version" (.int document.version)
  match document.payload.payloadKind, document.payload.slideDeck with
  | .slideDeckDocument, some deck =>
    metadata.set "slide_deck_data" ((slideDeckData coercions).encode deck)
  | _, _ => metadata

def artifactContentFromDocument (document : ArtifactDocument) (theme : Option String) :
    Except ProjectionError ArtifactContent := do
  let sections ← contentSections document.payload
  validated <| (artifactContent coercions).decode <|
    .obj [("artifact_type", .str document.artifactType.text),
      ("theme", .str ((filledText (theme.map .str)).getD document.theme)),
      ("title", .str document.title), ("sections", .arr (sections.map .obj)),
      ("metadata", .obj (contentMetadata coercions document)),
      ("accessibility", .obj [("language", .str document.language.text)])]

end

/-!
## Constructed documents and contents

What the constructors of documents and contents return, and what reading a
document back asks for beyond that.
-/

section

open OhMyClass.Contracts

variable {coercions : Coercions} {printable : Char → Bool}

/-! ## Documents -/

/-- The ranges of a document's own fields. -/
structure DocumentRanges (document : ArtifactDocument) : Prop where
  documentId : (boundedText 80).Valid document.documentId
  artifactId : (boundedText 80).Valid document.artifactId
  version : 1 ≤ document.version
  title : (Codec.text 3 (some 200)).Valid document.title
  theme : (boundedText 80).Valid document.theme
  parentDocumentId : ∀ parent ∈ document.parentDocumentId, (boundedText 80).Valid parent
  sourceDocumentId : ∀ source ∈ document.sourceDocumentId, (boundedText 80).Valid source

theorem documentAudience_valid (audience : DocumentAudience) :
    documentAudience.Valid audience := by
  cases audience <;> rfl

theorem documentAuthority_valid (authority : DocumentAuthority) :
    documentAuthority.Valid authority := by
  cases authority <;> rfl

theorem documentLanguage_valid (language : DocumentLanguage) :
    documentLanguage.Valid language := by
  cases language <;> rfl

theorem documentFields_valid_iff {payload : Codec ArtifactPayload} {document : ArtifactDocument} :
    (documentFields coercions payload).Valid document ↔
      DocumentRanges document ∧ payload.Valid document.payload := by
  constructor
  · rintro ⟨documentId, artifactId, _, _, version, _, _, _, title, theme, _, isPayload, parent,
      source⟩
    exact ⟨⟨documentId, artifactId, version 1 rfl, title, theme, parent, source⟩, isPayload⟩
  · rintro ⟨ranges, isPayload⟩
    refine ⟨ranges.documentId, ranges.artifactId, trivial, artifactDocumentType_valid _, ?_,
      documentLanguage_valid _, documentAudience_valid _, documentAuthority_valid _, ranges.title,
      ranges.theme, trivial, isPayload, ranges.parentDocumentId, ranges.sourceDocumentId⟩
    rintro _ ⟨⟩
    exact ranges.version

theorem artifactDocument_valid_iff {document : ArtifactDocument} :
    (artifactDocument coercions).Valid document ↔
      (DocumentRanges document ∧ (artifactPayload coercions).Valid document.payload) ∧
        document.check coercions = .ok () := by
  rw [← documentFields_valid_iff]
  rfl

def projectedDocument (parsed : ArtifactContent) (audience : DocumentAudience)
    (documentId artifactId : String) (version : Int) (payload : ArtifactPayload) :
    ArtifactDocument where
  documentId := documentId
  artifactId := artifactId
  educationPolicyVersion := ⟨"education_policy.v1", educationPolicy_listed⟩
  artifactType := parsed.artifactType
  version := version
  language := languageOf parsed.accessibility
  audience := audience
  authority := .generated
  title := parsed.title
  theme := parsed.theme
  metadata := parsed.metadata
  payload := payload
  parentDocumentId := none
  sourceDocumentId := none

theorem constructDocument_eq_ok {parsed : ArtifactContent} {audience : DocumentAudience}
    {documentId artifactId : String} {version : Int} {payload : ArtifactPayload}
    {document : ArtifactDocument} :
    constructDocument coercions
        (documentArguments parsed audience documentId artifactId version) payload =
      .ok document ↔
    (document = projectedDocument parsed audience documentId artifactId version payload ∧
      DocumentRanges document) ∧ document.check coercions = .ok () := by
  have isType : artifactDocumentType.decode (.str parsed.artifactType.text) =
      .ok document.artifactType ↔ parsed.artifactType = document.artifactType :=
    Codec.decode_encode_eq_ok (artifactDocumentType_valid _)
  have isLanguage : documentLanguage.decode (.str (languageOf parsed.accessibility).text) =
      .ok document.language ↔ languageOf parsed.accessibility = document.language :=
    Codec.decode_encode_eq_ok (documentLanguage_valid _)
  have isAudience : documentAudience.decode (.str (audienceText audience)) =
      .ok document.audience ↔ audience = document.audience :=
    Codec.decode_encode_eq_ok (documentAudience_valid _)
  have isAuthority : documentAuthority.decode (.str "generated") =
      .ok document.authority ↔ .generated = document.authority :=
    Codec.decode_encode_eq_ok (documentAuthority_valid .generated)
  rw [constructDocument, Codec.checked_decode_eq_ok]
  apply and_congr_left'
  unfold documentFields
  simp [documentArguments, JsonObject.get?, List.lookup_cons, isType, isLanguage, isAudience]
  constructor
  · rintro ⟨⟨rfl, documentId⟩, ⟨rfl, artifactId⟩, policy, isType, ⟨rfl, version⟩, isLanguage, rfl,
      isAuthority, ⟨isTitle, title⟩, ⟨isTheme, theme⟩, isMetadata, rfl, noParent, noSource⟩
    refine ⟨?_, ⟨boundedText_valid_iff.mpr documentId, boundedText_valid_iff.mpr artifactId,
      version, Codec.text_valid_iff.mpr title, boundedText_valid_iff.mpr theme, ?_, ?_⟩⟩
    · cases document
      simp_all [projectedDocument]
    · rw [← noParent]
      rintro _ ⟨⟩
    · rw [← noSource]
      rintro _ ⟨⟩
  · rintro ⟨rfl, ranges⟩
    exact ⟨⟨rfl, boundedText_valid_iff.mp ranges.documentId⟩,
      ⟨rfl, boundedText_valid_iff.mp ranges.artifactId⟩, rfl, rfl, ⟨rfl, ranges.version⟩, rfl, rfl,
      rfl, ⟨rfl, Codec.text_valid_iff.mp ranges.title⟩,
      ⟨rfl, boundedText_valid_iff.mp ranges.theme⟩, rfl, rfl, rfl, rfl⟩

theorem hasTeacherOnly_modelDump (document : ArtifactDocument) :
    hasTeacherOnlyMember (document.modelDump coercions) =
      (hasTeacherOnlyMember document.metadata ||
        hasTeacherOnlyValue ((artifactPayload coercions).encode document.payload)) := by
  have notNull (text : String) : (boundedText 80).encode text ≠ .null := by
    intro same
    cases same
  let idCodec := Codec.nullable (boundedText 80) notNull
  have clean (value : Option String) : hasTeacherOnlyValue (idCodec.encode value) = false := by
    cases value <;> rfl
  have dump : document.modelDump coercions =
      [("document_id", .str document.documentId), ("artifact_id", .str document.artifactId),
        ("education_policy_version", .str document.educationPolicyVersion.1),
        ("artifact_type", .str document.artifactType.text), ("version", .int document.version),
        ("language", .str document.language.text),
        ("audience", .str (audienceText document.audience)),
        ("authority", .str (authorityText document.authority)), ("title", .str document.title),
        ("theme", .str document.theme), ("metadata", .obj document.metadata),
        ("payload", (artifactPayload coercions).encode document.payload),
        ("parent_document_id", idCodec.encode document.parentDocumentId),
        ("source_document_id", idCodec.encode document.sourceDocumentId)] :=
    rfl
  rw [dump]
  simp [hasTeacherOnlyMember, hasTeacherOnlyValue, teacherOnlyKeys, clean]

theorem artifactContent_valid_iff {content : ArtifactContent} :
    (artifactContent coercions).Valid content ↔
      ((Codec.text 3 (some 200)).Valid content.title ∧ 1 ≤ content.sections.length) ∧
        content.check coercions = .ok () := by
  constructor
  · rintro ⟨⟨_, _, title, sections, _, _⟩, checked⟩
    exact ⟨⟨title, sections.1⟩, checked⟩
  · rintro ⟨⟨title, sections⟩, checked⟩
    exact ⟨⟨artifactDocumentType_valid _, Codec.text_valid_of_unbounded, title,
      ⟨sections, fun _ _ => trivial⟩, trivial, trivial⟩, checked⟩

instance : (artifactContent coercions).Faithful := by
  unfold artifactContent contentFields
  infer_instance

end

end OhMyClass.Projection
