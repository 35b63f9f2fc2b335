import OhMyClass.Gateway.Snapshots.AnswerKeys
import OhMyClass.Projection.RoundTrip

/-!
# What students are shown

A content that is no deck and no answer key becomes a document without the
teacher-only keys.  The eraser and the two detectors each have a key list; the
eraser's lacks one key of the others.
-/

namespace OhMyClass.Projection

open List OhMyClass.Contracts OhMyClass.Raising Json

variable {coercions : Coercions} {printable : Char → Bool}

theorem teacherOnlyKeys_eq : teacherOnlyKeys = forbiddenKeys ++ ["rubric_solution"] :=
  rfl

mutual

theorem studentValue_eq_erase : ∀ value : Json, studentValue value = value.erase forbiddenKeys
  | .arr items => congrArg Json.arr (studentItems_eq_eraseItems items)
  | .obj members => congrArg Json.obj (studentMembers_eq_eraseMembers members)
  | .null | .bool _ | .int _ | .float _ | .str _ => rfl

theorem studentItems_eq_eraseItems : ∀ items : List Json,
    studentItems items = eraseItems forbiddenKeys items
  | [] => rfl
  | item :: rest => by
    rw [studentItems, eraseItems, studentValue_eq_erase item, studentItems_eq_eraseItems rest]

theorem studentMembers_eq_eraseMembers : ∀ members : List (String × Json),
    studentMembers members = eraseMembers forbiddenKeys members
  | [] => rfl
  | member :: rest => by
    simp only [studentMembers, eraseMembers, contains_iff_mem,
      studentValue_eq_erase member.2, studentMembers_eq_eraseMembers rest]

end

mutual

theorem hasTeacherOnlyValue_eq_hasKey : ∀ value : Json,
    hasTeacherOnlyValue value = value.hasKey teacherOnlyKeys
  | .arr items => hasTeacherOnlyItem_eq_itemsHaveKey items
  | .obj members => hasTeacherOnlyMember_eq_membersHaveKey members
  | .null | .bool _ | .int _ | .float _ | .str _ => rfl

theorem hasTeacherOnlyItem_eq_itemsHaveKey : ∀ items : List Json,
    hasTeacherOnlyItem items = itemsHaveKey teacherOnlyKeys items
  | [] => rfl
  | item :: rest => by
    rw [hasTeacherOnlyItem, itemsHaveKey, hasTeacherOnlyValue_eq_hasKey item,
      hasTeacherOnlyItem_eq_itemsHaveKey rest]

theorem hasTeacherOnlyMember_eq_membersHaveKey : ∀ members : List (String × Json),
    hasTeacherOnlyMember members = membersHaveKey teacherOnlyKeys members
  | [] => rfl
  | member :: rest => by
    rw [hasTeacherOnlyMember, membersHaveKey, hasTeacherOnlyValue_eq_hasKey member.2,
      hasTeacherOnlyMember_eq_membersHaveKey rest, contains_eq_mem]

end

mutual

theorem valuePaths_eq_nil_iff : ∀ (path : String) (value : Json),
    Gateway.valuePaths path value = [] ↔ value.hasKey teacherOnlyKeys = false
  | path, .arr items => itemPaths_eq_nil_iff path 0 items
  | path, .obj members => memberPaths_eq_nil_iff path members
  | _, .null | _, .bool _ | _, .int _ | _, .float _ | _, .str _ => iff_of_true rfl rfl

theorem itemPaths_eq_nil_iff : ∀ (path : String) (index : Nat) (items : List Json),
    Gateway.itemPaths path index items = [] ↔ itemsHaveKey teacherOnlyKeys items = false
  | _, _, [] => iff_of_true rfl rfl
  | path, index, item :: rest => by
    rw [Gateway.itemPaths, append_eq_nil_iff, valuePaths_eq_nil_iff _ item,
      itemPaths_eq_nil_iff path (index + 1) rest, itemsHaveKey, Bool.or_eq_false_iff]

theorem memberPaths_eq_nil_iff : ∀ (path : String) (members : List (String × Json)),
    Gateway.memberPaths path members = [] ↔ membersHaveKey teacherOnlyKeys members = false
  | _, [] => iff_of_true rfl rfl
  | path, (key, value) :: rest => by
    have listed : (if Gateway.teacherOnlyKeys.contains key then [path ++ "." ++ key] else []) = [] ↔
        teacherOnlyKeys.contains key = false := by
      change (if teacherOnlyKeys.contains key then _ else _) = _ ↔ _
      cases teacherOnlyKeys.contains key <;> simp
    rw [Gateway.memberPaths, append_eq_nil_iff, append_eq_nil_iff, listed,
      valuePaths_eq_nil_iff _ value, memberPaths_eq_nil_iff path rest, membersHaveKey,
      Bool.or_eq_false_iff, Bool.or_eq_false_iff]

end

/-! ## Carried through -/

def withoutTeacherOnly (content : ArtifactContent) : ArtifactContent :=
  { content with
    metadata := Json.eraseMembers teacherOnlyKeys content.metadata
    sections := content.sections.map (Json.eraseMembers teacherOnlyKeys) }

/-- The key that only the detectors list occurs nowhere. -/
def NoRubricSolution (content : ArtifactContent) : Prop :=
  Json.membersHaveKey ["rubric_solution"] content.metadata = false ∧
    ∀ part ∈ content.sections, Json.membersHaveKey ["rubric_solution"] part = false

variable (coercions printable) in
/-- The sections are valid and make a payload. -/
def SectionsConvert (content : ArtifactContent) : Prop :=
  (artifactContent coercions).Valid content ∧ ∃ payload,
    (if content.artifactType.isAssessment then assessmentPayload content
      else richPayload coercions printable content) = .ok payload

/-- The question shows what its card says. -/
structure CarriesCard (card : JsonObject) (question : AssessmentQuestion) : Prop where
  entityId : card.get? "id" = some (.str question.entityId)
  prompt : card.get? "text" = some (.str question.prompt)
  options : card.get? "options" = some (.obj (question.options.map fun option =>
    (option.entityId, .str option.text)))

/-- The built section shows what the section says: its components, or its text as
one paragraph. -/
structure CarriesSection (coercions : Coercions) (printable : Char → Bool)
    (part : JsonObject × Nat) (built : RichDocumentSection) : Prop where
  entityId : built.entityId = sectionId coercions printable part.2 part.1
  title : built.title = sectionTitle part.2 part.1
  components : sectionComponents part.1 = built.components.map .obj ∨
    sectionComponents part.1 = [] ∧ ∃ text, part.1.get? "content" = some (.str text) ∧
      built.components = [[("type", .str "paragraph"), ("text", .str text)]]

/-- The document shows what the content says. -/
structure Carries (coercions : Coercions) (printable : Char → Bool) (content : ArtifactContent)
    (document : ArtifactDocument) : Prop where
  metadata : document.metadata = content.metadata
  questions : content.artifactType.isAssessment = true → ∃ questions,
    document.payload.questions = some questions ∧
      List.Forall₂ CarriesCard (content.sections.flatMap questionCards) questions
  sections : content.artifactType.isAssessment = false → ∃ sections,
    document.payload.richSections = some sections ∧
      List.Forall₂ (CarriesSection coercions printable) (content.sections.zipIdx 1) sections

theorem eq_str_of_boundedText {longest : Nat} {value : Json} {text : String}
    (decoded : (boundedText longest).decode value = .ok text) : value = .str text := by
  cases value with
  | str given => rw [(boundedText_decode_str_eq_ok.mp decoded).1]
  | null | bool _ | int _ | float _ | arr _ | obj _ => cases decoded

theorem options_of_questionOptions {options : JsonObject} {built : List AssessmentOption}
    (ret : questionOptions options = .ok built) :
    options = built.map fun option => (option.entityId, Json.str option.text) := by
  induction options generalizing built with
  | nil =>
    cases ret
    rfl
  | cons option rest ih =>
    rcases option with ⟨optionId, text⟩
    rcases bind_eq_ok.mp ret with ⟨first, head, continued⟩
    rcases bind_eq_ok.mp continued with ⟨others, tail, final⟩
    cases final
    have read := validated_eq_ok.mp head
    unfold assessmentOption at read
    simp [JsonObject.get?, List.lookup_cons] at read
    rw [map_cons, ← ih tail, eq_str_of_boundedText read.2, read.1.1]

theorem carriesCard_of_questionFromCard {card : JsonObject} {question : AssessmentQuestion}
    (ret : questionFromCard card = .ok question) : CarriesCard card question := by
  unfold questionFromCard at ret
  split at ret
  · next questionId prompt isId isPrompt =>
    split at ret
    · next options found =>
      split at ret
      · rcases bind_eq_ok.mp ret with ⟨built, made, final⟩
        have decoded := validated_eq_ok.mp final
        unfold assessmentQuestion at decoded
        have encoded : (listField "options" assessmentOption).Valid built :=
          ⟨Nat.zero_le _, (map_entityId_of_questionOptions made).2⟩
        have isList : (Codec.listOf 0 assessmentOption).decode
            (.arr (built.map assessmentOption.encode)) = .ok question.options ↔
            built = question.options :=
          Codec.decode_encode_eq_ok encoded
        simp [JsonObject.get?, List.lookup_cons, listField, isList] at decoded
        rcases decoded with ⟨⟨sameId, _⟩, ⟨samePrompt, _⟩, sameOptions⟩
        refine ⟨?_, ?_, ?_⟩
        · rw [← sameId, (filledText_eq_some.mp isId).1]
        · rw [← samePrompt, (filledText_eq_some.mp isPrompt).1]
        · rw [found, options_of_questionOptions made, sameOptions]
      · cases ret
    · cases ret
  · cases ret

variable {part : JsonObject × Nat}

theorem carriesSection_of_richSection {built : RichDocumentSection}
    (ret : richSection coercions printable part = .ok built) :
    CarriesSection coercions printable part built := by
  rcases bind_eq_ok.mp ret with ⟨components, mapped, final⟩
  have read := validated_eq_ok.mp final
  unfold richDocumentSection at read
  simp [JsonObject.get?, List.lookup_cons] at read
  rcases read with ⟨⟨sameId, _⟩, ⟨sameTitle, _⟩, isList⟩
  refine ⟨sameId.symm, sameTitle.symm, ?_⟩
  have isComponents := map_obj_of_listOf isList
  unfold mappableComponents at mapped
  split at mapped
  · next listed =>
    cases mapped
    exact .inl (listed.trans isComponents)
  · next listed =>
    split at mapped
    · next text isText =>
      cases mapped
      refine .inr ⟨listed, text, (filledText_eq_some.mp isText).1, ?_⟩
      apply map_injective_iff.mpr (fun _ _ => Json.obj.inj)
      exact isComponents.symm
    · cases mapped

theorem questions_clean (questions : List AssessmentQuestion) :
    hasTeacherOnlyValue ((artifactPayload coercions).encode
      { payloadKind := .assessmentDocument, questions := some questions }) = false := by
  have options : ∀ question : AssessmentQuestion,
      hasTeacherOnlyItem (question.options.map assessmentOption.encode) = false := by
    intro question
    rw [hasTeacherOnlyItem_eq_false_iff, forall_mem_map]
    intro option _
    rfl
  have items : hasTeacherOnlyItem (questions.map assessmentQuestion.encode) = false := by
    rw [hasTeacherOnlyItem_eq_false_iff, forall_mem_map]
    intro question _
    have encoded : assessmentQuestion.encode question =
        .obj [("entity_id", .str question.entityId), ("prompt", .str question.prompt),
          ("options", .arr (question.options.map assessmentOption.encode))] := rfl
    simp [encoded, hasTeacherOnlyValue, hasTeacherOnlyMember, teacherOnlyKeys, options]
  have encoded : (artifactPayload coercions).encode
      { payloadKind := .assessmentDocument, questions := some questions } =
      .obj [("payload_kind", .str "assessment_document"), ("sections", .null),
        ("questions", .arr (questions.map assessmentQuestion.encode)), ("rich_sections", .null),
        ("slide_deck", .null)] := rfl
  simp [encoded, hasTeacherOnlyValue, hasTeacherOnlyMember, teacherOnlyKeys, items]

theorem sections_clean {sections : List RichDocumentSection}
    (clean : ∀ part ∈ sections, hasTeacherOnlyItem (part.components.map .obj) = false) :
    hasTeacherOnlyValue ((artifactPayload coercions).encode
      { payloadKind := .richDocument, richSections := some sections }) = false := by
  have items : hasTeacherOnlyItem (sections.map richDocumentSection.encode) = false := by
    rw [hasTeacherOnlyItem_eq_false_iff, forall_mem_map]
    intro part mem
    have encoded : richDocumentSection.encode part =
        .obj [("entity_id", .str part.entityId), ("title", .str part.title),
          ("components", .arr (part.components.map .obj))] := rfl
    simp [encoded, hasTeacherOnlyValue, hasTeacherOnlyMember, teacherOnlyKeys, clean part mem]
  have encoded : (artifactPayload coercions).encode
      { payloadKind := .richDocument, richSections := some sections } =
      .obj [("payload_kind", .str "rich_document"), ("sections", .null), ("questions", .null),
        ("rich_sections", .arr (sections.map richDocumentSection.encode)),
        ("slide_deck", .null)] := rfl
  simp [encoded, hasTeacherOnlyValue, hasTeacherOnlyMember, teacherOnlyKeys, items]

theorem components_clean {built : RichDocumentSection}
    (carried : CarriesSection coercions printable part built)
    (clean : hasTeacherOnlyMember part.1 = false) :
    hasTeacherOnlyItem (built.components.map .obj) = false := by
  rcases carried.components with listed | ⟨_, text, _, paragraph⟩
  · rw [← listed]
    unfold sectionComponents
    split
    · next components found =>
      exact not_teacherOnly_of_mem clean (JsonObject.mem_of_get? found)
    · rfl
  · rw [paragraph]
    rfl

/-! ## Student documents -/

variable {content : ArtifactContent}

theorem withoutTeacherOnly_eq (clean : NoRubricSolution content) :
    { content with
      metadata := studentMembers content.metadata
      sections := content.sections.map studentMembers } = withoutTeacherOnly content := by
  have erased : ∀ members : JsonObject, membersHaveKey ["rubric_solution"] members = false →
      studentMembers members = eraseMembers teacherOnlyKeys members := by
    intro members absent
    rw [studentMembers_eq_eraseMembers, teacherOnlyKeys_eq,
      eraseMembers_append_of_not_hasKey members absent]
  unfold withoutTeacherOnly
  rw [erased content.metadata clean.1,
    map_congr_left fun part mem => erased part (clean.2 part mem)]

theorem projectContent_of_sectionsConvert (notDeck : content.artifactType ≠ .slideDeck)
    (notKey : content.artifactType ≠ .answerKey) (clean : NoRubricSolution content)
    (converts : SectionsConvert coercions printable (withoutTeacherOnly content)) :
    ∃ payload, projectContent coercions printable content =
      .ok (withoutTeacherOnly content, payload) ∧
      (if content.artifactType.isAssessment then assessmentPayload (withoutTeacherOnly content)
        else richPayload coercions printable (withoutTeacherOnly content)) = .ok payload := by
  rcases converts with ⟨valid, payload, made⟩
  refine ⟨payload, projectContent_eq_ok notDeck ?_ ?_ made, made⟩
  · exact fun _ => studentContent_eq_ok.mpr ⟨withoutTeacherOnly_eq clean, valid⟩
  · exact fun notStudent => absurd (contentAudience_eq_student.mpr notKey) notStudent

/-- A payload of an erased content has no teacher-only keys and shows what the
content says. -/
theorem payload_of_withoutTeacherOnly {payload : ArtifactPayload}
    (notDeck : content.artifactType ≠ .slideDeck)
    (valid : (artifactContent coercions).Valid (withoutTeacherOnly content))
    (made : (if content.artifactType.isAssessment then
        assessmentPayload (withoutTeacherOnly content)
      else richPayload coercions printable (withoutTeacherOnly content)) = .ok payload)
    (documentId artifactId : String) (version : Int) :
    KindMatches content.artifactType payload.payloadKind ∧
      hasTeacherOnlyValue ((artifactPayload coercions).encode payload) = false ∧
      Carries coercions printable (withoutTeacherOnly content)
        (projectedDocument (withoutTeacherOnly content) .student documentId artifactId version
          payload) := by
  cases isAssessment : content.artifactType.isAssessment with
  | true =>
    rw [isAssessment] at made
    rcases assessmentPayload_eq_ok.mp made with ⟨questions, _, each, rfl⟩
    refine ⟨?_, questions_clean questions, rfl, ?_, ?_⟩
    · simp [KindMatches, isAssessment, notDeck]
    · exact fun _ => ⟨questions, rfl, each.imp fun _ _ => carriesCard_of_questionFromCard⟩
    · intro other
      exact absurd (isAssessment.symm.trans other) (by decide)
  | false =>
    rw [isAssessment] at made
    rcases (richPayload_eq_ok (sections_ne_nil_of_valid valid)).mp made with
      ⟨sections, _, each, rfl⟩
    have carried : List.Forall₂ (CarriesSection coercions printable)
        ((withoutTeacherOnly content).sections.zipIdx 1) sections :=
      each.imp fun _ _ => carriesSection_of_richSection
    refine ⟨?_, sections_clean ?_, rfl, ?_, fun _ => ⟨sections, rfl, carried⟩⟩
    · simp [KindMatches, isAssessment, notDeck]
    · intro part mem
      rcases exists_left_of_forall₂ carried mem with ⟨item, isItem, shows⟩
      apply components_clean shows
      rcases mem_map.mp (fst_mem_of_mem_zipIdx isItem) with ⟨original, _, same⟩
      rw [← same, hasTeacherOnlyMember_eq_membersHaveKey]
      exact membersHaveKey_eraseMembers original
    · intro other
      exact absurd (isAssessment.symm.trans other) (by decide)

/-- A content whose sections convert without the teacher-only keys becomes a
document that has none of them and shows the rest. -/
theorem artifactDocument_hides_teacherOnly (content : ArtifactContent)
    (notDeck : content.artifactType ≠ .slideDeck) (notKey : content.artifactType ≠ .answerKey)
    (clean : NoRubricSolution content)
    (converts : SectionsConvert coercions printable (withoutTeacherOnly content))
    (documentId artifactId : String) (version : Int)
    (validDocumentId : (boundedText 80).Valid documentId)
    (validArtifactId : (boundedText 80).Valid artifactId) (positive : 1 ≤ version)
    (validTheme : (boundedText 80).Valid content.theme) :
    ∃ document, artifactDocumentFromContent coercions printable content documentId artifactId
        version = .ok document ∧
      Gateway.teacherOnlyValuePaths (document.modelDump coercions) = [] ∧
      Carries coercions printable (withoutTeacherOnly content) document := by
  rcases projectContent_of_sectionsConvert notDeck notKey clean converts with
    ⟨payload, projected, made⟩
  rcases payload_of_withoutTeacherOnly notDeck converts.1 made documentId artifactId version with
    ⟨kind, safe, carries⟩
  have noKeys : hasTeacherOnlyMember ((projectedDocument (withoutTeacherOnly content) .student
      documentId artifactId version payload).modelDump coercions) = false := by
    rw [hasTeacherOnly_modelDump, Bool.or_eq_false_iff]
    refine ⟨?_, safe⟩
    rw [hasTeacherOnlyMember_eq_membersHaveKey]
    exact membersHaveKey_eraseMembers content.metadata
  have isStudent : contentAudience content = .student := contentAudience_eq_student.mpr notKey
  have ranges : DocumentRanges (projectedDocument (withoutTeacherOnly content) .student documentId
      artifactId version payload) :=
    { documentId := validDocumentId
      artifactId := validArtifactId
      version := positive
      title := (artifactContent_valid_iff.mp converts.1).1.1
      theme := validTheme
      parentDocumentId := forall_mem_none
      sourceDocumentId := forall_mem_none }
  refine ⟨_, artifactDocumentFromContent_eq_ok.mpr ⟨withoutTeacherOnly content, payload, projected,
    ⟨rfl, ?_⟩, ?_⟩, ?_, ?_⟩
  all_goals rw [isStudent]
  · exact ranges
  · exact check_eq_ok_iff.mpr ⟨kind, fun _ => noKeys⟩
  · apply (memberPaths_eq_nil_iff _ _).mpr
    rw [← hasTeacherOnlyMember_eq_membersHaveKey]
    exact noKeys
  · exact carries

/-- A lesson with answers in its metadata and beside its text. -/
def answeredLesson : ArtifactContent where
  artifactType := .lesson
  theme := "default"
  title := "Animals"
  sections := [[("title", .str "Cats"), ("components",
    .arr [.obj [("text", .str "What does a cat say?"), ("answer", .str "Meow"),
      ("choices", .arr [.obj [("text", .str "Meow"), ("rationale", .str "Cats meow")]])]])]]
  metadata := [("duration", .int 20), ("answer_set", .arr [.str "Meow"])]
  accessibility := []

theorem answeredLesson_converts :
    SectionsConvert plainCoercions (fun _ => true) (withoutTeacherOnly answeredLesson) :=
  ⟨artifactContent_valid_iff.mpr ⟨⟨Codec.text_valid_iff.mpr (by decide), Nat.le_refl 1⟩, rfl⟩,
    _, rfl⟩

theorem answeredLesson_hides_teacherOnly : ∃ document,
    artifactDocumentFromContent plainCoercions (fun _ => true) answeredLesson "document-1"
        "artifact-1" 1 = .ok document ∧
      Gateway.teacherOnlyValuePaths (document.modelDump plainCoercions) = [] ∧
      Carries plainCoercions (fun _ => true) (withoutTeacherOnly answeredLesson) document :=
  artifactDocument_hides_teacherOnly answeredLesson nofun nofun ⟨rfl, by decide⟩
    answeredLesson_converts "document-1" "artifact-1" 1
    (boundedText_valid_iff.mpr (by decide)) (boundedText_valid_iff.mpr (by decide)) (by decide)
    (boundedText_valid_iff.mpr (by decide))

/-- A flashcard deck: its cards stand beside the text of the section. -/
def flashcards : ArtifactContent where
  artifactType := .flashcardDeck
  theme := "default"
  title := "Animals"
  sections := [[("title", .str "Cards"), ("content", .str "Learn these words."), ("cards",
    .arr [.obj [("id", .str "card-1"), ("front", .str "cat"), ("back", .str "con meo")]])]]
  metadata := []
  accessibility := []

theorem flashcards_converts :
    SectionsConvert plainCoercions (fun _ => true) (withoutTeacherOnly flashcards) :=
  ⟨artifactContent_valid_iff.mpr ⟨⟨Codec.text_valid_iff.mpr (by decide), Nat.le_refl 1⟩, rfl⟩,
    _, rfl⟩

/-- The document shows the text of the section and drops its cards. -/
theorem flashcards_drop_cards : ¬ ∀ (content : ArtifactContent) (documentId artifactId : String)
    (version : Int), content.artifactType ≠ .slideDeck → content.artifactType ≠ .answerKey →
    (artifactContent plainCoercions).Valid content →
    SectionsConvert plainCoercions (fun _ => true) (withoutTeacherOnly content) →
    (boundedText 80).Valid documentId → (boundedText 80).Valid artifactId → 1 ≤ version →
    (boundedText 80).Valid content.theme →
    ∃ document, artifactDocumentFromContent plainCoercions (fun _ => true) content documentId
        artifactId version = .ok document ∧
      Gateway.teacherOnlyValuePaths (document.modelDump plainCoercions) = [] ∧
      ∀ part ∈ (withoutTeacherOnly content).sections, ∀ member ∈ part,
        Json.membersHaveKey [member.1] (document.modelDump plainCoercions) = true := by
  intro claim
  rcases claim flashcards "document-1" "artifact-1" 1 nofun nofun
    (artifactContent_valid_iff.mpr ⟨⟨Codec.text_valid_iff.mpr (by decide), Nat.le_refl 1⟩, rfl⟩)
    flashcards_converts (boundedText_valid_iff.mpr (by decide))
    (boundedText_valid_iff.mpr (by decide)) (by decide) (boundedText_valid_iff.mpr (by decide))
    with ⟨document, ret, _, shown⟩
  have isDocument : document = projectedDocument flashcards .student "document-1" "artifact-1" 1
      { payloadKind := .richDocument
        richSections := some [⟨"section-1", "Cards", [[("type", .str "paragraph"),
          ("text", .str "Learn these words.")]]⟩] } := by
    cases ret
    rfl
  have kept := shown _ mem_cons_self ("cards", _) (.tail _ (.tail _ mem_cons_self))
  rw [isDocument] at kept
  exact absurd kept (by decide)

/-- At any depth of any value: the two detectors agree, a value they pass is left
alone by the eraser, what it leaves has none of its keys and is left alone by a
second pass, and the detectors pass it but for the key that only they list. -/
theorem eraser_answers_detectors (path : String) (value : Json) :
    (Gateway.valuePaths path value = [] ↔ hasTeacherOnlyValue value = false) ∧
      (hasTeacherOnlyValue value = false → studentValue value = value) ∧
      (studentValue value).hasKey forbiddenKeys = false ∧
      studentValue (studentValue value) = studentValue value ∧
      (value.hasKey ["rubric_solution"] = false →
        Gateway.valuePaths path (studentValue value) = []) := by
  refine ⟨?_, studentValue_of_not_teacherOnly value, ?_, studentValue_idempotent value, ?_⟩
  · rw [valuePaths_eq_nil_iff, hasTeacherOnlyValue_eq_hasKey]
  · rw [studentValue_eq_erase, hasKey_erase]
  · intro absent
    rw [valuePaths_eq_nil_iff, studentValue_eq_erase,
      ← erase_append_of_not_hasKey value absent, ← teacherOnlyKeys_eq, hasKey_erase]

end OhMyClass.Projection
