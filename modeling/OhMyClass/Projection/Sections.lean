import OhMyClass.Projection.ReadBack

/-!
# Documents of sections and questions

The content of a rich document or an assessment is valid and is projected to
the payload it came from.
-/

namespace OhMyClass.Projection

open List OhMyClass.Contracts Components

variable {coercions : Coercions} {printable : Char → Bool}

/-! ## Contents without answers -/

variable {members : JsonObject} {key : String} {value : Json}

theorem not_teacherOnly_of_mem (clean : hasTeacherOnlyValue (.obj members) = false)
    (isMember : (key, value) ∈ members) :
    hasTeacherOnlyValue value = false :=
  (hasTeacherOnlyMember_eq_false_iff.mp clean _ isMember).2

theorem richSections_clean {sections : List RichDocumentSection}
    (clean : hasTeacherOnlyValue ((artifactPayload coercions).encode
      { payloadKind := .richDocument, richSections := some sections }) = false) :
    ∀ part ∈ sections, hasTeacherOnlyItem (part.components.map .obj) = false := by
  have items : hasTeacherOnlyValue (.arr (sections.map richDocumentSection.encode)) = false :=
    not_teacherOnly_of_mem clean (.tail _ (.tail _ (.tail _ (.head _))))
  intro part mem
  have encoded := hasTeacherOnlyItem_eq_false_iff.mp items _ (mem_map_of_mem mem)
  exact not_teacherOnly_of_mem encoded (.tail _ (.tail _ (.head _)))

variable {document : ArtifactDocument}

theorem studentContent_of_clean {sections : List JsonObject}
    (valid : (artifactContent coercions).Valid (contentOf coercions document sections))
    (notDeck : document.payload.payloadKind ≠ .slideDeckDocument)
    (cleanMetadata : hasTeacherOnlyMember document.metadata = false)
    (cleanSections : ∀ part ∈ sections, studentMembers part = part) :
    studentContent coercions (contentOf coercions document sections) =
      .ok (contentOf coercions document sections) := by
  have sameMetadata : studentMembers (contentMetadata coercions document) =
      contentMetadata coercions document := by
    apply studentMembers_of_not_teacherOnly
    exact hasTeacherOnlyMember_eq_false_iff.mpr fun mem isMember =>
      not_teacherOnly_contentMetadata cleanMetadata isMember (.inr notDeck)
  have sameSections : sections.map studentMembers = sections := by
    rw [map_congr_left cleanSections, map_id']
  apply studentContent_eq_ok.mpr
  refine ⟨?_, valid⟩
  simp only [contentOf, sameMetadata, sameSections]

variable {parsed : ArtifactContent}

theorem projectContent_eq_ok {content : ArtifactContent} {payload : ArtifactPayload}
    (notDeck : content.artifactType ≠ .slideDeck)
    (stripped : contentAudience content = .student → studentContent coercions content = .ok parsed)
    (same : contentAudience content ≠ .student → content = parsed)
    (made : (if parsed.artifactType.isAssessment then assessmentPayload parsed
      else richPayload coercions printable parsed) = .ok payload) :
    projectContent coercions printable content = .ok (parsed, payload) := by
  have continued : (if parsed.artifactType.isAssessment = true then
      assessmentPayload parsed >>= fun payload => pure (parsed, payload)
      else richPayload coercions printable parsed >>= fun payload => pure (parsed, payload)) =
      .ok (parsed, payload) := by
    split at made
    · next isAssessment =>
      rw [if_pos isAssessment, made]
      rfl
    · next notAssessment =>
      rw [if_neg notAssessment, made]
      rfl
  unfold projectContent
  rw [if_neg notDeck]
  by_cases isStudent : contentAudience content = .student
  · rw [if_pos isStudent, stripped isStudent]
    exact continued
  · rw [if_neg isStudent, same isStudent]
    exact continued

theorem accepts_components {sections : List RichDocumentSection}
    (checked : parsed.check coercions = .ok ())
    (built : List.Forall₂ (fun part built => richSection coercions printable part = .ok built)
      (parsed.sections.zipIdx 1) sections) :
    ∀ part ∈ sections, (part.components.map Json.obj).all (acceptsEntry coercions) = true := by
  have accepted : ∀ part ∈ parsed.sections,
      (sectionComponents part).all (acceptsEntry coercions) = true := by
    unfold ArtifactContent.check at checked
    split at checked
    · next all => exact all_eq_true.mp all
    · cases checked
  intro part mem
  rcases exists_left_of_forall₂ built mem with ⟨⟨source, index⟩, isSource, made⟩
  rcases (components_of_richSection made).2 with same | ⟨text, paragraph⟩
  · rw [same]
    exact accepted source (fst_mem_of_mem_zipIdx isSource)
  · rw [paragraph]
    rfl

def richContentSections (sections : List RichDocumentSection) : List JsonObject :=
  sections.map fun part => sectionOf part.entityId part.title part.components

theorem richContent_valid {sections : List RichDocumentSection} (ranges : DocumentRanges document)
    (someSection : sections ≠ []) (accepted : ∀ part ∈ sections,
      (part.components.map Json.obj).all (acceptsEntry coercions) = true) :
    (artifactContent coercions).Valid
      (contentOf coercions document (richContentSections sections)) := by
  apply artifactContent_valid_iff.mpr
  refine ⟨⟨ranges.title, ?_⟩, ?_⟩
  · change 1 ≤ (richContentSections sections).length
    rw [richContentSections, length_map]
    exact length_pos_of_ne_nil someSection
  · apply if_pos
    change (richContentSections sections).all _ = true
    rw [richContentSections, all_map, all_eq_true]
    exact accepted

theorem richSections_again {sections : List RichDocumentSection}
    (built : List.Forall₂ (fun part built => richSection coercions printable part = .ok built)
      (parsed.sections.zipIdx 1) sections) :
    (∀ part ∈ sections, richDocumentSection.Valid part) ∧
      List.Forall₂ (fun part built => richSection coercions printable part = .ok built)
        ((richContentSections sections).zipIdx 1) sections := by
  have valid : ∀ part ∈ sections, richDocumentSection.Valid part := by
    intro part mem
    rcases exists_left_of_forall₂ built mem with ⟨_, _, made⟩
    exact (components_of_richSection made).1
  refine ⟨valid, ?_⟩
  clear built
  generalize 1 = start
  induction sections generalizing start with
  | nil => exact .nil
  | cons part rest ih =>
    rw [forall_mem_cons] at valid
    exact .cons (richSection_sectionOf valid.1 start) (ih valid.2 (start + 1))

theorem sectionOf_clean {part : RichDocumentSection}
    (clean : hasTeacherOnlyItem (part.components.map .obj) = false) :
    studentMembers (sectionOf part.entityId part.title part.components) =
      sectionOf part.entityId part.title part.components := by
  apply studentMembers_of_not_teacherOnly
  simp [sectionOf, hasTeacherOnlyMember, hasTeacherOnlyValue, teacherOnlyKeys, clean]

theorem projectContent_rich {sections : List RichDocumentSection} (ranges : DocumentRanges document)
    (checked : document.check coercions = .ok ())
    (audience : contentAudience (contentOf coercions document []) = document.audience)
    (notDeck : document.artifactType ≠ .slideDeck)
    (notAssessment : document.artifactType.isAssessment = false)
    (accepts : parsed.check coercions = .ok ()) (someSection : sections ≠ [])
    (isRich : document.payload = { payloadKind := .richDocument, richSections := some sections })
    (built : List.Forall₂ (fun part built => richSection coercions printable part = .ok built)
      (parsed.sections.zipIdx 1) sections) :
    projectContent coercions printable
        (contentOf coercions document (richContentSections sections)) =
      .ok (contentOf coercions document (richContentSections sections), document.payload) := by
  have valid := richContent_valid ranges someSection (accepts_components accepts built)
  have notEmpty : (contentOf coercions document (richContentSections sections)).sections ≠ [] :=
    sections_ne_nil_of_valid valid
  have payload : richPayload coercions printable
      (contentOf coercions document (richContentSections sections)) = .ok document.payload :=
    (richPayload_eq_ok notEmpty).mpr
      ⟨sections, someSection, (richSections_again built).2, isRich.symm⟩
  refine projectContent_eq_ok notDeck (fun isStudent => ?_) (fun _ => rfl) ?_
  · rcases not_teacherOnly_of_check checked (audience.symm.trans isStudent) with
      ⟨cleanMetadata, cleanPayload⟩
    rw [isRich] at cleanPayload
    apply studentContent_of_clean valid (by rw [isRich]; nofun) cleanMetadata
    unfold richContentSections
    rw [forall_mem_map]
    exact fun part mem => sectionOf_clean (richSections_clean cleanPayload part mem)
  · change (if document.artifactType.isAssessment = true then _ else _) = _
    rw [notAssessment]
    exact payload

/-! ## Assessments -/

/-- A value `_student_value` has gone over, with the keys of a Python dict. -/
structure Settled (value : Json) : Prop where
  kept : studentValue value = value
  distinct : value.KeysDistinct

theorem settled_studentMembers (distinct : (Json.obj members).KeysDistinct) :
    Settled (.obj (studentMembers members)) where
  kept := congrArg Json.obj (studentMembers_idempotent members)
  distinct := keysDistinct_studentValue (.obj members) distinct

theorem Settled.of_mem (settled : Settled (.obj members)) (isMember : (key, value) ∈ members) :
    key ∉ forbiddenKeys ∧ Settled value := by
  have kept : studentMembers members = members := Json.obj.inj settled.kept
  have isKept := isMember
  rw [← kept] at isKept
  rcases mem_studentMembers.mp isKept with ⟨allowed, source, _, rfl⟩
  exact ⟨allowed, studentValue_idempotent source,
    Json.membersKeysDistinct_iff.mp settled.distinct.2 _ isMember⟩

theorem Settled.of_get? (settled : Settled (.obj members)) (found : members.get? key = some value) :
    Settled value :=
  (settled.of_mem (JsonObject.mem_of_get? found)).2

theorem Settled.of_item {items : List Json} (settled : Settled (.arr items)) {item : Json}
    (isItem : item ∈ items) : Settled item := by
  have kept : studentItems items = items := Json.arr.inj settled.kept
  have isKept := isItem
  rw [← kept, studentItems_eq_map] at isKept
  rcases mem_map.mp isKept with ⟨source, _, rfl⟩
  exact ⟨studentValue_idempotent source,
    Json.itemsKeysDistinct_iff.mp settled.distinct _ isItem⟩

theorem settled_questionCard {part card : JsonObject} (settled : Settled (.obj part))
    (isCard : card ∈ questionCards part) : Settled (.obj card) := by
  rcases mem_filterMap.mp isCard with ⟨component, isComponent, chosen⟩
  have isObject : component = .obj card := by
    cases component with
    | obj members =>
      simp only at chosen
      split at chosen
      · cases chosen
        rfl
      · cases chosen
    | null | bool _ | int _ | float _ | str _ | arr _ => cases chosen
  unfold sectionComponents at isComponent
  split at isComponent
  · next components found =>
    exact isObject ▸ (settled.of_get? found).of_item isComponent
  · cases isComponent

/-- The option identifiers of a question from a student section are the keys of
a dict the student may see. -/
theorem optionIds_of_questionFromCard {card : JsonObject} {question : AssessmentQuestion}
    (settled : Settled (.obj card)) (made : questionFromCard card = .ok question) :
    (question.options.map AssessmentOption.entityId).Nodup ∧
      ∀ option ∈ question.options, option.entityId ∉ forbiddenKeys := by
  rcases (questionOf_of_questionFromCard made).options with ⟨options, found, ids⟩
  have settledOptions := settled.of_get? found
  refine ⟨ids ▸ settledOptions.distinct.1, fun option mem => ?_⟩
  have isKey : option.entityId ∈ options.map Prod.fst :=
    ids ▸ mem_map_of_mem mem
  rcases mem_map.mp isKey with ⟨⟨key, value⟩, isMember, rfl⟩
  exact (settledOptions.of_mem isMember).1

/-- The section of the content of an assessment. -/
def questionsSection (questions : List AssessmentQuestion) : JsonObject :=
  [("title", .str "Questions"),
    ("components", .arr (questions.map fun question => .obj (cardOfQuestion question)))]

theorem questionCards_questionsSection (questions : List AssessmentQuestion) :
    questionCards (questionsSection questions) = questions.map cardOfQuestion := by
  change (questions.map fun question => Json.obj (cardOfQuestion question)).filterMap _ = _
  rw [filterMap_map]
  induction questions with
  | nil => rfl
  | cons question rest ih =>
    have isCard : isQuestionCard (cardOfQuestion question) = true := rfl
    rw [map_cons, ← ih, filterMap_cons]
    simp only [Function.comp_apply, isCard, if_true]

theorem isTextDict_dictOf (options : List AssessmentOption) :
    Check.isTextDict (.obj (dictOf (options.map fun option =>
      (option.entityId, .str option.text)))) = true := by
  refine all_eq_true.mpr (List.foldlRecOn (motive := fun (dict : JsonObject) =>
    ∀ member ∈ dict, Check.isText member.2 = true) _ _ (forall_mem_nil _) ?_)
  intro dict isText added isAdded member isMember
  rcases mem_set isMember with stored | rfl
  · exact isText member stored
  · rcases mem_map.mp isAdded with ⟨option, _, rfl⟩
    rfl

theorem acceptsEntry_cardOfQuestion (question : AssessmentQuestion) :
    acceptsEntry coercions (.obj (cardOfQuestion question)) = true := by
  have isType : (cardOfQuestion question).get? "type" = some (.str "question_card") := rfl
  have variant : (variants coercions).lookup "question_card" =
      some (questionCard coercions) := rfl
  have isModel : Check.isModel (questionCard coercions)
      (.obj (cardOfQuestion question)) = true := by
    have isDict := isTextDict_dictOf question.options
    unfold cardOfQuestion
    simp [questionCard, JsonObject.get?, List.lookup_cons, Check.isModel,
      Check.Field.accepts, isIntOrText, Check.text, Check.isText, Check.optionalText,
      Check.defaultText, isDict]
  have accepted : contentComponent coercions (cardOfQuestion question) = true := by
    simp only [contentComponent, isType, variant, isModel]
  simp only [acceptsEntry, accepted, Bool.or_true]

theorem cardOfQuestion_clean {question : AssessmentQuestion}
    (distinct : (question.options.map AssessmentOption.entityId).Nodup)
    (allowed : ∀ option ∈ question.options, option.entityId ∉ forbiddenKeys) :
    studentValue (.obj (cardOfQuestion question)) = .obj (cardOfQuestion question) := by
  have options : studentMembers (question.options.map fun option =>
      (option.entityId, Json.str option.text)) =
      question.options.map fun option => (option.entityId, Json.str option.text) := by
    apply studentMembers_eq_self
    rw [forall_mem_map]
    exact fun option mem => ⟨allowed option mem, rfl⟩
  unfold cardOfQuestion
  rw [options_cardOfQuestion distinct]
  simp [studentValue, studentMembers, forbiddenKeys, options]

/-- What the questions of an assessment need to be read back. -/
structure Readable (questions : List AssessmentQuestion) : Prop where
  valid : ∀ question ∈ questions, assessmentQuestion.Valid question
  distinct : ∀ question ∈ questions, (question.options.map AssessmentOption.entityId).Nodup
  allowed : ∀ question ∈ questions, ∀ option ∈ question.options,
    option.entityId ∉ forbiddenKeys

variable {questions : List AssessmentQuestion}

theorem readable_of_questionFromCard {sections : List JsonObject}
    (settled : ∀ part ∈ sections, Settled (.obj part))
    (made : List.Forall₂ (fun card question => questionFromCard card = .ok question)
      (sections.flatMap questionCards) questions) : Readable questions := by
  have each : ∀ question ∈ questions, ∃ card, Settled (.obj card) ∧
      questionFromCard card = .ok question := by
    intro question mem
    rcases exists_left_of_forall₂ made mem with ⟨card, isCard, isMade⟩
    rcases mem_flatMap.mp isCard with ⟨part, isPart, isCard⟩
    exact ⟨card, settled_questionCard (settled part isPart) isCard, isMade⟩
  refine ⟨?_, ?_, ?_⟩
  · intro question mem
    rcases each question mem with ⟨_, _, isMade⟩
    exact (questionOf_of_questionFromCard isMade).valid
  · intro question mem
    rcases each question mem with ⟨_, isSettled, isMade⟩
    exact (optionIds_of_questionFromCard isSettled isMade).1
  · intro question mem
    rcases each question mem with ⟨_, isSettled, isMade⟩
    exact (optionIds_of_questionFromCard isSettled isMade).2

theorem questionsContent_valid (ranges : DocumentRanges document) :
    (artifactContent coercions).Valid
      (contentOf coercions document [questionsSection questions]) := by
  refine artifactContent_valid_iff.mpr ⟨⟨ranges.title, Nat.le_refl 1⟩, if_pos ?_⟩
  change ((questions.map fun question => Json.obj (cardOfQuestion question)).all
    (acceptsEntry coercions) && true) = true
  rw [Bool.and_true, all_map, all_eq_true]
  exact fun question _ => acceptsEntry_cardOfQuestion question

theorem questionsSection_clean (readable : Readable questions) :
    studentMembers (questionsSection questions) = questionsSection questions := by
  have items : studentItems (questions.map fun question => .obj (cardOfQuestion question)) =
      questions.map fun question => .obj (cardOfQuestion question) := by
    rw [studentItems_eq_map, map_map]
    apply map_congr_left
    exact fun question mem => cardOfQuestion_clean (readable.distinct question mem)
      (readable.allowed question mem)
  simp [questionsSection, studentMembers, studentValue, forbiddenKeys, items]

theorem projectContent_assessment (ranges : DocumentRanges document)
    (checked : document.check coercions = .ok ()) (isStudent : document.audience = .student)
    (isAssessment : document.artifactType.isAssessment = true) (someQuestion : questions ≠ [])
    (readable : Readable questions) (isPayload : document.payload =
      { payloadKind := .assessmentDocument, questions := some questions }) :
    projectContent coercions printable
        (contentOf coercions document [questionsSection questions]) =
      .ok (contentOf coercions document [questionsSection questions], document.payload) := by
  have valid : (artifactContent coercions).Valid
      (contentOf coercions document [questionsSection questions]) :=
    questionsContent_valid ranges
  have notDeck : document.artifactType ≠ .slideDeck := by
    intro isDeck
    rw [isDeck] at isAssessment
    cases isAssessment
  have again : List.Forall₂ (fun card question => questionFromCard card = .ok question)
      ([questionsSection questions].flatMap questionCards) questions := by
    rw [flatMap_singleton, questionCards_questionsSection]
    exact forall₂_map_of_mem fun question mem =>
      questionFromCard_cardOfQuestion (readable.valid question mem)
        (readable.distinct question mem)
  refine projectContent_eq_ok notDeck (fun _ => ?_) (fun _ => rfl) ?_
  · apply studentContent_of_clean valid (by rw [isPayload]; nofun)
      (not_teacherOnly_of_check checked isStudent).1
    rw [forall_mem_singleton]
    exact questionsSection_clean readable
  · change (if document.artifactType.isAssessment = true then _ else _) = _
    rw [if_pos isAssessment]
    exact assessmentPayload_eq_ok.mpr ⟨questions, someQuestion, again, isPayload.symm⟩

end OhMyClass.Projection
