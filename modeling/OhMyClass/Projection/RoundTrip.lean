import OhMyClass.Projection.Sections

/-!
# The round trip of stored documents

A document that was made from a content is read back and converted back, unless
it holds the student deck of an answer-bearing deck.
-/

namespace OhMyClass.Projection

open OhMyClass.Contracts OhMyClass.Raising

variable {coercions : Coercions} {printable : Char → Bool} {document : ArtifactDocument}

theorem artifactDocument_decode_modelDump :
    (artifactDocument coercions).decode (.obj (document.modelDump coercions)) = .ok document ↔
      (artifactDocument coercions).Valid document :=
  ((artifactDocument coercions).valid_iff).symm

variable {content : ArtifactContent} {documentId artifactId : String} {version : Int}

theorem artifactDocumentFromContent_eq_ok :
    artifactDocumentFromContent coercions printable content documentId artifactId version =
        .ok document ↔
      ∃ parsed payload, projectContent coercions printable content = .ok (parsed, payload) ∧
        (document = projectedDocument parsed (contentAudience content) documentId artifactId
          version payload ∧ DocumentRanges document) ∧ document.check coercions = .ok () := by
  unfold artifactDocumentFromContent
  rw [bind_eq_ok]
  constructor
  · rintro ⟨⟨parsed, payload⟩, projected, constructed⟩
    exact ⟨parsed, payload, projected, constructDocument_eq_ok.mp (validated_eq_ok.mp constructed)⟩
  · rintro ⟨parsed, payload, projected, constructed⟩
    exact ⟨(parsed, payload), projected,
      validated_eq_ok.mpr (constructDocument_eq_ok.mpr constructed)⟩

section Kinds

variable {document : ArtifactDocument} (ranges : DocumentRanges document)
  (checked : document.check coercions = .ok ())

include ranges checked

theorem readsBack_deck {deck : SlideDeckData} (valid : (slideDeckData coercions).Valid deck)
    (isType : document.artifactType = .slideDeck) (isStudent : document.audience = .student)
    (isDeck : document.payload =
      { payloadKind := .slideDeckDocument, slideDeck := some (studentSafeSlideDeck deck) }) :
    ReadsBack coercions printable document ↔ ¬ AnswerBearing deck := by
  have stored : (artifactDocument coercions).Valid document ↔ ¬ AnswerBearing deck := by
    rw [artifactDocument_valid_iff, isDeck, artifactPayload_valid_deck,
      slideDeckData_valid_iff valid]
    simp only [ranges, checked, true_and, and_true]
  constructor
  · rintro ⟨validates, _⟩
    exact stored.mp (artifactDocument_decode_modelDump.mp validates)
  · intro silent
    refine ⟨artifactDocument_decode_modelDump.mpr (stored.mpr silent), ?_⟩
    have isSections : contentSections document.payload =
        .ok [[("title", .str "Deck"), ("components",
          .arr [.obj [("type", .str "paragraph"), ("text", .str "Slide deck")]])]] := by
      rw [isDeck]
      rfl
    have others : ∀ member ∈ (contentMetadata coercions document).filter
        (fun member => member.1 ≠ "slide_deck_data"),
        member.1 ∉ teacherOnlyKeys ∧ hasTeacherOnlyValue member.2 = false := by
      intro member isMember
      rcases List.mem_filter.mp isMember with ⟨isStored, other⟩
      exact not_teacherOnly_contentMetadata (not_teacherOnly_of_check checked isStudent).1 isStored
        (.inl (of_decide_eq_true other))
    have clean : hasTeacherOnlyMember
        (deckMetadata (contentMetadata coercions document) .student) = false := by
      have cleanOthers := hasTeacherOnlyMember_eq_false_iff.mpr others
      rw [deckMetadata, studentMembers_of_not_teacherOnly _ cleanOthers]
      exact cleanOthers
    have audience : contentAudience (contentOf coercions document
        [[("title", .str "Deck"), ("components",
          .arr [.obj [("type", .str "paragraph"), ("text", .str "Slide deck")]])]]) =
        document.audience := by
      rw [isStudent]
      exact contentAudience_eq_student.mpr (by rw [contentOf, isType]; rintro ⟨⟩)
    rcases document_of_contentOf printable _ ranges checked audience
      ((projectContent_deck valid isType isDeck).mpr ⟨silent, rfl, rfl⟩) rfl rfl rfl
      (fun _ => clean) with ⟨again, ret, same⟩
    exact ⟨_, again, artifactContentFromDocument_eq_ok isSections (deckContent_valid ranges),
      ret, same⟩

theorem readsBack_assessment {questions : List AssessmentQuestion}
    (isStudent : document.audience = .student)
    (isAssessment : document.artifactType.isAssessment = true) (someQuestion : questions ≠ [])
    (readable : Readable questions)
    (isPayload : document.payload =
      { payloadKind := .assessmentDocument, questions := some questions }) :
    ReadsBack coercions printable document := by
  have payloadValid : (artifactPayload coercions).Valid document.payload := by
    rw [isPayload]
    exact artifactPayload_valid_assessment someQuestion readable.valid
  refine ⟨artifactDocument_decode_modelDump.mpr
    (artifactDocument_valid_iff.mpr ⟨⟨ranges, payloadValid⟩, checked⟩), ?_⟩
  have isSections : contentSections document.payload = .ok [questionsSection questions] := by
    rw [isPayload]
    rfl
  have audience : contentAudience (contentOf coercions document [questionsSection questions]) =
      document.audience := by
    rw [isStudent]
    apply contentAudience_eq_student.mpr
    intro isKey
    change document.artifactType = .answerKey at isKey
    rw [isKey] at isAssessment
    cases isAssessment
  have clean : document.audience = .student →
      hasTeacherOnlyMember (contentMetadata coercions document) = false := fun _ =>
    hasTeacherOnlyMember_eq_false_iff.mpr fun mem isMember =>
      not_teacherOnly_contentMetadata (not_teacherOnly_of_check checked isStudent).1 isMember
        (.inr (by rw [isPayload]; nofun))
  rcases document_of_contentOf printable _ ranges checked audience
    (projectContent_assessment ranges checked isStudent isAssessment someQuestion readable
      isPayload) rfl rfl rfl clean with ⟨again, ret, same⟩
  exact ⟨_, again, artifactContentFromDocument_eq_ok isSections
    (questionsContent_valid ranges), ret, same⟩

theorem readsBack_rich {parsed : ArtifactContent} {sections : List RichDocumentSection}
    (audience : contentAudience (contentOf coercions document []) = document.audience)
    (notDeck : document.artifactType ≠ .slideDeck)
    (notAssessment : document.artifactType.isAssessment = false)
    (accepts : parsed.check coercions = .ok ()) (someSection : sections ≠ [])
    (isRich : document.payload = { payloadKind := .richDocument, richSections := some sections })
    (built : List.Forall₂ (fun part built => richSection coercions printable part = .ok built)
      (parsed.sections.zipIdx 1) sections) :
    ReadsBack coercions printable document := by
  have payloadValid : (artifactPayload coercions).Valid document.payload := by
    rw [isRich]
    exact artifactPayload_valid_rich someSection (richSections_again built).1
  refine ⟨artifactDocument_decode_modelDump.mpr
    (artifactDocument_valid_iff.mpr ⟨⟨ranges, payloadValid⟩, checked⟩), ?_⟩
  have isSections : contentSections document.payload = .ok (richContentSections sections) := by
    rw [isRich]
    rfl
  have clean : document.audience = .student →
      hasTeacherOnlyMember (contentMetadata coercions document) = false := fun isStudent =>
    hasTeacherOnlyMember_eq_false_iff.mpr fun mem isMember =>
      not_teacherOnly_contentMetadata (not_teacherOnly_of_check checked isStudent).1 isMember
        (.inr (by rw [isRich]; nofun))
  rcases document_of_contentOf printable (richContentSections sections) ranges checked audience
    (projectContent_rich ranges checked audience notDeck notAssessment accepts someSection isRich
      built) rfl rfl rfl clean with ⟨again, ret, same⟩
  exact ⟨_, again, artifactContentFromDocument_eq_ok isSections
    (richContent_valid ranges someSection (accepts_components accepts built)), ret, same⟩

end Kinds

/-- An `ArtifactContent` instance: it was validated, and its sections are
Python dicts. -/
structure IsInstance (coercions : Coercions) (content : ArtifactContent) : Prop where
  valid : (artifactContent coercions).Valid content
  distinct : ∀ part ∈ content.sections, (Json.obj part).KeysDistinct

/-- The content is no slide deck, or the deck it carries has no answer-bearing
interaction. -/
def SilentDeck (coercions : Coercions) (content : ArtifactContent) : Prop :=
  content.artifactType = .slideDeck → ∀ deckData deck,
    content.metadata.get? "slide_deck_data" = some (.obj deckData) →
    (slideDeckData coercions).decode (.obj deckData) = .ok deck → ¬ AnswerBearing deck

theorem readsBack_iff_silentDeck (isInstance : IsInstance coercions content)
    (ret : artifactDocumentFromContent coercions printable content documentId artifactId
      version = .ok document) :
    ReadsBack coercions printable document ↔ SilentDeck coercions content := by
  rcases artifactDocumentFromContent_eq_ok.mp ret with
    ⟨parsed, payload, projected, ⟨rfl, ranges⟩, checked⟩
  rcases projected_of_projectContent isInstance.valid projected with
    ⟨isType, found, decoded⟩ | ⟨isAssessment, someQuestion, made⟩ |
    ⟨notDeck, notAssessment, sameType, _, _, valid, someSection, built⟩
  · next deckData deck =>
    have isStudent : contentAudience content = .student :=
      contentAudience_eq_student.mpr (by rw [isType]; nofun)
    rw [readsBack_deck ranges checked ((slideDeckData coercions).valid_of_decode decoded) isType
      isStudent rfl]
    constructor
    · intro silent _ otherData other otherFound otherDecoded
      rw [found] at otherFound
      cases otherFound
      rw [decoded] at otherDecoded
      cases otherDecoded
      exact silent
    · exact fun silent => silent isType deckData deck found decoded
  · have notDeck : content.artifactType ≠ .slideDeck := by
      intro isDeck
      rw [isDeck] at isAssessment
      cases isAssessment
    have notKey : content.artifactType ≠ .answerKey := by
      intro isKey
      rw [isKey] at isAssessment
      cases isAssessment
    have readable := readable_of_questionFromCard
      (List.forall_mem_map.mpr fun part mem =>
        settled_studentMembers (isInstance.distinct part mem)) made
    exact iff_of_true (readsBack_assessment ranges checked
      (contentAudience_eq_student.mpr notKey) isAssessment someQuestion readable rfl)
      (fun isDeck => absurd isDeck notDeck)
  · have accepts := (artifactContent_valid_iff.mp valid).2
    have sameAudience : contentAudience parsed = contentAudience content := by
      unfold contentAudience
      rw [sameType]
    have parsedNotDeck : parsed.artifactType ≠ .slideDeck := by
      rw [sameType]
      exact notDeck
    have parsedNotAssessment : parsed.artifactType.isAssessment = false := by
      rw [sameType]
      exact notAssessment
    exact iff_of_true (readsBack_rich ranges checked sameAudience parsedNotDeck
      parsedNotAssessment accepts someSection rfl built) (fun isDeck => absurd isDeck notDeck)

theorem readsBack_of_decode (isInstance : IsInstance coercions content) {read : ArtifactDocument}
    (ret : artifactDocumentFromContent coercions printable content documentId artifactId
      version = .ok document)
    (decoded : (artifactDocument coercions).decode (.obj (document.modelDump coercions)) =
      .ok read) : ReadsBack coercions printable document := by
  apply (readsBack_iff_silentDeck isInstance ret).mpr
  intro isType deckData deck found isDeck
  rcases artifactDocumentFromContent_eq_ok.mp ret with
    ⟨parsed, payload, projected, ⟨rfl, _⟩, _⟩
  rcases projected_of_projectContent isInstance.valid projected with
    ⟨_, otherFound, otherDecoded⟩ | ⟨isAssessment, _⟩ | ⟨notDeck, _⟩
  · rw [found] at otherFound
    cases otherFound
    rw [isDeck] at otherDecoded
    cases otherDecoded
    have valid := (Codec.decode_encode_iff.mp decoded).2
    have deckValid := artifactPayload_valid_deck.mp (artifactDocument_valid_iff.mp valid).1.2
    exact (slideDeckData_valid_iff ((slideDeckData coercions).valid_of_decode isDeck)).mp deckValid
  · rw [isType] at isAssessment
    cases isAssessment
  · exact absurd isType notDeck

/-- A document is read back if and only if its content has no answer-bearing
deck. -/
theorem artifactDocument_readsBack_iff (content : ArtifactContent)
    (isInstance : IsInstance coercions content) (documentId artifactId : String) (version : Int)
    (document : ArtifactDocument)
    (returned : artifactDocumentFromContent coercions printable content documentId artifactId
      version = .ok document) :
    ReadsBack coercions printable document ↔ SilentDeck coercions content :=
  readsBack_iff_silentDeck isInstance returned

/-! ## A deck with a question -/

/-- Coercions that take numbers and booleans only as themselves. -/
def plainCoercions : Coercions where
  int
    | .int value => some value
    | _ => none
  bool
    | .bool value => some value
    | _ => none
  float
    | .float value => some value
    | _ => none
  number _ := 0
  int_int _ := rfl
  bool_bool _ := rfl
  float_float _ := rfl

def quizInteraction : SlideDeckInteraction where
  interactionId := "check-1"
  interactionType := ⟨"quick_check", by decide⟩
  prompt := "What is 2 + 2?"
  answerBearing := true
  options := []
  teacherOnly := some
    { separation := ⟨"teacher_only_projection", by decide⟩
      correctOptionIds := []
      acceptableAnswers := ["4"]
      rationale := "Count on." }
  noJsFallback := "Discuss."
  accessibilityLabel := "Check"

def quizBlock : SlideDeckBlock where
  blockId := "block-1"
  blockType := ⟨"paragraph", by decide⟩
  body := "Add the numbers."
  sourceRefIds := []
  media := none
  relatedRefs := []

def quizSlide : SlideDeckSlide where
  slideId := "slide-1"
  title := "Sums"
  layout := ⟨"question", by decide⟩
  progression := { stepIndex := 1, revealPolicy := ⟨"all_at_once", by decide⟩ }
  blocks := [quizBlock]
  interactions := [quizInteraction]
  teacherNotes := none
  pedagogicalRole := none
  plannedDurationMinutes := none
  relatedRefs := []
  differentiationGuidance := []

def quizDeck : SlideDeckData where
  deckId := "deck-1"
  title := "Sums"
  locale := "en"
  theme := "default"
  surfaces :=
    { student := { mode := ⟨"presentation", by decide⟩, exportFormat := ⟨"html", by decide⟩ }
      teacher := { mode := ⟨"teacher_guide", by decide⟩, exportFormat := ⟨"html", by decide⟩ }
      print := { mode := ⟨"print", by decide⟩, exportFormat := ⟨"html", by decide⟩ } }
  sourceRefs := []
  slides := [quizSlide]
  accessibility :=
    { readingLevel := "A1"
      language := "en"
      altTextRequired := true
      keyboardNavigation := true }
  mediaPolicy :=
    { defaultTier := .packaged, onlineOptionalAllowed := false, fallbackRequired := true }
  displayPreferences := none
  lineage := none

def quizDeckContent : ArtifactContent where
  artifactType := .slideDeck
  theme := "default"
  title := "Sums"
  sections := [[("title", .str "Deck"), ("components", .arr [])]]
  metadata := [("slide_deck_data", (slideDeckData plainCoercions).encode quizDeck)]
  accessibility := []

theorem decode_quizDeck : (slideDeckData plainCoercions).decode
    ((slideDeckData plainCoercions).encode quizDeck) = .ok quizDeck := by
  rfl

theorem quizDeckContent_isInstance : IsInstance plainCoercions quizDeckContent where
  valid := artifactContent_valid_iff.mpr
    ⟨⟨Codec.text_valid_iff.mpr (by decide), Nat.le_refl 1⟩, rfl⟩
  distinct := by
    simp [quizDeckContent, Json.KeysDistinct, Json.membersKeysDistinct, Json.itemsKeysDistinct]

/-- The document of the deck; its question is still marked as answer-bearing. -/
def quizDeckDocument : ArtifactDocument :=
  projectedDocument
    { quizDeckContent with metadata := deckMetadata quizDeckContent.metadata .student }
    .student "document-1" "artifact-1" 1
    { payloadKind := .slideDeckDocument, slideDeck := some (studentSafeSlideDeck quizDeck) }

theorem quizDeckDocument_returned : artifactDocumentFromContent plainCoercions (fun _ => true)
    quizDeckContent "document-1" "artifact-1" 1 = .ok quizDeckDocument := by
  rfl

theorem quizDeck_not_readsBack : ¬ ∀ content, IsInstance plainCoercions content →
    ∀ documentId artifactId version document,
      artifactDocumentFromContent plainCoercions (fun _ => true) content documentId artifactId
        version = .ok document → ReadsBack plainCoercions (fun _ => true) document := by
  intro claim
  have readsBack := claim quizDeckContent quizDeckContent_isInstance "document-1" "artifact-1" 1
    quizDeckDocument quizDeckDocument_returned
  rcases artifactDocumentFromContent_eq_ok.mp quizDeckDocument_returned
    with ⟨_, _, _, ⟨_, ranges⟩, checked⟩
  have valid := (slideDeckData plainCoercions).valid_of_decode decode_quizDeck
  exact (readsBack_deck ranges checked valid rfl rfl rfl).mp readsBack (by decide)

theorem artifactDocument_readsBack_quizDeck :
    ReadsBack plainCoercions (fun _ => true) quizDeckDocument ↔
      SilentDeck plainCoercions quizDeckContent :=
  artifactDocument_readsBack_iff quizDeckContent quizDeckContent_isInstance "document-1"
    "artifact-1" 1 quizDeckDocument quizDeckDocument_returned

end OhMyClass.Projection
