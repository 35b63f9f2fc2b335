import OhMyClass.Projection.Payloads

/-!
# Reading documents back

Every document a content is projected to is read back as it was stored, and
converted back to the same payload, except for the student deck of a deck with
answer-bearing interactions.
-/

namespace OhMyClass.Projection

open OhMyClass.Contracts OhMyClass.Raising

variable {coercions : Coercions} {printable : Char → Bool}

/-! ## What a content is projected to -/

/-- The ways `artifact_document_from_content` reaches its payload. -/
inductive Projected (coercions : Coercions) (printable : Char → Bool) (content : ArtifactContent) :
    ArtifactContent → ArtifactPayload → Prop
  | deck {deckData : JsonObject} {deck : SlideDeckData} :
      content.artifactType = .slideDeck →
      content.metadata.get? "slide_deck_data" = some (.obj deckData) →
      (slideDeckData coercions).decode (.obj deckData) = .ok deck →
      Projected coercions printable content
        { content with metadata := deckMetadata content.metadata .student }
        { payloadKind := .slideDeckDocument, slideDeck := some (studentSafeSlideDeck deck) }
  | assessment {questions : List AssessmentQuestion} :
      content.artifactType.isAssessment = true → questions ≠ [] →
      List.Forall₂ (fun card question => questionFromCard card = .ok question)
        ((content.sections.map studentMembers).flatMap questionCards) questions →
      Projected coercions printable content
        { content with
          metadata := studentMembers content.metadata
          sections := content.sections.map studentMembers }
        { payloadKind := .assessmentDocument, questions := some questions }
  | rich {parsed : ArtifactContent} {sections : List RichDocumentSection} :
      content.artifactType ≠ .slideDeck → content.artifactType.isAssessment = false →
      parsed.artifactType = content.artifactType → parsed.title = content.title →
      (parsed.metadata = content.metadata ∨ parsed.metadata = studentMembers content.metadata) →
      (artifactContent coercions).Valid parsed → sections ≠ [] →
      List.Forall₂ (fun part built => richSection coercions printable part = .ok built)
        (parsed.sections.zipIdx 1) sections →
      Projected coercions printable content parsed
        { payloadKind := .richDocument, richSections := some sections }

variable {content parsed : ArtifactContent}

theorem studentContent_eq_ok :
    studentContent coercions content = .ok parsed ↔
      { content with
        metadata := studentMembers content.metadata
        sections := content.sections.map studentMembers } = parsed ∧
      (artifactContent coercions).Valid parsed := by
  unfold studentContent
  rw [validated_eq_ok, Codec.decode_encode_iff]
  constructor
  · rintro ⟨rfl, valid⟩
    exact ⟨rfl, valid⟩
  · rintro ⟨rfl, valid⟩
    exact ⟨rfl, valid⟩

theorem contentAudience_eq_student :
    contentAudience content = .student ↔ content.artifactType ≠ .answerKey := by
  unfold contentAudience
  split
  · next isKey => simp [isKey]
  · next notKey => simp [notKey]

variable {payload : ArtifactPayload}

theorem assessmentPayload_eq_ok :
    assessmentPayload content = .ok payload ↔ ∃ questions, questions ≠ [] ∧
      List.Forall₂ (fun card question => questionFromCard card = .ok question)
        (content.sections.flatMap questionCards) questions ∧
      { payloadKind := .assessmentDocument, questions := some questions } = payload := by
  simp only [← mapM_eq_ok_iff]
  unfold assessmentPayload
  cases (content.sections.flatMap questionCards).mapM questionFromCard with
  | error _ => simp [bind, Except.bind]
  | ok questions =>
    cases questions with
    | nil => simp [bind, Except.bind]
    | cons first rest =>
      simp [bind, Except.bind, constructPayload_eq_ok, ArtifactPayload.check,
        ArtifactPayload.isEmpty]

theorem richPayload_eq_ok (someSection : content.sections ≠ []) :
    richPayload coercions printable content = .ok payload ↔ ∃ sections, sections ≠ [] ∧
      List.Forall₂ (fun part built => richSection coercions printable part = .ok built)
        (content.sections.zipIdx 1) sections ∧
      { payloadKind := .richDocument, richSections := some sections } = payload := by
  simp only [← mapM_eq_ok_iff]
  unfold richPayload
  cases built : (content.sections.zipIdx 1).mapM (richSection coercions printable) with
  | error _ => simp [bind, Except.bind]
  | ok sections =>
    cases sections with
    | nil =>
      have paired := mapM_eq_ok_iff.mp built
      rw [List.forall₂_nil_right_iff, List.zipIdx_eq_nil_iff] at paired
      exact absurd paired someSection
    | cons first rest =>
      simp [bind, Except.bind, constructPayload_eq_ok, ArtifactPayload.check,
        ArtifactPayload.isEmpty]

theorem sections_ne_nil_of_valid (valid : (artifactContent coercions).Valid content) :
    content.sections ≠ [] :=
  List.ne_nil_of_length_pos (artifactContent_valid_iff.mp valid).1.2

theorem projected_of_projectContent (valid : (artifactContent coercions).Valid content)
    (ret : projectContent coercions printable content = .ok (parsed, payload)) :
    Projected coercions printable content parsed payload := by
  unfold projectContent at ret
  simp only at ret
  split at ret
  · next isDeck =>
    have audience : contentAudience content = .student :=
      contentAudience_eq_student.mpr (by rw [isDeck]; nofun)
    rw [audience] at ret
    unfold slideDeckPayload at ret
    split at ret
    · next deckData found =>
      cases decoded : (slideDeckData coercions).decode (.obj deckData) with
      | error _ =>
        rw [decoded] at ret
        cases ret
      | ok deck =>
        rw [decoded] at ret
        cases ret
        exact .deck isDeck found decoded
    · cases ret
  · next notDeck =>
    by_cases isStudent : contentAudience content = .student
    · rw [if_pos isStudent] at ret
      rcases bind_eq_ok.mp ret with ⟨clean, stripped, made⟩
      rcases studentContent_eq_ok.mp stripped with ⟨rfl, cleanValid⟩
      split at made
      · next isAssessment =>
        rcases bind_eq_ok.mp made with ⟨built, assessed, final⟩
        cases final
        rcases assessmentPayload_eq_ok.mp assessed with ⟨questions, some, each, rfl⟩
        exact .assessment isAssessment some each
      · next notAssessment =>
        rcases bind_eq_ok.mp made with ⟨built, enriched, final⟩
        cases final
        rcases (richPayload_eq_ok (sections_ne_nil_of_valid cleanValid)).mp enriched with
          ⟨sections, some, each, rfl⟩
        exact .rich notDeck (Bool.eq_false_iff.mpr notAssessment) rfl rfl (.inr rfl) cleanValid some
          each
    · rw [if_neg isStudent] at ret
      have isKey : content.artifactType = .answerKey :=
        Decidable.byContradiction fun other => isStudent (contentAudience_eq_student.mpr other)
      have notAssessment : content.artifactType.isAssessment = false := by
        rw [isKey]
        rfl
      rcases bind_eq_ok.mp ret with ⟨_, same, made⟩
      cases same
      rw [notAssessment] at made
      rcases bind_eq_ok.mp made with ⟨built, enriched, final⟩
      cases final
      rcases (richPayload_eq_ok (sections_ne_nil_of_valid valid)).mp enriched with
        ⟨sections, some, each, rfl⟩
      exact .rich notDeck notAssessment rfl rfl (.inl rfl) valid some each

/-- The payload kinds of an artifact type. -/
def KindMatches (artifactType : ArtifactDocumentType) (kind : PayloadKind) : Prop :=
  ¬ (artifactType.isAssessment ∧ kind ≠ .assessmentDocument) ∧
    ¬ (artifactType = .slideDeck ∧ kind ≠ .slideDeckDocument) ∧
    ¬ (¬ artifactType.isAssessment ∧ artifactType ≠ .slideDeck ∧ kind ≠ .blockDocument ∧
      kind ≠ .richDocument)

variable {document : ArtifactDocument}

theorem check_eq_ok_iff :
    document.check coercions = .ok () ↔
      KindMatches document.artifactType document.payload.payloadKind ∧
        (document.audience = .student →
          hasTeacherOnlyMember (document.modelDump coercions) = false) := by
  unfold ArtifactDocument.check KindMatches
  simp only
  split
  · next mismatch => simp [mismatch]
  · next first =>
    split
    · next mismatch => simp [mismatch]
    · next second =>
      split
      · next mismatch => simp [mismatch]
      · next third =>
        split
        · next leak =>
          simp only [reduceCtorEq, false_iff]
          rintro ⟨_, safe⟩
          exact Bool.false_ne_true ((safe leak.1).symm.trans leak.2)
        · next safe =>
          simp only [true_iff]
          exact ⟨⟨first, second, third⟩, fun isStudent =>
            Bool.eq_false_iff.mpr fun leak => safe ⟨isStudent, leak⟩⟩

theorem not_teacherOnly_of_check (checked : document.check coercions = .ok ())
    (isStudent : document.audience = .student) :
    hasTeacherOnlyMember document.metadata = false ∧
      hasTeacherOnlyValue ((artifactPayload coercions).encode document.payload) = false := by
  have safe := (check_eq_ok_iff.mp checked).2 isStudent
  rwa [hasTeacherOnly_modelDump, Bool.or_eq_false_iff] at safe

theorem check_of_same {other : ArtifactDocument} (checked : document.check coercions = .ok ())
    (sameType : other.artifactType = document.artifactType)
    (samePayload : other.payload = document.payload)
    (sameAudience : other.audience = document.audience)
    (clean : document.audience = .student → hasTeacherOnlyMember other.metadata = false) :
    other.check coercions = .ok () := by
  refine check_eq_ok_iff.mpr ⟨?_, fun isStudent => ?_⟩
  · rw [sameType, samePayload]
    exact (check_eq_ok_iff.mp checked).1
  · rw [sameAudience] at isStudent
    rw [hasTeacherOnly_modelDump, Bool.or_eq_false_iff, samePayload]
    exact ⟨clean isStudent, (not_teacherOnly_of_check checked isStudent).2⟩

variable {member : String × Json}

theorem mem_set {members : JsonObject} {key : String} {value : Json}
    (isMember : mem ∈ members.set key value) : mem ∈ members ∨ mem = (key, value) := by
  unfold JsonObject.set at isMember
  split at isMember
  · rcases List.mem_map.mp isMember with ⟨stored, isStored, rfl⟩
    split
    · exact .inr rfl
    · exact .inl isStored
  · rcases List.mem_append.mp isMember with stored | new
    · exact .inl stored
    · exact .inr (List.mem_singleton.mp new)

theorem mem_contentMetadata (isMember : member ∈ contentMetadata coercions document) :
    (member ∈ document.metadata ∨ member = ("document_id", .str document.documentId) ∨
      member = ("document_version", .int document.version)) ∨
    member.1 = "slide_deck_data" ∧ document.payload.payloadKind = .slideDeckDocument := by
  have base {member : String × Json} (isBase : member ∈ (document.metadata.set "document_id"
      (.str document.documentId)).set "document_version" (.int document.version)) :
      member ∈ document.metadata ∨ member = ("document_id", .str document.documentId) ∨
        member = ("document_version", .int document.version) := by
    rcases mem_set isBase with inner | version
    · rcases mem_set inner with stored | documentId
      · exact .inl stored
      · exact .inr (.inl documentId)
    · exact .inr (.inr version)
  unfold contentMetadata at isMember
  split at isMember
  · next isDeck _ =>
    rcases mem_set isMember with inner | deck
    · exact .inl (base inner)
    · exact .inr ⟨congrArg Prod.fst deck, isDeck⟩
  · exact .inl (base isMember)

theorem not_teacherOnly_contentMetadata (clean : hasTeacherOnlyMember document.metadata = false)
    (isMember : member ∈ contentMetadata coercions document)
    (other : member.1 ≠ "slide_deck_data" ∨ document.payload.payloadKind ≠ .slideDeckDocument) :
    member.1 ∉ teacherOnlyKeys ∧ hasTeacherOnlyValue member.2 = false := by
  rcases mem_contentMetadata isMember with (stored | rfl | rfl) | ⟨isDeck, isKind⟩
  · exact hasTeacherOnlyMember_eq_false_iff.mp clean member stored
  · exact ⟨by simp [teacherOnlyKeys], rfl⟩
  · exact ⟨by simp [teacherOnlyKeys], rfl⟩
  · rcases other with otherKey | otherKind
    · exact absurd isDeck otherKey
    · exact absurd isKind otherKind

/-- The content a document is converted to. -/
def contentOf (coercions : Coercions) (document : ArtifactDocument) (sections : List JsonObject) :
    ArtifactContent where
  artifactType := document.artifactType
  theme := document.theme
  title := document.title
  sections := sections
  metadata := contentMetadata coercions document
  accessibility := [("language", .str document.language.text)]

theorem artifactContentFromDocument_eq_ok {sections : List JsonObject}
    (isSections : contentSections document.payload = .ok sections)
    (valid : (artifactContent coercions).Valid (contentOf coercions document sections)) :
    artifactContentFromDocument coercions document none =
      .ok (contentOf coercions document sections) := by
  unfold artifactContentFromDocument
  rw [isSections]
  exact validated_eq_ok.mpr ((artifactContent coercions).decode_encode valid)

theorem document_of_contentOf (printable : Char → Bool) (sections : List JsonObject)
    (ranges : DocumentRanges document) (checked : document.check coercions = .ok ())
    (audience : contentAudience (contentOf coercions document sections) = document.audience)
    (projects : projectContent coercions printable (contentOf coercions document sections) =
      .ok (parsed, document.payload)) (sameType : parsed.artifactType = document.artifactType)
    (sameTitle : parsed.title = document.title) (sameTheme : parsed.theme = document.theme)
    (clean : document.audience = .student → hasTeacherOnlyMember parsed.metadata = false) :
    ∃ again, artifactDocumentFromContent coercions printable
        (contentOf coercions document sections) document.documentId document.artifactId
        document.version = .ok again ∧ again.payload = document.payload := by
  refine ⟨projectedDocument parsed document.audience document.documentId document.artifactId
    document.version document.payload, ?_, rfl⟩
  unfold artifactDocumentFromContent
  rw [projects, audience]
  apply validated_eq_ok.mpr
  apply constructDocument_eq_ok.mpr
  refine ⟨⟨rfl, ?_⟩, check_of_same checked sameType rfl rfl clean⟩
  have title : (Codec.text 3 (some 200)).Valid parsed.title := sameTitle ▸ ranges.title
  have theme : (boundedText 80).Valid parsed.theme := sameTheme ▸ ranges.theme
  exact ⟨ranges.documentId, ranges.artifactId, ranges.version, title, theme, nofun, nofun⟩

/-- The two halves of the law for one document. -/
structure ReadsBack (coercions : Coercions) (printable : Char → Bool)
    (document : ArtifactDocument) : Prop where
  validates : (artifactDocument coercions).decode (.obj (document.modelDump coercions)) =
    .ok document
  converts : ∃ content again,
    artifactContentFromDocument coercions document none = .ok content ∧
    artifactDocumentFromContent coercions printable content document.documentId
      document.artifactId document.version = .ok again ∧ again.payload = document.payload

/-! ## Decks -/

variable {deck : SlideDeckData}

theorem get?_contentMetadata_deck (coercions : Coercions) (isDeck : document.payload =
      { payloadKind := .slideDeckDocument, slideDeck := some deck }) :
    (contentMetadata coercions document).get? "slide_deck_data" =
      some ((slideDeckData coercions).encode deck) := by
  unfold contentMetadata
  simp only [isDeck]
  exact JsonObject.get?_set_self _ _ _

theorem projectContent_deck {sections : List JsonObject}
    (valid : (slideDeckData coercions).Valid deck) (isType : document.artifactType = .slideDeck)
    (isDeck : document.payload =
      { payloadKind := .slideDeckDocument, slideDeck := some (studentSafeSlideDeck deck) }) :
    projectContent coercions printable (contentOf coercions document sections) =
        .ok (parsed, payload) ↔
      ¬ AnswerBearing deck ∧
        { contentOf coercions document sections with
          metadata := deckMetadata (contentMetadata coercions document) .student } = parsed ∧
        document.payload = payload := by
  have isStudent : contentAudience (contentOf coercions document sections) = .student :=
    contentAudience_eq_student.mpr (by rw [contentOf, isType]; nofun)
  have found : (contentOf coercions document sections).metadata.get? "slide_deck_data" =
      some (.obj _) := get?_contentMetadata_deck coercions isDeck
  have isSlideDeck : (contentOf coercions document sections).artifactType = .slideDeck := isType
  unfold projectContent
  simp only [isStudent]
  rw [if_pos isSlideDeck]
  unfold slideDeckPayload
  rw [found]
  constructor
  · intro ret
    rcases bind_eq_ok.mp ret with ⟨made, deckEq, final⟩
    rcases bind_eq_ok.mp deckEq with ⟨read, decoded, constructed⟩
    rcases (decode_studentSafeSlideDeck valid).mp (validated_eq_ok.mp decoded) with ⟨silent, rfl⟩
    rcases constructPayload_eq_ok.mp constructed with ⟨rfl, _⟩
    cases final
    refine ⟨silent, rfl, ?_⟩
    rw [isDeck, if_pos rfl, studentSafeSlideDeck_idempotent]
  · rintro ⟨silent, rfl, rfl⟩
    have decoded := validated_eq_ok.mpr ((decode_studentSafeSlideDeck valid).mpr ⟨silent, rfl⟩)
    refine bind_eq_ok.mpr ⟨document.payload, bind_eq_ok.mpr ⟨_, decoded, ?_⟩, rfl⟩
    rw [studentSafeSlideDeck_idempotent, isDeck]
    exact constructPayload_eq_ok.mpr ⟨rfl, rfl⟩

theorem deckContent_valid (ranges : DocumentRanges document) :
    (artifactContent coercions).Valid (contentOf coercions document
      [[("title", .str "Deck"), ("components",
        .arr [.obj [("type", .str "paragraph"), ("text", .str "Slide deck")]])]]) :=
  artifactContent_valid_iff.mpr ⟨⟨ranges.title, Nat.le_refl 1⟩, rfl⟩

theorem forall_mem_none {α : Type} {holds : α → Prop} : ∀ value ∈ (none : Option α), holds value := by
  rintro _ ⟨⟩

theorem artifactPayload_valid_deck :
    (artifactPayload coercions).Valid
        { payloadKind := .slideDeckDocument, slideDeck := some deck } ↔
      (slideDeckData coercions).Valid deck := by
  constructor
  · rintro ⟨⟨_, _, _, _, isDeck⟩, _⟩
    exact isDeck deck rfl
  · intro valid
    refine ⟨⟨rfl, nofun, nofun, nofun, ?_⟩, rfl⟩
    intro inner isDeck
    cases isDeck
    exact valid

theorem artifactPayload_valid_assessment {questions : List AssessmentQuestion}
    (someQuestion : questions ≠ [])
    (valid : ∀ question ∈ questions, assessmentQuestion.Valid question) :
    (artifactPayload coercions).Valid
      { payloadKind := .assessmentDocument, questions := some questions } := by
  refine ⟨⟨rfl, forall_mem_none, ?_, forall_mem_none, forall_mem_none⟩, ?_⟩
  · intro inner isQuestions
    cases isQuestions
    exact ⟨Nat.zero_le _, valid⟩
  · cases questions with
    | nil => exact absurd rfl someQuestion
    | cons _ _ => rfl

theorem artifactPayload_valid_rich {sections : List RichDocumentSection}
    (someSection : sections ≠ []) (valid : ∀ part ∈ sections, richDocumentSection.Valid part) :
    (artifactPayload coercions).Valid
      { payloadKind := .richDocument, richSections := some sections } := by
  refine ⟨⟨rfl, forall_mem_none, forall_mem_none, ?_, forall_mem_none⟩, ?_⟩
  · intro inner isSections
    cases isSections
    exact ⟨Nat.zero_le _, valid⟩
  · cases sections with
    | nil => exact absurd rfl someSection
    | cons _ _ => rfl

end OhMyClass.Projection
