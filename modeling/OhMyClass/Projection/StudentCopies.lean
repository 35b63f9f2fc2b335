import OhMyClass.Projection.Erasure

/-!
# Student copies

The copy of a content that students may see, which goes through a document and
back, and the contents of which there is one.
-/

namespace OhMyClass.Projection

open List OhMyClass.Contracts OhMyClass.Raising

section Copies

variable (coercions : Coercions) (printable : Char → Bool)

def studentProjection (content : ArtifactContent) (artifactId : String) :
    Except ProjectionError ArtifactContent := do
  let document ← artifactDocumentFromContent coercions printable content "student-projection"
    artifactId 1
  artifactContentFromDocument coercions document none

/-- A content as its audience sees it: answers are taken out for students. -/
def shownContent (content : ArtifactContent) : ArtifactContent :=
  if contentAudience content = .student then
    { content with
      metadata := studentMembers content.metadata
      sections := content.sections.map studentMembers }
  else content

/-- The card says what a question in its bounds says. -/
def CardFits (card : JsonObject) : Prop :=
  ∃ question, CarriesCard card question ∧ assessmentQuestion.Valid question

/-- The id and the title of the section keep their bounds, and it has components,
all of them objects, or a text. -/
structure SectionFits (part : JsonObject × Nat) : Prop where
  entityId : (boundedText 80).Valid (sectionId coercions printable part.2 part.1)
  title : (boundedText 200).Valid (sectionTitle part.2 part.1)
  components : (∃ components : List JsonObject, components ≠ [] ∧
      sectionComponents part.1 = components.map .obj) ∨
    sectionComponents part.1 = [] ∧ ∃ text, filledText (part.1.get? "content") = some text

/-- A slide deck carries a valid deck, and nothing in it or beside it is for
teachers only. -/
def DeckFits (content : ArtifactContent) : Prop :=
  ∃ deckData deck, content.metadata.get? "slide_deck_data" = some (.obj deckData) ∧
    (slideDeckData coercions).decode (.obj deckData) = .ok deck ∧
      hasTeacherOnlyMember (deckMetadata content.metadata .student) = false ∧
        hasTeacherOnlyValue ((slideDeckData coercions).encode (studentSafeSlideDeck deck)) = false

/-- An assessment has some question card, and all of them fit. -/
structure QuestionsFit (content : ArtifactContent) : Prop where
  asked : (shownContent content).sections.flatMap questionCards ≠ []
  fits : ∀ card ∈ (shownContent content).sections.flatMap questionCards, CardFits card
  hidden : hasTeacherOnlyMember (shownContent content).metadata = false

/-- The sections of any other content fit, and none shows students what is for
teachers only. -/
structure SectionsFit (content : ArtifactContent) : Prop where
  fits : ∀ part ∈ (shownContent content).sections.zipIdx 1, SectionFits coercions printable part
  hidden : contentAudience content = .student →
    hasTeacherOnlyMember (shownContent content).metadata = false ∧
      ∀ part ∈ (shownContent content).sections, hasTeacherOnlyItem (sectionComponents part) = false

/-- A content of which there is a copy. -/
structure Projectable (content : ArtifactContent) (artifactId : String) : Prop where
  artifactId : (boundedText 80).Valid artifactId
  theme : (boundedText 80).Valid content.theme
  deck : content.artifactType = .slideDeck → DeckFits coercions content
  shown : content.artifactType ≠ .slideDeck → (artifactContent coercions).Valid (shownContent content)
  questions : content.artifactType.isAssessment = true → QuestionsFit content
  sections : content.artifactType ≠ .slideDeck → content.artifactType.isAssessment = false →
    SectionsFit coercions printable content

end Copies

variable {coercions : Coercions} {printable : Char → Bool}

theorem exists_questionFromCard_iff {card : JsonObject} :
    (∃ question, questionFromCard card = .ok question) ↔ CardFits card := by
  constructor
  · rintro ⟨question, ret⟩
    exact ⟨question, carriesCard_of_questionFromCard ret,
      (questionOf_of_questionFromCard ret).valid⟩
  · rintro ⟨question, carries, valid⟩
    exact ⟨question, questionFromCard_of_says valid carries.entityId carries.prompt carries.options⟩

theorem mappableComponents_of_text {part : JsonObject} {index : Nat} {text : String}
    (unlisted : sectionComponents part = []) (filled : filledText (part.get? "content") = some text) :
    mappableComponents index part = .ok [.obj [("type", .str "paragraph"), ("text", .str text)]] := by
  unfold mappableComponents
  rw [unlisted]
  simp only [filled]

theorem exists_richSection_iff {part : JsonObject × Nat} :
    (∃ built, richSection coercions printable part = .ok built) ↔
      SectionFits coercions printable part := by
  rcases part with ⟨part, index⟩
  constructor
  · rintro ⟨built, ret⟩
    have carries := carriesSection_of_richSection ret
    rcases (components_of_richSection ret).1 with ⟨entityId, title, nonempty, _⟩
    refine ⟨carries.entityId ▸ entityId, carries.title ▸ title, ?_⟩
    rcases carries.components with listed | ⟨unlisted, _⟩
    · exact .inl ⟨built.components, ne_nil_of_length_pos nonempty, listed⟩
    · refine .inr ⟨unlisted, ?_⟩
      rcases bind_eq_ok.mp ret with ⟨components, mapped, _⟩
      unfold mappableComponents at mapped
      rw [unlisted] at mapped
      cases found : filledText (part.get? "content") with
      | none =>
        rw [found] at mapped
        cases mapped
      | some text => exact ⟨text, rfl⟩
  · rintro ⟨entityId, title, listed | ⟨unlisted, text, filled⟩⟩
    · rcases listed with ⟨components, nonempty, listed⟩
      refine ⟨⟨_, _, components⟩, richSection_of_says ⟨entityId, title, ?_⟩ rfl rfl
        (mappableComponents_of_listed listed nonempty)⟩
      exact ⟨length_pos_of_ne_nil nonempty, fun _ _ => Codec.object_valid⟩
    · refine ⟨⟨_, _, [[("type", .str "paragraph"), ("text", .str text)]]⟩, richSection_of_says
        ⟨entityId, title, ?_⟩ rfl rfl (mappableComponents_of_text unlisted filled)⟩
      exact ⟨Nat.le_refl 1, fun _ _ => Codec.object_valid⟩

variable {α β : Type}

theorem exists_forall₂_iff {relates : α → β → Prop} {items : List α} :
    (∃ results, List.Forall₂ relates items results) ↔ ∀ item ∈ items, ∃ result, relates item result := by
  induction items with
  | nil => exact iff_of_true ⟨[], .nil⟩ (forall_mem_nil _)
  | cons item rest ih =>
    rw [forall_mem_cons, ← ih]
    constructor
    · rintro ⟨_, _ | ⟨first, others⟩⟩
      exact ⟨⟨_, first⟩, _, others⟩
    · rintro ⟨⟨result, first⟩, results, others⟩
      exact ⟨result :: results, .cons first others⟩

/-! ## Documents -/

variable {content : ArtifactContent}

theorem shownContent_artifactType :
    (shownContent content).artifactType = content.artifactType := by
  unfold shownContent
  split <;> rfl

theorem shownContent_title :
    (shownContent content).title = content.title := by
  unfold shownContent
  split <;> rfl

theorem shownContent_theme :
    (shownContent content).theme = content.theme := by
  unfold shownContent
  split <;> rfl

variable {parsed : ArtifactContent} {payload : ArtifactPayload}

theorem projectContent_eq_ok_iff (valid : (artifactContent coercions).Valid content)
    (notDeck : content.artifactType ≠ .slideDeck) :
    projectContent coercions printable content = .ok (parsed, payload) ↔
      (shownContent content = parsed ∧ (artifactContent coercions).Valid parsed) ∧
        (if parsed.artifactType.isAssessment then assessmentPayload parsed
          else richPayload coercions printable parsed) = .ok payload := by
  have finished (clean : ArtifactContent) : (if clean.artifactType.isAssessment = true then
      assessmentPayload clean >>= fun payload => pure (clean, payload)
      else richPayload coercions printable clean >>= fun payload => pure (clean, payload)) =
        .ok (parsed, payload) ↔ clean = parsed ∧
      (if parsed.artifactType.isAssessment then assessmentPayload parsed
        else richPayload coercions printable parsed) = .ok payload := by
    rw [← apply_ite (fun made : Except ProjectionError ArtifactPayload =>
      made >>= fun payload => pure (clean, payload)), bind_eq_ok]
    constructor
    · rintro ⟨built, isBuilt, final⟩
      cases final
      exact ⟨rfl, isBuilt⟩
    · rintro ⟨rfl, isBuilt⟩
      exact ⟨payload, isBuilt, rfl⟩
  unfold projectContent shownContent
  rw [if_neg notDeck]
  split
  · rw [bind_eq_ok, ← studentContent_eq_ok]
    simp only [finished]
    constructor
    · rintro ⟨clean, stripped, rfl, made⟩
      exact ⟨stripped, made⟩
    · rintro ⟨stripped, made⟩
      exact ⟨parsed, stripped, rfl, made⟩
  · refine (finished content).trans (and_congr_left fun _ => ?_)
    exact ⟨fun same => ⟨same, same ▸ valid⟩, And.left⟩

theorem projectContent_deck_iff (isDeck : content.artifactType = .slideDeck) :
    projectContent coercions printable content = .ok (parsed, payload) ↔
      ∃ deckData deck, content.metadata.get? "slide_deck_data" = some (.obj deckData) ∧
        (slideDeckData coercions).decode (.obj deckData) = .ok deck ∧
        { content with metadata := deckMetadata content.metadata .student } = parsed ∧
        { payloadKind := .slideDeckDocument
          slideDeck := some (studentSafeSlideDeck deck) } = payload := by
  have audience : contentAudience content = .student :=
    contentAudience_eq_student.mpr (by rw [isDeck]; nofun)
  unfold projectContent
  simp only [audience]
  rw [if_pos isDeck, bind_eq_ok]
  constructor
  · rintro ⟨made, isMade, final⟩
    cases final
    unfold slideDeckPayload at isMade
    split at isMade
    · next deckData found =>
      rcases bind_eq_ok.mp isMade with ⟨deck, decoded, constructed⟩
      exact ⟨deckData, deck, found, validated_eq_ok.mp decoded, rfl,
        (constructPayload_eq_ok.mp constructed).1⟩
    · cases isMade
  · rintro ⟨deckData, deck, found, decoded, rfl, rfl⟩
    refine ⟨_, ?_, rfl⟩
    unfold slideDeckPayload
    rw [found]
    exact bind_eq_ok.mpr ⟨deck, validated_eq_ok.mpr decoded,
      constructPayload_eq_ok.mpr ⟨rfl, rfl⟩⟩

theorem forall_mem_iff_of_forall₂ {relates : α → β → Prop} {holds : α → Prop} {holdsOf : β → Prop}
    {items : List α} {results : List β} (each : List.Forall₂ relates items results)
    (same : ∀ item result, relates item result → (holds item ↔ holdsOf result)) :
    (∀ item ∈ items, holds item) ↔ ∀ result ∈ results, holdsOf result := by
  induction each with
  | nil => exact iff_of_true (forall_mem_nil _) (forall_mem_nil _)
  | cons first _ ih => rw [forall_mem_cons, forall_mem_cons, ih, same _ _ first]

theorem forall_mem_zipIdx_iff {holds : α → Prop} {items : List α} {start : Nat} :
    (∀ item ∈ items.zipIdx start, holds item.1) ↔ ∀ item ∈ items, holds item := by
  rw [← forall_mem_map, zipIdx_map_fst]

theorem hasTeacherOnlyItem_carriesSection {part : JsonObject × Nat} {built : RichDocumentSection}
    (carried : CarriesSection coercions printable part built) :
    hasTeacherOnlyItem (sectionComponents part.1) = hasTeacherOnlyItem (built.components.map .obj) := by
  rcases carried.components with listed | ⟨unlisted, text, _, paragraph⟩
  · rw [listed]
  · rw [unlisted, paragraph]
    rfl

theorem deck_clean_iff {deck : SlideDeckData} :
    hasTeacherOnlyValue ((artifactPayload coercions).encode
      { payloadKind := .slideDeckDocument, slideDeck := some deck }) = false ↔
      hasTeacherOnlyValue ((slideDeckData coercions).encode deck) = false := by
  have encoded : (artifactPayload coercions).encode
      { payloadKind := .slideDeckDocument, slideDeck := some deck } =
      .obj [("payload_kind", .str "slide_deck_document"), ("sections", .null),
        ("questions", .null), ("rich_sections", .null),
        ("slide_deck", (slideDeckData coercions).encode deck)] := rfl
  simp [encoded, hasTeacherOnlyValue, hasTeacherOnlyMember, teacherOnlyKeys]

/-! ## Documents there are -/

section Documents

variable {content : ArtifactContent} {documentId artifactId : String} {version : Int}

/-- What the projected content keeps, and the payload it comes with. -/
structure Keeps (content parsed : ArtifactContent) (payload : ArtifactPayload) : Prop where
  artifactType : parsed.artifactType = content.artifactType
  title : parsed.title = content.title
  theme : parsed.theme = content.theme
  kind : KindMatches content.artifactType payload.payloadKind

theorem keeps_of_projectContent (valid : (artifactContent coercions).Valid content)
    {parsed : ArtifactContent} {payload : ArtifactPayload}
    (projected : projectContent coercions printable content = .ok (parsed, payload)) :
    Keeps content parsed payload := by
  by_cases isDeck : content.artifactType = .slideDeck
  · rcases (projectContent_deck_iff isDeck).mp projected with ⟨_, _, _, _, rfl, rfl⟩
    exact ⟨rfl, rfl, rfl, by simp [KindMatches, isDeck, ArtifactDocumentType.isAssessment]⟩
  · rcases (projectContent_eq_ok_iff valid isDeck).mp projected with ⟨⟨rfl, isValid⟩, made⟩
    refine ⟨shownContent_artifactType, shownContent_title, shownContent_theme, ?_⟩
    rw [shownContent_artifactType] at made
    cases isAssessment : content.artifactType.isAssessment with
    | true =>
      rw [isAssessment] at made
      rcases assessmentPayload_eq_ok.mp made with ⟨_, _, _, rfl⟩
      simp [KindMatches, isAssessment, isDeck]
    | false =>
      rw [isAssessment] at made
      rcases (richPayload_eq_ok (sections_ne_nil_of_valid isValid)).mp made with ⟨_, _, _, rfl⟩
      simp [KindMatches, isAssessment, isDeck]

/-- A document takes over what is projected, if its own fields keep their bounds
and students are not shown what is for teachers only. -/
theorem exists_document_iff (valid : (artifactContent coercions).Valid content)
    (validDocumentId : (boundedText 80).Valid documentId) (positive : 1 ≤ version) :
    (∃ document, artifactDocumentFromContent coercions printable content documentId artifactId
        version = .ok document) ↔
      ((boundedText 80).Valid artifactId ∧ (boundedText 80).Valid content.theme) ∧
        ∃ parsed payload, projectContent coercions printable content = .ok (parsed, payload) ∧
          (contentAudience content = .student → hasTeacherOnlyMember parsed.metadata = false ∧
            hasTeacherOnlyValue ((artifactPayload coercions).encode payload) = false) := by
  have title := (artifactContent_valid_iff.mp valid).1.1
  constructor
  · rintro ⟨document, ret⟩
    rcases artifactDocumentFromContent_eq_ok.mp ret with
      ⟨parsed, payload, projected, ⟨rfl, ranges⟩, checked⟩
    have theme : (boundedText 80).Valid parsed.theme := ranges.theme
    rw [(keeps_of_projectContent valid projected).theme] at theme
    exact ⟨⟨ranges.artifactId, theme⟩, parsed, payload, projected, not_teacherOnly_of_check checked⟩
  · rintro ⟨⟨validArtifactId, theme⟩, parsed, payload, projected, clean⟩
    have kept := keeps_of_projectContent valid projected
    rw [← kept.title] at title
    rw [← kept.theme] at theme
    refine ⟨_, artifactDocumentFromContent_eq_ok.mpr ⟨parsed, payload, projected, ⟨rfl,
      validDocumentId, validArtifactId, positive, title, theme, forall_mem_none, forall_mem_none⟩,
      check_eq_ok_iff.mpr ⟨?_, fun isStudent => ?_⟩⟩⟩
    · change KindMatches parsed.artifactType payload.payloadKind
      rw [kept.artifactType]
      exact kept.kind
    · rw [hasTeacherOnly_modelDump, Bool.or_eq_false_iff]
      exact clean isStudent

variable (coercions printable content) in
/-- The content is projected, and nothing in it is hidden from its audience. -/
def ShowsAll : Prop :=
  ∃ parsed payload, projectContent coercions printable content = .ok (parsed, payload) ∧
    (contentAudience content = .student → hasTeacherOnlyMember parsed.metadata = false ∧
      hasTeacherOnlyValue ((artifactPayload coercions).encode payload) = false)

theorem showsAll_deck_iff (isDeck : content.artifactType = .slideDeck) :
    ShowsAll coercions printable content ↔ DeckFits coercions content := by
  have isStudent : contentAudience content = .student :=
    contentAudience_eq_student.mpr (by rw [isDeck]; nofun)
  unfold ShowsAll
  simp only [projectContent_deck_iff isDeck]
  constructor
  · rintro ⟨_, _, ⟨deckData, deck, found, decoded, rfl, rfl⟩, clean⟩
    rcases clean isStudent with ⟨cleanMetadata, cleanPayload⟩
    exact ⟨deckData, deck, found, decoded, cleanMetadata, deck_clean_iff.mp cleanPayload⟩
  · rintro ⟨deckData, deck, found, decoded, cleanMetadata, cleanDeck⟩
    exact ⟨_, _, ⟨deckData, deck, found, decoded, rfl, rfl⟩, fun _ =>
      ⟨cleanMetadata, deck_clean_iff.mpr cleanDeck⟩⟩

section

variable (valid : (artifactContent coercions).Valid content)

include valid

theorem showsAll_questions_iff (isAssessment : content.artifactType.isAssessment = true) :
    ShowsAll coercions printable content ↔
      (artifactContent coercions).Valid (shownContent content) ∧ QuestionsFit content := by
  have notDeck : content.artifactType ≠ .slideDeck := by
    intro isDeck
    rw [isDeck] at isAssessment
    cases isAssessment
  have isStudent : contentAudience content = .student := by
    apply contentAudience_eq_student.mpr
    intro isKey
    rw [isKey] at isAssessment
    cases isAssessment
  have shownAssessment : (shownContent content).artifactType.isAssessment = true := by
    rw [shownContent_artifactType, isAssessment]
  unfold ShowsAll
  simp only [projectContent_eq_ok_iff valid notDeck]
  constructor
  · rintro ⟨_, payload, ⟨⟨rfl, isValid⟩, made⟩, clean⟩
    rw [if_pos shownAssessment] at made
    rcases assessmentPayload_eq_ok.mp made with ⟨questions, asked, each, rfl⟩
    refine ⟨isValid, ?_, ?_, (clean isStudent).1⟩
    · intro unasked
      rw [unasked, forall₂_nil_left_iff] at each
      exact asked each
    · intro card isCard
      exact exists_questionFromCard_iff.mp (exists_forall₂_iff.mp ⟨questions, each⟩ card isCard)
  · rintro ⟨isValid, asked, fits, hidden⟩
    rcases exists_forall₂_iff.mpr fun card isCard =>
      exists_questionFromCard_iff.mpr (fits card isCard) with ⟨questions, each⟩
    have made : assessmentPayload (shownContent content) =
        .ok { payloadKind := .assessmentDocument, questions := some questions } := by
      refine assessmentPayload_eq_ok.mpr ⟨questions, ?_, each, rfl⟩
      rintro rfl
      exact asked (forall₂_nil_right_iff.mp each)
    refine ⟨_, _, ⟨⟨rfl, isValid⟩, ?_⟩, fun _ => ⟨hidden, questions_clean questions⟩⟩
    rw [if_pos shownAssessment]
    exact made

theorem showsAll_sections_iff (notDeck : content.artifactType ≠ .slideDeck)
    (notAssessment : content.artifactType.isAssessment = false) :
    ShowsAll coercions printable content ↔
      (artifactContent coercions).Valid (shownContent content) ∧
        SectionsFit coercions printable content := by
  have shownOther : (shownContent content).artifactType.isAssessment = false := by
    rw [shownContent_artifactType, notAssessment]
  have same {sections : List RichDocumentSection}
      (each : List.Forall₂ (fun part built => richSection coercions printable part = .ok built)
        ((shownContent content).sections.zipIdx 1) sections) :
      (∀ part ∈ (shownContent content).sections, hasTeacherOnlyItem (sectionComponents part) = false) ↔
        ∀ built ∈ sections, hasTeacherOnlyItem (built.components.map .obj) = false := by
    refine forall_mem_zipIdx_iff.symm.trans (forall_mem_iff_of_forall₂ each ?_)
    intro part built ret
    rw [hasTeacherOnlyItem_carriesSection (carriesSection_of_richSection ret)]
  unfold ShowsAll
  simp only [projectContent_eq_ok_iff valid notDeck]
  constructor
  · rintro ⟨_, payload, ⟨⟨rfl, isValid⟩, made⟩, clean⟩
    rw [shownOther] at made
    rcases (richPayload_eq_ok (sections_ne_nil_of_valid isValid)).mp made with
      ⟨sections, _, each, rfl⟩
    refine ⟨isValid, fun part isPart => ?_, fun isStudent => ?_⟩
    · exact exists_richSection_iff.mp (exists_forall₂_iff.mp ⟨sections, each⟩ part isPart)
    · rcases clean isStudent with ⟨cleanMetadata, cleanPayload⟩
      exact ⟨cleanMetadata, (same each).mpr (richSections_clean cleanPayload)⟩
  · rintro ⟨isValid, fits, hidden⟩
    rcases exists_forall₂_iff.mpr fun part isPart =>
      exists_richSection_iff.mpr (fits part isPart) with ⟨sections, each⟩
    have someSection := sections_ne_nil_of_valid isValid
    have made : richPayload coercions printable (shownContent content) =
        .ok { payloadKind := .richDocument, richSections := some sections } := by
      refine (richPayload_eq_ok someSection).mpr ⟨sections, ?_, each, rfl⟩
      rintro rfl
      exact someSection (zipIdx_eq_nil_iff.mp (forall₂_nil_right_iff.mp each))
    refine ⟨_, _, ⟨⟨rfl, isValid⟩, ?_⟩, fun isStudent =>
      ⟨(hidden isStudent).1, sections_clean ((same each).mp (hidden isStudent).2)⟩⟩
    rw [shownOther]
    exact made

theorem exists_artifactDocumentFromContent_iff (validDocumentId : (boundedText 80).Valid documentId)
    (positive : 1 ≤ version) :
    (∃ document, artifactDocumentFromContent coercions printable content documentId artifactId
        version = .ok document) ↔ Projectable coercions printable content artifactId := by
  rw [exists_document_iff valid validDocumentId positive]
  change _ ∧ ShowsAll coercions printable content ↔ _
  by_cases isDeck : content.artifactType = .slideDeck
  · have notAssessment : content.artifactType.isAssessment = false := by
      rw [isDeck]
      rfl
    rw [showsAll_deck_iff isDeck]
    constructor
    · rintro ⟨⟨validArtifactId, theme⟩, fits⟩
      exact ⟨validArtifactId, theme, fun _ => fits, absurd isDeck,
        fun isAssessment => absurd (notAssessment.symm.trans isAssessment) Bool.false_ne_true,
        absurd isDeck⟩
    · exact fun projectable =>
        ⟨⟨projectable.artifactId, projectable.theme⟩, projectable.deck isDeck⟩
  cases isAssessment : content.artifactType.isAssessment with
  | true =>
    rw [showsAll_questions_iff valid isAssessment]
    constructor
    · rintro ⟨⟨validArtifactId, theme⟩, shown, fits⟩
      refine ⟨validArtifactId, theme, fun deck => absurd deck isDeck, fun _ => shown, fun _ => fits, ?_⟩
      exact fun _ other => absurd (isAssessment.symm.trans other) (by decide)
    · exact fun projectable => ⟨⟨projectable.artifactId, projectable.theme⟩,
        projectable.shown isDeck, projectable.questions isAssessment⟩
  | false =>
    rw [showsAll_sections_iff valid isDeck isAssessment]
    constructor
    · rintro ⟨⟨validArtifactId, theme⟩, shown, fits⟩
      refine ⟨validArtifactId, theme, fun deck => absurd deck isDeck, fun _ => shown, ?_,
        fun _ _ => fits⟩
      exact fun other => absurd (isAssessment.symm.trans other) Bool.false_ne_true
    · exact fun projectable => ⟨⟨projectable.artifactId, projectable.theme⟩,
        projectable.shown isDeck, projectable.sections isDeck isAssessment⟩

theorem exists_artifactContentFromDocument {document : ArtifactDocument}
    (ret : artifactDocumentFromContent coercions printable content documentId artifactId
      version = .ok document) :
    ∃ copy, artifactContentFromDocument coercions document none = .ok copy := by
  rcases artifactDocumentFromContent_eq_ok.mp ret with
    ⟨parsed, payload, projected, ⟨rfl, ranges⟩, _⟩
  rcases projected_of_projectContent valid projected with
    _ | ⟨_, asked, each⟩ | ⟨_, _, _, _, _, isValid, someSection, each⟩
  · exact ⟨_, artifactContentFromDocument_eq_ok rfl (deckContent_valid ranges)⟩
  · exact ⟨_, artifactContentFromDocument_eq_ok rfl (questionsContent_valid ranges)⟩
  · exact ⟨_, artifactContentFromDocument_eq_ok rfl (richContent_valid ranges someSection
      (accepts_components (artifactContent_valid_iff.mp isValid).2 each))⟩

theorem exists_studentProjection_iff :
    (∃ copy, studentProjection coercions printable content artifactId = .ok copy) ↔
      Projectable coercions printable content artifactId := by
  have validDocumentId : (boundedText 80).Valid "student-projection" :=
    boundedText_valid_iff.mpr (by decide)
  rw [← exists_artifactDocumentFromContent_iff valid validDocumentId le_rfl]
  unfold studentProjection
  simp only [bind_eq_ok]
  constructor
  · rintro ⟨_, document, ret, _⟩
    exact ⟨document, ret⟩
  · rintro ⟨document, ret⟩
    rcases exists_artifactContentFromDocument valid ret with ⟨copy, converted⟩
    exact ⟨copy, document, ret, converted⟩

end

end Documents

end OhMyClass.Projection
