import OhMyClass.Codec.Faithful

/-!
# Slide decks

The models of a native slide deck, with their field ranges and validators.
Copies of a model are not validated again, so that a value of these types need
not pass its own validators.
-/

namespace OhMyClass.Contracts

variable (coercions : Coercions)

/-- `Field(min_length=1, max_length=longest)`. -/
def boundedText (longest : Nat) : Codec String :=
  .text 1 (some longest)

theorem boundedText_valid_iff {longest : Nat} {text : String} :
    (boundedText longest).Valid text ↔ 1 ≤ text.length ∧ text.length ≤ longest :=
  Codec.text_valid_iff

theorem boundedText_default : (boundedText 80).Valid "default" :=
  boundedText_valid_iff.mpr (by decide)

@[simp] theorem boundedText_decode_str_eq_ok {longest : Nat} {given value : String} :
    (boundedText longest).decode (.str given) = .ok value ↔
      given = value ∧ 1 ≤ value.length ∧ value.length ≤ longest :=
  Codec.text_decode_str_eq_ok

/-! ## Sources, surfaces and media -/

structure SlideDeckSourceRef where
  sourceId : String
  title : String
  citation : String
  confidence : {text // text ∈ ["verified", "modified", "uncertain"]}

def slideDeckSourceRef : Codec SlideDeckSourceRef :=
  .model <|
    ((Fields.required "source_id" (boundedText 80)).and <|
      (Fields.required "title" (boundedText 200)).and <|
      (Fields.required "citation" (boundedText 500)).and <|
      Fields.required "confidence" (.literal _)).imap
    (fun (sourceId, title, citation, confidence) => ⟨sourceId, title, citation, confidence⟩)
    (fun ref => (ref.sourceId, ref.title, ref.citation, ref.confidence))
    (fun _ => rfl) (fun _ => rfl)

structure SlideDeckSurface where
  mode : {text // text ∈ ["presentation", "teacher_guide", "print"]}
  exportFormat : {text // text ∈ ["html"]}

def slideDeckSurface : Codec SlideDeckSurface :=
  .model <|
    ((Fields.required "mode" (.literal _)).and <|
      Fields.required "export_format" (.literal _)).imap
    (fun (mode, exportFormat) => ⟨mode, exportFormat⟩)
    (fun surface => (surface.mode, surface.exportFormat))
    (fun _ => rfl) (fun _ => rfl)

structure SlideDeckSurfaces where
  student : SlideDeckSurface
  teacher : SlideDeckSurface
  print : SlideDeckSurface

def slideDeckSurfaces : Codec SlideDeckSurfaces :=
  .model <|
    ((Fields.required "student" slideDeckSurface).and <|
      (Fields.required "teacher" slideDeckSurface).and <|
      Fields.required "print" slideDeckSurface).imap
    (fun (student, teacher, print) => ⟨student, teacher, print⟩)
    (fun surfaces => (surfaces.student, surfaces.teacher, surfaces.print))
    (fun _ => rfl) (fun _ => rfl)

structure SlideDeckProgression where
  stepIndex : Int
  revealPolicy : {text // text ∈ ["all_at_once", "progressive", "teacher_controlled"]}
  deriving DecidableEq

def slideDeckProgression : Codec SlideDeckProgression :=
  .model <|
    ((Fields.required "step_index" (.int coercions (some 1))).and <|
      Fields.required "reveal_policy" (.literal _)).imap
    (fun (stepIndex, revealPolicy) => ⟨stepIndex, revealPolicy⟩)
    (fun progression => (progression.stepIndex, progression.revealPolicy))
    (fun _ => rfl) (fun _ => rfl)

inductive MediaTier where
  | packaged
  | onlineOptional
  deriving DecidableEq

def MediaTier.text : MediaTier → String
  | packaged => "packaged"
  | onlineOptional => "online_optional"

def mediaTier : Codec MediaTier :=
  .enum [.packaged, .onlineOptional] MediaTier.text

structure SlideDeckMedia where
  mediaId : String
  mediaType : {text // text ∈ ["image", "audio", "video", "diagram"]}
  source : String
  tier : MediaTier
  altText : String
  fallbackText : Option String
  requiresNetwork : Bool
  deriving DecidableEq

def isRemoteSource (source : String) : Bool :=
  source.startsWith "http://" || source.startsWith "https://"

/-- `not self.fallback_text`. -/
def SlideDeckMedia.lacksFallback (media : SlideDeckMedia) : Prop :=
  media.fallbackText = none ∨ media.fallbackText = some ""
  deriving Decidable

/-- `_media_policy_fields_are_consistent`. -/
def SlideDeckMedia.check (media : SlideDeckMedia) : Except String Unit :=
  if media.tier = .packaged ∧ isRemoteSource media.source then
    .error "packaged media must not use unmanaged external URLs"
  else if media.tier = .onlineOptional ∧ media.requiresNetwork = false then
    .error "online_optional media must set requires_network"
  else if media.tier = .onlineOptional ∧ media.lacksFallback then
    .error "online_optional media requires fallback_text"
  else
    .ok ()

def slideDeckMedia : Codec SlideDeckMedia :=
  .checked (.model <|
    ((Fields.required "media_id" (boundedText 80)).and <|
      (Fields.required "media_type" (.literal _)).and <|
      (Fields.required "source" (boundedText 500)).and <|
      (Fields.required "tier" mediaTier).and <|
      (Fields.required "alt_text" (boundedText 500)).and <|
      (Fields.optional "fallback_text" (.nullable (.text 0 (some 500))) none Codec.nullable_valid_none).and <|
      Fields.optional "requires_network" (.bool coercions) false (Codec.bool_valid _)).imap
    (fun (mediaId, mediaType, source, tier, altText, fallbackText, requiresNetwork) =>
      ⟨mediaId, mediaType, source, tier, altText, fallbackText, requiresNetwork⟩)
    (fun media => (media.mediaId, media.mediaType, media.source, media.tier, media.altText,
      media.fallbackText, media.requiresNetwork))
    (fun _ => rfl) (fun _ => rfl)) SlideDeckMedia.check

structure SlideDeckRelatedArtifactRef where
  artifactType : {text // text ∈ ["lesson", "worksheet", "quiz", "drill", "recap",
    "flashcard_deck", "answer_key", "roadmap", "slide_deck", "exit_ticket", "reading_passage",
    "infographic", "objective", "checkpoint"]}
  artifactId : String
  relationshipLabel : String
  deriving DecidableEq

def slideDeckRelatedArtifactRef : Codec SlideDeckRelatedArtifactRef :=
  .model <|
    ((Fields.required "artifact_type" (.literal _)).and <|
      (Fields.required "artifact_id" (boundedText 80)).and <|
      Fields.required "relationship_label" (boundedText 200)).imap
    (fun (artifactType, artifactId, relationshipLabel) =>
      ⟨artifactType, artifactId, relationshipLabel⟩)
    (fun ref => (ref.artifactType, ref.artifactId, ref.relationshipLabel))
    (fun _ => rfl) (fun _ => rfl)

/-- `list[T] = Field(default_factory=list)`. -/
def listField {α : Type} (name : String) (item : Codec α) : Fields (List α) :=
  .optional name (.listOf 0 item) [] Codec.listOf_valid_nil

structure SlideDeckBlock where
  blockId : String
  blockType : {text // text ∈ ["heading", "paragraph", "image", "diagram", "callout",
    "interaction_prompt"]}
  body : String
  sourceRefIds : List String
  media : Option SlideDeckMedia
  relatedRefs : List SlideDeckRelatedArtifactRef
  deriving DecidableEq

def slideDeckBlock : Codec SlideDeckBlock :=
  .model <|
    ((Fields.required "block_id" (boundedText 80)).and <|
      (Fields.required "block_type" (.literal _)).and <|
      (Fields.required "body" (boundedText 2000)).and <|
      (listField "source_ref_ids" (.text 0 none)).and <|
      (Fields.optional "media" (.nullable (slideDeckMedia coercions)) none Codec.nullable_valid_none).and <|
      listField "related_refs" slideDeckRelatedArtifactRef).imap
    (fun (blockId, blockType, body, sourceRefIds, media, relatedRefs) =>
      ⟨blockId, blockType, body, sourceRefIds, media, relatedRefs⟩)
    (fun block => (block.blockId, block.blockType, block.body, block.sourceRefIds, block.media,
      block.relatedRefs))
    (fun _ => rfl) (fun _ => rfl)

structure SlideDeckTeacherOnly where
  facilitationNotes : List String
  answerKeyNotes : List String
  deriving DecidableEq

def slideDeckTeacherOnly : Codec SlideDeckTeacherOnly :=
  .model <|
    ((listField "facilitation_notes" (.text 0 none)).and <|
      listField "answer_key_notes" (.text 0 none)).imap
    (fun (facilitationNotes, answerKeyNotes) => ⟨facilitationNotes, answerKeyNotes⟩)
    (fun notes => (notes.facilitationNotes, notes.answerKeyNotes))
    (fun _ => rfl) (fun _ => rfl)

structure SlideDeckDifferentiationNote where
  level : String
  guidance : String
  deriving DecidableEq

def slideDeckDifferentiationNote : Codec SlideDeckDifferentiationNote :=
  .model <|
    ((Fields.required "level" (boundedText 40)).and <|
      Fields.required "guidance" (boundedText 1000)).imap
    (fun (level, guidance) => ⟨level, guidance⟩)
    (fun note => (note.level, note.guidance))
    (fun _ => rfl) (fun _ => rfl)

structure SlideDeckInteractionOption where
  optionId : String
  label : String
  deriving DecidableEq

def slideDeckInteractionOption : Codec SlideDeckInteractionOption :=
  .model <|
    ((Fields.required "option_id" (boundedText 80)).and <|
      Fields.required "label" (boundedText 500)).imap
    (fun (optionId, label) => ⟨optionId, label⟩)
    (fun option => (option.optionId, option.label))
    (fun _ => rfl) (fun _ => rfl)

structure SlideDeckInteractionTeacherOnly where
  separation : {text // text ∈ ["teacher_only_projection"]}
  correctOptionIds : List String
  acceptableAnswers : List String
  rationale : String
  deriving DecidableEq

def slideDeckInteractionTeacherOnly : Codec SlideDeckInteractionTeacherOnly :=
  .model <|
    ((Fields.required "separation" (.literal _)).and <|
      (listField "correct_option_ids" (.text 0 none)).and <|
      (listField "acceptable_answers" (.text 0 none)).and <|
      Fields.required "rationale" (boundedText 1000)).imap
    (fun (separation, correctOptionIds, acceptableAnswers, rationale) =>
      ⟨separation, correctOptionIds, acceptableAnswers, rationale⟩)
    (fun teacherOnly => (teacherOnly.separation, teacherOnly.correctOptionIds,
      teacherOnly.acceptableAnswers, teacherOnly.rationale))
    (fun _ => rfl) (fun _ => rfl)

structure SlideDeckInteraction where
  interactionId : String
  interactionType : {text // text ∈ ["reveal", "quick_check", "multiple_choice_single",
    "multiple_choice_multiple", "true_false", "short_answer", "poll", "poll_prompt", "timer",
    "discussion_prompt", "exit_ticket", "think_pair_share"]}
  prompt : String
  answerBearing : Bool
  options : List SlideDeckInteractionOption
  teacherOnly : Option SlideDeckInteractionTeacherOnly
  noJsFallback : String
  accessibilityLabel : String
  deriving DecidableEq

/-- `_answer_bearing_interactions_use_teacher_projection`. -/
def SlideDeckInteraction.check (interaction : SlideDeckInteraction) : Except String Unit :=
  if interaction.answerBearing = true ∧ interaction.teacherOnly = none then
    .error "answer-bearing interactions require teacher_only_projection metadata"
  else
    .ok ()

def slideDeckInteraction : Codec SlideDeckInteraction :=
  .checked (.model <|
    ((Fields.required "interaction_id" (boundedText 80)).and <|
      (Fields.required "interaction_type" (.literal _)).and <|
      (Fields.required "prompt" (boundedText 1000)).and <|
      (Fields.optional "answer_bearing" (.bool coercions) false (Codec.bool_valid _)).and <|
      (listField "options" slideDeckInteractionOption).and <|
      (Fields.optional "teacher_only" (.nullable slideDeckInteractionTeacherOnly) none Codec.nullable_valid_none).and <|
      (Fields.optional "no_js_fallback" (boundedText 500)
        "Use this prompt as an offline classroom discussion."
        (boundedText_valid_iff.mpr (by decide))).and <|
      Fields.optional "accessibility_label" (boundedText 200) "Slide interaction"
        (boundedText_valid_iff.mpr (by decide))).imap
    (fun (interactionId, interactionType, prompt, answerBearing, options, teacherOnly,
        noJsFallback, accessibilityLabel) =>
      ⟨interactionId, interactionType, prompt, answerBearing, options, teacherOnly, noJsFallback,
        accessibilityLabel⟩)
    (fun interaction => (interaction.interactionId, interaction.interactionType,
      interaction.prompt, interaction.answerBearing, interaction.options, interaction.teacherOnly,
      interaction.noJsFallback, interaction.accessibilityLabel))
    (fun _ => rfl) (fun _ => rfl)) SlideDeckInteraction.check

structure SlideDeckSlide where
  slideId : String
  title : String
  layout : {text // text ∈ ["title", "content", "question", "activity", "summary", "cover",
    "agenda", "objective", "hook", "concept", "definition", "comparison", "timeline", "process",
    "diagram", "worked_example", "guided_practice", "independent_practice", "discussion", "poll",
    "quiz_check", "reflection", "exit_ticket", "homework", "appendix"]}
  progression : SlideDeckProgression
  blocks : List SlideDeckBlock
  interactions : List SlideDeckInteraction
  teacherNotes : Option SlideDeckTeacherOnly
  pedagogicalRole : Option {text // text ∈ ["hook", "objective", "explain", "model",
    "guided_practice", "check_understanding", "independent_practice", "recap", "exit_ticket"]}
  plannedDurationMinutes : Option FloatLiteral
  relatedRefs : List SlideDeckRelatedArtifactRef
  differentiationGuidance : List SlideDeckDifferentiationNote
  deriving DecidableEq

/-- `_block_ids_are_unique_within_slide`. -/
def SlideDeckSlide.check (slide : SlideDeckSlide) : Except String Unit :=
  if (slide.blocks.map SlideDeckBlock.blockId).Nodup then .ok ()
  else .error ("duplicate block_id in slide " ++ slide.slideId)

def slideDeckSlide : Codec SlideDeckSlide :=
  .checked (.model <|
    ((Fields.required "slide_id" (boundedText 80)).and <|
      (Fields.required "title" (boundedText 200)).and <|
      (Fields.required "layout" (.literal _)).and <|
      (Fields.required "progression" (slideDeckProgression coercions)).and <|
      (Fields.required "blocks" (.listOf 1 (slideDeckBlock coercions))).and <|
      (listField "interactions" (slideDeckInteraction coercions)).and <|
      (Fields.optional "teacher_notes" (.nullable slideDeckTeacherOnly) none Codec.nullable_valid_none).and <|
      (Fields.optional "pedagogical_role" (.nullable (.literal _)) none Codec.nullable_valid_none).and <|
      (Fields.optional "planned_duration_minutes" (.nullable (.float coercions 0 180)) none
        Codec.nullable_valid_none).and <|
      (listField "related_refs" slideDeckRelatedArtifactRef).and <|
      listField "differentiation_guidance" slideDeckDifferentiationNote).imap
    (fun (slideId, title, layout, progression, blocks, interactions, teacherNotes,
        pedagogicalRole, plannedDurationMinutes, relatedRefs, differentiationGuidance) =>
      ⟨slideId, title, layout, progression, blocks, interactions, teacherNotes, pedagogicalRole,
        plannedDurationMinutes, relatedRefs, differentiationGuidance⟩)
    (fun slide => (slide.slideId, slide.title, slide.layout, slide.progression, slide.blocks,
      slide.interactions, slide.teacherNotes, slide.pedagogicalRole,
      slide.plannedDurationMinutes, slide.relatedRefs, slide.differentiationGuidance))
    (fun _ => rfl) (fun _ => rfl)) SlideDeckSlide.check

/-! ## Decks -/

structure SlideDeckAccessibility where
  readingLevel : String
  language : String
  altTextRequired : Bool
  keyboardNavigation : Bool

def slideDeckAccessibility : Codec SlideDeckAccessibility :=
  .model <|
    ((Fields.required "reading_level" (boundedText 80)).and <|
      (Fields.required "language" (.text 2 (some 32))).and <|
      (Fields.optional "alt_text_required" (.bool coercions) true (Codec.bool_valid _)).and <|
      Fields.optional "keyboard_navigation" (.bool coercions) true (Codec.bool_valid _)).imap
    (fun (readingLevel, language, altTextRequired, keyboardNavigation) =>
      ⟨readingLevel, language, altTextRequired, keyboardNavigation⟩)
    (fun accessibility => (accessibility.readingLevel, accessibility.language,
      accessibility.altTextRequired, accessibility.keyboardNavigation))
    (fun _ => rfl) (fun _ => rfl)

structure SlideDeckMediaPolicy where
  defaultTier : MediaTier
  onlineOptionalAllowed : Bool
  fallbackRequired : Bool

def slideDeckMediaPolicy : Codec SlideDeckMediaPolicy :=
  .model <|
    ((Fields.required "default_tier" mediaTier).and <|
      (Fields.required "online_optional_allowed" (.bool coercions)).and <|
      Fields.required "fallback_required" (.bool coercions)).imap
    (fun (defaultTier, onlineOptionalAllowed, fallbackRequired) =>
      ⟨defaultTier, onlineOptionalAllowed, fallbackRequired⟩)
    (fun policy => (policy.defaultTier, policy.onlineOptionalAllowed, policy.fallbackRequired))
    (fun _ => rfl) (fun _ => rfl)

structure SlideDeckDisplayPreferences where
  surface : {text // text ∈ ["presentation", "student", "teacher", "print", "review"]}
  printLayout : {text // text ∈ ["paged", "continuous"]}
  slidesPerPage : {number : Int // number ∈ ([1, 2, 4, 6] : List Int)}
  chrome : {text // text ∈ ["hidden", "minimal", "branded"]}

def slideDeckDisplayPreferences : Codec SlideDeckDisplayPreferences :=
  .model <|
    ((Fields.optional "surface" (.literal _) ⟨"presentation", List.mem_cons_self⟩ Codec.literal_valid).and <|
      (Fields.optional "print_layout" (.literal _) ⟨"paged", List.mem_cons_self⟩ Codec.literal_valid).and <|
      (Fields.optional "slides_per_page" (.intLiteral _) ⟨1, List.mem_cons_self⟩ Codec.intLiteral_valid).and <|
      Fields.optional "chrome" (.literal _) ⟨"hidden", List.mem_cons_self⟩ Codec.literal_valid).imap
    (fun (surface, printLayout, slidesPerPage, chrome) =>
      ⟨surface, printLayout, slidesPerPage, chrome⟩)
    (fun preferences => (preferences.surface, preferences.printLayout, preferences.slidesPerPage,
      preferences.chrome))
    (fun _ => rfl) (fun _ => rfl)

structure SlideDeckSnapshotLineage where
  remixOfSnapshotId : Option String

def slideDeckSnapshotLineage : Codec SlideDeckSnapshotLineage :=
  .model <|
    (Fields.optional "remix_of_snapshot_id" (.nullable (boundedText 120)) none Codec.nullable_valid_none).imap
    (fun remixOfSnapshotId => ⟨remixOfSnapshotId⟩)
    (fun lineage => lineage.remixOfSnapshotId)
    (fun _ => rfl) (fun _ => rfl)

structure SlideDeckData where
  deckId : String
  title : String
  locale : String
  theme : String
  surfaces : SlideDeckSurfaces
  sourceRefs : List SlideDeckSourceRef
  slides : List SlideDeckSlide
  accessibility : SlideDeckAccessibility
  mediaPolicy : SlideDeckMediaPolicy
  displayPreferences : Option SlideDeckDisplayPreferences
  lineage : Option SlideDeckSnapshotLineage

namespace SlideDeckData

/-- The media of a deck, slide by slide and block by block. -/
def media (deck : SlideDeckData) : List SlideDeckMedia :=
  deck.slides.flatMap fun slide => slide.blocks.filterMap SlideDeckBlock.media

/-- `_media_policy_matches_blocks`, for one block. -/
def checkMedia (policy : SlideDeckMediaPolicy) (media : SlideDeckMedia) : Except String Unit :=
  if policy.fallbackRequired = true ∧ media.lacksFallback ∧ media.tier = .onlineOptional then
    .error ("online media " ++ media.mediaId ++ " requires fallback_text")
  else if media.tier = .onlineOptional ∧ policy.onlineOptionalAllowed = false then
    .error ("online media " ++ media.mediaId ++ " is not allowed by media_policy")
  else
    .ok ()

/-- The four validators, in their order. -/
def check (deck : SlideDeckData) : Except String Unit := do
  if ¬ (deck.slides.map SlideDeckSlide.slideId).Nodup then
    throw "duplicate slide_id in slide deck"
  if ¬ (deck.slides.flatMap fun slide => slide.blocks.map SlideDeckBlock.blockId).Nodup then
    throw "duplicate block_id across slide deck"
  if ¬ (deck.slides.flatMap fun slide =>
      slide.interactions.map SlideDeckInteraction.interactionId).Nodup then
    throw "duplicate interaction_id across slide deck"
  deck.media.forM (checkMedia deck.mediaPolicy)

end SlideDeckData

def slideDeckData : Codec SlideDeckData :=
  .checked (.model <|
    ((Fields.required "deck_id" (boundedText 80)).and <|
      (Fields.required "title" (.text 3 (some 200))).and <|
      (Fields.required "locale" (.text 2 (some 16))).and <|
      (Fields.optional "theme" (boundedText 80) "default" boundedText_default).and <|
      (Fields.required "surfaces" slideDeckSurfaces).and <|
      (listField "source_refs" slideDeckSourceRef).and <|
      (Fields.required "slides" (.listOf 1 (slideDeckSlide coercions))).and <|
      (Fields.required "accessibility" (slideDeckAccessibility coercions)).and <|
      (Fields.required "media_policy" (slideDeckMediaPolicy coercions)).and <|
      (Fields.optional "display_preferences" (.nullable slideDeckDisplayPreferences) none
        Codec.nullable_valid_none).and <|
      Fields.optional "lineage" (.nullable slideDeckSnapshotLineage) none Codec.nullable_valid_none).imap
    (fun (deckId, title, locale, theme, surfaces, sourceRefs, slides, accessibility, mediaPolicy,
        displayPreferences, lineage) =>
      ⟨deckId, title, locale, theme, surfaces, sourceRefs, slides, accessibility, mediaPolicy,
        displayPreferences, lineage⟩)
    (fun deck => (deck.deckId, deck.title, deck.locale, deck.theme, deck.surfaces,
      deck.sourceRefs, deck.slides, deck.accessibility, deck.mediaPolicy,
      deck.displayPreferences, deck.lineage))
    (fun _ => rfl) (fun _ => rfl)) SlideDeckData.check

instance (longest : Nat) : (boundedText longest).Faithful := by
  unfold boundedText
  infer_instance

instance : slideDeckSourceRef.Faithful := by
  unfold slideDeckSourceRef
  infer_instance

instance : slideDeckSurface.Faithful := by
  unfold slideDeckSurface
  infer_instance

instance : slideDeckSurfaces.Faithful := by
  unfold slideDeckSurfaces
  infer_instance

instance : (slideDeckProgression coercions).Faithful := by
  unfold slideDeckProgression
  infer_instance

instance : mediaTier.Faithful :=
  Codec.enum_faithful fun first second same => by cases first <;> cases second <;> trivial

instance : (slideDeckMedia coercions).Faithful := by
  unfold slideDeckMedia
  infer_instance

instance : slideDeckRelatedArtifactRef.Faithful := by
  unfold slideDeckRelatedArtifactRef
  infer_instance

instance {α : Type} (name : String) (item : Codec α) [item.Faithful] :
    (listField name item).Faithful := by
  unfold listField
  infer_instance

instance : (slideDeckBlock coercions).Faithful := by
  unfold slideDeckBlock
  infer_instance

instance : slideDeckTeacherOnly.Faithful := by
  unfold slideDeckTeacherOnly
  infer_instance

instance : slideDeckDifferentiationNote.Faithful := by
  unfold slideDeckDifferentiationNote
  infer_instance

instance : slideDeckInteractionOption.Faithful := by
  unfold slideDeckInteractionOption
  infer_instance

instance : slideDeckInteractionTeacherOnly.Faithful := by
  unfold slideDeckInteractionTeacherOnly
  infer_instance

instance : (slideDeckInteraction coercions).Faithful := by
  unfold slideDeckInteraction
  infer_instance

instance : (slideDeckSlide coercions).Faithful := by
  unfold slideDeckSlide
  infer_instance

instance : (slideDeckAccessibility coercions).Faithful := by
  unfold slideDeckAccessibility
  infer_instance

instance : (slideDeckMediaPolicy coercions).Faithful := by
  unfold slideDeckMediaPolicy
  infer_instance

instance : slideDeckDisplayPreferences.Faithful := by
  unfold slideDeckDisplayPreferences
  infer_instance

instance : slideDeckSnapshotLineage.Faithful := by
  unfold slideDeckSnapshotLineage
  infer_instance

instance : (slideDeckData coercions).Faithful := by
  unfold slideDeckData
  infer_instance

end OhMyClass.Contracts
