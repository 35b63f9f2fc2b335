import Mathlib.Algebra.GroupWithZero.Nat
import OhMyClass.Contracts.SlideDeck
import OhMyClass.TeachingPack.ArtifactStatus

/-!
# Gates and translation of a deck

The content gates a deck passes, and the deck in another language.
-/

namespace OhMyClass.SlideDeckEngine

/-!
## Content gates of a slide deck

The registries, the density and shape audits and the separation of answers,
each as the verdict of its report.  A slide's purpose is read off its id.
-/

section

open OhMyClass.Contracts OhMyClass.TeachingPack

def layoutRegistry : List String :=
  ["title", "question", "content", "activity", "summary", "cover", "agenda", "objective", "hook",
    "concept", "definition", "comparison", "timeline", "process", "diagram", "worked_example",
    "guided_practice", "independent_practice", "discussion", "poll", "quiz_check", "reflection",
    "exit_ticket", "homework", "appendix"]

def blockRegistry : List String :=
  ["heading", "image", "interaction_prompt", "paragraph", "callout", "diagram"]

def interactionRegistry : List String :=
  ["reveal", "quick_check", "multiple_choice_single", "poll_prompt", "timer", "discussion_prompt",
    "short_answer", "exit_ticket", "think_pair_share"]

def validateRegistryMembership (deck : SlideDeckData) : Bool :=
  deck.slides.all fun slide =>
    layoutRegistry.contains slide.layout.1 &&
      (slide.blocks.all fun block => blockRegistry.contains block.blockType.1) &&
      slide.interactions.all fun interaction =>
        interactionRegistry.contains interaction.interactionType.1

inductive Purpose where
  | title
  | goal
  | vocabulary
  | example
  | practice
  | exit
  | optional
  deriving DecidableEq

inductive PedagogicalRole where
  | hook
  | objective
  | explain
  | model
  | guidedPractice
  | checkUnderstanding
  | independentPractice
  | recap
  | exitTicket
  deriving DecidableEq

def purposeAliases : List (List Char × Purpose) :=
  [("title".toList, .title), ("hook".toList, .title), ("goal".toList, .goal),
    ("objective".toList, .goal), ("vocabulary".toList, .vocabulary), ("vocab".toList, .vocabulary),
    ("context".toList, .vocabulary), ("example".toList, .example), ("worked".toList, .example),
    ("practice".toList, .practice), ("guided".toList, .practice), ("exit".toList, .exit)]

def requiredSpine : List Purpose :=
  [.title, .goal, .vocabulary, .example, .practice, .exit]

def roleBySpinePurpose : Purpose → Option PedagogicalRole
  | .title => some .hook
  | .goal => some .objective
  | .vocabulary => some .explain
  | .example => some .model
  | .practice => some .guidedPractice
  | .exit => some .exitTicket
  | .optional => none

def optionalRoleAliases : List (List Char × PedagogicalRole) :=
  [("independent".toList, .independentPractice), ("check".toList, .checkUnderstanding),
    ("quiz".toList, .checkUnderstanding), ("recap".toList, .recap),
    ("reflection".toList, .recap), ("review".toList, .recap)]

/-- `slide_id.removeprefix("slide-").split("-", 1)[0].lower()`. -/
def slideToken (slideId : String) : List Char :=
  (((slideId.toList.dropPrefix? "slide-".toList).getD slideId.toList).takeWhile (· ≠ '-')).flatMap
    lowerChar

/-- `_slide_purpose_token`. -/
def slidePurpose (slideId : String) : Purpose :=
  (purposeAliases.lookup (slideToken slideId)).getD .optional

/-- The purposes in turn: the first of a kind fills its place in the spine. -/
def classifyPurposes (seen : List Purpose) : List Purpose → List Purpose
  | [] => []
  | purpose :: rest =>
    if purpose ∈ requiredSpine ∧ purpose ∉ seen then
      purpose :: classifyPurposes (purpose :: seen) rest
    else
      .optional :: classifyPurposes seen rest

def classifySlidePurposes (deck : SlideDeckData) : List Purpose :=
  classifyPurposes [] (deck.slides.map fun slide => slidePurpose slide.slideId)

def assignPedagogicalRoles (deck : SlideDeckData) : List (Option PedagogicalRole) :=
  List.zipWith (fun purpose role => (roleBySpinePurpose purpose).orElse fun _ => role)
    (classifySlidePurposes deck)
    (deck.slides.map fun slide => optionalRoleAliases.lookup (slideToken slide.slideId))

/-! ## Audits -/

-- The value of a decimal digit; Python knows those of every script.
variable (decimal : Char → Option Nat)

/-- `_grade_number`: the first digits of a text. -/
def gradeNumber (gradeLevel : String) : Option Nat :=
  match ((gradeLevel.toList.map decimal).dropWhile Option.isNone).takeWhile Option.isSome with
  | [] => none
  | digits => some ((digits.filterMap id).foldl (fun number digit => 10 * number + digit) 0)

/-- `_optional_slide_budget` without constraints of the teacher. -/
def optionalSlideBudget (gradeLevel : String) : Nat :=
  match gradeNumber decimal gradeLevel with
  | some grade => if 6 ≤ grade then 1 else 0
  | none => 0

def evaluateDeckShape (deck : SlideDeckData) (gradeLevel : String) : Bool :=
  let purposes := classifySlidePurposes deck
  (requiredSpine.all purposes.contains) &&
    purposes.count .optional ≤ optionalSlideBudget decimal gradeLevel

structure PurposeDensityRule where
  minBlocks : Nat
  minTotalChars : Nat
  maxTotalChars : Nat
  requiresInteraction : Bool := false

def roleDensityRule : Option PedagogicalRole → PurposeDensityRule
  | some .hook => ⟨1, 15, 500, false⟩
  | some .objective | some .explain | some .model => ⟨2, 60, 900, false⟩
  | some .guidedPractice | some .checkUnderstanding | some .independentPractice =>
    ⟨1, 15, 900, true⟩
  | some .recap => ⟨1, 30, 900, false⟩
  | some .exitTicket => ⟨1, 40, 900, false⟩
  | none => ⟨1, 30, 900, false⟩

/-- Whether a slide meets the rule of its role. -/
def PurposeDensityRule.admits (rule : PurposeDensityRule) (slide : SlideDeckSlide) : Bool :=
  let totalChars := (slide.blocks.map fun block => block.body.length).sum
  decide (rule.minBlocks ≤ slide.blocks.length) && decide (rule.minTotalChars ≤ totalChars) &&
    decide (totalChars ≤ rule.maxTotalChars) &&
    !(rule.requiresInteraction && slide.interactions.isEmpty)

def evaluatePurposeDensity (deck : SlideDeckData) : Bool :=
  (List.zipWith (fun slide role => (roleDensityRule role).admits slide) deck.slides
    (assignPedagogicalRoles deck)).all id

/-- `PageCountPolicy(min_slides=6, max_slides=12)`. -/
def pageCountPolicy (deck : SlideDeckData) : Bool :=
  decide (6 ≤ deck.slides.length) && decide (deck.slides.length ≤ 12)

/-- `DensityBudgetPolicy(max_blocks_per_slide=4, max_interactions_per_slide=2)`. -/
def densityBudgetPolicy (deck : SlideDeckData) : Bool :=
  deck.slides.all fun slide =>
    decide (slide.blocks.length ≤ 4) && decide (slide.interactions.length ≤ 2)

def checkAltText (deck : SlideDeckData) : Bool :=
  (deck.slides.all fun slide => slide.blocks.all fun block =>
    block.media.all fun media => strip media.altText.toList != []) &&
    deck.accessibility.altTextRequired && deck.accessibility.keyboardNavigation

def auditDensityAndAccessibility (deck : SlideDeckData) (gradeLevel : String) : Bool :=
  pageCountPolicy deck && densityBudgetPolicy deck && evaluateDeckShape decimal deck gradeLevel &&
    evaluatePurposeDensity deck && checkAltText deck

def validateTeacherOnlySeparation (deck : SlideDeckData) : Bool :=
  deck.slides.all fun slide => slide.interactions.all fun interaction =>
    !(interaction.answerBearing && interaction.teacherOnly.isNone)

def passesContentGates (deck : SlideDeckData) : Bool :=
  validateRegistryMembership deck &&
    auditDensityAndAccessibility decimal deck deck.accessibility.readingLevel &&
    validateTeacherOnlySeparation deck

end

/-!
## Translation of a deck

The texts of a deck under flat keys, the deck rebuilt with their translations,
and the fallback to the source texts.
-/

section

open OhMyClass.Contracts

abbrev Translations := String → Option String

/-- `_translated`: an empty translation is none. -/
def translated (translations : Translations) (key original : String) : String :=
  match translations key with
  | some value => if value = "" then original else value
  | none => original

def interactionPrefix (interaction : SlideDeckInteraction) : String :=
  "interaction." ++ interaction.interactionId

def notesPrefix (slide : SlideDeckSlide) : String :=
  "slide." ++ slide.slideId ++ ".teacher_notes"

def titleKey (slide : SlideDeckSlide) : String :=
  "slide." ++ slide.slideId ++ ".title"

def bodyKey (block : SlideDeckBlock) : String :=
  "block." ++ block.blockId ++ ".body"

def promptKey (interaction : SlideDeckInteraction) : String :=
  interactionPrefix interaction ++ ".prompt"

def noJsFallbackKey (interaction : SlideDeckInteraction) : String :=
  interactionPrefix interaction ++ ".no_js_fallback"

def accessibilityLabelKey (interaction : SlideDeckInteraction) : String :=
  interactionPrefix interaction ++ ".accessibility_label"

def optionKey (interaction : SlideDeckInteraction) (option : SlideDeckInteractionOption) :
    String :=
  interactionPrefix interaction ++ ".option." ++ option.optionId

def rationaleKey (interaction : SlideDeckInteraction) : String :=
  interactionPrefix interaction ++ ".teacher_only.rationale"

def acceptableAnswerKey (interaction : SlideDeckInteraction) (index : Nat) : String :=
  interactionPrefix interaction ++ ".teacher_only.acceptable_answer." ++ toString index

def facilitationKey (slide : SlideDeckSlide) (index : Nat) : String :=
  notesPrefix slide ++ ".facilitation." ++ toString index

def answerKeyKey (slide : SlideDeckSlide) (index : Nat) : String :=
  notesPrefix slide ++ ".answer_key." ++ toString index

abbrev KeyedText := String × String

/-- The texts of a list under numbered keys. -/
def numbered (key : Nat → String) (texts : List String) : List KeyedText :=
  texts.mapIdx fun index text => (key index, text)

def interactionTexts (interaction : SlideDeckInteraction) : List KeyedText :=
  [(promptKey interaction, interaction.prompt),
    (noJsFallbackKey interaction, interaction.noJsFallback),
    (accessibilityLabelKey interaction, interaction.accessibilityLabel)] ++
  (interaction.options.map fun option => (optionKey interaction option, option.label)) ++
  match interaction.teacherOnly with
  | none => []
  | some teacherOnly =>
    (rationaleKey interaction, teacherOnly.rationale) ::
      numbered (acceptableAnswerKey interaction) teacherOnly.acceptableAnswers

def slideTexts (slide : SlideDeckSlide) : List KeyedText :=
  (titleKey slide, slide.title) ::
    (slide.blocks.map fun block => (bodyKey block, block.body)) ++
    slide.interactions.flatMap interactionTexts ++
    match slide.teacherNotes with
    | none => []
    | some notes =>
      numbered (facilitationKey slide) notes.facilitationNotes ++
        numbered (answerKeyKey slide) notes.answerKeyNotes

/-- The assignments of `_collect_translatable_texts`, in their order. -/
def deckTexts (deck : SlideDeckData) : List KeyedText :=
  ("deck.title", deck.title) :: deck.slides.flatMap slideTexts

/-- The text that is sent under a key: the last one assigned to it. -/
def collectTranslatableTexts (deck : SlideDeckData) (key : String) : Option String :=
  (deckTexts deck).reverse.lookup key

section Build

variable (translations : Translations) (targetLanguage : String)

/-- An id with the suffix of the language. -/
def suffixed (id : String) : String :=
  id ++ "-" ++ targetLanguage

def buildBlock (block : SlideDeckBlock) : SlideDeckBlock :=
  { block with
    blockId := suffixed targetLanguage block.blockId
    body := translated translations (bodyKey block) block.body }

def buildTeacherOnly (interaction : SlideDeckInteraction)
    (teacherOnly : SlideDeckInteractionTeacherOnly) : SlideDeckInteractionTeacherOnly :=
  { teacherOnly with
    rationale := translated translations (rationaleKey interaction) teacherOnly.rationale
    acceptableAnswers := teacherOnly.acceptableAnswers.mapIdx fun index answer =>
      translated translations (acceptableAnswerKey interaction index) answer }

def buildInteraction (interaction : SlideDeckInteraction) : SlideDeckInteraction :=
  { interaction with
    interactionId := suffixed targetLanguage interaction.interactionId
    prompt := translated translations (promptKey interaction) interaction.prompt
    noJsFallback := translated translations (noJsFallbackKey interaction) interaction.noJsFallback
    accessibilityLabel :=
      translated translations (accessibilityLabelKey interaction) interaction.accessibilityLabel
    options := interaction.options.map fun option =>
      { option with label := translated translations (optionKey interaction option) option.label }
    teacherOnly := interaction.teacherOnly.map (buildTeacherOnly translations interaction) }

def buildNotes (slide : SlideDeckSlide) (notes : SlideDeckTeacherOnly) : SlideDeckTeacherOnly where
  facilitationNotes := notes.facilitationNotes.mapIdx fun index note =>
    translated translations (facilitationKey slide index) note
  answerKeyNotes := notes.answerKeyNotes.mapIdx fun index note =>
    translated translations (answerKeyKey slide index) note

def buildSlide (slide : SlideDeckSlide) : SlideDeckSlide :=
  { slide with
    slideId := suffixed targetLanguage slide.slideId
    title := translated translations (titleKey slide) slide.title
    blocks := slide.blocks.map (buildBlock translations targetLanguage)
    interactions := slide.interactions.map (buildInteraction translations targetLanguage)
    teacherNotes := slide.teacherNotes.map (buildNotes translations slide) }

/-- The edited dump of `_build_deck`, before it is validated. -/
def editedDeck (deck : SlideDeckData) (sourceSnapshotId : String) : SlideDeckData :=
  { deck with
    deckId := suffixed targetLanguage deck.deckId
    title := translated translations "deck.title" deck.title
    locale := targetLanguage
    accessibility := { deck.accessibility with language := targetLanguage }
    lineage := some { remixOfSnapshotId := some sourceSnapshotId }
    slides := deck.slides.map (buildSlide translations targetLanguage) }

def buildDeck (coercions : Coercions) (deck : SlideDeckData) (sourceSnapshotId : String) :
    Except SchemaError SlideDeckData :=
  (slideDeckData coercions).decode ((slideDeckData coercions).encode
    (editedDeck translations targetLanguage deck sourceSnapshotId))

end Build

inductive TranslationError where
  | unsupportedLanguage (targetLanguage : String)
  | validation (error : SchemaError)

def supportedTranslationLanguages : List String :=
  ["en", "vi"]

/-- The source texts. -/
def noTranslations : Translations :=
  fun _ => none

/-- `translate_slide_deck`, with the answer of the translator. -/
def translateSlideDeck (coercions : Coercions) (decimal : Char → Option Nat)
    (translations : Translations) (deck : SlideDeckData) (targetLanguage sourceSnapshotId : String) :
    Except TranslationError SlideDeckData :=
  let fallback := (buildDeck noTranslations targetLanguage coercions deck
    sourceSnapshotId).mapError .validation
  if targetLanguage ∉ supportedTranslationLanguages then
    .error (.unsupportedLanguage targetLanguage)
  else
    match buildDeck translations targetLanguage coercions deck sourceSnapshotId with
    | .error _ => fallback
    | .ok translatedDeck =>
      if passesContentGates decimal translatedDeck then .ok translatedDeck else fallback

end

end OhMyClass.SlideDeckEngine
