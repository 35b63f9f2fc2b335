import OhMyClass.Projection.RoundTrip
import OhMyClass.SlideDeck.Translation

/-!
# Rebuilt decks

A deck with its own texts and new ids is valid as long as the ids still fit,
and passes the same gates as before.
-/

namespace OhMyClass.SlideDeckEngine

open List OhMyClass.Contracts OhMyClass.TeachingPack

variable {coercions : Coercions} {targetLanguage : String}

theorem suffixed_injective (targetLanguage : String) :
    Function.Injective (suffixed targetLanguage) := by
  intro first second same
  have lists := congrArg String.toList same
  unfold suffixed at lists
  rw [String.toList_append, String.toList_append, String.toList_append, String.toList_append] at lists
  exact String.toList_inj.mp (append_cancel_right (append_cancel_right lists))

variable {id : String}

theorem suffixed_valid_iff :
    (boundedText 80).Valid (suffixed targetLanguage id) ↔
      (suffixed targetLanguage id).length ≤ 80 := by
  have atLeast : 1 ≤ (suffixed targetLanguage id).length := by
    unfold suffixed
    rw [String.length_append, String.length_append]
    have dash : "-".length = 1 := rfl
    omega
  rw [boundedText_valid_iff]
  exact and_iff_right atLeast

section Relabel

variable (targetLanguage)

def relabelBlock (block : SlideDeckBlock) : SlideDeckBlock :=
  { block with blockId := suffixed targetLanguage block.blockId }

def relabelInteraction (interaction : SlideDeckInteraction) : SlideDeckInteraction :=
  { interaction with interactionId := suffixed targetLanguage interaction.interactionId }

def relabelSlide (slide : SlideDeckSlide) : SlideDeckSlide :=
  { slide with
    slideId := suffixed targetLanguage slide.slideId
    blocks := slide.blocks.map (relabelBlock targetLanguage)
    interactions := slide.interactions.map (relabelInteraction targetLanguage) }

/-- The deck in the target language's name: new ids and lineage, own texts. -/
def relabel (deck : SlideDeckData) (sourceSnapshotId : String) : SlideDeckData :=
  { deck with
    deckId := suffixed targetLanguage deck.deckId
    locale := targetLanguage
    accessibility := { deck.accessibility with language := targetLanguage }
    lineage := some { remixOfSnapshotId := some sourceSnapshotId }
    slides := deck.slides.map (relabelSlide targetLanguage) }

end Relabel

theorem translated_noTranslations (key original : String) :
    translated noTranslations key original = original :=
  rfl

theorem mapIdx_own (texts : List String) : texts.mapIdx (fun _ text => text) = texts :=
  ext_getElem (length_mapIdx) fun _ _ _ => getElem_mapIdx

theorem buildInteraction_noTranslations (interaction : SlideDeckInteraction) :
    buildInteraction noTranslations targetLanguage interaction =
      relabelInteraction targetLanguage interaction := by
  have teacherOnly : interaction.teacherOnly.map (buildTeacherOnly noTranslations interaction) =
      interaction.teacherOnly := by
    cases interaction.teacherOnly <;>
      simp [buildTeacherOnly, translated_noTranslations, mapIdx_own]
  simp [buildInteraction, relabelInteraction, translated_noTranslations, teacherOnly]

theorem buildSlide_noTranslations (slide : SlideDeckSlide) :
    buildSlide noTranslations targetLanguage slide = relabelSlide targetLanguage slide := by
  have notes : slide.teacherNotes.map (buildNotes noTranslations slide) = slide.teacherNotes := by
    cases slide.teacherNotes <;> simp [buildNotes, translated_noTranslations, mapIdx_own]
  simp [buildSlide, relabelSlide, buildBlock, relabelBlock, translated_noTranslations, notes,
    funext buildInteraction_noTranslations]

theorem editedDeck_noTranslations (deck : SlideDeckData) (sourceSnapshotId : String) :
    editedDeck noTranslations targetLanguage deck sourceSnapshotId =
      relabel targetLanguage deck sourceSnapshotId := by
  simp only [editedDeck, relabel, translated_noTranslations, funext buildSlide_noTranslations]

/-! ## Ids that fit -/

/-- The new ids of a slide fit their columns. -/
structure SlideFits (targetLanguage : String) (slide : SlideDeckSlide) : Prop where
  slideId : (suffixed targetLanguage slide.slideId).length ≤ 80
  blockIds : ∀ block ∈ slide.blocks, (suffixed targetLanguage block.blockId).length ≤ 80
  interactionIds : ∀ interaction ∈ slide.interactions,
    (suffixed targetLanguage interaction.interactionId).length ≤ 80

/-- The new ids of a deck and the id of its source snapshot fit. -/
structure DeckFits (targetLanguage sourceSnapshotId : String) (deck : SlideDeckData) : Prop where
  deckId : (suffixed targetLanguage deck.deckId).length ≤ 80
  slides : ∀ slide ∈ deck.slides, SlideFits targetLanguage slide
  snapshotId : 1 ≤ sourceSnapshotId.length ∧ sourceSnapshotId.length ≤ 120

variable {translations : Translations} {slide : SlideDeckSlide}

theorem slideFits_of_valid
    (valid : (slideDeckSlide coercions).Valid (buildSlide translations targetLanguage slide)) :
    SlideFits targetLanguage slide := by
  rcases valid with ⟨⟨slideId, _, _, _, blocks, interactions, _⟩, _⟩
  refine ⟨suffixed_valid_iff.mp slideId, ?_, ?_⟩
  · intro block mem
    rcases blocks.2 _ (mem_map_of_mem mem) with ⟨blockId, _⟩
    exact suffixed_valid_iff.mp blockId
  · intro interaction mem
    rcases interactions.2 _ (mem_map_of_mem mem) with ⟨⟨interactionId, _⟩, _⟩
    exact suffixed_valid_iff.mp interactionId

variable {deck : SlideDeckData} {sourceSnapshotId : String}

theorem deckFits_of_valid (valid : (slideDeckData coercions).Valid
      (editedDeck translations targetLanguage deck sourceSnapshotId)) :
    DeckFits targetLanguage sourceSnapshotId deck := by
  rcases valid with ⟨⟨deckId, _, _, _, _, _, slides, _, _, _, lineage⟩, _⟩
  refine ⟨suffixed_valid_iff.mp deckId, ?_, ?_⟩
  · intro slide mem
    exact slideFits_of_valid (slides.2 _ (mem_map_of_mem mem))
  · exact boundedText_valid_iff.mp (lineage _ rfl sourceSnapshotId rfl)

theorem block_valid_relabel {block : SlideDeckBlock} (valid : (slideDeckBlock coercions).Valid block)
    (fits : (suffixed targetLanguage block.blockId).length ≤ 80) :
    (slideDeckBlock coercions).Valid (relabelBlock targetLanguage block) :=
  ⟨suffixed_valid_iff.mpr fits, valid.2⟩

theorem interaction_valid_relabel {interaction : SlideDeckInteraction}
    (valid : (slideDeckInteraction coercions).Valid interaction)
    (fits : (suffixed targetLanguage interaction.interactionId).length ≤ 80) :
    (slideDeckInteraction coercions).Valid (relabelInteraction targetLanguage interaction) :=
  ⟨⟨suffixed_valid_iff.mpr fits, valid.1.2⟩, valid.2⟩

theorem nodup_suffixed {α : Type} {items : List α} {id : α → String} :
    (items.map fun item => suffixed targetLanguage (id item)).Nodup ↔ (items.map id).Nodup := by
  rw [← Function.comp_def (suffixed targetLanguage) id, ← map_map]
  exact nodup_map_iff (suffixed_injective targetLanguage)

theorem slide_valid_relabel (valid : (slideDeckSlide coercions).Valid slide)
    (fits : SlideFits targetLanguage slide) :
    (slideDeckSlide coercions).Valid (relabelSlide targetLanguage slide) := by
  rcases valid with ⟨⟨_, title, layout, progression, blocks, interactions, rest⟩, checked⟩
  refine ⟨⟨suffixed_valid_iff.mpr fits.slideId, title, layout, progression, ⟨?_, ?_⟩,
    ⟨Nat.zero_le _, ?_⟩, rest⟩, ?_⟩
  · change 1 ≤ (slide.blocks.map (relabelBlock targetLanguage)).length
    rw [length_map]
    exact blocks.1
  · exact forall_mem_map.mpr fun block mem =>
      block_valid_relabel (blocks.2 block mem) (fits.blockIds block mem)
  · exact forall_mem_map.mpr fun interaction mem =>
      interaction_valid_relabel (interactions.2 interaction mem)
        (fits.interactionIds interaction mem)
  · unfold SlideDeckSlide.check at checked ⊢
    split at checked
    · next distinct =>
      apply if_pos
      change ((slide.blocks.map (relabelBlock targetLanguage)).map SlideDeckBlock.blockId).Nodup
      rw [map_map]
      exact nodup_suffixed.mpr distinct
    · cases checked

theorem check_relabel (deck : SlideDeckData) (sourceSnapshotId : String) :
    (relabel targetLanguage deck sourceSnapshotId).check = deck.check := by
  have slideIds : ((deck.slides.map (relabelSlide targetLanguage)).map
      SlideDeckSlide.slideId).Nodup ↔ (deck.slides.map SlideDeckSlide.slideId).Nodup := by
    rw [map_map]
    exact nodup_suffixed
  have blockIds : ((deck.slides.map (relabelSlide targetLanguage)).flatMap fun slide =>
      slide.blocks.map SlideDeckBlock.blockId) =
      (deck.slides.flatMap fun slide => slide.blocks.map SlideDeckBlock.blockId).map
        (suffixed targetLanguage) := by
    simp [relabelSlide, relabelBlock, Function.comp_def, map_flatMap, flatMap_map]
  have interactionIds : ((deck.slides.map (relabelSlide targetLanguage)).flatMap fun slide =>
      slide.interactions.map SlideDeckInteraction.interactionId) =
      (deck.slides.flatMap fun slide =>
        slide.interactions.map SlideDeckInteraction.interactionId).map
          (suffixed targetLanguage) := by
    simp [relabelSlide, relabelInteraction, Function.comp_def, map_flatMap, flatMap_map]
  have media : (relabel targetLanguage deck sourceSnapshotId).media = deck.media := by
    simp [SlideDeckData.media, relabel, relabelSlide, relabelBlock, flatMap_map,
      filterMap_map, Function.comp_def]
  unfold SlideDeckData.check
  rw [media]
  simp only [relabel, slideIds, blockIds, interactionIds,
    nodup_map_iff (suffixed_injective targetLanguage)]

theorem supported_language (supported : targetLanguage ∈ supportedTranslationLanguages) :
    targetLanguage.length = 2 := by
  simp only [supportedTranslationLanguages, mem_cons, not_mem_nil, or_false] at supported
  rcases supported with rfl | rfl <;> rfl

theorem relabel_valid_iff (valid : (slideDeckData coercions).Valid deck)
    (supported : targetLanguage ∈ supportedTranslationLanguages) :
    (slideDeckData coercions).Valid (relabel targetLanguage deck sourceSnapshotId) ↔
      DeckFits targetLanguage sourceSnapshotId deck := by
  constructor
  · intro relabeled
    rw [← editedDeck_noTranslations] at relabeled
    exact deckFits_of_valid relabeled
  · intro fits
    have length := supported_language supported
    rcases valid with ⟨⟨_, title, _, theme, surfaces, sourceRefs, slides, accessibility, mediaPolicy,
      preferences, _⟩, checked⟩
    refine ⟨⟨suffixed_valid_iff.mpr fits.deckId, title, ?_, theme, surfaces, sourceRefs, ⟨?_, ?_⟩,
      ?_, mediaPolicy, preferences, ?_⟩, ?_⟩
    · exact Codec.text_valid_iff.mpr
        (by change 2 ≤ targetLanguage.length ∧ targetLanguage.length ≤ 16; omega)
    · change 1 ≤ (deck.slides.map (relabelSlide targetLanguage)).length
      rw [length_map]
      exact slides.1
    · exact forall_mem_map.mpr fun slide mem =>
        slide_valid_relabel (slides.2 slide mem) (fits.slides slide mem)
    · exact ⟨accessibility.1, Codec.text_valid_iff.mpr
        (by change 2 ≤ targetLanguage.length ∧ targetLanguage.length ≤ 32; omega),
        accessibility.2.2⟩
    · rintro _ ⟨⟩ _ ⟨⟩
      exact boundedText_valid_iff.mpr fits.snapshotId
    · rw [check_relabel]
      exact checked

theorem takeWhile_append_dash (chars rest : List Char) :
    (chars ++ '-' :: rest).takeWhile (· ≠ '-') = chars.takeWhile (· ≠ '-') := by
  induction chars with
  | nil => rfl
  | cons head tail hypothesis =>
    rw [cons_append, takeWhile_cons, takeWhile_cons, hypothesis]

theorem eq_slide_of_append_dash {chars missing : List Char}
    (whole : chars ++ '-' :: missing = "slide-".toList) : chars = "slide".toList := by
  have length := congrArg List.length whole
  have undashed := takeWhile_append_dash chars missing
  rw [whole] at undashed
  have start : "slide".toList <+: chars := by
    change "slide".toList = chars.takeWhile (· ≠ '-') at undashed
    rw [undashed]
    exact takeWhile_prefix _
  rw [length_append, length_cons] at length
  change _ = 6 at length
  exact (start.eq_of_length_le (by change chars.length ≤ 5; omega)).symm

theorem slideToken_suffixed (named : id ≠ "slide") :
    slideToken (suffixed targetLanguage id) = slideToken id := by
  have lists : (suffixed targetLanguage id).toList = id.toList ++ '-' :: targetLanguage.toList := by
    unfold suffixed
    rw [String.toList_append, String.toList_append, append_assoc]
    rfl
  unfold slideToken
  rw [lists]
  congr 1
  cases found : id.toList.dropPrefix? "slide-".toList with
  | some rest =>
    rcases List.dropPrefix?_eq_some_iff.mp found with ⟨start, split, same⟩
    have dropped : (id.toList ++ '-' :: targetLanguage.toList).dropPrefix? "slide-".toList =
        some (rest ++ '-' :: targetLanguage.toList) :=
      List.dropPrefix?_eq_some_iff.mpr ⟨start, by rw [split, append_assoc], same⟩
    rw [dropped]
    exact takeWhile_append_dash rest _
  | none =>
    cases longer : (id.toList ++ '-' :: targetLanguage.toList).dropPrefix? "slide-".toList with
    | none => exact takeWhile_append_dash id.toList _
    | some rest =>
      -- Only the dash of the suffix can complete the prefix.
      exfalso
      rcases List.dropPrefix?_eq_some_iff.mp longer with ⟨start, split, same⟩
      rw [eq_of_beq same] at split
      have unprefixed (beyond : List Char) : id.toList ≠ "slide-".toList ++ beyond := by
        intro whole
        rw [whole, List.dropPrefix?_append_of_beq beyond BEq.rfl] at found
        cases found
      rcases append_eq_append_iff.mp split with ⟨missing, whole, suffix⟩ | ⟨beyond, whole, _⟩
      · cases missing with
        | nil => exact unprefixed [] (by rw [whole, append_nil, append_nil])
        | cons head missing =>
          rcases List.cons.inj suffix with ⟨rfl, _⟩
          exact named (String.toList_inj.mp (eq_slide_of_append_dash whole.symm))
      · exact unprefixed beyond whole

theorem admits_relabel (rule : PurposeDensityRule) (slide : SlideDeckSlide) :
    rule.admits (relabelSlide targetLanguage slide) = rule.admits slide := by
  simp [PurposeDensityRule.admits, relabelSlide, relabelBlock, Function.comp_def]

section Supported

variable (supported : targetLanguage ∈ supportedTranslationLanguages)
include supported

theorem purposeAliases_suffixed (id : String) :
    purposeAliases.lookup (slideToken (suffixed targetLanguage id)) =
      purposeAliases.lookup (slideToken id) := by
  by_cases named : id = "slide"
  · simp only [supportedTranslationLanguages, mem_cons, not_mem_nil, or_false] at supported
    rcases supported with rfl | rfl <;> subst named <;> decide
  · rw [slideToken_suffixed named]

theorem optionalRoleAliases_suffixed (id : String) :
    optionalRoleAliases.lookup (slideToken (suffixed targetLanguage id)) =
      optionalRoleAliases.lookup (slideToken id) := by
  by_cases named : id = "slide"
  · simp only [supportedTranslationLanguages, mem_cons, not_mem_nil, or_false] at supported
    rcases supported with rfl | rfl <;> subst named <;> decide
  · rw [slideToken_suffixed named]

variable (deck : SlideDeckData) (sourceSnapshotId : String)

theorem classifySlidePurposes_relabel :
    classifySlidePurposes (relabel targetLanguage deck sourceSnapshotId) =
      classifySlidePurposes deck := by
  simp [classifySlidePurposes, relabel, relabelSlide, slidePurpose, Function.comp_def,
    purposeAliases_suffixed supported]

theorem assignPedagogicalRoles_relabel :
    assignPedagogicalRoles (relabel targetLanguage deck sourceSnapshotId) =
      assignPedagogicalRoles deck := by
  unfold assignPedagogicalRoles
  rw [classifySlidePurposes_relabel supported]
  simp [relabel, relabelSlide, Function.comp_def, optionalRoleAliases_suffixed supported]

theorem evaluatePurposeDensity_relabel :
    evaluatePurposeDensity (relabel targetLanguage deck sourceSnapshotId) =
      evaluatePurposeDensity deck := by
  unfold evaluatePurposeDensity
  rw [assignPedagogicalRoles_relabel supported]
  simp only [relabel, zipWith_map_left, admits_relabel]

theorem passesContentGates_relabel (decimal : Char → Option Nat) :
    passesContentGates decimal (relabel targetLanguage deck sourceSnapshotId) =
      passesContentGates decimal deck := by
  have registry : validateRegistryMembership (relabel targetLanguage deck sourceSnapshotId) =
      validateRegistryMembership deck := by
    simp only [validateRegistryMembership, relabel, all_map, Function.comp_def, relabelSlide,
      relabelBlock, relabelInteraction]
  have budget : densityBudgetPolicy (relabel targetLanguage deck sourceSnapshotId) =
      densityBudgetPolicy deck := by
    simp [densityBudgetPolicy, relabel, relabelSlide, Function.comp_def]
  have altText : checkAltText (relabel targetLanguage deck sourceSnapshotId) =
      checkAltText deck := by
    simp [checkAltText, relabel, relabelSlide, relabelBlock, Function.comp_def]
  have separation : validateTeacherOnlySeparation (relabel targetLanguage deck sourceSnapshotId) =
      validateTeacherOnlySeparation deck := by
    simp [validateTeacherOnlySeparation, relabel, relabelSlide, relabelInteraction,
      Function.comp_def]
  have pageCount : pageCountPolicy (relabel targetLanguage deck sourceSnapshotId) =
      pageCountPolicy deck := by
    simp [pageCountPolicy, relabel]
  unfold passesContentGates auditDensityAndAccessibility evaluateDeckShape
  rw [registry, budget, altText, separation, pageCount, classifySlidePurposes_relabel supported,
    evaluatePurposeDensity_relabel supported]
  rfl

end Supported

/-! ## One-to-one translation -/

open OhMyClass.Projection

variable {coercions : Coercions} {decimal : Char → Option Nat} {translations : Translations}
  {targetLanguage sourceSnapshotId : String} {deck : SlideDeckData}

def blankInteraction (interaction : SlideDeckInteraction) : SlideDeckInteraction :=
  { interaction with
    prompt := ""
    noJsFallback := ""
    accessibilityLabel := ""
    options := interaction.options.map fun option => { option with label := "" }
    teacherOnly := interaction.teacherOnly.map fun teacherOnly =>
      { teacherOnly with
        rationale := ""
        acceptableAnswers := teacherOnly.acceptableAnswers.map fun _ => "" } }

def blankNotes (notes : SlideDeckTeacherOnly) : SlideDeckTeacherOnly where
  facilitationNotes := notes.facilitationNotes.map fun _ => ""
  answerKeyNotes := notes.answerKeyNotes.map fun _ => ""

def blankSlide (slide : SlideDeckSlide) : SlideDeckSlide :=
  { slide with
    title := ""
    blocks := slide.blocks.map fun block => { block with body := "" }
    interactions := slide.interactions.map blankInteraction
    teacherNotes := slide.teacherNotes.map blankNotes }

/-- A deck without its translatable texts. -/
def blankDeck (deck : SlideDeckData) : SlideDeckData :=
  { deck with title := "", slides := deck.slides.map blankSlide }

theorem blank_buildInteraction (interaction : SlideDeckInteraction) :
    blankInteraction (buildInteraction translations targetLanguage interaction) =
      blankInteraction (relabelInteraction targetLanguage interaction) := by
  simp [blankInteraction, buildInteraction, relabelInteraction, buildTeacherOnly,
    Function.comp_def]

theorem blank_buildNotes (slide : SlideDeckSlide) (notes : SlideDeckTeacherOnly) :
    blankNotes (buildNotes translations slide notes) = blankNotes notes := by
  simp [blankNotes, buildNotes]

theorem blank_buildSlide (slide : SlideDeckSlide) :
    blankSlide (buildSlide translations targetLanguage slide) =
      blankSlide (relabelSlide targetLanguage slide) := by
  simp [blankSlide, buildSlide, relabelSlide, buildBlock, relabelBlock, Function.comp_def,
    blank_buildInteraction, blank_buildNotes]

theorem blank_editedDeck :
    blankDeck (editedDeck translations targetLanguage deck sourceSnapshotId) =
      blankDeck (relabel targetLanguage deck sourceSnapshotId) := by
  simp [blankDeck, editedDeck, relabel, blank_buildSlide]

/-- The text a keyed text becomes. -/
def rendered (translations : Translations) (keyed : KeyedText) : String :=
  translated translations keyed.1 keyed.2

theorem map_numbered {β : Type} (make : KeyedText → β) (key : Nat → String)
    (texts : List String) :
    (numbered key texts).map make = texts.mapIdx fun index text => make (key index, text) := by
  apply ext_getElem
  · simp [numbered]
  · intro index _ _
    simp [numbered]

theorem texts_buildInteraction (interaction : SlideDeckInteraction) :
    (interactionTexts (buildInteraction translations targetLanguage interaction)).map Prod.snd =
      (interactionTexts interaction).map (rendered translations) := by
  rcases interaction with ⟨_, _, _, _, _, teacherOnly, _, _⟩
  cases teacherOnly with
  | none => simp [interactionTexts, buildInteraction, rendered, Function.comp_def]
  | some teacherOnly =>
    simp [interactionTexts, buildInteraction, rendered, Function.comp_def, buildTeacherOnly,
      map_numbered]

theorem texts_buildSlide (slide : SlideDeckSlide) :
    (slideTexts (buildSlide translations targetLanguage slide)).map Prod.snd =
      (slideTexts slide).map (rendered translations) := by
  rcases slide with ⟨_, _, _, _, _, interactions, notes, _, _, _, _⟩
  cases notes with
  | none =>
    simp [slideTexts, buildSlide, buildBlock, rendered, Function.comp_def, map_flatMap,
      flatMap_map, texts_buildInteraction]
  | some notes =>
    simp [slideTexts, buildSlide, buildBlock, buildNotes, rendered, Function.comp_def,
      map_flatMap, flatMap_map, texts_buildInteraction, map_numbered]

theorem texts_editedDeck :
    (deckTexts (editedDeck translations targetLanguage deck sourceSnapshotId)).map Prod.snd =
      (deckTexts deck).map (rendered translations) := by
  simp [deckTexts, editedDeck, rendered, map_flatMap, flatMap_map, texts_buildSlide]

def slideIds (deck : SlideDeckData) : List String :=
  deck.slides.map SlideDeckSlide.slideId

def blockIds (deck : SlideDeckData) : List String :=
  deck.slides.flatMap fun slide => slide.blocks.map SlideDeckBlock.blockId

def interactionIds (deck : SlideDeckData) : List String :=
  deck.slides.flatMap fun slide => slide.interactions.map SlideDeckInteraction.interactionId

/-- No two slides, blocks or interactions of a deck share an id. -/
structure DistinctIds (deck : SlideDeckData) : Prop where
  slides : (slideIds deck).Nodup
  blocks : (blockIds deck).Nodup
  interactions : (interactionIds deck).Nodup

theorem distinctIds_editedDeck (distinct : DistinctIds deck) :
    DistinctIds (editedDeck translations targetLanguage deck sourceSnapshotId) := by
  have injective := suffixed_injective targetLanguage
  constructor
  · have renamed : slideIds (editedDeck translations targetLanguage deck sourceSnapshotId) =
        (slideIds deck).map (suffixed targetLanguage) := by
      simp [slideIds, editedDeck, buildSlide]
    rw [renamed]
    exact distinct.slides.map injective
  · have renamed : blockIds (editedDeck translations targetLanguage deck sourceSnapshotId) =
        (blockIds deck).map (suffixed targetLanguage) := by
      simp [blockIds, editedDeck, buildSlide, buildBlock, Function.comp_def, map_flatMap,
        flatMap_map]
    rw [renamed]
    exact distinct.blocks.map injective
  · have renamed : interactionIds (editedDeck translations targetLanguage deck sourceSnapshotId) =
        (interactionIds deck).map (suffixed targetLanguage) := by
      simp [interactionIds, editedDeck, buildSlide, buildInteraction, Function.comp_def,
        map_flatMap, flatMap_map]
    rw [renamed]
    exact distinct.interactions.map injective

/-- A text is kept or replaced by the translation that was given for it. -/
def TranslatedFrom (translations : Translations) (deck : SlideDeckData) (keyed : KeyedText)
    (text : String) : Prop :=
  text = keyed.2 ∨
    collectTranslatableTexts deck keyed.1 = some keyed.2 ∧ translations keyed.1 = some text

/-- What a translation of a deck promises of its result. -/
structure OneToOne (decimal : Char → Option Nat) (translations : Translations)
    (targetLanguage sourceSnapshotId : String) (deck result : SlideDeckData) : Prop where
  texts : List.Forall₂ (TranslatedFrom translations deck) (deckTexts deck)
    ((deckTexts result).map Prod.snd)
  skeleton : blankDeck result = blankDeck (relabel targetLanguage deck sourceSnapshotId)
  distinctIds : DistinctIds deck → DistinctIds result
  gates : passesContentGates decimal deck = true → passesContentGates decimal result = true

/-- Every translation that is used was given for the text it replaces. -/
def Unmixed (translations : Translations) (deck : SlideDeckData) : Prop :=
  ∀ keyed ∈ deckTexts deck, ∀ text, translations keyed.1 = some text → text ≠ "" →
    text = keyed.2 ∨ collectTranslatableTexts deck keyed.1 = some keyed.2

/-- The deck with the translations is valid and passes the gates. -/
def Accepted (coercions : Coercions) (decimal : Char → Option Nat) (translations : Translations)
    (targetLanguage sourceSnapshotId : String) (deck : SlideDeckData) : Prop :=
  (slideDeckData coercions).Valid
      (editedDeck translations targetLanguage deck sourceSnapshotId) ∧
    passesContentGates decimal
      (editedDeck translations targetLanguage deck sourceSnapshotId) = true

theorem translatedFrom_rendered_iff {keyed : KeyedText} :
    TranslatedFrom translations deck keyed (rendered translations keyed) ↔
      ∀ text, translations keyed.1 = some text → text ≠ "" →
        text = keyed.2 ∨ collectTranslatableTexts deck keyed.1 = some keyed.2 := by
  unfold TranslatedFrom rendered translated
  cases given : translations keyed.1 with
  | none => simp
  | some value =>
    by_cases empty : value = ""
    · simp [empty]
    · simp [empty]

theorem forall₂_rendered_iff :
    List.Forall₂ (TranslatedFrom translations deck) (deckTexts deck)
      ((deckTexts deck).map (rendered translations)) ↔ Unmixed translations deck := by
  rw [forall₂_map_right_iff, forall₂_same]
  exact forall₂_congr fun _ _ => translatedFrom_rendered_iff

theorem editedDeck_oneToOne_iff
    (passes : passesContentGates decimal
      (editedDeck translations targetLanguage deck sourceSnapshotId) = true) :
    OneToOne decimal translations targetLanguage sourceSnapshotId deck
      (editedDeck translations targetLanguage deck sourceSnapshotId) ↔
        Unmixed translations deck := by
  constructor
  · intro oneToOne
    have texts := oneToOne.texts
    rw [texts_editedDeck] at texts
    exact forall₂_rendered_iff.mp texts
  · intro unmixed
    refine ⟨?_, blank_editedDeck, distinctIds_editedDeck, fun _ => passes⟩
    rw [texts_editedDeck]
    exact forall₂_rendered_iff.mpr unmixed

theorem relabel_oneToOne (supported : targetLanguage ∈ supportedTranslationLanguages) :
    OneToOne decimal translations targetLanguage sourceSnapshotId deck
      (relabel targetLanguage deck sourceSnapshotId) := by
  constructor
  · rw [← editedDeck_noTranslations, texts_editedDeck, forall₂_map_right_iff,
      forall₂_same]
    exact fun _ _ => .inl rfl
  · rfl
  · intro distinct
    rw [← editedDeck_noTranslations]
    exact distinctIds_editedDeck distinct
  · intro passes
    rw [passesContentGates_relabel supported]
    exact passes

/-! ## The result -/

variable {result : SlideDeckData}

theorem buildDeck_eq_ok_iff :
    buildDeck translations targetLanguage coercions deck sourceSnapshotId = .ok result ↔
      editedDeck translations targetLanguage deck sourceSnapshotId = result ∧
        (slideDeckData coercions).Valid
          (editedDeck translations targetLanguage deck sourceSnapshotId) :=
  Codec.decode_encode_iff

theorem fallback_eq_ok_iff :
    (buildDeck noTranslations targetLanguage coercions deck sourceSnapshotId).mapError
        TranslationError.validation = .ok result ↔
      relabel targetLanguage deck sourceSnapshotId = result ∧
        (slideDeckData coercions).Valid (relabel targetLanguage deck sourceSnapshotId) := by
  rw [← editedDeck_noTranslations, ← buildDeck_eq_ok_iff]
  cases buildDeck noTranslations targetLanguage coercions deck sourceSnapshotId <;>
    simp [Except.mapError]

theorem translateSlideDeck_eq_ok_iff (supported : targetLanguage ∈ supportedTranslationLanguages) :
    translateSlideDeck coercions decimal translations deck targetLanguage sourceSnapshotId =
        .ok result ↔
      (Accepted coercions decimal translations targetLanguage sourceSnapshotId deck ∧
        editedDeck translations targetLanguage deck sourceSnapshotId = result) ∨
      (¬ Accepted coercions decimal translations targetLanguage sourceSnapshotId deck ∧
        relabel targetLanguage deck sourceSnapshotId = result ∧
          (slideDeckData coercions).Valid (relabel targetLanguage deck sourceSnapshotId)) := by
  unfold translateSlideDeck
  rw [if_neg (not_not.mpr supported)]
  split
  · next error failed =>
    have refused : ¬ Accepted coercions decimal translations targetLanguage sourceSnapshotId
        deck := by
      intro accepted
      rw [buildDeck_eq_ok_iff.mpr ⟨rfl, accepted.1⟩] at failed
      cases failed
    simp only [refused, false_and, false_or, not_false_eq_true, true_and]
    exact fallback_eq_ok_iff
  · next translatedDeck built =>
    rcases buildDeck_eq_ok_iff.mp built with ⟨rfl, valid⟩
    split
    · next passes =>
      have accepted : Accepted coercions decimal translations targetLanguage sourceSnapshotId
          deck := ⟨valid, passes⟩
      simp [accepted]
    · next fails =>
      have refused : ¬ Accepted coercions decimal translations targetLanguage sourceSnapshotId
          deck := fun accepted => fails accepted.2
      simp only [refused, false_and, false_or, not_false_eq_true, true_and]
      exact fallback_eq_ok_iff

theorem deckFits_of_returned (valid : (slideDeckData coercions).Valid deck)
    (supported : targetLanguage ∈ supportedTranslationLanguages)
    (ret : translateSlideDeck coercions decimal translations deck targetLanguage
      sourceSnapshotId = .ok result) :
    DeckFits targetLanguage sourceSnapshotId deck := by
  rcases (translateSlideDeck_eq_ok_iff supported).mp ret
    with ⟨accepted, _⟩ | ⟨_, _, relabeled⟩
  · exact deckFits_of_valid accepted.1
  · exact (relabel_valid_iff valid supported).mp relabeled

/-- A deck is translated one-to-one exactly when its new ids fit and, unless the
source texts are kept, every translation was given for the text it replaces. -/
theorem translateSlideDeck_oneToOne_iff (coercions : Coercions) (decimal : Char → Option Nat)
    (translations : Translations) (deck : SlideDeckData)
    (valid : (slideDeckData coercions).Valid deck) (targetLanguage sourceSnapshotId : String)
    (supported : targetLanguage ∈ supportedTranslationLanguages) :
    (∃ result, translateSlideDeck coercions decimal translations deck targetLanguage
        sourceSnapshotId = .ok result ∧
      OneToOne decimal translations targetLanguage sourceSnapshotId deck result) ↔
    DeckFits targetLanguage sourceSnapshotId deck ∧ (Unmixed translations deck ∨
      ¬ Accepted coercions decimal translations targetLanguage sourceSnapshotId deck) := by
  constructor
  · rintro ⟨result, ret, oneToOne⟩
    refine ⟨deckFits_of_returned valid supported ret, ?_⟩
    rcases (translateSlideDeck_eq_ok_iff supported).mp ret
      with ⟨accepted, rfl⟩ | ⟨refused, _, _⟩
    · exact .inl ((editedDeck_oneToOne_iff accepted.2).mp oneToOne)
    · exact .inr refused
  · rintro ⟨fits, unmixed⟩
    by_cases accepted : Accepted coercions decimal translations targetLanguage sourceSnapshotId deck
    · have texts := unmixed.resolve_right (not_not.mpr accepted)
      exact ⟨_, (translateSlideDeck_eq_ok_iff supported).mpr (.inl ⟨accepted, rfl⟩),
        (editedDeck_oneToOne_iff accepted.2).mpr texts⟩
    · have relabeled := (relabel_valid_iff valid supported).mpr fits
      exact ⟨_, (translateSlideDeck_eq_ok_iff supported).mpr (.inr ⟨accepted, rfl, relabeled⟩),
        relabel_oneToOne supported⟩

theorem valid_of_deckId {deckId : String} (valid : (slideDeckData coercions).Valid deck)
    (fits : 1 ≤ deckId.length ∧ deckId.length ≤ 80) :
    (slideDeckData coercions).Valid { deck with deckId } :=
  ⟨⟨boundedText_valid_iff.mpr fits, valid.1.2⟩, valid.2⟩

theorem quizDeck_valid : (slideDeckData plainCoercions).Valid quizDeck :=
  (slideDeckData plainCoercions).valid_of_decode decode_quizDeck

/-- An id that leaves no room for a suffix. -/
def longId : String :=
  String.ofList (List.replicate 78 'd')

theorem longId_length : longId.length = 78 := by
  unfold longId
  rw [String.length_ofList, length_replicate]

theorem longDeck_not_translated : ¬ ∀ deck, (slideDeckData plainCoercions).Valid deck →
    ∀ (translations : Translations), ∀ targetLanguage ∈ supportedTranslationLanguages,
      ∀ sourceSnapshotId, ∃ result, translateSlideDeck plainCoercions (fun _ => none) translations
        deck targetLanguage sourceSnapshotId = .ok result ∧
          OneToOne (fun _ => none) translations targetLanguage sourceSnapshotId deck result := by
  intro claim
  have valid := valid_of_deckId quizDeck_valid
    (by rw [longId_length]; omega : 1 ≤ longId.length ∧ longId.length ≤ 80)
  rcases claim { quizDeck with deckId := longId } valid noTranslations "vi" (.tail _ (.head _))
    "snapshot-1" with ⟨result, ret, _⟩
  have fits := (deckFits_of_returned valid (.tail _ (.head _)) ret).deckId
  change (longId ++ "-" ++ "vi").length ≤ 80 at fits
  rw [String.length_append, String.length_append, longId_length] at fits
  have suffix : "-".length + "vi".length = 3 := rfl
  omega

theorem translateSlideDeck_quizDeck :
    (∃ result, translateSlideDeck plainCoercions (fun _ => none) noTranslations quizDeck "vi"
        "snapshot-1" = .ok result ∧
      OneToOne (fun _ => none) noTranslations "vi" "snapshot-1" quizDeck result) ↔
    DeckFits "vi" "snapshot-1" quizDeck ∧ (Unmixed noTranslations quizDeck ∨
      ¬ Accepted plainCoercions (fun _ => none) noTranslations "vi" "snapshot-1" quizDeck) :=
  translateSlideDeck_oneToOne_iff plainCoercions (fun _ => none) noTranslations quizDeck
    quizDeck_valid "vi" "snapshot-1" (.tail _ (.head _))

end OhMyClass.SlideDeckEngine
