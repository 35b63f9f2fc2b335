import OhMyClass.SlideDeck.BlockEdits

/-!
# Scoped feedback on a deck

Feedback is applied to the deck, to one slide, one block or one interaction,
and a report tells what it was applied to and which slides it preserved.
-/

namespace OhMyClass.SlideDeckEngine

open List OhMyClass.Contracts

inductive FeedbackScope where
  | nowhere
  | deck
  | slide
  | block
  | interaction
  deriving DecidableEq

def FeedbackScope.text : FeedbackScope → String
  | nowhere => "none"
  | deck => "deck"
  | slide => "slide"
  | block => "block"
  | interaction => "interaction"

inductive HealingScope where
  | nowhere
  | block
  | slide
  | plan
  | deck

structure SlideDeckFeedbackTarget where
  scope : FeedbackScope
  reason : String
  deckId : String
  slideId : String
  blockId : String
  interactionId : String
  replacementText : String
  theme : String

/-- `str = Field(default="", max_length=longest)`. -/
def blankField (name : String) (longest : Nat) : Fields String :=
  .optional name (.text 0 (some longest)) "" (Codec.text_valid_iff.mpr ⟨Nat.le_refl 0, Nat.zero_le _⟩)

def slideDeckFeedbackTarget : Codec SlideDeckFeedbackTarget :=
  .model <|
    ((Fields.optional "scope"
        (.enum [.nowhere, .deck, .slide, .block, .interaction] FeedbackScope.text) .nowhere
        (by decide : List.find? _ _ = some _)).and <|
      (blankField "reason" 500).and <|
      (blankField "deck_id" 80).and <|
      (blankField "slide_id" 80).and <|
      (blankField "block_id" 80).and <|
      (blankField "interaction_id" 80).and <|
      (blankField "replacement_text" 1000).and <|
      blankField "theme" 80).imap
    (fun (scope, reason, deckId, slideId, blockId, interactionId, replacementText, theme) =>
      ⟨scope, reason, deckId, slideId, blockId, interactionId, replacementText, theme⟩)
    (fun target => (target.scope, target.reason, target.deckId, target.slideId, target.blockId,
      target.interactionId, target.replacementText, target.theme))
    (fun _ => rfl) (fun _ => rfl)

structure SlideDeckScopedRepairReport where
  requestedScope : FeedbackScope := .nowhere
  appliedScope : HealingScope := .nowhere
  targetId : String := ""
  reason : String := ""
  escalated : Bool := false
  escalationReason : String := ""
  preservedSlideIds : List String := []
  preservedNonSlideArtifacts : Bool := true

/-! ## Feedback -/

section Feedback

variable (redactTraceText lower : String → String) (target : SlideDeckFeedbackTarget)

/-- `first or second`. -/
def firstFilled (first second : String) : String :=
  if first = "" then second else first

def requiresPlanScope (reason : String) : Prop :=
  "objective".toList <:+: (lower reason).toList ∨ "pacing".toList <:+: (lower reason).toList
  deriving Decidable

def applyDeckFeedback (deck : SlideDeckData) (preservedSlideIds : List String) :
    SlideDeckData × SlideDeckScopedRepairReport :=
  (if target.theme = "" then deck else { deck with theme := target.theme },
    { requestedScope := .deck
      appliedScope := .deck
      targetId := firstFilled target.deckId deck.deckId
      reason := redactTraceText target.reason
      preservedSlideIds })

/-- The note a slide's feedback leaves. -/
def feedbackNote : String :=
  redactTraceText (firstFilled target.reason "Scoped slide feedback applied.")

def repairSlide (slide : SlideDeckSlide) : SlideDeckSlide :=
  if slide.slideId ≠ target.slideId then
    slide
  else
    let teacherNotes := slide.teacherNotes.getD ⟨[], []⟩
    { slide with
      blocks := slide.blocks.take 4
      interactions := slide.interactions.take 2
      teacherNotes := some { teacherNotes with
        facilitationNotes :=
          teacherNotes.facilitationNotes ++ [feedbackNote redactTraceText target] } }

def escalatedReport (appliedScope : HealingScope) (escalationReason : String)
    (preservedSlideIds : List String) : SlideDeckScopedRepairReport where
  requestedScope := target.scope
  appliedScope := appliedScope
  targetId := firstFilled target.slideId <| firstFilled target.blockId <|
    firstFilled target.interactionId target.deckId
  reason := redactTraceText target.reason
  escalated := true
  escalationReason := escalationReason
  preservedSlideIds := preservedSlideIds

def applySlideFeedback (deck : SlideDeckData) (preservedSlideIds : List String) :
    SlideDeckData × SlideDeckScopedRepairReport :=
  if requiresPlanScope lower target.reason then
    (deck, escalatedReport redactTraceText target .plan
      "feedback affects objective coverage or pacing" preservedSlideIds)
  else
    (editSlides (repairSlide redactTraceText target) deck,
      { requestedScope := .slide
        appliedScope := .slide
        targetId := target.slideId
        reason := redactTraceText target.reason
        preservedSlideIds := preservedSlideIds.filter fun slideId => slideId ≠ target.slideId })

def repairBlock (block : SlideDeckBlock) : SlideDeckBlock :=
  if block.blockId = target.blockId ∧ target.replacementText ≠ "" then
    { block with body := target.replacementText }
  else
    block

def repairBlockInSlide (slide : SlideDeckSlide) : SlideDeckSlide :=
  { slide with blocks := slide.blocks.map (repairBlock target) }

def applyBlockFeedback (deck : SlideDeckData) : SlideDeckData × SlideDeckScopedRepairReport :=
  (editSlides (repairBlockInSlide target) deck,
    { requestedScope := .block
      appliedScope := .block
      targetId := target.blockId
      reason := redactTraceText target.reason
      preservedSlideIds := (deck.slides.filter fun slide => !hasBlock target.blockId slide).map
        SlideDeckSlide.slideId })

def scopedRationale : String :=
  "Answer remains in teacher-only projection after scoped feedback."

def repairInteraction (interaction : SlideDeckInteraction) : SlideDeckInteraction :=
  if interaction.interactionId ≠ target.interactionId then
    interaction
  else
    { interaction with
      teacherOnly := interaction.teacherOnly.map fun teacherOnly =>
        { teacherOnly with rationale := scopedRationale } }

def repairInteractionInSlide (slide : SlideDeckSlide) : SlideDeckSlide :=
  { slide with interactions := slide.interactions.map (repairInteraction target) }

def hasInteraction (interactionId : String) (slide : SlideDeckSlide) : Bool :=
  slide.interactions.any fun interaction => interaction.interactionId = interactionId

def applyInteractionFeedback (deck : SlideDeckData) : SlideDeckData × SlideDeckScopedRepairReport :=
  (editSlides (repairInteractionInSlide target) deck,
    { requestedScope := .interaction
      appliedScope := .block
      targetId := target.interactionId
      reason := redactTraceText target.reason
      preservedSlideIds := (deck.slides.filter fun slide =>
        !hasInteraction target.interactionId slide).map SlideDeckSlide.slideId })

def applyScopedFeedback (deck : SlideDeckData) : SlideDeckData × SlideDeckScopedRepairReport :=
  match target.scope with
  | .nowhere => (deck, { preservedSlideIds := slideIds deck })
  | .deck => applyDeckFeedback redactTraceText target deck (slideIds deck)
  | .slide => applySlideFeedback redactTraceText lower target deck (slideIds deck)
  | .block => applyBlockFeedback redactTraceText target deck
  | .interaction => applyInteractionFeedback redactTraceText target deck

end Feedback

def deckBlocks (deck : SlideDeckData) : List SlideDeckBlock :=
  deck.slides.flatMap SlideDeckSlide.blocks

def deckInteractions (deck : SlideDeckData) : List SlideDeckInteraction :=
  deck.slides.flatMap SlideDeckSlide.interactions

def slideNotes (slide : SlideDeckSlide) : List String :=
  match slide.teacherNotes with
  | none => []
  | some notes => notes.facilitationNotes ++ notes.answerKeyNotes

namespace SlideDeckFeedbackTarget

variable (target : SlideDeckFeedbackTarget)

/-- The deck has what the target names. -/
def Known (deck : SlideDeckData) : Prop :=
  match target.scope with
  | .nowhere => False
  | .deck => target.deckId = "" ∨ target.deckId = deck.deckId
  | .slide => target.slideId ∈ slideIds deck
  | .block => target.blockId ∈ blockIds deck
  | .interaction => target.interactionId ∈ interactionIds deck

def NamesSlide (slide : SlideDeckSlide) : Prop :=
  target.scope = .slide ∧ slide.slideId = target.slideId

def NamesBlock (block : SlideDeckBlock) : Prop :=
  target.scope = .block ∧ block.blockId = target.blockId

def NamesInteraction (interaction : SlideDeckInteraction) : Prop :=
  target.scope = .interaction ∧ interaction.interactionId = target.interactionId

/-- What the target names is there and is not the same afterwards. -/
def Changed (before after : SlideDeckData) : Prop :=
  target.Known before ∧
    match target.scope with
    | .nowhere => False
    | .deck => after.theme ≠ before.theme
    | .slide => ∃ slide ∈ before.slides, target.NamesSlide slide ∧ slide ∉ after.slides
    | .block => ∃ block ∈ deckBlocks before, target.NamesBlock block ∧ block ∉ deckBlocks after
    | .interaction => ∃ interaction ∈ deckInteractions before,
        target.NamesInteraction interaction ∧ interaction ∉ deckInteractions after

/-- A block differs only if it is the named one. -/
def BlockFrame (before after : SlideDeckBlock) : Prop :=
  after.blockId = before.blockId ∧ (¬ target.NamesBlock before → after = before)

def InteractionFrame (before after : SlideDeckInteraction) : Prop :=
  after.interactionId = before.interactionId ∧ (¬ target.NamesInteraction before → after = before)

/-- A slide differs only inside what is named. -/
def SlideFrame (before after : SlideDeckSlide) : Prop :=
  after.slideId = before.slideId ∧ (¬ target.NamesSlide before →
    after = { before with blocks := after.blocks, interactions := after.interactions } ∧
      List.Forall₂ target.BlockFrame before.blocks after.blocks ∧
      List.Forall₂ target.InteractionFrame before.interactions after.interactions)

/-- A deck differs only inside what is named. -/
def DeckFrame (before after : SlideDeckData) : Prop :=
  (target.scope = .deck → after = { before with theme := after.theme }) ∧
    (target.scope ≠ .deck → after = { before with slides := after.slides } ∧
      List.Forall₂ target.SlideFrame before.slides after.slides)

end SlideDeckFeedbackTarget

/-- Feedback stays in its scope and is reported as it was applied. -/
structure StaysInScope (coercions : Coercions) (redactTraceText lower : String → String)
    (target : SlideDeckFeedbackTarget) (before after : SlideDeckData)
    (report : SlideDeckScopedRepairReport) : Prop where
  valid : (slideDeckData coercions).Valid after
  frame : target.DeckFrame before after
  blocks : ∀ block ∈ deckBlocks before, ¬ target.NamesBlock block → block ∈ deckBlocks after
  interactions : ∀ interaction ∈ deckInteractions before, ¬ target.NamesInteraction interaction →
    interaction ∈ deckInteractions after
  notes : List.Forall₂ (fun before after => slideNotes before ⊆ slideNotes after) before.slides
    after.slides
  preserved : report.preservedSlideIds =
    (before.slides.filter fun slide => slide ∈ after.slides).map SlideDeckSlide.slideId
  applied : report.appliedScope ∈ [.block, .slide, .deck] → target.Changed before after
  unchanged : requiresPlanScope lower target.reason ∨ ¬ target.Known before → after = before

/-- The feedback can be applied as its target says. -/
def Applicable (lower : String → String) (target : SlideDeckFeedbackTarget)
    (deck : SlideDeckData) : Prop :=
  match target.scope with
  | .nowhere => True
  | .deck => ¬ requiresPlanScope lower target.reason ∧ target.Known deck ∧ target.theme ≠ "" ∧
      target.theme ≠ deck.theme
  | .slide => requiresPlanScope lower target.reason ∨ ∃ slide ∈ deck.slides,
      slide.slideId = target.slideId ∧ slide.blocks.length ≤ 4 ∧ slide.interactions.length ≤ 2
  | .block => ¬ requiresPlanScope lower target.reason ∧ target.replacementText ≠ "" ∧
      ∃ block ∈ deckBlocks deck, block.blockId = target.blockId ∧
        block.body ≠ target.replacementText
  | .interaction => ¬ requiresPlanScope lower target.reason ∧
      ∃ interaction ∈ deckInteractions deck, interaction.interactionId = target.interactionId ∧
        ∃ teacherOnly ∈ interaction.teacherOnly, teacherOnly.rationale ≠ scopedRationale

/-! ## Feedback scope by scope -/

section Edited

variable {coercions : Coercions} {deck : SlideDeckData} {redactTraceText lower : String → String}
  {target : SlideDeckFeedbackTarget}

/-- Of items with distinct keys a map that keeps the keys leaves those it fixes. -/
theorem mem_map_iff_fixed {α κ : Type} {items : List α} {key : α → κ} {rebuild : α → α}
    (distinct : (items.map key).Nodup) (keeps : ∀ item, key (rebuild item) = key item) {item : α}
    (mem : item ∈ items) : item ∈ items.map rebuild ↔ rebuild item = item := by
  constructor
  · intro rebuilt
    rcases mem_map.mp rebuilt with ⟨other, isOther, same⟩
    have sameKey : key other = key item := by rw [← keeps other, same]
    rw [inj_on_of_nodup_map distinct isOther mem sameKey] at same
    exact same
  · intro fixed
    exact mem_map.mpr ⟨item, mem, fixed⟩

theorem deckBlocks_blockIds : (deckBlocks deck).map SlideDeckBlock.blockId = blockIds deck := by
  simp [deckBlocks, blockIds, map_flatMap]

theorem deckInteractions_interactionIds :
    (deckInteractions deck).map SlideDeckInteraction.interactionId = interactionIds deck := by
  simp [deckInteractions, interactionIds, map_flatMap]

theorem filter_mem_editSlides (distinct : DistinctIds deck)
    (edit : SlideDeckSlide → SlideDeckSlide) (keeps : ∀ slide, (edit slide).slideId = slide.slideId) :
    (deck.slides.filter fun slide => slide ∈ (editSlides edit deck).slides) =
      deck.slides.filter fun slide => edit slide = slide := by
  refine filter_congr fun slide mem => ?_
  rw [decide_eq_decide]
  exact mem_map_iff_fixed distinct.slides keeps mem

/-! ## Edited slides stay valid -/

theorem notes_subset_repairSlide (slide : SlideDeckSlide) :
    slideNotes slide ⊆ slideNotes (repairSlide redactTraceText target slide) := by
  unfold repairSlide
  split
  · exact List.Subset.refl _
  · unfold slideNotes
    cases slide.teacherNotes with
    | none => exact nil_subset _
    | some notes =>
      intro note mem
      simp only [Option.getD_some, append_assoc, mem_append] at mem ⊢
      rcases mem with facilitation | answerKey
      · exact .inl facilitation
      · exact .inr (.inr answerKey)

variable {slide : SlideDeckSlide}

theorem keepsSlide_repairSlide (valid : (slideDeckSlide coercions).Valid slide) :
    KeepsSlide coercions slide (repairSlide redactTraceText target slide) := by
  unfold repairSlide
  split
  · exact KeepsSlide.rfl valid
  · rcases parts_of_slide_valid valid with ⟨someBlock, blocks, distinct, interactions⟩
    have fewer := take_sublist 4 slide.blocks
    constructor
    · apply slide_valid_of_parts valid
      · rw [length_take]
        omega
      · exact fun block mem => blocks block (fewer.mem mem)
      · exact distinct.sublist (fewer.map _)
      · exact fun interaction mem => interactions interaction ((take_sublist 2 _).mem mem)
    · rfl
    · exact fewer.map _
    · exact (take_sublist 2 slide.interactions).map _
    · exact (fewer.filterMap _).subset

theorem target_bounds (valid : slideDeckFeedbackTarget.Valid target) :
    target.replacementText.length ≤ 1000 ∧ target.theme.length ≤ 80 := by
  rcases valid with ⟨_, _, _, _, _, _, replacementText, theme⟩
  exact ⟨(Codec.text_valid_iff.mp replacementText).2, (Codec.text_valid_iff.mp theme).2⟩

theorem one_le_length {text : String} (filled : text ≠ "") : 1 ≤ text.length := by
  rw [Nat.one_le_iff_ne_zero, ne_eq, String.length_eq_zero_iff]
  exact filled

theorem repairBlock_eq (target : SlideDeckFeedbackTarget) (block : SlideDeckBlock) :
    repairBlock target block =
      if target.replacementText = "" then block
      else blockWithBody target.blockId target.replacementText block := by
  unfold repairBlock blockWithBody
  by_cases filled : target.replacementText = ""
  · simp [filled]
  · simp [filled]

theorem keepsSlide_repairBlockInSlide (valid : slideDeckFeedbackTarget.Valid target)
    (slideValid : (slideDeckSlide coercions).Valid slide) :
    KeepsSlide coercions slide (repairBlockInSlide target slide) := by
  have edit : repairBlockInSlide target slide =
      if target.replacementText = "" then slide
      else slideWithBody target.blockId target.replacementText slide := by
    unfold repairBlockInSlide slideWithBody
    simp only [funext (repairBlock_eq target)]
    split <;> simp
  rw [edit]
  split
  · exact KeepsSlide.rfl slideValid
  · next filled =>
    have bounds := (target_bounds valid).1
    exact keepsSlide_slideWithBody ⟨one_le_length filled, by omega⟩ slideValid

theorem scopedRationale_bounds : 1 ≤ scopedRationale.length ∧ scopedRationale.length ≤ 1000 := by
  decide

variable {interaction : SlideDeckInteraction}

theorem interaction_valid_repair (valid : (slideDeckInteraction coercions).Valid interaction) :
    (slideDeckInteraction coercions).Valid (repairInteraction target interaction) := by
  unfold repairInteraction
  split
  · exact valid
  · rcases valid with ⟨⟨interactionId, interactionType, prompt, answerBearing, options, teacherOnly,
      rest⟩, checked⟩
    refine ⟨⟨interactionId, interactionType, prompt, answerBearing, options, ?_, rest⟩, ?_⟩
    · intro repaired isRepaired
      rcases Option.map_eq_some_iff.mp isRepaired with ⟨found, isFound, rfl⟩
      rcases teacherOnly found isFound with ⟨separation, correctOptionIds, acceptableAnswers, _⟩
      exact ⟨separation, correctOptionIds, acceptableAnswers,
        boundedText_valid_iff.mpr scopedRationale_bounds⟩
    · unfold SlideDeckInteraction.check at checked ⊢
      simpa using checked

theorem keepsSlide_repairInteractionInSlide (valid : (slideDeckSlide coercions).Valid slide) :
    KeepsSlide coercions slide (repairInteractionInSlide target slide) := by
  rcases parts_of_slide_valid valid with ⟨someBlock, blocks, distinct, interactions⟩
  have sameIds : (slide.interactions.map (repairInteraction target)).map
      SlideDeckInteraction.interactionId =
        slide.interactions.map SlideDeckInteraction.interactionId := by
    rw [map_map]
    refine map_congr_left fun interaction _ => ?_
    unfold Function.comp repairInteraction
    split <;> rfl
  constructor
  · apply slide_valid_of_parts valid someBlock blocks distinct
    exact forall_mem_map.mpr fun interaction mem =>
      interaction_valid_repair (interactions interaction mem)
  · rfl
  · exact List.Sublist.refl _
  · exact sameIds ▸ List.Sublist.refl _
  · exact List.Subset.refl _

theorem theme_valid (valid : (slideDeckData coercions).Valid deck) {theme : String}
    (fits : 1 ≤ theme.length ∧ theme.length ≤ 80) :
    (slideDeckData coercions).Valid { deck with theme } := by
  rcases valid with ⟨⟨deckId, title, locale, _, rest⟩, checked⟩
  exact ⟨⟨deckId, title, locale, boundedText_valid_iff.mpr fits, rest⟩, checked⟩

/-! ## Scope by scope -/

theorem slideFrame_refl (target : SlideDeckFeedbackTarget) (slide : SlideDeckSlide) :
    target.SlideFrame slide slide :=
  ⟨rfl, fun _ => ⟨rfl, forall₂_same.mpr fun _ _ => ⟨rfl, fun _ => rfl⟩,
    forall₂_same.mpr fun _ _ => ⟨rfl, fun _ => rfl⟩⟩⟩

variable {edit : SlideDeckSlide → SlideDeckSlide}

theorem deckFrame_editSlides (scope : target.scope ≠ .deck)
    (frames : ∀ slide, target.SlideFrame slide (edit slide)) :
    target.DeckFrame deck (editSlides edit deck) := by
  refine ⟨fun isDeck => absurd isDeck scope, fun _ => ⟨rfl, ?_⟩⟩
  change List.Forall₂ _ deck.slides (deck.slides.map edit)
  rw [forall₂_map_right_iff, forall₂_same]
  exact fun slide _ => frames slide

theorem notes_editSlides (keeps : ∀ slide, slideNotes slide ⊆ slideNotes (edit slide)) :
    List.Forall₂ (fun before after => slideNotes before ⊆ slideNotes after) deck.slides
      (editSlides edit deck).slides := by
  change List.Forall₂ _ deck.slides (deck.slides.map edit)
  rw [forall₂_map_right_iff, forall₂_same]
  exact fun slide _ => keeps slide

theorem notes_self (deck : SlideDeckData) :
    List.Forall₂ (fun before after => slideNotes before ⊆ slideNotes after) deck.slides
      deck.slides :=
  forall₂_same.mpr fun _ _ => List.Subset.refl _

theorem filter_mem_self (deck : SlideDeckData) :
    (deck.slides.filter fun slide => slide ∈ deck.slides) = deck.slides :=
  filter_eq_self.mpr fun _ mem => decide_eq_true mem

theorem staysInScope_self {report : SlideDeckScopedRepairReport}
    (valid : (slideDeckData coercions).Valid deck)
    (preserved : report.preservedSlideIds = slideIds deck)
    (applied : report.appliedScope ∉ [.block, .slide, .deck]) :
    StaysInScope coercions redactTraceText lower target deck deck report where
  valid := valid
  frame := ⟨fun _ => rfl, fun _ => ⟨rfl, forall₂_same.mpr fun slide _ =>
    slideFrame_refl target slide⟩⟩
  blocks _ mem _ := mem
  interactions _ mem _ := mem
  notes := notes_self deck
  preserved := by rw [filter_mem_self, preserved, slideIds]
  applied isApplied := absurd isApplied applied
  unchanged _ := rfl

theorem staysInScope_deck_iff (valid : (slideDeckData coercions).Valid deck)
    (targetValid : slideDeckFeedbackTarget.Valid target) (scope : target.scope = .deck) :
    StaysInScope coercions redactTraceText lower target deck
        (applyDeckFeedback redactTraceText target deck (slideIds deck)).1
        (applyDeckFeedback redactTraceText target deck (slideIds deck)).2 ↔
      ¬ requiresPlanScope lower target.reason ∧ target.Known deck ∧ target.theme ≠ "" ∧
        target.theme ≠ deck.theme := by
  simp only [applyDeckFeedback]
  constructor
  · intro stays
    have changed := stays.applied (by simp)
    rcases changed with ⟨known, differs⟩
    rw [scope] at differs
    simp only at differs
    split at differs
    · exact absurd rfl differs
    · next filled =>
      refine ⟨fun requires => ?_, known, filled, differs⟩
      have same := stays.unchanged (.inl requires)
      rw [if_neg filled] at same
      exact differs (congrArg SlideDeckData.theme same)
  · rintro ⟨noPlan, known, filled, differs⟩
    rw [if_neg filled]
    exact
      { valid := theme_valid valid ⟨one_le_length filled, (target_bounds targetValid).2⟩
        frame := ⟨fun _ => rfl, fun isOther => absurd scope isOther⟩
        blocks := fun _ mem _ => mem
        interactions := fun _ mem _ => mem
        notes := notes_self deck
        preserved := by rw [filter_mem_self, slideIds]
        applied := fun _ => ⟨known, by rw [scope]; exact differs⟩
        unchanged := fun reason => (reason.elim noPlan (absurd known)).elim }

theorem repairSlide_slideId (slide : SlideDeckSlide) :
    (repairSlide redactTraceText target slide).slideId = slide.slideId := by
  unfold repairSlide
  split <;> rfl

theorem repairSlide_eq_self_iff :
    repairSlide redactTraceText target slide = slide ↔ slide.slideId ≠ target.slideId := by
  constructor
  · intro same named
    have sameNotes := congrArg SlideDeckSlide.teacherNotes same
    unfold repairSlide at sameNotes
    rw [if_neg (not_not.mpr named)] at sameNotes
    have longer := congrArg (fun notes => (notes.getD ⟨[], []⟩).facilitationNotes.length) sameNotes
    simp at longer
  · intro other
    exact if_pos other

variable {β : Type} {parts : SlideDeckSlide → List β} {key : β → String} {named : String}

/-- An edit that cuts a part of the named slide keeps every part exactly if the
cut is not felt. -/
theorem kept_iff_length_le {limit : Nat}
    (cuts : ∀ slide, parts (edit slide) =
      if slide.slideId ≠ named then parts slide else (parts slide).take limit)
    (slides : (deck.slides.map SlideDeckSlide.slideId).Nodup)
    (distinct : (deck.slides.flatMap fun slide => (parts slide).map key).Nodup)
    (mem : slide ∈ deck.slides) (isNamed : slide.slideId = named) :
    (∀ part ∈ deck.slides.flatMap parts, part ∈ (deck.slides.map edit).flatMap parts) ↔
      (parts slide).length ≤ limit := by
  rw [flatMap_map]
  constructor
  · intro kept
    by_contra tooLong
    have inside : limit < (parts slide).length := Nat.lt_of_not_le tooLong
    have isKept := kept _ (mem_flatMap.mpr ⟨slide, mem, getElem_mem inside⟩)
    rcases mem_flatMap.mp isKept with ⟨other, isOther, isKept⟩
    rcases List.getElem?_of_mem mem with ⟨place, found⟩
    rcases List.getElem?_of_mem isOther with ⟨otherPlace, otherFound⟩
    rcases List.getElem?_of_mem isKept with ⟨position, keptFound⟩
    have partFound : (parts other)[position]? = some (parts slide)[limit] := by
      rw [cuts] at keptFound
      split at keptFound
      · exact keptFound
      · rw [List.getElem?_take] at keptFound
        split at keptFound
        · exact keptFound
        · cases keptFound
    rcases places_eq_of_nodup distinct found (List.getElem?_eq_getElem inside) otherFound partFound
      rfl with ⟨rfl, rfl⟩
    cases found.symm.trans otherFound
    rw [cuts, if_neg (not_not.mpr isNamed), List.getElem?_take, if_neg (lt_irrefl _)] at keptFound
    cases keptFound
  · intro few part isPart
    rcases mem_flatMap.mp isPart with ⟨other, isOther, inOther⟩
    refine mem_flatMap.mpr ⟨other, isOther, ?_⟩
    rw [cuts]
    split
    · exact inOther
    · next otherNamed =>
      have same := (not_not.mp otherNamed).trans isNamed.symm
      rw [inj_on_of_nodup_map slides isOther mem same] at inOther ⊢
      exact (take_of_length_le few).symm ▸ inOther

theorem blocks_repairSlide (slide : SlideDeckSlide) :
    (repairSlide redactTraceText target slide).blocks =
      if slide.slideId ≠ target.slideId then slide.blocks else slide.blocks.take 4 := by
  unfold repairSlide
  split <;> rfl

theorem interactions_repairSlide (slide : SlideDeckSlide) :
    (repairSlide redactTraceText target slide).interactions =
      if slide.slideId ≠ target.slideId then slide.interactions else slide.interactions.take 2 := by
  unfold repairSlide
  split <;> rfl

theorem slideFrame_repairSlide (scope : target.scope = .slide) (slide : SlideDeckSlide) :
    target.SlideFrame slide (repairSlide redactTraceText target slide) := by
  by_cases named : slide.slideId = target.slideId
  · exact ⟨repairSlide_slideId slide, fun unnamed => absurd ⟨scope, named⟩ unnamed⟩
  · rw [repairSlide_eq_self_iff.mpr named]
    exact slideFrame_refl target slide

theorem staysInScope_slide_iff (valid : (slideDeckData coercions).Valid deck)
    (scope : target.scope = .slide) :
    StaysInScope coercions redactTraceText lower target deck
        (applySlideFeedback redactTraceText lower target deck (slideIds deck)).1
        (applySlideFeedback redactTraceText lower target deck (slideIds deck)).2 ↔
      requiresPlanScope lower target.reason ∨ ∃ slide ∈ deck.slides,
        slide.slideId = target.slideId ∧ slide.blocks.length ≤ 4 ∧
          slide.interactions.length ≤ 2 := by
  have distinct := distinctIds_of_valid valid
  have fewBlocks {slide} := @kept_iff_length_le deck slide _ _ _ _ _ _
    (@blocks_repairSlide redactTraceText target) distinct.slides distinct.blocks
  have fewInteractions {slide} := @kept_iff_length_le deck slide _ _ _ _ _ _
    (@interactions_repairSlide redactTraceText target) distinct.slides distinct.interactions
  unfold applySlideFeedback
  by_cases requires : requiresPlanScope lower target.reason
  · rw [if_pos requires]
    exact iff_of_true (staysInScope_self valid rfl (by simp [escalatedReport])) (.inl requires)
  rw [if_neg requires, or_iff_right requires]
  constructor
  · intro stays
    have changed := stays.applied (by simp)
    rcases changed with ⟨_, differs⟩
    rw [scope] at differs
    rcases differs with ⟨slide, mem, ⟨_, named⟩, _⟩
    refine ⟨slide, mem, named, (fewBlocks mem named).mp fun block isBlock => ?_,
      (fewInteractions mem named).mp fun interaction isInteraction => ?_⟩
    · exact stays.blocks block isBlock fun names => by cases scope.symm.trans names.1
    · exact stays.interactions interaction isInteraction fun names => by
        cases scope.symm.trans names.1
  · rintro ⟨slide, mem, named, someBlocks, someInteractions⟩
    have known : target.Known deck := by
      simp only [SlideDeckFeedbackTarget.Known, scope]
      exact mem_map.mpr ⟨slide, mem, named⟩
    exact
      { valid := editSlides_valid valid fun other isOther =>
          keepsSlide_repairSlide (slide_valid_of_valid valid isOther)
        frame := deckFrame_editSlides (by simp [scope]) (slideFrame_repairSlide scope)
        blocks := fun block isBlock _ => (fewBlocks mem named).mpr someBlocks block isBlock
        interactions := fun interaction isInteraction _ =>
          (fewInteractions mem named).mpr someInteractions interaction isInteraction
        notes := notes_editSlides notes_subset_repairSlide
        preserved := by
          rw [filter_mem_editSlides distinct _ repairSlide_slideId, slideIds, filter_map]
          simp only [repairSlide_eq_self_iff, Function.comp_def]
        applied := by
          intro _
          refine ⟨known, ?_⟩
          rw [scope]
          refine ⟨slide, mem, ⟨scope, named⟩, ?_⟩
          exact (mem_map_iff_fixed distinct.slides repairSlide_slideId mem).not.mpr
            (repairSlide_eq_self_iff.not.mpr (not_not.mpr named))
        unchanged := fun reason => (reason.elim requires (absurd known)).elim }

variable {rebuild : β → β} {part : β}

theorem mem_edited_iff (edits : ∀ slide, parts (edit slide) = (parts slide).map rebuild)
    (keys : ((deck.slides.flatMap parts).map key).Nodup)
    (keeps : ∀ part, key (rebuild part) = key part) (mem : part ∈ deck.slides.flatMap parts) :
    part ∈ (deck.slides.map edit).flatMap parts ↔ rebuild part = part := by
  rw [flatMap_map]
  simp only [edits]
  rw [← map_flatMap]
  exact mem_map_iff_fixed keys keeps mem

theorem filter_not_has {has : SlideDeckSlide → Bool} (distinct : DistinctIds deck)
    (keepsId : ∀ slide, (edit slide).slideId = slide.slideId)
    (same : ∀ slide, edit slide = slide ↔ (parts slide).map rebuild = parts slide)
    (keys : ((deck.slides.flatMap parts).map key).Nodup)
    (others : ∀ other, key other ≠ named → rebuild other = other)
    (mem : part ∈ deck.slides.flatMap parts) (isNamed : key part = named)
    (changed : rebuild part ≠ part) (hasIt : ∀ slide, has slide = true ↔ named ∈ (parts slide).map key) :
    (deck.slides.filter fun slide => !has slide) =
      deck.slides.filter fun slide => slide ∈ (editSlides edit deck).slides := by
  rw [filter_mem_editSlides distinct edit keepsId]
  refine filter_congr fun slide isSlide => ?_
  rw [Bool.eq_iff_iff, Bool.not_eq_true', decide_eq_true_eq, same, ← Bool.not_eq_true, hasIt]
  constructor
  · intro free
    refine (map_congr_left fun other isOther => ?_).trans (map_id _)
    exact others other fun same => free (mem_map.mpr ⟨other, isOther, same⟩)
  · intro fixed hasIt
    rcases mem_map.mp hasIt with ⟨other, isOther, same⟩
    have inDeck : other ∈ deck.slides.flatMap parts := mem_flatMap.mpr ⟨slide, isSlide, isOther⟩
    have isPart := inj_on_of_nodup_map keys inDeck mem (same.trans isNamed.symm)
    have unchanged : (parts slide).map rebuild = (parts slide).map id := by
      rw [fixed, map_id]
    exact changed (isPart ▸ map_inj_left.mp unchanged other isOther)

theorem repairBlock_blockId (block : SlideDeckBlock) :
    (repairBlock target block).blockId = block.blockId := by
  unfold repairBlock
  split <;> rfl

theorem repairBlock_eq_self_iff {block : SlideDeckBlock} : repairBlock target block = block ↔
    (block.blockId = target.blockId → target.replacementText ≠ "" →
      block.body = target.replacementText) := by
  unfold repairBlock
  split
  · next isNamed =>
    constructor
    · intro same _ _
      rw [← same]
    · intro sameBody
      rw [← sameBody isNamed.1 isNamed.2]
  · next unnamed => simpa using fun named filled => absurd ⟨named, filled⟩ unnamed

theorem repairBlockInSlide_eq_self_iff :
    repairBlockInSlide target slide = slide ↔
      slide.blocks.map (repairBlock target) = slide.blocks := by
  unfold repairBlockInSlide
  exact ⟨congrArg SlideDeckSlide.blocks, fun same => by rw [same]⟩

theorem slideFrame_repairBlockInSlide (scope : target.scope = .block) (slide : SlideDeckSlide) :
    target.SlideFrame slide (repairBlockInSlide target slide) := by
  refine ⟨rfl, fun _ => ⟨rfl, ?_, forall₂_same.mpr fun _ _ => ⟨rfl, fun _ => rfl⟩⟩⟩
  change List.Forall₂ _ slide.blocks (slide.blocks.map (repairBlock target))
  rw [forall₂_map_right_iff, forall₂_same]
  refine fun block _ => ⟨repairBlock_blockId block, fun unnamed => ?_⟩
  exact repairBlock_eq_self_iff.mpr fun named => absurd ⟨scope, named⟩ unnamed

theorem staysInScope_block_iff (valid : (slideDeckData coercions).Valid deck)
    (targetValid : slideDeckFeedbackTarget.Valid target) (scope : target.scope = .block) :
    StaysInScope coercions redactTraceText lower target deck
        (applyBlockFeedback redactTraceText target deck).1
        (applyBlockFeedback redactTraceText target deck).2 ↔
      ¬ requiresPlanScope lower target.reason ∧ target.replacementText ≠ "" ∧
        ∃ block ∈ deckBlocks deck, block.blockId = target.blockId ∧
          block.body ≠ target.replacementText := by
  have distinct := distinctIds_of_valid valid
  have keys : ((deckBlocks deck).map SlideDeckBlock.blockId).Nodup :=
    deckBlocks_blockIds ▸ distinct.blocks
  have stays_iff {block} (mem : block ∈ deckBlocks deck) :
      block ∈ deckBlocks (editSlides (repairBlockInSlide target) deck) ↔
        repairBlock target block = block :=
    mem_edited_iff (fun _ => rfl) keys repairBlock_blockId mem
  unfold applyBlockFeedback
  constructor
  · intro stays
    rcases stays.applied (by simp) with ⟨_, differs⟩
    rw [scope] at differs
    rcases differs with ⟨block, mem, ⟨_, named⟩, gone⟩
    have edited := (stays_iff mem).not.mp gone
    rw [repairBlock_eq_self_iff] at edited
    push Not at edited
    refine ⟨fun requires => ?_, edited.2.1, block, mem, named, edited.2.2⟩
    have same := stays.unchanged (.inl requires)
    exact gone (same.symm ▸ mem)
  · rintro ⟨noPlan, filled, block, mem, named, differs⟩
    have edited : repairBlock target block ≠ block := by
      rw [ne_eq, repairBlock_eq_self_iff]
      exact fun same => differs (same named filled)
    have known : target.Known deck := by
      simp only [SlideDeckFeedbackTarget.Known, scope]
      rw [← deckBlocks_blockIds]
      exact mem_map.mpr ⟨block, mem, named⟩
    exact
      { valid := editSlides_valid valid fun slide isSlide =>
          keepsSlide_repairBlockInSlide targetValid (slide_valid_of_valid valid isSlide)
        frame := deckFrame_editSlides (by simp [scope]) (slideFrame_repairBlockInSlide scope)
        blocks := by
          intro other isOther unnamed
          rw [stays_iff isOther, repairBlock_eq_self_iff]
          exact fun isNamed => absurd ⟨scope, isNamed⟩ unnamed
        interactions := fun interaction isInteraction _ => by
          rw [deckInteractions, editSlides, flatMap_map]
          exact isInteraction
        notes := notes_editSlides fun _ => List.Subset.refl _
        preserved := congrArg (map SlideDeckSlide.slideId) <|
          filter_not_has distinct (fun _ => rfl) (fun _ => repairBlockInSlide_eq_self_iff) keys
            (fun other unnamed => repairBlock_eq_self_iff.mpr fun same => absurd same unnamed)
            mem named edited fun _ => hasBlock_iff
        applied := by
          intro _
          refine ⟨known, ?_⟩
          rw [scope]
          exact ⟨block, mem, ⟨scope, named⟩, (stays_iff mem).not.mpr edited⟩
        unchanged := fun reason => (reason.elim noPlan (absurd known)).elim }

/-! ### Interactions -/

theorem repairInteraction_interactionId (interaction : SlideDeckInteraction) :
    (repairInteraction target interaction).interactionId = interaction.interactionId := by
  unfold repairInteraction
  split <;> rfl

theorem repairInteraction_eq_self_iff :
    repairInteraction target interaction = interaction ↔
      (interaction.interactionId = target.interactionId →
        ∀ teacherOnly ∈ interaction.teacherOnly, teacherOnly.rationale = scopedRationale) := by
  unfold repairInteraction
  split
  · next unnamed => simpa using fun named => absurd named unnamed
  · next isNamed =>
    rw [not_not] at isNamed
    rcases interaction with ⟨_, _, _, _, _, teacherOnly, _, _⟩
    cases teacherOnly with
    | none => simp
    | some teacherOnly =>
      rcases teacherOnly with ⟨_, _, _, rationale⟩
      simp only at isNamed
      simp [isNamed, eq_comm]

theorem repairInteractionInSlide_eq_self_iff :
    repairInteractionInSlide target slide = slide ↔
      slide.interactions.map (repairInteraction target) = slide.interactions := by
  unfold repairInteractionInSlide
  exact ⟨congrArg SlideDeckSlide.interactions, fun same => by rw [same]⟩

theorem slideFrame_repairInteractionInSlide (scope : target.scope = .interaction)
    (slide : SlideDeckSlide) :
    target.SlideFrame slide (repairInteractionInSlide target slide) := by
  refine ⟨rfl, fun _ => ⟨rfl, forall₂_same.mpr fun _ _ => ⟨rfl, fun _ => rfl⟩, ?_⟩⟩
  change List.Forall₂ _ slide.interactions (slide.interactions.map (repairInteraction target))
  rw [forall₂_map_right_iff, forall₂_same]
  refine fun interaction _ => ⟨repairInteraction_interactionId interaction, fun unnamed => ?_⟩
  exact repairInteraction_eq_self_iff.mpr fun named => absurd ⟨scope, named⟩ unnamed

theorem hasInteraction_iff {interactionId : String} :
    hasInteraction interactionId slide = true ↔
      interactionId ∈ slide.interactions.map SlideDeckInteraction.interactionId := by
  simp [hasInteraction]

theorem staysInScope_interaction_iff (valid : (slideDeckData coercions).Valid deck)
    (scope : target.scope = .interaction) :
    StaysInScope coercions redactTraceText lower target deck
        (applyInteractionFeedback redactTraceText target deck).1
        (applyInteractionFeedback redactTraceText target deck).2 ↔
      ¬ requiresPlanScope lower target.reason ∧
        ∃ interaction ∈ deckInteractions deck, interaction.interactionId = target.interactionId ∧
          ∃ teacherOnly ∈ interaction.teacherOnly, teacherOnly.rationale ≠ scopedRationale := by
  have distinct := distinctIds_of_valid valid
  have keys : ((deckInteractions deck).map SlideDeckInteraction.interactionId).Nodup :=
    deckInteractions_interactionIds ▸ distinct.interactions
  have stays_iff {interaction} (mem : interaction ∈ deckInteractions deck) :
      interaction ∈ deckInteractions (editSlides (repairInteractionInSlide target) deck) ↔
        repairInteraction target interaction = interaction :=
    mem_edited_iff (fun _ => rfl) keys repairInteraction_interactionId mem
  unfold applyInteractionFeedback
  constructor
  · intro stays
    rcases stays.applied (by simp) with ⟨_, differs⟩
    rw [scope] at differs
    rcases differs with ⟨interaction, mem, ⟨_, named⟩, gone⟩
    have edited := (stays_iff mem).not.mp gone
    rw [repairInteraction_eq_self_iff] at edited
    push Not at edited
    refine ⟨fun requires => ?_, interaction, mem, named, edited.2⟩
    have same := stays.unchanged (.inl requires)
    exact gone (same.symm ▸ mem)
  · rintro ⟨noPlan, interaction, mem, named, teacherOnly, isTeacherOnly, differs⟩
    have edited : repairInteraction target interaction ≠ interaction := by
      rw [ne_eq, repairInteraction_eq_self_iff]
      exact fun same => differs (same named teacherOnly isTeacherOnly)
    have known : target.Known deck := by
      simp only [SlideDeckFeedbackTarget.Known, scope]
      rw [← deckInteractions_interactionIds]
      exact mem_map.mpr ⟨interaction, mem, named⟩
    exact
      { valid := editSlides_valid valid fun slide isSlide =>
          keepsSlide_repairInteractionInSlide (slide_valid_of_valid valid isSlide)
        frame := deckFrame_editSlides (by simp [scope]) (slideFrame_repairInteractionInSlide scope)
        blocks := fun block isBlock _ => by
          rw [deckBlocks, editSlides, flatMap_map]
          exact isBlock
        interactions := by
          intro other isOther unnamed
          rw [stays_iff isOther, repairInteraction_eq_self_iff]
          exact fun isNamed => absurd ⟨scope, isNamed⟩ unnamed
        notes := notes_editSlides fun _ => List.Subset.refl _
        preserved := congrArg (map SlideDeckSlide.slideId) <|
          filter_not_has distinct (fun _ => rfl) (fun _ => repairInteractionInSlide_eq_self_iff) keys
            (fun other unnamed => repairInteraction_eq_self_iff.mpr fun same => absurd same unnamed)
            mem named edited fun _ => hasInteraction_iff
        applied := by
          intro _
          refine ⟨known, ?_⟩
          rw [scope]
          exact ⟨interaction, mem, ⟨scope, named⟩, (stays_iff mem).not.mpr edited⟩
        unchanged := fun reason => (reason.elim noPlan (absurd known)).elim }

end Edited

/-- Feedback stays in its scope and is reported as it was applied exactly when
it is applicable to the deck. -/
theorem applyScopedFeedback_staysInScope_iff (coercions : Coercions)
    (redactTraceText lower : String → String) (deck : SlideDeckData)
    (valid : (slideDeckData coercions).Valid deck) (target : SlideDeckFeedbackTarget)
    (targetValid : slideDeckFeedbackTarget.Valid target) :
    StaysInScope coercions redactTraceText lower target deck
        (applyScopedFeedback redactTraceText lower target deck).1
        (applyScopedFeedback redactTraceText lower target deck).2 ↔
      Applicable lower target deck := by
  unfold applyScopedFeedback Applicable
  cases scope : target.scope with
  | nowhere => exact iff_of_true (staysInScope_self valid rfl (by simp)) trivial
  | deck => exact staysInScope_deck_iff valid targetValid scope
  | slide => exact staysInScope_slide_iff valid scope
  | block => exact staysInScope_block_iff valid targetValid scope
  | interaction => exact staysInScope_interaction_iff valid scope

def missingBlock : SlideDeckFeedbackTarget where
  scope := .block
  reason := ""
  deckId := ""
  slideId := ""
  blockId := "missing"
  interactionId := ""
  replacementText := "Which half is shaded?"
  theme := ""

theorem missingBlock_valid : slideDeckFeedbackTarget.Valid missingBlock := by
  have short {longest : Nat} {text : String} (bound : text.length ≤ longest) :
      (Codec.text 0 (some longest)).Valid text := Codec.text_valid_iff.mpr ⟨Nat.zero_le _, bound⟩
  exact ⟨rfl, short (by decide), short (by decide), short (by decide), short (by decide),
    short (by decide), short (by decide), short (by decide)⟩

/-- Feedback on a block that is not there is reported as applied. -/
theorem missing_block_reported : ¬ ∀ deck, (slideDeckData Projection.plainCoercions).Valid deck →
    ∀ target, slideDeckFeedbackTarget.Valid target →
      StaysInScope Projection.plainCoercions id id target deck
        (applyScopedFeedback id id target deck).1 (applyScopedFeedback id id target deck).2 := by
  intro claim
  have stays := claim Projection.quizDeck quizDeck_valid missingBlock missingBlock_valid
  rcases stays.applied mem_cons_self with ⟨known, _⟩
  exact absurd known (by decide : "missing" ∉ blockIds Projection.quizDeck)

theorem applyScopedFeedback_quizDeck :
    StaysInScope Projection.plainCoercions id id missingBlock Projection.quizDeck
        (applyScopedFeedback id id missingBlock Projection.quizDeck).1
        (applyScopedFeedback id id missingBlock Projection.quizDeck).2 ↔
      Applicable id missingBlock Projection.quizDeck :=
  applyScopedFeedback_staysInScope_iff Projection.plainCoercions id id Projection.quizDeck
    quizDeck_valid missingBlock missingBlock_valid

end OhMyClass.SlideDeckEngine
