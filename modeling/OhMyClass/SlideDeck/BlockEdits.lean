import OhMyClass.SlideDeck.OneToOne

/-!
# Edits of a deck, slide by slide

A copy of a deck whose slides are edited one by one is valid again if every
slide stays valid, keeps its id and brings in no new ids or media.
-/

namespace OhMyClass.SlideDeckEngine

open List OhMyClass.Contracts SlideDeckData

variable {coercions : Coercions} {deck : SlideDeckData}

theorem forM_checkMedia_eq_ok_iff {policy : SlideDeckMediaPolicy} {media : List SlideDeckMedia} :
    media.forM (checkMedia policy) = .ok () ↔
      ∀ item ∈ media, checkMedia policy item = .ok () := by
  induction media with
  | nil => simp [List.forM, pure, Except.pure]
  | cons item rest ih =>
    rw [forall_mem_cons, ← ih, List.forM]
    cases checkMedia policy item with
    | error _ => simp [bind, Except.bind]
    | ok _ => simp [bind, Except.bind]

theorem check_eq_ok_iff : deck.check = .ok () ↔
    DistinctIds deck ∧
      ∀ item ∈ deck.media, checkMedia deck.mediaPolicy item = .ok () := by
  rw [← forM_checkMedia_eq_ok_iff]
  have distinct : DistinctIds deck ↔ (slideIds deck).Nodup ∧ (blockIds deck).Nodup ∧
      (interactionIds deck).Nodup :=
    ⟨fun ids => ⟨ids.slides, ids.blocks, ids.interactions⟩,
      fun ⟨slides, blocks, interactions⟩ => ⟨slides, blocks, interactions⟩⟩
  rw [distinct]
  unfold SlideDeckData.check slideIds blockIds interactionIds
  simp only [bind, Except.bind, throw, throwThe, MonadExceptOf.throw]
  split
  · next shared => simp [shared]
  · next slides =>
    split
    · next shared => simp [shared]
    · next blocks =>
      split
      · next shared => simp [shared]
      · next interactions => simp [not_not.mp slides, not_not.mp blocks, not_not.mp interactions]

theorem distinctIds_of_valid (valid : (slideDeckData coercions).Valid deck) : DistinctIds deck :=
  (check_eq_ok_iff.mp valid.2).1

variable {slide : SlideDeckSlide}

theorem slide_valid_of_valid (valid : (slideDeckData coercions).Valid deck)
    (mem : slide ∈ deck.slides) : (slideDeckSlide coercions).Valid slide := by
  rcases valid with ⟨⟨_, _, _, _, _, _, slides, _⟩, _⟩
  exact slides.2 slide mem

/-! ## Edited slides -/

structure KeepsSlide (coercions : Coercions) (slide edited : SlideDeckSlide) : Prop where
  valid : (slideDeckSlide coercions).Valid edited
  slideId : edited.slideId = slide.slideId
  blockIds : (edited.blocks.map SlideDeckBlock.blockId).Sublist
    (slide.blocks.map SlideDeckBlock.blockId)
  interactionIds : (edited.interactions.map SlideDeckInteraction.interactionId).Sublist
    (slide.interactions.map SlideDeckInteraction.interactionId)
  media : edited.blocks.filterMap SlideDeckBlock.media ⊆
    slide.blocks.filterMap SlideDeckBlock.media

theorem KeepsSlide.rfl (valid : (slideDeckSlide coercions).Valid slide) :
    KeepsSlide coercions slide slide :=
  ⟨valid, Eq.refl _, List.Sublist.refl _, List.Sublist.refl _, List.Subset.refl _⟩

def editSlides (edit : SlideDeckSlide → SlideDeckSlide) (deck : SlideDeckData) : SlideDeckData :=
  { deck with slides := deck.slides.map edit }

theorem flatMap_sublist {α β : Type} {items : List α} {first second : α → List β}
    (each : ∀ item ∈ items, (first item).Sublist (second item)) :
    (items.flatMap first).Sublist (items.flatMap second) := by
  induction items with
  | nil => exact List.Sublist.refl _
  | cons item rest ih =>
    exact (each item mem_cons_self).append
      (ih fun other mem => each other (mem_cons_of_mem _ mem))

variable {edit : SlideDeckSlide → SlideDeckSlide}

theorem slideIds_editSlides (keeps : ∀ slide ∈ deck.slides, KeepsSlide coercions slide (edit slide)) :
    slideIds (editSlides edit deck) = slideIds deck := by
  unfold slideIds editSlides
  rw [map_map]
  exact map_congr_left fun slide mem => (keeps slide mem).slideId

theorem distinctIds_editSlides (distinct : DistinctIds deck)
    (keeps : ∀ slide ∈ deck.slides, KeepsSlide coercions slide (edit slide)) :
    DistinctIds (editSlides edit deck) := by
  constructor
  · rw [slideIds_editSlides keeps]
    exact distinct.slides
  · refine List.Nodup.sublist ?_ distinct.blocks
    unfold blockIds editSlides
    rw [flatMap_map]
    exact flatMap_sublist fun slide mem => (keeps slide mem).blockIds
  · refine List.Nodup.sublist ?_ distinct.interactions
    unfold interactionIds editSlides
    rw [flatMap_map]
    exact flatMap_sublist fun slide mem => (keeps slide mem).interactionIds

theorem media_editSlides (keeps : ∀ slide ∈ deck.slides, KeepsSlide coercions slide (edit slide)) :
    (editSlides edit deck).media ⊆ deck.media := by
  intro item mem
  unfold SlideDeckData.media editSlides at mem
  rw [flatMap_map] at mem
  rcases mem_flatMap.mp mem with ⟨slide, isSlide, inSlide⟩
  exact mem_flatMap.mpr ⟨slide, isSlide, (keeps slide isSlide).media inSlide⟩

theorem editSlides_valid (valid : (slideDeckData coercions).Valid deck)
    (keeps : ∀ slide ∈ deck.slides, KeepsSlide coercions slide (edit slide)) :
    (slideDeckData coercions).Valid (editSlides edit deck) := by
  have checked := check_eq_ok_iff.mp valid.2
  rcases valid with ⟨⟨deckId, title, locale, theme, surfaces, sourceRefs, slides, rest⟩, _⟩
  refine ⟨⟨deckId, title, locale, theme, surfaces, sourceRefs, ⟨?_, ?_⟩, rest⟩, ?_⟩
  · change 1 ≤ (deck.slides.map edit).length
    rw [length_map]
    exact slides.1
  · exact forall_mem_map.mpr fun slide mem => (keeps slide mem).valid
  · refine check_eq_ok_iff.mpr ⟨distinctIds_editSlides checked.1 keeps, ?_⟩
    intro item mem
    exact checked.2 item (media_editSlides keeps mem)

/-- The parts of a valid slide that an edit of its blocks or interactions touches. -/
theorem slide_valid_of_parts {blocks : List SlideDeckBlock}
    {interactions : List SlideDeckInteraction} {teacherNotes : Option SlideDeckTeacherOnly}
    (valid : (slideDeckSlide coercions).Valid slide) (someBlock : 1 ≤ blocks.length)
    (eachBlock : ∀ block ∈ blocks, (slideDeckBlock coercions).Valid block)
    (distinct : (blocks.map SlideDeckBlock.blockId).Nodup)
    (eachInteraction : ∀ interaction ∈ interactions,
      (slideDeckInteraction coercions).Valid interaction) :
    (slideDeckSlide coercions).Valid { slide with blocks, interactions, teacherNotes } := by
  rcases valid with ⟨⟨slideId, title, layout, progression, _, _, _, rest⟩, _⟩
  refine ⟨⟨slideId, title, layout, progression, ⟨someBlock, eachBlock⟩,
    ⟨Nat.zero_le _, eachInteraction⟩, ?_, rest⟩, if_pos distinct⟩
  intro notes _
  exact ⟨⟨Nat.zero_le _, fun _ _ => Codec.text_valid_of_unbounded⟩, ⟨Nat.zero_le _,
    fun _ _ => Codec.text_valid_of_unbounded⟩⟩

theorem parts_of_slide_valid (valid : (slideDeckSlide coercions).Valid slide) :
    1 ≤ slide.blocks.length ∧ (∀ block ∈ slide.blocks, (slideDeckBlock coercions).Valid block) ∧
      (slide.blocks.map SlideDeckBlock.blockId).Nodup ∧
      ∀ interaction ∈ slide.interactions, (slideDeckInteraction coercions).Valid interaction := by
  rcases valid with ⟨⟨_, _, _, _, blocks, interactions, _⟩, checked⟩
  refine ⟨blocks.1, blocks.2, ?_, interactions.2⟩
  unfold SlideDeckSlide.check at checked
  split at checked
  · next distinct => exact distinct
  · cases checked

/-! ## Edits of a block -/

open OhMyClass.Raising

/-- `SlideDeckBlockNotFoundError` and `SlideDeckBlockEditInvalidError`. -/
inductive BlockEditError where
  | notFound (blockId : String)
  | invalid (blockId : String) (reason : SchemaError)

section Edit

variable (coercions : Coercions) (blockId newContent : String)

/-- `{**block.model_dump(mode="json"), "body": new_content}`. -/
def dumpWithBody (block : SlideDeckBlock) : Json :=
  match (slideDeckBlock coercions).encode block with
  | .obj members => .obj (JsonObject.set members "body" (.str newContent))
  | other => other

def editBlock (block : SlideDeckBlock) : Except BlockEditError SlideDeckBlock :=
  if block.blockId ≠ blockId then
    .ok block
  else
    ((slideDeckBlock coercions).decode (dumpWithBody coercions newContent block)).mapError
      (.invalid blockId)

/-- `any(block.block_id == block_id for block in slide.blocks)`. -/
def hasBlock (slide : SlideDeckSlide) : Bool :=
  slide.blocks.any fun block => block.blockId = blockId

def editSlide (slide : SlideDeckSlide) : Except BlockEditError SlideDeckSlide :=
  if hasBlock blockId slide then do
    let nextBlocks ← slide.blocks.mapM (editBlock coercions blockId newContent)
    return { slide with blocks := nextBlocks }
  else
    return slide

def applyScopedSlideDeckBlockEdit (deck : SlideDeckData) :
    Except BlockEditError SlideDeckData := do
  let nextSlides ← deck.slides.mapM (editSlide coercions blockId newContent)
  if ¬ deck.slides.any (hasBlock blockId) then
    throw (.notFound blockId)
  return { deck with slides := nextSlides }

end Edit

variable {coercions : Coercions} {deck : SlideDeckData} {blockId newContent : String}

/-! ## The new body -/

/-- Writing a body into the blocks with some id. -/
def blockWithBody (blockId newContent : String) (block : SlideDeckBlock) : SlideDeckBlock :=
  if block.blockId = blockId then { block with body := newContent } else block

def slideWithBody (blockId newContent : String) (slide : SlideDeckSlide) : SlideDeckSlide :=
  { slide with blocks := slide.blocks.map (blockWithBody blockId newContent) }

def deckWithBody (blockId newContent : String) : SlideDeckData → SlideDeckData :=
  editSlides (slideWithBody blockId newContent)

/-- A body within the bounds of its field. -/
def FitsBody (newContent : String) : Prop :=
  1 ≤ newContent.length ∧ newContent.length ≤ 2000

theorem dumpWithBody_eq (block : SlideDeckBlock) : dumpWithBody coercions newContent block =
    (slideDeckBlock coercions).encode { block with body := newContent } := by
  rfl

variable {block : SlideDeckBlock}

theorem block_valid_body (valid : (slideDeckBlock coercions).Valid block) :
    (slideDeckBlock coercions).Valid { block with body := newContent } ↔ FitsBody newContent := by
  rcases valid with ⟨blockId, blockType, _, rest⟩
  constructor
  · rintro ⟨_, _, body, _⟩
    exact boundedText_valid_iff.mp body
  · intro fits
    exact ⟨blockId, blockType, boundedText_valid_iff.mpr fits, rest⟩

theorem editBlock_eq_ok_iff {edited : SlideDeckBlock}
    (valid : (slideDeckBlock coercions).Valid block) :
    editBlock coercions blockId newContent block = .ok edited ↔
      (block.blockId = blockId → FitsBody newContent) ∧
        edited = blockWithBody blockId newContent block := by
  unfold editBlock blockWithBody
  split
  · next other =>
    rw [eq_comm]
    simp [other]
  · next named =>
    have isNamed := not_not.mp named
    rw [if_pos isNamed, mapError_eq_ok, dumpWithBody_eq, Codec.decode_encode_iff,
      block_valid_body valid]
    constructor
    · rintro ⟨rfl, fits⟩
      exact ⟨fun _ => fits, rfl⟩
    · rintro ⟨fits, rfl⟩
      exact ⟨rfl, fits isNamed⟩

variable {α : Type} {items results : List α} {rebuild : α → α} {holds : α → Prop}

theorem forall₂_eq_map_iff :
    List.Forall₂ (fun item result => holds item ∧ result = rebuild item) items results ↔
      (∀ item ∈ items, holds item) ∧ results = items.map rebuild := by
  induction items generalizing results with
  | nil => simp
  | cons item rest ih =>
    rw [forall₂_cons_left_iff, forall_mem_cons]
    constructor
    · rintro ⟨_, others, ⟨itemHolds, rfl⟩, related, rfl⟩
      rcases ih.mp related with ⟨restHold, rfl⟩
      exact ⟨⟨itemHolds, restHold⟩, rfl⟩
    · rintro ⟨⟨itemHolds, restHold⟩, rfl⟩
      exact ⟨_, _, ⟨itemHolds, rfl⟩, ih.mpr ⟨restHold, rfl⟩, rfl⟩

theorem mapM_eq_ok_map_iff {ε : Type} {step : α → Except ε α}
    (each : ∀ item ∈ items, ∀ result, step item = .ok result ↔
      holds item ∧ result = rebuild item) :
    items.mapM step = .ok results ↔
      (∀ item ∈ items, holds item) ∧ results = items.map rebuild := by
  rw [mapM_eq_ok_iff, ← forall₂_eq_map_iff]
  constructor
  · intro related
    refine ((forall₂_and_left _ _).mpr ⟨fun _ mem => mem, related⟩).imp ?_
    rintro item result ⟨mem, ret⟩
    exact (each item mem result).mp ret
  · intro related
    refine ((forall₂_and_left _ _).mpr ⟨fun _ mem => mem, related⟩).imp ?_
    rintro item result ⟨mem, ret⟩
    exact (each item mem result).mpr ret

variable {slide : SlideDeckSlide}

theorem hasBlock_iff : hasBlock blockId slide = true ↔
    blockId ∈ slide.blocks.map SlideDeckBlock.blockId := by
  simp [hasBlock]

theorem slideWithBody_of_not_hasBlock (free : ¬ hasBlock blockId slide = true) :
    slideWithBody blockId newContent slide = slide := by
  unfold slideWithBody
  have same : slide.blocks.map (blockWithBody blockId newContent) = slide.blocks := by
    refine (map_congr_left fun block mem => ?_).trans (map_id _)
    have other : block.blockId ≠ blockId := by
      rintro rfl
      exact free (hasBlock_iff.mpr (mem_map_of_mem mem))
    exact if_neg other
  rw [same]

theorem editSlide_eq_ok_iff {edited : SlideDeckSlide}
    (valid : (slideDeckSlide coercions).Valid slide) :
    editSlide coercions blockId newContent slide = .ok edited ↔
      (hasBlock blockId slide = true → FitsBody newContent) ∧
        edited = slideWithBody blockId newContent slide := by
  have blocks := (parts_of_slide_valid valid).2.1
  unfold editSlide
  by_cases named : hasBlock blockId slide = true
  · have edits (nextBlocks : List SlideDeckBlock) :
        slide.blocks.mapM (editBlock coercions blockId newContent) = .ok nextBlocks ↔
          FitsBody newContent ∧ nextBlocks = slide.blocks.map (blockWithBody blockId newContent) := by
      rw [mapM_eq_ok_map_iff fun block mem _ => editBlock_eq_ok_iff (blocks block mem)]
      refine and_congr_left fun _ => ?_
      rcases mem_map.mp (hasBlock_iff.mp named) with ⟨block, mem, isNamed⟩
      exact ⟨fun each => each block mem isNamed, fun fits _ _ _ => fits⟩
    cases outcome : slide.blocks.mapM (editBlock coercions blockId newContent) with
    | error error =>
      have refused : ¬ FitsBody newContent := by
        intro fits
        have returned := (edits _).mpr ⟨fits, rfl⟩
        rw [outcome] at returned
        cases returned
      simp [Except.bind, named, refused]
    | ok nextBlocks =>
      rcases (edits nextBlocks).mp outcome with ⟨fits, rfl⟩
      simp [bind, Except.bind, pure, Except.pure, named, fits, slideWithBody, eq_comm]
  · rw [slideWithBody_of_not_hasBlock named]
    simp [pure, Except.pure, named, eq_comm]

theorem any_hasBlock_iff : deck.slides.any (hasBlock blockId) = true ↔
    blockId ∈ blockIds deck := by
  simp only [any_eq_true, hasBlock_iff, blockIds, mem_flatMap]

theorem applyScopedSlideDeckBlockEdit_eq_ok_iff {result : SlideDeckData}
    (valid : (slideDeckData coercions).Valid deck) :
    applyScopedSlideDeckBlockEdit coercions blockId newContent deck = .ok result ↔
      blockId ∈ blockIds deck ∧ FitsBody newContent ∧
        result = deckWithBody blockId newContent deck := by
  have edits (nextSlides : List SlideDeckSlide) :
      deck.slides.mapM (editSlide coercions blockId newContent) = .ok nextSlides ↔
        (∀ slide ∈ deck.slides, hasBlock blockId slide = true → FitsBody newContent) ∧
          nextSlides = deck.slides.map (slideWithBody blockId newContent) :=
    mapM_eq_ok_map_iff fun slide mem _ => editSlide_eq_ok_iff (slide_valid_of_valid valid mem)
  unfold applyScopedSlideDeckBlockEdit
  by_cases known : blockId ∈ blockIds deck
  · rcases any_eq_true.mp (any_hasBlock_iff.mpr known) with ⟨slide, mem, named⟩
    cases outcome : deck.slides.mapM (editSlide coercions blockId newContent) with
    | error error =>
      have refused : ¬ FitsBody newContent := by
        intro fits
        have returned := (edits _).mpr ⟨fun _ _ _ => fits, rfl⟩
        rw [outcome] at returned
        cases returned
      simp [bind, Except.bind, refused]
    | ok nextSlides =>
      rcases (edits nextSlides).mp outcome with ⟨fits, rfl⟩
      have notRaised : ¬ ¬ deck.slides.any (hasBlock blockId) = true :=
        not_not.mpr (any_hasBlock_iff.mpr known)
      simp only [bind, Except.bind, if_neg notRaised]
      simp [pure, Except.pure, known, fits slide mem named, deckWithBody, editSlides, eq_comm]
  · have raised : ¬ deck.slides.any (hasBlock blockId) = true := any_hasBlock_iff.not.mpr known
    cases outcome : deck.slides.mapM (editSlide coercions blockId newContent) with
    | error error => simp [bind, Except.bind, known]
    | ok nextSlides =>
      simp only [bind, Except.bind, if_pos raised]
      simp [known]

theorem applyScopedSlideDeckBlockEdit_raises {error : BlockEditError}
    (raised : applyScopedSlideDeckBlockEdit coercions blockId newContent deck = .error error) :
    (error = .notFound blockId ∧ blockId ∉ blockIds deck) ∨
      ((∃ reason, error = .invalid blockId reason) ∧ blockId ∈ blockIds deck) := by
  have blocks (block : SlideDeckBlock) : OnlyRaises (fun error => ∃ reason,
      error = BlockEditError.invalid blockId reason) (editBlock coercions blockId newContent block) := by
    unfold editBlock
    split
    · exact onlyRaises_ok
    · exact OnlyRaises.mapError _ fun reason => ⟨reason, rfl⟩
  have slides : ∀ slide ∈ deck.slides, OnlyRaises (fun error =>
      (∃ reason, error = BlockEditError.invalid blockId reason) ∧ blockId ∈ blockIds deck)
        (editSlide coercions blockId newContent slide) := by
    intro slide mem
    unfold editSlide
    split
    · next named =>
      have known : blockId ∈ blockIds deck :=
        any_hasBlock_iff.mp (any_eq_true.mpr ⟨slide, mem, named⟩)
      rw [onlyRaises_bind]
      refine ⟨OnlyRaises.mapM fun block _ error raised => ?_, fun _ _ => onlyRaises_ok⟩
      exact ⟨blocks block error raised, known⟩
    · exact onlyRaises_ok
  unfold applyScopedSlideDeckBlockEdit at raised
  cases outcome : deck.slides.mapM (editSlide coercions blockId newContent) with
  | error other =>
    rw [outcome] at raised
    cases raised
    exact .inr (OnlyRaises.mapM slides error outcome)
  | ok nextSlides =>
    rw [outcome] at raised
    split at raised
    · next unknown =>
      cases raised
      exact .inl ⟨rfl, any_hasBlock_iff.not.mp unknown⟩
    · cases raised

/-- The result is the deck with a new body in its one block with some id. -/
def OneBlockEdited (blockId newContent : String) (deck result : SlideDeckData) : Prop :=
  ∃ place position slide block, deck.slides[place]? = some slide ∧
    slide.blocks[position]? = some block ∧ block.blockId = blockId ∧
    (∀ otherPlace otherPosition otherSlide other, deck.slides[otherPlace]? = some otherSlide →
      otherSlide.blocks[otherPosition]? = some other → other.blockId = blockId →
        otherPlace = place ∧ otherPosition = position) ∧
    result = { deck with
      slides := deck.slides.set place { slide with
        blocks := slide.blocks.set position { block with body := newContent } } }

variable {place : Nat} {item : α}

theorem map_eq_set (found : items[place]? = some item)
    (others : ∀ otherPlace other, items[otherPlace]? = some other → otherPlace ≠ place →
      rebuild other = other) :
    items.map rebuild = items.set place (rebuild item) := by
  apply ext_getElem?
  intro index
  rw [List.getElem?_map, List.getElem?_set]
  split
  · next same =>
    subst same
    have inside := (List.getElem?_eq_some_iff.mp found).1
    rw [found, if_pos inside, Option.map_some]
  · next different =>
    cases stored : items[index]? with
    | none => rfl
    | some other => rw [Option.map_some, others index other stored (Ne.symm different)]

theorem places_eq_of_nodup {β κ : Type} {parts : α → List β} {key : β → κ}
    (distinct : (items.flatMap fun item => (parts item).map key).Nodup)
    {position otherPlace otherPosition : Nat} {other : α} {part otherPart : β}
    (found : items[place]? = some item) (partFound : (parts item)[position]? = some part)
    (otherFound : items[otherPlace]? = some other)
    (otherPartFound : (parts other)[otherPosition]? = some otherPart)
    (same : key otherPart = key part) : otherPlace = place ∧ otherPosition = position := by
  rw [nodup_flatMap] at distinct
  rcases distinct with ⟨within, across⟩
  have samePlace : otherPlace = place := by
    by_contra different
    rw [pairwise_iff_getElem] at across
    rcases List.getElem?_eq_some_iff.mp found with ⟨inside, rfl⟩
    rcases List.getElem?_eq_some_iff.mp otherFound with ⟨otherInside, rfl⟩
    have isKey := mem_map_of_mem (f := key) (mem_of_getElem? partFound)
    have isOtherKey := mem_map_of_mem (f := key) (mem_of_getElem? otherPartFound)
    rw [same] at isOtherKey
    rcases Nat.lt_or_gt_of_ne different with before | after
    · exact across _ _ otherInside inside before isOtherKey isKey
    · exact across _ _ inside otherInside after isKey isOtherKey
  subst samePlace
  rw [found] at otherFound
  cases otherFound
  refine ⟨rfl, ?_⟩
  have unique := within item (mem_of_getElem? found)
  have keyFound : ((parts item).map key)[position]? = some (key part) := by
    rw [List.getElem?_map, partFound, Option.map_some]
  have otherKeyFound : ((parts item).map key)[otherPosition]? = some (key part) := by
    rw [List.getElem?_map, otherPartFound, Option.map_some, same]
  have inside := (List.getElem?_eq_some_iff.mp otherKeyFound).1
  exact (List.getElem?_inj inside unique).mp (otherKeyFound.trans keyFound.symm)

theorem oneBlockEdited_deckWithBody (distinct : DistinctIds deck) (known : blockId ∈ blockIds deck) :
    OneBlockEdited blockId newContent deck (deckWithBody blockId newContent deck) := by
  rcases mem_flatMap.mp known with ⟨slide, isSlide, named⟩
  rcases mem_map.mp named with ⟨block, isBlock, isNamed⟩
  rcases List.getElem?_of_mem isSlide with ⟨place, found⟩
  rcases List.getElem?_of_mem isBlock with ⟨position, blockFound⟩
  have only : ∀ otherPlace otherPosition otherSlide other,
      deck.slides[otherPlace]? = some otherSlide → otherSlide.blocks[otherPosition]? = some other →
        other.blockId = blockId → otherPlace = place ∧ otherPosition = position := by
    intro otherPlace otherPosition otherSlide other otherFound otherBlockFound same
    exact places_eq_of_nodup distinct.blocks found blockFound otherFound otherBlockFound
      (same.trans isNamed.symm)
  refine ⟨place, position, slide, block, found, blockFound, isNamed, only, ?_⟩
  have blocks : slide.blocks.map (blockWithBody blockId newContent) =
      slide.blocks.set position { block with body := newContent } := by
    rw [map_eq_set blockFound, blockWithBody, if_pos isNamed]
    intro otherPosition other otherFound different
    exact if_neg fun same => different (only place otherPosition slide other found otherFound same).2
  have slides : deck.slides.map (slideWithBody blockId newContent) =
      deck.slides.set place (slideWithBody blockId newContent slide) := by
    apply map_eq_set found
    intro otherPlace other otherFound different
    apply slideWithBody_of_not_hasBlock
    intro hasIt
    rcases mem_map.mp (hasBlock_iff.mp hasIt) with ⟨otherBlock, isOther, same⟩
    rcases List.getElem?_of_mem isOther with ⟨otherPosition, otherBlockFound⟩
    exact different
      (only otherPlace otherPosition other otherBlock otherFound otherBlockFound same).1
  unfold deckWithBody editSlides
  rw [slides, slideWithBody, blocks]

/-! ## Lens laws -/

theorem keepsSlide_slideWithBody (fits : FitsBody newContent)
    (valid : (slideDeckSlide coercions).Valid slide) :
    KeepsSlide coercions slide (slideWithBody blockId newContent slide) := by
  rcases parts_of_slide_valid valid with ⟨someBlock, blocks, distinct, interactions⟩
  have sameIds : (slide.blocks.map (blockWithBody blockId newContent)).map SlideDeckBlock.blockId =
      slide.blocks.map SlideDeckBlock.blockId := by
    rw [map_map]
    refine map_congr_left fun block _ => ?_
    unfold Function.comp blockWithBody
    split <;> rfl
  have sameMedia : (slide.blocks.map (blockWithBody blockId newContent)).filterMap
      SlideDeckBlock.media = slide.blocks.filterMap SlideDeckBlock.media := by
    rw [filterMap_map]
    refine filterMap_congr fun block _ => ?_
    unfold Function.comp blockWithBody
    split <;> rfl
  constructor
  · apply slide_valid_of_parts valid
    · rw [length_map]
      exact someBlock
    · refine forall_mem_map.mpr fun block mem => ?_
      unfold blockWithBody
      split
      · exact (block_valid_body (blocks block mem)).mpr fits
      · exact blocks block mem
    · rw [sameIds]
      exact distinct
    · exact interactions
  · rfl
  · exact sameIds ▸ List.Sublist.refl _
  · exact List.Sublist.refl _
  · exact sameMedia ▸ List.Subset.refl _

theorem deckWithBody_valid (valid : (slideDeckData coercions).Valid deck)
    (fits : FitsBody newContent) :
    (slideDeckData coercions).Valid (deckWithBody blockId newContent deck) :=
  editSlides_valid valid fun _ mem =>
    keepsSlide_slideWithBody fits (slide_valid_of_valid valid mem)

@[simp] theorem blockWithBody_blockId (block : SlideDeckBlock) :
    (blockWithBody blockId newContent block).blockId = block.blockId := by
  unfold blockWithBody
  split <;> rfl

theorem blockIds_deckWithBody (deck : SlideDeckData) :
    blockIds (deckWithBody blockId newContent deck) = blockIds deck := by
  simp [blockIds, deckWithBody, editSlides, slideWithBody, flatMap_map, Function.comp_def]

theorem deckWithBody_congr {first second : SlideDeckBlock → SlideDeckBlock}
    (same : ∀ slide ∈ deck.slides, ∀ block ∈ slide.blocks, first block = second block) :
    editSlides (fun slide => { slide with blocks := slide.blocks.map first }) deck =
      editSlides (fun slide => { slide with blocks := slide.blocks.map second }) deck := by
  unfold editSlides
  have slides : deck.slides.map (fun slide => { slide with blocks := slide.blocks.map first }) =
      deck.slides.map (fun slide => { slide with blocks := slide.blocks.map second }) := by
    refine map_congr_left fun slide mem => ?_
    rw [map_congr_left (same slide mem)]
  rw [slides]

theorem editSlides_editSlides (first second : SlideDeckBlock → SlideDeckBlock)
    (deck : SlideDeckData) :
    editSlides (fun slide => { slide with blocks := slide.blocks.map second })
        (editSlides (fun slide => { slide with blocks := slide.blocks.map first }) deck) =
      editSlides (fun slide => { slide with blocks := slide.blocks.map (second ∘ first) }) deck := by
  simp [editSlides]

theorem editSlides_id (deck : SlideDeckData) :
    editSlides (fun slide => { slide with blocks := slide.blocks.map id }) deck = deck := by
  simp [editSlides]

theorem deckWithBody_again (first second : String) (deck : SlideDeckData) :
    deckWithBody blockId second (deckWithBody blockId first deck) =
      deckWithBody blockId second deck := by
  refine (editSlides_editSlides _ _ deck).trans (deckWithBody_congr fun _ _ block _ => ?_)
  unfold Function.comp blockWithBody
  by_cases named : block.blockId = blockId
  · simp [named]
  · simp [named]

theorem deckWithBody_current (distinct : DistinctIds deck) (isSlide : slide ∈ deck.slides)
    (isBlock : block ∈ slide.blocks) :
    deckWithBody block.blockId block.body deck = deck := by
  refine (deckWithBody_congr (fun otherSlide isOther other otherMem => ?_)
    : _ = editSlides (fun slide => { slide with blocks := slide.blocks.map id }) deck).trans
    (editSlides_id deck)
  unfold blockWithBody
  split
  · next same =>
    rcases List.getElem?_of_mem isSlide with ⟨place, found⟩
    rcases List.getElem?_of_mem isBlock with ⟨position, blockFound⟩
    rcases List.getElem?_of_mem isOther with ⟨otherPlace, otherFound⟩
    rcases List.getElem?_of_mem otherMem with ⟨otherPosition, otherBlockFound⟩
    rcases places_eq_of_nodup distinct.blocks found blockFound otherFound otherBlockFound same
      with ⟨rfl, rfl⟩
    cases found.symm.trans otherFound
    cases blockFound.symm.trans otherBlockFound
    rfl
  · rfl

variable {otherId : String}

theorem deckWithBody_comm (different : blockId ≠ otherId) (newContent otherContent : String)
    (deck : SlideDeckData) :
    deckWithBody otherId otherContent (deckWithBody blockId newContent deck) =
      deckWithBody blockId newContent (deckWithBody otherId otherContent deck) := by
  refine (editSlides_editSlides _ _ deck).trans
    ((deckWithBody_congr fun _ _ block _ => ?_).trans (editSlides_editSlides _ _ deck).symm)
  unfold Function.comp blockWithBody
  by_cases named : block.blockId = blockId
  · simp [named, different]
  · by_cases otherNamed : block.blockId = otherId
    · simp [otherNamed, different.symm]
    · simp [named, otherNamed]

/-- What the edits of a deck's blocks promise. -/
structure BlockLens (coercions : Coercions) (deck : SlideDeckData) : Prop where
  raises : ∀ blockId newContent error,
    applyScopedSlideDeckBlockEdit coercions blockId newContent deck = .error error →
      (error = .notFound blockId ∧ blockId ∉ blockIds deck) ∨
        ((∃ reason, error = .invalid blockId reason) ∧ blockId ∈ blockIds deck ∧
          ¬ FitsBody newContent)
  returns : ∀ blockId newContent result,
    applyScopedSlideDeckBlockEdit coercions blockId newContent deck = .ok result →
      blockId ∈ blockIds deck ∧ FitsBody newContent ∧
        OneBlockEdited blockId newContent deck result ∧ (slideDeckData coercions).Valid result
  again : ∀ blockId first second result,
    applyScopedSlideDeckBlockEdit coercions blockId first deck = .ok result → ∀ final,
      applyScopedSlideDeckBlockEdit coercions blockId second result = .ok final ↔
        applyScopedSlideDeckBlockEdit coercions blockId second deck = .ok final
  current : ∀ slide ∈ deck.slides, ∀ block ∈ slide.blocks,
    applyScopedSlideDeckBlockEdit coercions block.blockId block.body deck = .ok deck
  commutes : ∀ blockId newContent otherId otherContent, blockId ≠ otherId → ∀ final,
    (applyScopedSlideDeckBlockEdit coercions blockId newContent deck >>=
        applyScopedSlideDeckBlockEdit coercions otherId otherContent) = .ok final ↔
      (applyScopedSlideDeckBlockEdit coercions otherId otherContent deck >>=
        applyScopedSlideDeckBlockEdit coercions blockId newContent) = .ok final

theorem applyScopedSlideDeckBlockEdit_bind_eq_ok_iff {otherContent : String} {final : SlideDeckData}
    (valid : (slideDeckData coercions).Valid deck) :
    (applyScopedSlideDeckBlockEdit coercions blockId newContent deck >>=
        applyScopedSlideDeckBlockEdit coercions otherId otherContent) = .ok final ↔
      (blockId ∈ blockIds deck ∧ FitsBody newContent) ∧
        (otherId ∈ blockIds deck ∧ FitsBody otherContent) ∧
        final = deckWithBody otherId otherContent (deckWithBody blockId newContent deck) := by
  rw [bind_eq_ok]
  constructor
  · rintro ⟨middle, first, second⟩
    rcases (applyScopedSlideDeckBlockEdit_eq_ok_iff valid).mp first with ⟨known, fits, rfl⟩
    rw [applyScopedSlideDeckBlockEdit_eq_ok_iff (deckWithBody_valid valid fits),
      blockIds_deckWithBody] at second
    exact ⟨⟨known, fits⟩, ⟨second.1, second.2.1⟩, second.2.2⟩
  · rintro ⟨⟨known, fits⟩, ⟨otherKnown, otherFits⟩, rfl⟩
    refine ⟨_, (applyScopedSlideDeckBlockEdit_eq_ok_iff valid).mpr ⟨known, fits, rfl⟩, ?_⟩
    rw [applyScopedSlideDeckBlockEdit_eq_ok_iff (deckWithBody_valid valid fits),
      blockIds_deckWithBody]
    exact ⟨otherKnown, otherFits, rfl⟩

/-- The edits of the blocks of a valid deck are those of a lens. -/
theorem applyScopedSlideDeckBlockEdit_lens (coercions : Coercions) (deck : SlideDeckData)
    (valid : (slideDeckData coercions).Valid deck) : BlockLens coercions deck where
  raises := by
    intro blockId newContent error raised
    rcases applyScopedSlideDeckBlockEdit_raises raised with notFound | ⟨isInvalid, known⟩
    · exact .inl notFound
    · refine .inr ⟨isInvalid, known, fun fits => ?_⟩
      have returned := (applyScopedSlideDeckBlockEdit_eq_ok_iff valid).mpr ⟨known, fits, rfl⟩
      rw [raised] at returned
      cases returned
  returns := by
    intro blockId newContent result returned
    rcases (applyScopedSlideDeckBlockEdit_eq_ok_iff valid).mp returned with ⟨known, fits, rfl⟩
    exact ⟨known, fits, oneBlockEdited_deckWithBody (distinctIds_of_valid valid) known,
      deckWithBody_valid valid fits⟩
  again := by
    intro blockId first second result returned final
    rcases (applyScopedSlideDeckBlockEdit_eq_ok_iff valid).mp returned with ⟨_, fits, rfl⟩
    rw [applyScopedSlideDeckBlockEdit_eq_ok_iff (deckWithBody_valid valid fits),
      applyScopedSlideDeckBlockEdit_eq_ok_iff valid, blockIds_deckWithBody, deckWithBody_again]
  current := by
    intro slide isSlide block isBlock
    have slideValid := slide_valid_of_valid valid isSlide
    rw [applyScopedSlideDeckBlockEdit_eq_ok_iff valid,
      deckWithBody_current (distinctIds_of_valid valid) isSlide isBlock]
    refine ⟨mem_flatMap.mpr ⟨slide, isSlide, mem_map_of_mem isBlock⟩, ?_, rfl⟩
    exact (block_valid_body ((parts_of_slide_valid slideValid).2.1 block isBlock)).mp
      ((parts_of_slide_valid slideValid).2.1 block isBlock)
  commutes := by
    intro blockId newContent otherId otherContent different final
    rw [applyScopedSlideDeckBlockEdit_bind_eq_ok_iff valid,
      applyScopedSlideDeckBlockEdit_bind_eq_ok_iff valid, deckWithBody_comm different, and_left_comm]

theorem applyScopedSlideDeckBlockEdit_quizDeck : BlockLens Projection.plainCoercions
    Projection.quizDeck :=
  applyScopedSlideDeckBlockEdit_lens Projection.plainCoercions Projection.quizDeck quizDeck_valid

end OhMyClass.SlideDeckEngine
