import OhMyClass.Contracts.SlideDeck
import OhMyClass.Transition.Machine

/-!
# The deck editor

A deck is edited in the browser, mirrored into a local draft, and saved with one
call for each block object that is not the one first loaded.  The server applies
a call to the head of the deck if the call names that head.
-/

namespace OhMyClass.DeckEditor

open List

section

open Contracts Transition

def blocks (deck : SlideDeckData) : List SlideDeckBlock :=
  deck.slides.flatMap SlideDeckSlide.blocks

def blockIds (deck : SlideDeckData) : List String :=
  (blocks deck).map SlideDeckBlock.blockId

/-- A deck that passed `_block_ids_are_unique_across_deck`. -/
structure Deck where
  data : SlideDeckData
  unique : (blockIds data).Nodup

/-- One function on every block, in its place. -/
def mapBlocks (change : SlideDeckSlide → SlideDeckBlock → SlideDeckBlock) (deck : SlideDeckData) :
    SlideDeckData :=
  { deck with slides := deck.slides.map fun slide =>
      { slide with blocks := slide.blocks.map (change slide) } }

theorem mapBlocks_self {change : SlideDeckSlide → SlideDeckBlock → SlideDeckBlock}
    (same : ∀ slide block, change slide block = block) (deck : SlideDeckData) :
    mapBlocks change deck = deck := by
  have slides : deck.slides.map (fun slide =>
      { slide with blocks := slide.blocks.map (change slide) }) = deck.slides := by
    rw [map_congr_left (g := id), map_id]
    intro slide _
    rw [map_congr_left (g := id) fun block _ => same slide block, map_id]
    rfl
  unfold mapBlocks
  rw [slides]

theorem blockIds_mapBlocks {change : SlideDeckSlide → SlideDeckBlock → SlideDeckBlock}
    (same : ∀ slide block, (change slide block).blockId = block.blockId) (deck : SlideDeckData) :
    blockIds (mapBlocks change deck) = blockIds deck := by
  simp only [blockIds, blocks, mapBlocks, map_flatMap, flatMap_map, map_map]
  congr 1
  funext slide
  simp [same]

/-- `slide.blocks.map` of `updateBlock`, in the slide with an id. -/
def putBlock (slideId : String) (updated : SlideDeckBlock) (slide : SlideDeckSlide)
    (block : SlideDeckBlock) : SlideDeckBlock :=
  if slide.slideId = slideId ∧ block.blockId = updated.blockId then updated else block

/-- The replacement of `apply_scoped_slide_deck_block_edit`. -/
def putBody (blockId newContent : String) (_ : SlideDeckSlide) (block : SlideDeckBlock) :
    SlideDeckBlock :=
  if block.blockId = blockId then { block with body := newContent } else block

theorem blockId_putBlock (slideId : String) (updated : SlideDeckBlock) (slide : SlideDeckSlide)
    (block : SlideDeckBlock) : (putBlock slideId updated slide block).blockId = block.blockId := by
  unfold putBlock
  split
  next both => exact both.2.symm
  next => rfl

theorem blockId_putBody (blockId newContent : String) (slide : SlideDeckSlide)
    (block : SlideDeckBlock) : (putBody blockId newContent slide block).blockId = block.blockId := by
  unfold putBody
  split <;> rfl

def Deck.putBlock (deck : Deck) (slideId : String) (updated : SlideDeckBlock) : Deck where
  data := mapBlocks (DeckEditor.putBlock slideId updated) deck.data
  unique := by
    rw [blockIds_mapBlocks (blockId_putBlock slideId updated)]
    exact deck.unique

def Deck.putBody (deck : Deck) (blockId newContent : String) : Deck where
  data := mapBlocks (DeckEditor.putBody blockId newContent) deck.data
  unique := by
    rw [blockIds_mapBlocks (blockId_putBody blockId newContent)]
    exact deck.unique

/-- `updateInteraction`, in the slide with an id. -/
def Deck.putInteraction (deck : Deck) (slideId : String) (updated : SlideDeckInteraction) :
    Deck where
  data := { deck.data with slides := deck.data.slides.map fun slide =>
    if slide.slideId = slideId then
      { slide with interactions := slide.interactions.map fun interaction =>
          if interaction.interactionId = updated.interactionId then updated else interaction }
    else slide }
  unique := by
    have same : blockIds { deck.data with slides := deck.data.slides.map fun slide =>
        if slide.slideId = slideId then
          { slide with interactions := slide.interactions.map fun interaction =>
              if interaction.interactionId = updated.interactionId then updated
              else interaction }
        else slide } = blockIds deck.data := by
      simp only [blockIds, blocks, List.flatMap_map]
      congr 2
      funext slide
      split <;> rfl
    rw [same]
    exact deck.unique

/-- A deck as the editor holds it, with the object of the block under each id. -/
structure DeckObject where
  deck : Deck
  object : String → ℕ

def diffDirtyBlocks (original current : DeckObject) : List SlideDeckBlock :=
  (blocks current.deck.data).filter fun block =>
    block.blockId ∉ blockIds original.deck.data ∨
      original.object block.blockId ≠ current.object block.blockId

inductive Edit where
  /-- A new block object in a slide. -/
  | updateBlock (slideId : String) (updated : SlideDeckBlock)
  | updateInteraction (slideId : String) (updated : SlideDeckInteraction)
  /-- A rejected text: the editor hands back the object it has. -/
  | keep

def DeckObject.edit (current : DeckObject) (newObject : ℕ) : Edit → DeckObject
  | .updateBlock slideId updated =>
    { deck := current.deck.putBlock slideId updated
      object :=
        if ∃ slide ∈ current.deck.data.slides, slide.slideId = slideId ∧
            updated.blockId ∈ slide.blocks.map SlideDeckBlock.blockId then
          Function.update current.object updated.blockId newObject
        else current.object }
  | .updateInteraction slideId updated =>
    { current with deck := current.deck.putInteraction slideId updated }
  | .keep => current

/-- The head of a deck, with the number of its snapshot. -/
structure Server where
  deck : Deck
  snapshotId : ℕ

inductive EditError where
  | blockNotFound
  | invalidEdit
  | conflict
  /-- The request or its answer is lost. -/
  | failed
  deriving DecidableEq

inductive Reply where
  | answered
  | requestLost
  | answerLost
  deriving DecidableEq

/-- What happens at one call: someone else may have saved a deck before it. -/
structure Turn where
  others : Option Deck := none
  reply : Reply := .answered

def Server.replace (server : Server) (deck : Deck) : Server where
  deck := deck
  snapshotId := server.snapshotId + 1

/-- The length of a block's body. -/
def validBody (body : String) : Prop :=
  1 ≤ body.length ∧ body.length ≤ 2000
  deriving Decidable

/-- `edit_slide_deck_snapshot_block`: the new head, or why there is none. -/
def Server.editBlock (server : Server) (baseSnapshotId : ℕ) (blockId newContent : String) :
    Except EditError Server :=
  if blockId ∉ blockIds server.deck.data then .error .blockNotFound
  else if ¬ validBody newContent then .error .invalidEdit
  else if server.snapshotId ≠ baseSnapshotId then .error .conflict
  else .ok (server.replace (server.deck.putBody blockId newContent))

/-- A call and the server after it. -/
def Server.answer (server : Server) (baseSnapshotId : ℕ) (blockId newContent : String)
    (reply : Reply) : Except EditError ℕ × Server :=
  if reply = .requestLost then (.error .failed, server)
  else
    match server.editBlock baseSnapshotId blockId newContent with
    | .error error => (.error error, server)
    | .ok after => (if reply = .answerLost then .error .failed else .ok after.snapshotId, after)

/-- A call, with the head it met. -/
structure Call where
  baseSnapshotId : ℕ
  blockId : String
  newContent : String
  head : Deck

/-- The result of a save, its calls, and the server after it. -/
structure SaveResult where
  ok : Bool
  conflict : Bool
  snapshotId : ℕ
  calls : List Call
  server : Server

/-- The loop of `saveDeckEdits`, over the dirty blocks. -/
def saveBlocks (server : Server) (snapshotId : ℕ) : List Turn → List SlideDeckBlock → SaveResult
  | _, [] => { ok := true, conflict := false, snapshotId, calls := [], server }
  | turns, block :: rest =>
    let turn := turns.headD {}
    let server := turn.others.elim server server.replace
    let call : Call :=
      { baseSnapshotId := snapshotId, blockId := block.blockId, newContent := block.body
        head := server.deck }
    match server.answer snapshotId block.blockId block.body turn.reply with
    | (.error error, server) =>
      { ok := false, conflict := decide (error = .conflict), snapshotId, calls := [call], server }
    | (.ok snapshotId, server) =>
      let result := saveBlocks server snapshotId turns.tail rest
      { result with calls := call :: result.calls }

def saveDeckEdits (originalDeck currentDeck : DeckObject) (baseSnapshotId : ℕ) (server : Server)
    (turns : List Turn) : SaveResult :=
  saveBlocks server baseSnapshotId turns (diffDirtyBlocks originalDeck currentDeck)

/-! ## The editor -/

structure Editor where
  initialDeck : DeckObject
  deck : DeckObject
  hasUnsavedChanges : Bool
  snapshotId : ℕ
  /-- The next object to be created. -/
  nextObject : ℕ

structure World where
  server : Server
  /-- The draft in the local storage. -/
  draft : Option Deck
  editor : Editor

namespace World

/-- `updateDeck`; the storage may refuse the draft. -/
def edit (world : World) (change : Edit × Bool) : World :=
  let next := world.editor.deck.edit world.editor.nextObject change.1
  { world with
    draft := if change.2 then some next.deck else world.draft
    editor :=
      { world.editor with
        deck := next
        hasUnsavedChanges := true
        nextObject := world.editor.nextObject + 1 } }

/-- `save`, with the edits that are made while its calls are under way. -/
def save (world : World) (turns : List Turn) (during : List (Edit × Bool)) :
    SaveResult × World :=
  let result := saveDeckEdits world.editor.initialDeck world.editor.deck world.editor.snapshotId
    world.server turns
  let edited := during.foldl edit world
  (result,
    { server := result.server
      draft := if result.ok then none else edited.draft
      editor :=
        { edited.editor with
          snapshotId := result.snapshotId
          hasUnsavedChanges := if result.ok then false else edited.editor.hasUnsavedChanges } })

/-- A new page: the head of the server, or the draft that is left. -/
def reload (world : World) : World :=
  let fetched : DeckObject := ⟨world.server.deck, fun _ => world.editor.nextObject⟩
  { world with
    editor :=
      { initialDeck := fetched
        deck := world.draft.elim fetched fun draft =>
          ⟨draft, fun _ => world.editor.nextObject + 1⟩
        hasUnsavedChanges := world.draft.isSome
        snapshotId := world.server.snapshotId
        nextObject := world.editor.nextObject + 2 } }

/-- The first page, on a server with a draft left in the storage or none. -/
def opened (server : Server) (draft : Option Deck) : World :=
  reload
    { server, draft
      editor := ⟨⟨server.deck, fun _ => 0⟩, ⟨server.deck, fun _ => 0⟩, false, 0, 0⟩ }

end World

inductive Event where
  | edit (change : Edit) (stored : Bool)
  /-- The button, which is disabled without unsaved changes. -/
  | save (turns : List Turn) (during : List (Edit × Bool))
  | reload
  /-- Someone else saves a deck. -/
  | others (deck : Deck)

def World.step (world : World) : Event → World
  | .edit change stored => world.edit (change, stored)
  | .save turns during =>
    if world.editor.hasUnsavedChanges then (world.save turns during).2 else world
  | .reload => world.reload
  | .others deck => { world with server := world.server.replace deck }

/-- An editor on a server, from its first page. -/
def editing : Machine World Event Unit where
  initial world := ∃ server draft, world = .opened server draft
  step world event := (world.step event, ())

end

/-!
## What a save keeps

A save sends the bodies of the blocks whose objects were replaced, and nothing
else.  It loses no edit as long as the deck differs from the head in such bodies
only and nobody else saves.
-/

section

open Contracts Transition

def editableBlock (block : SlideDeckBlock) : String × String × Option SlideDeckMedia :=
  (block.blockId, block.body, block.media)

structure EditableInteraction where
  interactionId : String
  prompt : String
  options : List SlideDeckInteractionOption
  teacherOnly : Option (List String × String)
  deriving DecidableEq

structure EditableSlide (Block : Type) where
  slideId : String
  blocks : List Block
  interactions : List EditableInteraction
  deriving DecidableEq

def editableInteraction (interaction : SlideDeckInteraction) : EditableInteraction :=
  ⟨interaction.interactionId, interaction.prompt, interaction.options,
    interaction.teacherOnly.map fun teacherOnly =>
      (teacherOnly.correctOptionIds, teacherOnly.rationale)⟩

/-- Everything the editor can change, slide by slide. -/
def editable (deck : SlideDeckData) :
    List (EditableSlide (String × String × Option SlideDeckMedia)) :=
  deck.slides.map fun slide =>
    ⟨slide.slideId, slide.blocks.map editableBlock, slide.interactions.map editableInteraction⟩

/-- A block without its body, if its id is among these. -/
def unsentBlock (sent : List String) (block : SlideDeckBlock) :
    String × Option String × Option SlideDeckMedia :=
  (block.blockId, if block.blockId ∈ sent then none else some block.body, block.media)

/-- What the editor can change, apart from the bodies of the blocks with these
ids. -/
def unsent (sent : List String) (deck : SlideDeckData) :
    List (EditableSlide (String × Option String × Option SlideDeckMedia)) :=
  deck.slides.map fun slide =>
    ⟨slide.slideId, slide.blocks.map (unsentBlock sent), slide.interactions.map editableInteraction⟩

/-- Lists with equal images under one function have equal images under others
that it determines. -/
theorem map_eq_map_of {α β γ : Type} {first second : α → β} {left right : α → γ} {xs ys : List α}
    (same : xs.map first = ys.map second)
    (determines : ∀ x, ∀ y ∈ ys, first x = second y → left x = right y) :
    xs.map left = ys.map right := by
  induction xs generalizing ys with
  | nil =>
    cases ys with
    | nil => rfl
    | cons y ys => cases same
  | cons x xs ih =>
    cases ys with
    | nil => cases same
    | cons y ys =>
      rcases List.cons.inj same with ⟨head, tail⟩
      rw [map_cons, map_cons, determines x y mem_cons_self head,
        ih tail fun x y mem => determines x y (mem_cons_of_mem _ mem)]

theorem blockIds_of_unsent {sent : List String} {first second : SlideDeckData}
    (same : unsent sent first = unsent sent second) : blockIds first = blockIds second := by
  have ids (deck : SlideDeckData) :
      blockIds deck = (unsent sent deck).flatMap fun slide => slide.blocks.map Prod.fst := by
    simp [blockIds, blocks, unsent, unsentBlock, map_flatMap, flatMap_map,
      Function.comp_def]
  rw [ids, ids, same]

/-! ## Bodies in a deck -/

def Deck.putBodies (deck : Deck) (saved : List SlideDeckBlock) : Deck :=
  saved.foldl (fun deck block => deck.putBody block.blockId block.body) deck

/-- The block with the body it has in a list. -/
def bodyFrom (saved : List SlideDeckBlock) (_ : SlideDeckSlide) (block : SlideDeckBlock) :
    SlideDeckBlock :=
  match saved.find? fun other => other.blockId = block.blockId with
  | none => block
  | some other => { block with body := other.body }

section Bodies

variable {deck head : Deck} {saved : List SlideDeckBlock} {block : SlideDeckBlock}
  {slide : SlideDeckSlide} {sent : List String}

theorem bodyFrom_of_not_mem (fresh : block.blockId ∉ saved.map SlideDeckBlock.blockId) :
    bodyFrom saved slide block = block := by
  have none : saved.find? (fun other => other.blockId = block.blockId) = none := by
    rw [List.find?_eq_none]
    intro other mem same
    exact fresh (mem_map.mpr ⟨other, mem, of_decide_eq_true same⟩)
  simp only [bodyFrom, none]

theorem blockId_bodyFrom : (bodyFrom saved slide block).blockId = block.blockId := by
  unfold bodyFrom
  split <;> rfl

theorem media_bodyFrom : (bodyFrom saved slide block).media = block.media := by
  unfold bodyFrom
  split <;> rfl

section

variable (unique : (saved.map SlideDeckBlock.blockId).Nodup)

include unique

theorem putBodies_eq (deck : Deck) :
    (deck.putBodies saved).data = mapBlocks (bodyFrom saved) deck.data := by
  induction saved generalizing deck with
  | nil =>
    have same (slide : SlideDeckSlide) (block : SlideDeckBlock) :
        bodyFrom [] slide block = block := rfl
    exact (mapBlocks_self same deck.data).symm
  | cons first rest ih =>
    rcases nodup_cons.mp unique with ⟨fresh, unique⟩
    change ((deck.putBody first.blockId first.body).putBodies rest).data = _
    rw [ih unique]
    simp only [Deck.putBody, mapBlocks, map_map]
    congr 1
    apply map_congr_left
    intro slide _
    simp only [Function.comp_apply, map_map]
    congr 1
    apply map_congr_left
    intro block _
    by_cases same : first.blockId = block.blockId
    · have freshBody : ({ block with body := first.body } : SlideDeckBlock).blockId ∉
          rest.map SlideDeckBlock.blockId := same ▸ fresh
      simp only [Function.comp_apply, putBody, same, if_true, bodyFrom_of_not_mem freshBody]
      simp [bodyFrom, same]
    · simp [bodyFrom, putBody, same, Ne.symm same]

theorem unsent_putBodies (within : ∀ block ∈ saved, block.blockId ∈ sent) (deck : Deck) :
    unsent sent (deck.putBodies saved).data = unsent sent deck.data := by
  rw [putBodies_eq unique]
  simp only [unsent, mapBlocks, map_map]
  apply map_congr_left
  intro slide _
  simp only [Function.comp_apply, map_map, EditableSlide.mk.injEq, true_and, and_true]
  apply map_congr_left
  intro block _
  by_cases isSaved : block.blockId ∈ saved.map SlideDeckBlock.blockId
  · obtain ⟨other, mem, same⟩ := mem_map.mp isSaved
    have isSent : block.blockId ∈ sent := same ▸ within other mem
    simp [unsentBlock, blockId_bodyFrom, media_bodyFrom, isSent]
  · rw [Function.comp_apply, bodyFrom_of_not_mem isSaved]

/-- With the bodies of a deck's own blocks, what was equal apart from them is
equal. -/
theorem editable_putBodies (own : ∀ block ∈ saved, block ∈ blocks deck.data)
    (same : unsent (saved.map SlideDeckBlock.blockId) head.data =
      unsent (saved.map SlideDeckBlock.blockId) deck.data) :
    editable (head.putBodies saved).data = editable deck.data := by
  rw [putBodies_eq unique]
  simp only [editable, mapBlocks, map_map]
  apply map_eq_map_of same
  intro stored slide slideMem sameSlide
  simp only [EditableSlide.mk.injEq] at sameSlide
  simp only [Function.comp_apply, EditableSlide.mk.injEq]
  refine ⟨sameSlide.1, ?_, sameSlide.2.2⟩
  rw [map_map]
  apply map_eq_map_of sameSlide.2.1
  intro storedBlock block blockMem sameBlock
  have blockIn : block ∈ blocks deck.data := mem_flatMap.mpr ⟨slide, slideMem, blockMem⟩
  simp only [unsentBlock, Prod.mk.injEq] at sameBlock
  rcases sameBlock with ⟨sameId, sameBody, sameMedia⟩
  simp only [Function.comp_apply, editableBlock, Prod.mk.injEq, blockId_bodyFrom, media_bodyFrom]
  refine ⟨sameId, ?_, sameMedia⟩
  by_cases isSaved : storedBlock.blockId ∈ saved.map SlideDeckBlock.blockId
  · cases found : saved.find? fun other => other.blockId = storedBlock.blockId with
    | none =>
      obtain ⟨other, mem, sameOther⟩ := mem_map.mp isSaved
      exact absurd (decide_eq_true sameOther) (List.find?_eq_none.mp found other mem)
    | some other =>
      have otherIn := own other (mem_of_find?_eq_some found)
      have otherId : other.blockId = storedBlock.blockId := by
        simpa using List.find?_some found
      have isBlock : other = block :=
        inj_on_of_nodup_map deck.unique otherIn blockIn (otherId.trans sameId)
      simp [bodyFrom, found, isBlock]
  · have notSaved : block.blockId ∉ saved.map SlideDeckBlock.blockId := sameId ▸ isSaved
    rw [if_neg isSaved, if_neg notSaved] at sameBody
    rw [bodyFrom_of_not_mem isSaved]
    exact Option.some.inj sameBody

theorem mem_blocks_putBodies (mem : block ∈ blocks (deck.putBodies saved).data)
    (fresh : block.blockId ∉ saved.map SlideDeckBlock.blockId) : block ∈ blocks deck.data := by
  rw [putBodies_eq unique] at mem
  simp only [blocks, mapBlocks, flatMap_map, mem_flatMap, mem_map] at mem
  obtain ⟨slide, slideMem, stored, storedMem, rfl⟩ := mem
  rw [blockId_bodyFrom] at fresh
  rw [bodyFrom_of_not_mem fresh]
  exact mem_flatMap.mpr ⟨slide, slideMem, storedMem⟩

end

end Bodies

end

end OhMyClass.DeckEditor
