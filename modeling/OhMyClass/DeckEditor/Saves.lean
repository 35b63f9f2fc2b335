import OhMyClass.DeckEditor.Saving
import OhMyClass.Projection.RoundTrip

/-!
# Histories of edits and saves

A save that meets a deck changed in bodies only, on a server nobody else changed,
loses no edit.
-/

namespace OhMyClass.DeckEditor

open List Contracts Transition

/-! ## One save -/

section Save

variable {server : Server} {dirty : List SlideDeckBlock} {turns : List Turn} {base : ℕ}

/-- The calls find their blocks, with bodies the server takes. -/
def Acceptable (head : Deck) (dirty : List SlideDeckBlock) : Prop :=
  ∀ block ∈ dirty, block.blockId ∈ blockIds head.data ∧ validBody block.body

/-- Nobody else saves between the calls, and no answer is lost. -/
def Undisturbed (turns : List Turn) : Prop :=
  ∀ turn ∈ turns, turn.others = none ∧ turn.reply ≠ .answerLost

theorem Acceptable.putBody {head : Deck} {block : SlideDeckBlock}
    (acceptable : Acceptable head (block :: dirty)) :
    Acceptable (head.putBody block.blockId block.body) dirty := by
  intro other mem
  have kept : blockIds (head.putBody block.blockId block.body).data = blockIds head.data :=
    blockIds_mapBlocks (blockId_putBody _ _) _
  rw [kept]
  exact acceptable other (mem_cons_of_mem _ mem)

theorem Undisturbed.headD (undisturbed : Undisturbed turns) :
    (turns.headD {}).others = none ∧ (turns.headD {}).reply ≠ .answerLost := by
  cases turns with
  | nil => exact ⟨rfl, nofun⟩
  | cons turn rest => exact undisturbed turn mem_cons_self

theorem undisturbed_nil : Undisturbed [] :=
  fun _ mem => absurd mem not_mem_nil

theorem Undisturbed.tail (undisturbed : Undisturbed turns) : Undisturbed turns.tail :=
  fun turn mem => undisturbed turn (mem_of_mem_tail mem)

theorem answered_ne_lost : Reply.answered ≠ .answerLost := nofun

theorem answer_eq {block : SlideDeckBlock} (found : block.blockId ∈ blockIds server.deck.data)
    (valid : validBody block.body) {reply : Reply} (notLost : reply ≠ .answerLost) :
    server.answer server.snapshotId block.blockId block.body reply =
      if reply = .requestLost then (.error .failed, server)
      else (.ok (server.snapshotId + 1),
        server.replace (server.deck.putBody block.blockId block.body)) := by
  simp [Server.answer, Server.editBlock, found, valid, notLost, Server.replace]

section

variable (acceptable : Acceptable server.deck dirty)

include acceptable

/-- The calls put the bodies of a first part of the blocks, and of all of them
where the save returns ok. -/
theorem saveBlocks_spec (undisturbed : Undisturbed turns) :
    ∃ sent, sent <+: dirty ∧
      (saveBlocks server server.snapshotId turns dirty).server.deck = server.deck.putBodies sent ∧
      (saveBlocks server server.snapshotId turns dirty).snapshotId =
        (saveBlocks server server.snapshotId turns dirty).server.snapshotId ∧
      ((saveBlocks server server.snapshotId turns dirty).ok = true → sent = dirty) := by
  induction dirty generalizing server turns with
  | nil => exact ⟨[], prefix_refl _, rfl, rfl, fun _ => rfl⟩
  | cons block rest ih =>
    obtain ⟨alone, notLost⟩ := undisturbed.headD
    obtain ⟨found, valid⟩ := acceptable block mem_cons_self
    simp only [saveBlocks, alone, Option.elim_none, answer_eq found valid notLost]
    by_cases lost : (turns.headD {}).reply = .requestLost
    · rw [if_pos lost]
      exact ⟨[], nil_prefix, rfl, rfl, nofun⟩
    · rw [if_neg lost]
      obtain ⟨sent, isPrefix, bodies, current, all⟩ :=
        @ih (server.replace _) _ acceptable.putBody undisturbed.tail
      exact ⟨block :: sent, cons_prefix_cons.mpr ⟨rfl, isPrefix⟩, bodies, current,
        fun isOk => by rw [all isOk]⟩

theorem saveBlocks_ok :
    (saveBlocks server server.snapshotId [] dirty).ok = true := by
  induction dirty generalizing server with
  | nil => rfl
  | cons block rest ih =>
    obtain ⟨found, valid⟩ := acceptable block mem_cons_self
    have answered := answer_eq found valid answered_ne_lost
    simp only [saveBlocks, headD_nil, Option.elim_none, answered, reduceCtorEq, if_false,
      tail_nil]
    exact @ih (server.replace _) acceptable.putBody

theorem saveBlocks_calls (undisturbed : Undisturbed turns) :
    ∀ call ∈ (saveBlocks server server.snapshotId turns dirty).calls,
      ∃ sent block, sent ++ [block] <+: dirty ∧ call.head = server.deck.putBodies sent ∧
        call.blockId = block.blockId ∧ call.newContent = block.body := by
  induction dirty generalizing server turns with
  | nil =>
    intro call mem
    cases mem
  | cons block rest ih =>
    obtain ⟨alone, notLost⟩ := undisturbed.headD
    obtain ⟨found, valid⟩ := acceptable block mem_cons_self
    have first : ∃ sent other, sent ++ [other] <+: block :: rest ∧
        server.deck = server.deck.putBodies sent ∧ block.blockId = other.blockId ∧
        block.body = other.body :=
      ⟨[], block, cons_prefix_cons.mpr ⟨rfl, nil_prefix⟩, rfl, rfl, rfl⟩
    simp only [saveBlocks, alone, Option.elim_none, answer_eq found valid notLost]
    by_cases lost : (turns.headD {}).reply = .requestLost
    · rw [if_pos lost]
      intro call mem
      rw [mem_singleton.mp mem]
      exact first
    · rw [if_neg lost]
      intro call mem
      rcases mem_cons.mp mem with rfl | later
      · exact first
      · obtain ⟨sent, other, isPrefix, head, sameId, sameBody⟩ :=
          @ih (server.replace _) _ acceptable.putBody undisturbed.tail call later
        exact ⟨block :: sent, other, cons_prefix_cons.mpr ⟨rfl, isPrefix⟩, head, sameId,
          sameBody⟩

end

end Save

/-! ## Saves that lose nothing -/

/-- What a save should do: the head has everything once it returns ok; else the
draft is kept and a retry completes it; and no call repeats what the head has. -/
structure KeepsEdits (world : World) (turns : List Turn) (during : List (Edit × Bool)) : Prop where
  saved : (world.save turns during).1.ok = true →
    editable (world.save turns during).2.server.deck.data =
      editable (world.save turns during).2.editor.deck.deck.data
  kept : (world.save turns during).1.ok = false →
    (world.save turns during).2.draft = some (world.save turns during).2.editor.deck.deck
  retried : (world.save turns during).1.ok = false →
    ((world.save turns during).2.save [] []).1.ok = true ∧
      editable ((world.save turns during).2.save [] []).2.server.deck.data =
        editable ((world.save turns during).2.save [] []).2.editor.deck.deck.data
  differs : ∀ call ∈ (world.save turns during).1.calls, ∀ block ∈ blocks call.head.data,
    block.blockId = call.blockId → block.body ≠ call.newContent

def dirtyBlocks (world : World) : List SlideDeckBlock :=
  diffDirtyBlocks world.editor.initialDeck world.editor.deck

/-- The ids of the blocks replaced since the page was loaded. -/
def dirtyIds (world : World) : List String :=
  (dirtyBlocks world).map SlideDeckBlock.blockId

/-- Nobody else changes the deck or edits it during the save, and it differs from
the head in the bodies of replaced blocks, in all of them and in nothing else. -/
def Orderly (world : World) (turns : List Turn) (during : List (Edit × Bool)) : Prop :=
  world.editor.snapshotId = world.server.snapshotId ∧ Undisturbed turns ∧ during = [] ∧
    unsent (dirtyIds world) world.server.deck.data =
      unsent (dirtyIds world) world.editor.deck.deck.data ∧
    ∀ block ∈ dirtyBlocks world, validBody block.body ∧
      ∀ stored ∈ blocks world.server.deck.data, stored.blockId = block.blockId →
        stored.body ≠ block.body

section Orderly

variable {world : World} {turns : List Turn} {during : List (Edit × Bool)}

section

variable (world : World)

theorem nodup_dirtyIds : (dirtyIds world).Nodup :=
  world.editor.deck.deck.unique.sublist (filter_sublist.map _)

theorem dirtyBlocks_own :
    ∀ block ∈ dirtyBlocks world, block ∈ blocks world.editor.deck.deck.data :=
  fun _ mem => mem_of_mem_filter mem

theorem save_result (turns : List Turn) (during : List (Edit × Bool)) :
    (world.save turns during).1 =
      saveBlocks world.server world.editor.snapshotId turns (dirtyBlocks world) :=
  rfl

theorem save_server (turns : List Turn) (during : List (Edit × Bool)) :
    (world.save turns during).2.server = (world.save turns during).1.server :=
  rfl

theorem save_snapshotId (turns : List Turn) (during : List (Edit × Bool)) :
    (world.save turns during).2.editor.snapshotId = (world.save turns during).1.snapshotId :=
  rfl

theorem save_deck (turns : List Turn) :
    (world.save turns []).2.editor.deck = world.editor.deck :=
  rfl

theorem dirtyBlocks_save (turns : List Turn) :
    dirtyBlocks (world.save turns []).2 = dirtyBlocks world :=
  rfl

theorem save_draft (turns : List Turn) :
    (world.save turns []).2.draft = if (world.save turns []).1.ok then none else world.draft :=
  rfl

theorem save_hasUnsavedChanges (turns : List Turn) (during : List (Edit × Bool)) :
    (world.save turns during).2.editor.hasUnsavedChanges =
      if (world.save turns during).1.ok then false
      else (during.foldl World.edit world).editor.hasUnsavedChanges :=
  rfl

end

theorem acceptable_dirtyBlocks {head : Deck}
    (same : unsent (dirtyIds world) head.data =
      unsent (dirtyIds world) world.editor.deck.deck.data)
    (valid : ∀ block ∈ dirtyBlocks world, validBody block.body) :
    Acceptable head (dirtyBlocks world) := by
  intro block mem
  refine ⟨?_, valid block mem⟩
  rw [blockIds_of_unsent same]
  exact mem_map_of_mem (dirtyBlocks_own world block mem)

theorem nodup_sent {sent : List SlideDeckBlock} (isPrefix : sent <+: dirtyBlocks world) :
    (sent.map SlideDeckBlock.blockId).Nodup :=
  (nodup_dirtyIds world).sublist (isPrefix.sublist.map _)

theorem Orderly.keepsEdits (orderly : Orderly world turns during)
    (drafted : world.draft = some world.editor.deck.deck) : KeepsEdits world turns during := by
  obtain ⟨atHead, undisturbed, rfl, same, changed⟩ := orderly
  have valid : ∀ block ∈ dirtyBlocks world, validBody block.body :=
    fun block mem => (changed block mem).1
  have acceptable := acceptable_dirtyBlocks same valid
  obtain ⟨sent, isPrefix, bodies, current, all⟩ := saveBlocks_spec acceptable undisturbed
  have result : (world.save turns []).1 =
      saveBlocks world.server world.server.snapshotId turns (dirtyBlocks world) := by
    rw [save_result, atHead]
  constructor
  · intro isOk
    rw [save_server, result, bodies, all (result ▸ isOk)]
    exact editable_putBodies (nodup_dirtyIds world) (dirtyBlocks_own world) same
  · intro failed
    rw [save_draft, failed]
    exact drafted
  · intro failed
    -- the retry starts from the head the first calls left
    have sameAfter : unsent (dirtyIds world) (world.save turns []).2.server.deck.data =
        unsent (dirtyIds world) world.editor.deck.deck.data := by
      rw [save_server, result, bodies,
        unsent_putBodies (nodup_sent isPrefix) _ world.server.deck, same]
      exact fun block mem => mem_map_of_mem (isPrefix.subset mem)
    have acceptableAfter := acceptable_dirtyBlocks sameAfter valid
    have retry : ((world.save turns []).2.save [] []).1 =
        saveBlocks (world.save turns []).2.server (world.save turns []).2.server.snapshotId []
          (dirtyBlocks world) := by
      rw [save_result, dirtyBlocks_save, save_snapshotId, save_server, result, current]
    have retriedOk : ((world.save turns []).2.save [] []).1.ok = true := by
      rw [retry]
      exact saveBlocks_ok acceptableAfter
    obtain ⟨again, _, bodiesAgain, _, allAgain⟩ :=
      saveBlocks_spec acceptableAfter undisturbed_nil
    refine ⟨retriedOk, ?_⟩
    rw [save_server, save_deck, save_deck, retry, bodiesAgain, allAgain (retry ▸ retriedOk)]
    exact editable_putBodies (nodup_dirtyIds world) (dirtyBlocks_own world) sameAfter
  · intro call mem stored storedMem sameId
    rw [result] at mem
    obtain ⟨before, block, callPrefix, head, callId, newContent⟩ :=
      saveBlocks_calls acceptable undisturbed call mem
    have beforePrefix : before <+: dirtyBlocks world := (prefix_append _ _).trans callPrefix
    have blockMem : block ∈ dirtyBlocks world := callPrefix.subset (by simp)
    have fresh : stored.blockId ∉ before.map SlideDeckBlock.blockId := by
      have distinct := nodup_sent callPrefix
      rw [map_append, nodup_append] at distinct
      intro inBefore
      exact distinct.2.2 stored.blockId inBefore block.blockId (by simp) (sameId.trans callId)
    rw [head] at storedMem
    rw [newContent]
    exact (changed block blockMem).2 stored
      (mem_blocks_putBodies (nodup_sent beforePrefix) storedMem fresh) (sameId.trans callId)

end Orderly

/-- A save with unsaved changes loses none of them. -/
def LosesNoEdit (world : World) : Event → Prop
  | .save turns during => world.editor.hasUnsavedChanges = true → KeepsEdits world turns during
  | _ => True

/-- The storage takes every draft, and the saves are orderly. -/
def IsOrderly (world : World) : Event → Prop
  | .edit _ stored => stored = true
  | .save turns during => world.editor.hasUnsavedChanges = true → Orderly world turns during
  | _ => True

/-- The draft mirrors a deck with unsaved changes. -/
def Mirrored (world : World) : Prop :=
  world.editor.hasUnsavedChanges = true → world.draft = some world.editor.deck.deck

theorem mirrored_reload (world : World) : Mirrored world.reload := by
  intro unsaved
  obtain ⟨draft, isDraft⟩ := Option.isSome_iff_exists.mp unsaved
  simp [World.reload, isDraft]

theorem mirrored_step {world : World} {event : Event} (mirrored : Mirrored world)
    (orderly : IsOrderly world event) : Mirrored (world.step event) := by
  cases event with
  | edit change stored =>
    intro _
    have isStored : stored = true := orderly
    simp [World.step, World.edit, isStored]
  | save turns during =>
    simp only [World.step]
    split
    next unsaved =>
      obtain ⟨_, _, rfl, _⟩ := orderly unsaved
      intro unsavedAfter
      have failed : (world.save turns []).1.ok = false := by
        by_contra isOk
        rw [Bool.not_eq_false] at isOk
        rw [save_hasUnsavedChanges, isOk] at unsavedAfter
        cases unsavedAfter
      rw [save_draft, failed]
      exact mirrored unsaved
    next => exact mirrored
  | reload => exact mirrored_reload world
  | others deck => exact mirrored

/-- In every history of edits, saves and reloads whose saves are orderly no save
loses an edit. -/
theorem saves_lose_no_edit (server : Server) (draft : Option Deck) (events : List Event)
    (orderly : ∀ visit ∈ editing.visits (.opened server draft) events,
      IsOrderly visit.1 visit.2) :
    ∀ visit ∈ editing.visits (.opened server draft) events, LosesNoEdit visit.1 visit.2 := by
  intro visit mem
  have atFirst : Mirrored (.opened server draft) := mirrored_reload _
  have kept (world : World) (event : Event) (mirrored : Mirrored world)
      (isOrderly : IsOrderly world event) : Mirrored (editing.step world event).1 :=
    mirrored_step mirrored isOrderly
  have mirrored : Mirrored visit.1 :=
    Machine.forall_visits_of_allowed kept atFirst events orderly visit mem
  have isOrderly := orderly visit mem
  rcases visit with ⟨world, event⟩
  cases event with
  | save turns during => exact fun unsaved => (isOrderly unsaved).keepsEdits (mirrored unsaved)
  | _ => trivial

def paragraph (blockId body : String) : SlideDeckBlock :=
  { Projection.quizBlock with blockId, body }

def poll (prompt : String) : SlideDeckInteraction :=
  { Projection.quizInteraction with
    interactionId := "interaction-1"
    prompt
    answerBearing := false
    teacherOnly := none
    accessibilityLabel := "Slide interaction" }

/-- One slide with two paragraphs and a question. -/
def lessonDeck : Deck where
  data :=
    { Projection.quizDeck with
      slides :=
        [{ Projection.quizSlide with
           layout := ⟨"content", by decide⟩
           blocks := [paragraph "block-1" "one", paragraph "block-2" "two"]
           interactions := [poll "Why?"] }] }
  unique := by decide

def lessonServer : Server :=
  ⟨lessonDeck, 1⟩

/-- A new prompt, saved. -/
def promptRun : List Event :=
  [.edit (.updateInteraction "slide-1" (poll "How?")) true, .save [] []]

/-- A new body, saved; then another block's, saved. -/
def resentRun : List Event :=
  [.edit (.updateBlock "slide-1" (paragraph "block-1" "One.")) true, .save [] [],
    .edit (.updateBlock "slide-1" (paragraph "block-2" "Two.")) true, .save [] []]

instance (world : World) (event : Event) : Decidable (IsOrderly world event) := by
  unfold IsOrderly Orderly Undisturbed
  split <;> infer_instance

/-- The draft with the new prompt is cleared although the head has the old one,
and a block that was saved is sent again. -/
theorem saves_lose_edits :
    (¬ ∀ visit ∈ editing.visits (.opened lessonServer none) promptRun,
      LosesNoEdit visit.1 visit.2) ∧
    ¬ ∀ visit ∈ editing.visits (.opened lessonServer none) resentRun,
      LosesNoEdit visit.1 visit.2 := by
  constructor
  · intro keeps
    have saved := (keeps _ (.tail _ (.head _)) rfl).saved rfl
    exact absurd saved (by decide +kernel)
  · intro keeps
    have differs := (keeps _ (.tail _ (.tail _ (.tail _ (.head _)))) rfl).differs
    exact absurd rfl (differs _ (.head _) (paragraph "block-1" "One.") (.head _) rfl)

/-- A new body; its call is lost once, and the retry is answered. -/
def retriedRun : List Event :=
  [.edit (.updateBlock "slide-1" (paragraph "block-1" "One.")) true,
    .save [{ reply := .requestLost }] [], .save [] [], .reload]

theorem saves_lose_no_edit_retriedRun :
    (∀ visit ∈ editing.visits (.opened lessonServer none) retriedRun,
      LosesNoEdit visit.1 visit.2) ∧
    (editing.drive (.opened lessonServer none, []) retriedRun).1.draft = none :=
  ⟨saves_lose_no_edit lessonServer none retriedRun (by decide +kernel), by decide +kernel⟩

end OhMyClass.DeckEditor
