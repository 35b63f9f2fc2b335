import OhMyClass.Gateway.Teaching.Sessions
import OhMyClass.Transition.Machine

/-!
# Class recaps

A recap is edited as a draft and frozen when it is shared.  A call reads the
recap, checks its status and writes later; the row is not locked in between,
so that what the call has checked may no longer hold when it writes.
-/

namespace OhMyClass.Gateway.Teaching

open OhMyClass.Transition

inductive RecapStatus where
  | draft
  | shared
  deriving DecidableEq

/-- A row of `public.session_class_recaps`. -/
structure SessionClassRecap where
  recapId : String
  sessionId : SessionId
  text : String
  status : RecapStatus
  shareToken : Option String
  sharedAt : Option DateTime
  sharedBy : Option String
  deriving DecidableEq

/-- The primary key and the unique share token; nulls are distinct. -/
def SessionClassRecap.Conflict (first second : SessionClassRecap) : Prop :=
  first.recapId = second.recapId ∨
    (first.shareToken.isSome ∧ first.shareToken = second.shareToken)
  deriving Decidable

abbrev SessionClassRecaps := Table SessionClassRecap SessionClassRecap.Conflict

inductive RecapError where
  | notFound (recapId : String)
  | notDraft (recapId : String)
  | alreadyShared (recapId : String)
  | integrityError

/-- The domain error a call raises, with the built-in `repr` of strings. -/
def RecapError.toOMCError (repr : String → String) : RecapError → Option OMCError
  | notFound recapId => some ⟨.notFound, s!"Recap {repr recapId} not found", []⟩
  | notDraft recapId =>
    some ⟨.validationError, s!"Recap {repr recapId} is already shared and cannot be edited",
      [⟨"status", "recap_not_draft"⟩]⟩
  | alreadyShared recapId =>
    some ⟨.validationError, s!"Recap {repr recapId} was already shared",
      [⟨"status", "recap_already_shared"⟩]⟩
  | integrityError => none

/-! ## The two calls -/

/-- The arguments of the calls, with the token, the time and the id a share
draws. -/
inductive RecapRequest where
  | updateDraft (recapId text : String)
  | share (recapId teacherId shareToken : String) (now : DateTime) (auditEventId : String)

namespace RecapRequest

def recapId : RecapRequest → String
  | updateDraft recapId _ | share recapId .. => recapId

/-- `db.get` and the check of the status. -/
def load (request : RecapRequest) (recaps : SessionClassRecaps) :
    Except RecapError SessionClassRecap :=
  match recaps.rows.find? fun recap => recap.recapId == request.recapId with
  | none => .error (.notFound request.recapId)
  | some recap =>
    match request with
    | updateDraft recapId _ =>
      if recap.status ≠ .draft then .error (.notDraft recapId) else .ok recap
    | share recapId .. =>
      if recap.status = .shared then .error (.alreadyShared recapId) else .ok recap

/-- The columns a call assigns. -/
def change : RecapRequest → SessionClassRecap → SessionClassRecap
  | updateDraft _ text, recap => { recap with text := text }
  | share _ teacherId shareToken now _, recap =>
    { recap with
      status := .shared, shareToken := some shareToken, sharedAt := some now,
      sharedBy := some teacherId }

/-- The audit event of a share, about the text the call has read. -/
def shareEvent (sha256 : String → String) (loaded : SessionClassRecap)
    (recapId teacherId auditEventId : String) : SessionAuditEvent where
  eventId := auditEventId
  sessionId := loaded.sessionId
  actorId := teacherId
  action := "class_recap_shared"
  eventMetadata := [("recap_id", .str recapId), ("text_sha256", .str (sha256 loaded.text)),
    ("char_count", .int loaded.text.length)]

def auditEvent (sha256 : String → String) (loaded : SessionClassRecap) :
    RecapRequest → Option SessionAuditEvent
  | updateDraft .. => none
  | share recapId teacherId _ _ auditEventId =>
    some (shareEvent sha256 loaded recapId teacherId auditEventId)

/-- The assignments differ from what the call has read; only then the mapper
emits an update. -/
def Changes (request : RecapRequest) (loaded : SessionClassRecap) : Prop :=
  request.change loaded ≠ loaded
  deriving Decidable

def flushRecap (request : RecapRequest) (loaded : SessionClassRecap)
    (recaps : SessionClassRecaps) : Option SessionClassRecaps :=
  if request.Changes loaded then
    recaps.tryUpdate (fun recap => recap.recapId == request.recapId) request.change
  else
    some recaps

def flushEvent (sha256 : String → String) (request : RecapRequest) (loaded : SessionClassRecap)
    (auditEvents : SessionAuditEvents) : Option SessionAuditEvents :=
  match request.auditEvent sha256 loaded with
  | none => some auditEvents
  | some event => auditEvents.insert event

/-- `db.flush()`; `none` is an integrity error. -/
def flush (sha256 : String → String) (request : RecapRequest) (loaded : SessionClassRecap)
    (recaps : SessionClassRecaps) (auditEvents : SessionAuditEvents) :
    Option (SessionClassRecaps × SessionAuditEvents) :=
  (request.flushRecap loaded recaps).bind fun recaps =>
    (request.flushEvent sha256 loaded auditEvents).map fun auditEvents => (recaps, auditEvents)

variable {request : RecapRequest} {loaded : SessionClassRecap}

theorem mem_of_flushRecap {recap : SessionClassRecap} {recaps changed : SessionClassRecaps}
    (flushed : request.flushRecap loaded recaps = some changed) (mem : recap ∈ changed.rows) :
    ∃ stored ∈ recaps.rows,
      recap = if request.Changes loaded ∧ stored.recapId = request.recapId then
        request.change stored else stored := by
  unfold flushRecap at flushed
  split at flushed
  · next changes =>
    rw [Table.rows_of_tryUpdate flushed, List.mem_map] at mem
    rcases mem with ⟨stored, storedMem, rfl⟩
    exact ⟨stored, storedMem, by simp [Table.changeSelected, changes]⟩
  · next keeps =>
    cases flushed
    exact ⟨recap, mem, by simp [keeps]⟩

theorem rows_of_flushEvent {sha256 : String → String} {auditEvents grown : SessionAuditEvents}
    (flushed : request.flushEvent sha256 loaded auditEvents = some grown) :
    grown.rows = auditEvents.rows ++ (request.auditEvent sha256 loaded).toList := by
  unfold flushEvent at flushed
  split at flushed
  · next noEvent =>
    cases flushed
    simp [noEvent]
  · next event isEvent =>
    rw [Table.rows_of_insert flushed, isEvent, Option.toList_some]

end RecapRequest

inductive RecapPhase where
  | waiting
  | loaded (request : RecapRequest) (recap : SessionClassRecap)
  | done (recap : SessionClassRecap)
  | failed (error : RecapError)
  | abandoned

/-- The stored recaps, the audit trail and the calls on their way. -/
structure RecapState where
  recaps : SessionClassRecaps
  auditEvents : SessionAuditEvents
  calls : CallId → RecapPhase

inductive RecapOp where
  | read (call : CallId) (request : RecapRequest)
  | write (call : CallId)
  | rollback (call : CallId)

/-- The committed request and the recap it returned. -/
abbrev RecapAnswer := Option (RecapRequest × SessionClassRecap)

namespace RecapState

def setCall (state : RecapState) (call : CallId) (phase : RecapPhase) : RecapState :=
  { state with calls := Function.update state.calls call phase }

/-- A call reads the recap, and flushes and commits what it writes. -/
def step (sha256 : String → String) (state : RecapState) : RecapOp → RecapState × RecapAnswer
  | .read call request =>
    match state.calls call with
    | .waiting =>
      match request.load state.recaps with
      | .error error => (state.setCall call (.failed error), none)
      | .ok recap => (state.setCall call (.loaded request recap), none)
    | _ => (state, none)
  | .write call =>
    match state.calls call with
    | .loaded request recap =>
      match request.flush sha256 recap state.recaps state.auditEvents with
      | none => (state.setCall call (.failed .integrityError), none)
      | some (recaps, auditEvents) =>
        ({ state.setCall call (.done (request.change recap)) with
            recaps := recaps, auditEvents := auditEvents }, some (request, request.change recap))
    | _ => (state, none)
  | .rollback call =>
    match state.calls call with
    | .loaded .. => (state.setCall call .abandoned, none)
    | _ => (state, none)

end RecapState

def SessionAuditEvent.sharesRecap (recapId : String) (event : SessionAuditEvent) : Bool :=
  event.action == "class_recap_shared" &&
    match event.eventMetadata.get? "recap_id" with
    | some (.str shared) => shared == recapId
    | _ => false

def SessionAuditEvent.textSha256 (event : SessionAuditEvent) : Option String :=
  match event.eventMetadata.get? "text_sha256" with
  | some (.str digest) => some digest
  | _ => none

/-- The `class_recap_shared` events of a recap. -/
def sharedEvents (auditEvents : SessionAuditEvents) (recapId : String) : List SessionAuditEvent :=
  auditEvents.rows.filter (SessionAuditEvent.sharesRecap recapId)

/-- The token a committed share gave a recap. -/
def RecapAnswer.minted (recapId : String) : RecapAnswer → Option String
  | some (.share shared .., returned) => if shared = recapId then returned.shareToken else none
  | _ => none

/-- Every token a recap ever had, newest first. -/
def mintedTokens (history : History RecapOp RecapAnswer) (recapId : String) : List String :=
  history.filterMap fun entry => RecapAnswer.minted recapId entry.2

/-- One event reports the share, it hashes the text, and one token was given. -/
def SharedOnce (sha256 : String → String) (auditEvents : SessionAuditEvents)
    (history : History RecapOp RecapAnswer) (recap : SessionClassRecap) : Prop :=
  ∃ event token, sharedEvents auditEvents recap.recapId = [event] ∧
    event.textSha256 = some (sha256 recap.text) ∧
    mintedTokens history recap.recapId = [token] ∧ recap.shareToken = some token

/-- Drafts that nobody has shared and no call has read. -/
def RecapState.Drafts (state : RecapState) : Prop :=
  (∀ call, state.calls call = .waiting) ∧
    ∀ recap ∈ state.recaps.rows, recap.status = .draft ∧
      sharedEvents state.auditEvents recap.recapId = []

def recapMachine (sha256 : String → String) : Machine RecapState RecapOp RecapAnswer where
  initial := RecapState.Drafts
  step := RecapState.step sha256

namespace RecapState

variable {sha256 : String → String} {state : RecapState}

/-- The effects of a write that commits. -/
structure Writes (sha256 : String → String) (state : RecapState) (call : CallId)
    (request : RecapRequest) (loaded : SessionClassRecap) (after : RecapState) : Prop where
  isLoaded : state.calls call = .loaded request loaded
  rows : ∀ recap ∈ after.recaps.rows, ∃ stored ∈ state.recaps.rows,
    recap = if request.Changes loaded ∧ stored.recapId = request.recapId then
      request.change stored else stored
  events : after.auditEvents.rows =
    state.auditEvents.rows ++ (request.auditEvent sha256 loaded).toList
  calls : after.calls = (state.setCall call (.done (request.change loaded))).calls

variable {request : RecapRequest} {auditEvents : SessionAuditEvents} {recaps : SessionClassRecaps}

theorem writes_of_flush {call : CallId} {loaded : SessionClassRecap}
    (isLoaded : state.calls call = .loaded request loaded)
    (flushed : request.flush sha256 loaded state.recaps state.auditEvents =
      some (recaps, auditEvents)) :
    Writes sha256 state call request loaded
      { state.setCall call (.done (request.change loaded)) with
        recaps := recaps, auditEvents := auditEvents } := by
  rcases Option.bind_eq_some_iff.mp flushed with ⟨changed, flushedRecap, flushed⟩
  rcases Option.map_eq_some_iff.mp flushed with ⟨grown, flushedEvent, equal⟩
  cases equal
  constructor
  · exact isLoaded
  · intro recap mem
    exact RecapRequest.mem_of_flushRecap flushedRecap mem
  · exact RecapRequest.rows_of_flushEvent flushedEvent
  · rfl

/-- A step commits a write, or leaves the stored rows alone and moves at most
one call, to a draft it has read if at all. -/
theorem step_cases (sha256 : String → String) (state : RecapState) (op : RecapOp) :
    (∃ call request loaded, op = .write call ∧
        Writes sha256 state call request loaded (state.step sha256 op).1 ∧
        (state.step sha256 op).2 = some (request, request.change loaded)) ∨
      ((state.step sha256 op).1.recaps = state.recaps ∧
        (state.step sha256 op).1.auditEvents = state.auditEvents ∧
        (state.step sha256 op).2 = none ∧
        ∀ call request loaded, (state.step sha256 op).1.calls call = .loaded request loaded →
          state.calls call = .loaded request loaded ∨ request.load state.recaps = .ok loaded) := by
  have moved (mover : CallId) (phase : RecapPhase)
      (reads : ∀ request loaded, phase = .loaded request loaded →
        request.load state.recaps = .ok loaded) :
      ∀ call request loaded, (state.setCall mover phase).calls call = .loaded request loaded →
        state.calls call = .loaded request loaded ∨ request.load state.recaps = .ok loaded := by
    intro call request loaded isLoaded
    by_cases same : call = mover
    · simp only [setCall, same, Function.update_self] at isLoaded
      exact .inr (reads request loaded isLoaded)
    · simp only [setCall, Function.update_of_ne same] at isLoaded
      exact .inl isLoaded
  cases op with
  | read call request =>
    right
    simp only [step]
    split
    · split
      · exact ⟨rfl, rfl, rfl, moved call _ (by simp)⟩
      · next read =>
        refine ⟨rfl, rfl, rfl, moved call _ ?_⟩
        rintro _ _ ⟨⟩
        exact read
    · exact ⟨rfl, rfl, rfl, fun _ _ _ => .inl⟩
  | write call =>
    simp only [step]
    split
    · next request loaded isLoaded =>
      split
      · exact .inr ⟨rfl, rfl, rfl, moved call _ (by simp)⟩
      · next flushed => exact .inl ⟨call, request, loaded, rfl, writes_of_flush isLoaded flushed, rfl⟩
    · exact .inr ⟨rfl, rfl, rfl, fun _ _ _ => .inl⟩
  | rollback call =>
    right
    simp only [step]
    split
    · exact ⟨rfl, rfl, rfl, moved call _ (by simp)⟩
    · exact ⟨rfl, rfl, rfl, fun _ _ _ => .inl⟩

/-! ## The freeze -/

/-- What a call has read still holds of the current row. -/
def StillHolds (loaded current : SessionClassRecap) : RecapRequest → Prop
  | .updateDraft _ text => text = loaded.text ∨ current.status = loaded.status
  | .share .. => current.status = loaded.status ∧ current.text = loaded.text

instance (loaded current : SessionClassRecap) : DecidablePred (StillHolds loaded current)
  | .updateDraft .. => inferInstanceAs (Decidable (_ ∨ _))
  | .share .. => inferInstanceAs (Decidable (_ ∧ _))

/-- What a call has read still holds of the row it is about to write. -/
def ReadHolds (state : RecapState) : RecapPhase → Prop
  | .loaded request loaded => ∀ current ∈ state.recaps.rows,
      current.recapId = request.recapId → StillHolds loaded current request
  | _ => True

instance (state : RecapState) : DecidablePred state.ReadHolds
  | .loaded .. => inferInstanceAs (Decidable (∀ _ ∈ _, _ → _))
  | .waiting | .done _ | .failed _ | .abandoned => .isTrue trivial

/-- A call writes only where what it has read still holds. -/
def RecapGuard : Guard RecapState RecapOp RecapAnswer
  | state, _, .write call => state.ReadHolds (state.calls call)
  | _, _, _ => True

instance (state : RecapState) (history : History RecapOp RecapAnswer) :
    DecidablePred (RecapGuard state history)
  | .write call => inferInstanceAs (Decidable (state.ReadHolds (state.calls call)))
  | .read .. | .rollback _ => .isTrue trivial

/-- A recap was never shared, or was shared once and is as it was shared. -/
def FrozenOnce (sha256 : String → String) (auditEvents : SessionAuditEvents)
    (history : History RecapOp RecapAnswer) (recap : SessionClassRecap) : Prop :=
  match recap.status with
  | .draft => sharedEvents auditEvents recap.recapId = [] ∧ mintedTokens history recap.recapId = []
  | .shared => SharedOnce sha256 auditEvents history recap

structure Frozen (sha256 : String → String) (state : RecapState)
    (history : History RecapOp RecapAnswer) : Prop where
  loaded : ∀ call request recap, state.calls call = .loaded request recap →
    recap.status = .draft
  stored : ∀ recap ∈ state.recaps.rows, FrozenOnce sha256 state.auditEvents history recap

variable {recap : SessionClassRecap}

theorem draft_of_load (read : request.load recaps = .ok recap) :
    recap.status = .draft := by
  unfold RecapRequest.load at read
  split at read
  · cases read
  · cases request with
    | updateDraft recapId text =>
      simp only [ite_not] at read
      split at read
      · next isDraft =>
        cases read
        exact isDraft
      · cases read
    | share recapId teacherId shareToken now auditEventId =>
      simp only at read
      split at read
      · cases read
      · next notShared =>
        cases read
        cases status : recap.status with
        | draft => rfl
        | shared => exact absurd status notShared

variable {grown : SessionAuditEvents}

theorem FrozenOnce.congr {history longer : History RecapOp RecapAnswer}
    (frozen : FrozenOnce sha256 auditEvents history recap)
    (sameEvents : sharedEvents grown recap.recapId = sharedEvents auditEvents recap.recapId)
    (sameTokens : mintedTokens longer recap.recapId = mintedTokens history recap.recapId) :
    FrozenOnce sha256 grown longer recap := by
  unfold FrozenOnce SharedOnce at frozen ⊢
  rw [sameEvents, sameTokens]
  exact frozen

theorem sharedEvents_append {extra : List SessionAuditEvent}
    (rows : grown.rows = auditEvents.rows ++ extra) (recapId : String) :
    sharedEvents grown recapId =
      sharedEvents auditEvents recapId ++ extra.filter (SessionAuditEvent.sharesRecap recapId) := by
  rw [sharedEvents, rows, List.filter_append, sharedEvents]

theorem mintedTokens_cons (entry : RecapOp × RecapAnswer)
    (history : History RecapOp RecapAnswer) (recapId : String) :
    mintedTokens (entry :: history) recapId =
      (RecapAnswer.minted recapId entry.2).toList ++ mintedTokens history recapId := by
  unfold mintedTokens
  cases isMinted : RecapAnswer.minted recapId entry.2 <;> simp [isMinted]

theorem silent_of_ne {recapId : String} (different : recapId ≠ request.recapId)
    (loaded ret : SessionClassRecap) :
    (request.auditEvent sha256 loaded).toList.filter (SessionAuditEvent.sharesRecap recapId) = [] ∧
      RecapAnswer.minted recapId (some (request, ret)) = none := by
  cases request with
  | updateDraft updated text => simp [RecapRequest.auditEvent, RecapAnswer.minted]
  | share shared teacherId shareToken now auditEventId =>
    have apart : shared ≠ recapId := Ne.symm different
    simp [RecapRequest.auditEvent, RecapRequest.shareEvent, RecapAnswer.minted,
      SessionAuditEvent.sharesRecap, JsonObject.get?, apart]

namespace Frozen

variable {history : History RecapOp RecapAnswer} {call : CallId} {loaded stored : SessionClassRecap}
  {after : RecapState}

variable {recapId : String}

theorem edited {text : String} (frozen : Frozen sha256 state history)
    (wrote : Writes sha256 state call (.updateDraft recapId text) loaded after)
    (storedMem : stored ∈ state.recaps.rows)
    (stillHolds : StillHolds loaded stored (.updateDraft recapId text)) :
    FrozenOnce sha256 after.auditEvents
      ((.write call, some (.updateDraft recapId text, { loaded with text := text })) :: history)
      (if (RecapRequest.updateDraft recapId text).Changes loaded ∧ stored.recapId = recapId then
        { stored with text := text } else stored) := by
  have before := frozen.stored stored storedMem
  have sameEvents : sharedEvents after.auditEvents stored.recapId =
      sharedEvents state.auditEvents stored.recapId := by
    rw [sharedEvents_append wrote.events]
    simp [RecapRequest.auditEvent]
  have sameTokens : mintedTokens ((.write call,
      some (.updateDraft recapId text, { loaded with text := text })) :: history) stored.recapId =
        mintedTokens history stored.recapId := by
    rfl
  have kept := before.congr sameEvents sameTokens
  split
  · next changed =>
    rcases stillHolds with sameText | sameStatus
    · exact absurd (by rw [RecapRequest.change, sameText]) changed.1
    · have isDraft : stored.status = .draft :=
        sameStatus.trans (frozen.loaded call _ loaded wrote.isLoaded)
      unfold FrozenOnce at kept ⊢
      simp only [isDraft] at kept ⊢
      exact kept
  · exact kept

theorem shared {teacherId shareToken auditEventId : String} {now : DateTime}
    (frozen : Frozen sha256 state history)
    (wrote : Writes sha256 state call (.share recapId teacherId shareToken now auditEventId) loaded
      after) (storedMem : stored ∈ state.recaps.rows) (isOwn : stored.recapId = recapId)
    (stillHolds : StillHolds loaded stored (.share recapId teacherId shareToken now auditEventId)) :
    FrozenOnce sha256 after.auditEvents
      ((.write call, some (.share recapId teacherId shareToken now auditEventId,
        (RecapRequest.share recapId teacherId shareToken now auditEventId).change loaded)) :: history)
      ((RecapRequest.share recapId teacherId shareToken now auditEventId).change stored) := by
  rcases stillHolds with ⟨sameStatus, sameText⟩
  have isDraft : stored.status = .draft :=
    sameStatus.trans (frozen.loaded call _ loaded wrote.isLoaded)
  have before := frozen.stored stored storedMem
  unfold FrozenOnce at before
  simp only [isDraft] at before
  rcases before with ⟨noEvents, noTokens⟩
  refine ⟨RecapRequest.shareEvent sha256 loaded recapId teacherId auditEventId, shareToken,
    ?_, ?_, ?_, rfl⟩
  · change sharedEvents after.auditEvents stored.recapId = [_]
    rw [sharedEvents_append wrote.events, noEvents]
    simp [RecapRequest.auditEvent, RecapRequest.shareEvent, SessionAuditEvent.sharesRecap,
      JsonObject.get?, isOwn]
  · change some (sha256 loaded.text) = some (sha256 stored.text)
    rw [sameText]
  · change mintedTokens _ stored.recapId = [shareToken]
    rw [mintedTokens_cons, noTokens]
    simp [RecapAnswer.minted, RecapRequest.change, isOwn]

theorem of_writes {request : RecapRequest} (frozen : Frozen sha256 state history)
    (allowed : RecapGuard state history (.write call))
    (wrote : Writes sha256 state call request loaded after) :
    Frozen sha256 after ((.write call, some (request, request.change loaded)) :: history) := by
  constructor
  · intro other otherRequest recap isLoaded
    rw [wrote.calls] at isLoaded
    by_cases same : other = call
    · simp [setCall, same] at isLoaded
    · simp only [setCall, Function.update_of_ne same] at isLoaded
      exact frozen.loaded other otherRequest recap isLoaded
  · intro recap mem
    rcases wrote.rows recap mem with ⟨stored, storedMem, rfl⟩
    by_cases isOwn : stored.recapId = request.recapId
    · have holds : state.ReadHolds (.loaded request loaded) := wrote.isLoaded ▸ allowed
      have stillHolds := holds stored storedMem isOwn
      cases request with
      | updateDraft recapId text => exact frozen.edited wrote storedMem stillHolds
      | share recapId teacherId shareToken now auditEventId =>
        have changes : (RecapRequest.share recapId teacherId shareToken now auditEventId).Changes
            loaded := by
          intro same
          have isShared := congrArg SessionClassRecap.status same
          rw [frozen.loaded call _ loaded wrote.isLoaded] at isShared
          cases isShared
        rw [if_pos ⟨changes, isOwn⟩]
        exact frozen.shared wrote storedMem isOwn stillHolds
    · rw [if_neg fun changed => isOwn changed.2]
      rcases silent_of_ne isOwn loaded (request.change loaded) with ⟨noEvent, noToken⟩
      apply (frozen.stored stored storedMem).congr
      · rw [sharedEvents_append wrote.events, noEvent, List.append_nil]
      · rw [mintedTokens_cons, noToken]
        rfl

theorem of_run (run : (recapMachine sha256).Run RecapGuard state history) :
    Frozen sha256 state history := by
  apply run.invariant (Frozen sha256)
  · rintro state ⟨waiting, drafts⟩
    constructor
    · intro call request recap isLoaded
      simp [waiting] at isLoaded
    · intro recap mem
      unfold FrozenOnce
      simp only [(drafts recap mem).1]
      exact ⟨(drafts recap mem).2, rfl⟩
  · intro state history op frozen allowed
    change Frozen sha256 (state.step sha256 op).1 ((op, (state.step sha256 op).2) :: history)
    rcases step_cases sha256 state op with
      ⟨call, request, loaded, rfl, wrote, answered⟩ | ⟨sameRecaps, sameEvents, silent, reads⟩
    · rw [answered]
      exact frozen.of_writes allowed wrote
    · constructor
      · intro call request loaded isLoaded
        rcases reads call request loaded isLoaded with before | read
        · exact frozen.loaded call request loaded before
        · exact draft_of_load read
      · intro recap mem
        rw [sameRecaps] at mem
        apply (frozen.stored recap mem).congr
        · rw [sameEvents]
        · rw [silent]
          rfl

end Frozen

/-- Where every write finds what its call has read, a shared recap has one
event, which hashes its text, and the one token it ever had. -/
theorem shared_recap_frozen {history : History RecapOp RecapAnswer}
    (run : (recapMachine sha256).Run RecapGuard state history) {recap : SessionClassRecap}
    (stored : recap ∈ state.recaps.rows) (isShared : recap.status = .shared) :
    SharedOnce sha256 state.auditEvents history recap := by
  have frozen := (Frozen.of_run run).stored recap stored
  unfold FrozenOnce at frozen
  rw [isShared] at frozen
  exact frozen

/-! ## Three calls about one draft -/

def draftRecap : SessionClassRecap where
  recapId := "recap-1"
  sessionId := "session-1"
  text := "Class did well on fractions."
  status := .draft
  shareToken := none
  sharedAt := none
  sharedBy := none

def oneDraft : RecapState where
  recaps := .single draftRecap
  auditEvents := .empty
  calls _ := .waiting

theorem oneDraft_drafts : oneDraft.Drafts := by
  constructor
  · intro call
    rfl
  · simp [oneDraft, Table.single, draftRecap, sharedEvents, Table.empty]

/-- The digests of the two texts below. -/
def digests (text : String) : String :=
  if text = "Class did well on fractions." then
    "e8f3613f409adc7bcedd79d669c638e9220f4d768e554254e2bb626c325606fb"
  else
    "e983461431a2f50b285d100ec9224618d4e944516e468334efd86a238a994ae1"

def revise : RecapRequest :=
  .updateDraft "recap-1" "Please revise fractions at home."

def shareWith (shareToken : String) : RecapRequest :=
  .share "recap-1" "teacher-1" shareToken 0 ("audit-" ++ shareToken)

def afterOps (ops : List RecapOp) : RecapState × History RecapOp RecapAnswer :=
  (recapMachine digests).drive (oneDraft, []) ops

/-- Every call reads the draft before any of them writes. -/
def staleWrites : List RecapOp :=
  [.read 0 revise, .read 1 (shareWith "token-1"), .read 2 (shareWith "token-2"),
    .write 1, .write 2, .write 0]

/-- The recap is shared twice under two tokens, and its text is changed after
both shares have hashed it. -/
theorem stale_writes_break_freeze :
    (recapMachine digests).Run (fun _ _ _ => True) (afterOps staleWrites).1
        (afterOps staleWrites).2 ∧
      ∃ recap ∈ (afterOps staleWrites).1.recaps.rows, recap.status = .shared ∧
        (sharedEvents (afterOps staleWrites).1.auditEvents recap.recapId).length = 2 ∧
        (∀ event ∈ sharedEvents (afterOps staleWrites).1.auditEvents recap.recapId,
          event.textSha256 ≠ some (digests recap.text)) ∧
        mintedTokens (afterOps staleWrites).2 recap.recapId = ["token-2", "token-1"] := by
  have started : (recapMachine digests).Run (fun _ _ _ => True) oneDraft [] :=
    .start oneDraft_drafts
  constructor
  · exact started.drive staleWrites Machine.admits_all
  · decide +kernel

/-- The draft is revised, then shared; a later edit and a later share fail. -/
def writesInTurn : List RecapOp :=
  [.read 0 revise, .write 0, .read 1 (shareWith "token-1"), .write 1, .read 2 revise, .write 2,
    .read 3 (shareWith "token-2"), .write 3]

def sharedRecap : SessionClassRecap where
  recapId := "recap-1"
  sessionId := "session-1"
  text := "Please revise fractions at home."
  status := .shared
  shareToken := some "token-1"
  sharedAt := some 0
  sharedBy := some "teacher-1"

/-- Calls that write in turn leave one event, one token and the hashed text. -/
theorem writes_in_turn_frozen :
    SharedOnce digests (afterOps writesInTurn).1.auditEvents (afterOps writesInTurn).2
      sharedRecap := by
  have admitted : (recapMachine digests).Admits RecapGuard (oneDraft, []) writesInTurn := by
    decide +kernel
  have run := (Machine.Run.start oneDraft_drafts).drive writesInTurn admitted
  have stored : sharedRecap ∈ (afterOps writesInTurn).1.recaps.rows := by
    decide +kernel
  exact shared_recap_frozen run stored rfl

end RecapState

end OhMyClass.Gateway.Teaching
