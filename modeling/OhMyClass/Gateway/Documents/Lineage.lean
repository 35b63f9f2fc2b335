import OhMyClass.Gateway.Documents.Edits
import OhMyClass.Text.Core

/-!
# Lineages are linear

The uniqueness of version numbers alone keeps a lineage linear: the parent of
a draft is a stored version, and where the draft's version is free that parent
is still the newest one.
-/

namespace OhMyClass.Gateway.Documents

open List Function OhMyClass.Contracts OhMyClass.Transition

theorem head?_of_no_successor {α : Type*} {succeeds : α → α → Prop} {members : List α}
    (chain : members.IsChain succeeds) {last : α} (member : last ∈ members)
    (isLast : ∀ other ∈ members, ¬ succeeds other last) : members.head? = some last := by
  induction members with
  | nil => cases member
  | cons first rest ih =>
    rcases mem_cons.mp member with rfl | inRest
    · rfl
    · have next := ih chain.tail inRest fun other otherMem =>
        isLast other (mem_cons_of_mem _ otherMem)
      rcases rest with _ | ⟨second, others⟩
      · cases inRest
      · rcases Option.some.inj next with rfl
        exact absurd (isChain_cons_cons.mp chain).1 (isLast first mem_cons_self)

/-- A call's payload: its argument, or that of the version it restores. -/
def LineageCall.Delivers (documents : ArtifactDocuments) (runId : RunId) :
    LineageCall → ArtifactPayload → Prop
  | editArtifactDocument edit, payload => payload = edit.payload
  | restoreArtifactDocument artifactId targetVersion, payload =>
    ∃ target ∈ documents.rows, target.runId = runId ∧ target.artifactId = artifactId ∧
      target.version = targetVersion ∧ payload = target.documentJson.payload
  | createLanguageVersion _ _ own _, payload => payload = own
  | createContentVariant _ _ own _, payload => payload = own

namespace DocumentLineages

variable {env : LineageCalls} {documents grown : ArtifactDocuments} {state : DocumentLineages}
  {call : CallId}

/-- A document continues a stored version, or starts a lineage that was empty
when it was drafted. -/
def Follows (documents : ArtifactDocuments) (runId : RunId) (document : ArtifactDocument) : Prop :=
  (∃ parent ∈ documents.rows, parent.runId = runId ∧ parent.artifactId = document.artifactId ∧
    document.version = parent.version + 1 ∧
    document.parentDocumentId = some parent.documentId) ∨
  document.version = 1 ∧ document.parentDocumentId = none ∧
    (getLatest documents runId document.artifactId = none ∨
      ∃ first ∈ documents.rows, first.runId = runId ∧ first.artifactId = document.artifactId ∧
        first.version = 1)

/-- What a call has drafted. -/
structure Drafts (env : LineageCalls) (documents : ArtifactDocuments) (call : CallId)
    (document : ArtifactDocument) : Prop where
  documentId : document.documentId = env.newDocumentId call
  artifactId : document.artifactId = (env.call call).artifactId
  payload : (env.call call).Delivers documents (env.runId call) document.payload
  follows : Follows documents (env.runId call) document

/-- What the phase of a call says about its documents. -/
def Fits (env : LineageCalls) (documents : ArtifactDocuments) (call : CallId) :
    LineagePhase → Prop
  | .editing edit =>
    edit.artifactId = (env.call call).artifactId ∧
      (env.call call).Delivers documents (env.runId call) edit.payload
  | .awaitingSource derivation | .extending derivation _ =>
    derivation.derivedArtifactId = (env.call call).artifactId ∧
      (env.call call).Delivers documents (env.runId call) derivation.payload
  | .drafted document _ | .locked document _ | .persisting document | .inserted document =>
    Drafts env documents call document
  | .waiting | .returned _ | .failed _ | .rolledBack => True

/-! ## What a call drafts -/

theorem fits_draft {document : ArtifactDocument} {next : LineagePhase}
    (fits : Fits env documents call next) : Fits env documents call (draft document next) := by
  unfold draft
  split
  · exact trivial
  · exact fits

theorem fits_editArtifactDocument {edit : Edit}
    (isTarget : edit.artifactId = (env.call call).artifactId)
    (delivers : (env.call call).Delivers documents (env.runId call) edit.payload) :
    Fits env documents call
      (editArtifactDocument documents (env.runId call) (env.newDocumentId call) edit) := by
  unfold editArtifactDocument
  split
  · exact trivial
  · next latest found =>
    rcases mem_of_getLatest found with ⟨member, sameRun, sameArtifact⟩
    apply fits_draft
    exact
      { documentId := rfl
        artifactId := isTarget
        payload := delivers
        follows := .inl ⟨latest, member, sameRun, sameArtifact, rfl, rfl⟩ }

theorem fits_restoreArtifactDocument {artifactId : String} {targetVersion : Int}
    (isCall : env.call call = .restoreArtifactDocument artifactId targetVersion) :
    Fits env documents call
      (restoreArtifactDocument documents (env.runId call) artifactId targetVersion) := by
  unfold restoreArtifactDocument
  split
  · exact trivial
  · next latest older listed =>
    split
    · exact trivial
    · next target found =>
      have member := mem_of_find?_eq_some found
      rw [← listed, mem_listVersions] at member
      have isTarget : target.version = targetVersion := by
        simpa using List.find?_some found
      simp only [Fits, isCall, LineageCall.Delivers, true_and, LineageCall.artifactId]
      exact ⟨target, member.1, member.2.1, member.2.2, isTarget, rfl⟩

theorem fits_startCall :
    Fits env documents call (startCall documents (env.runId call) (env.newDocumentId call)
      (env.call call)) := by
  cases isCall : env.call call with
  | editArtifactDocument edit =>
    apply fits_editArtifactDocument
    · simp only [isCall, LineageCall.artifactId]
    · simp only [isCall, LineageCall.Delivers]
  | restoreArtifactDocument artifactId targetVersion => exact fits_restoreArtifactDocument isCall
  | createLanguageVersion sourceArtifactId targetLanguage payload authority =>
    simp only [startCall, createLanguageVersion]
    split
    · exact trivial
    · split
      · exact trivial
      · simp only [Fits, isCall, LineageCall.Delivers, LineageCall.artifactId, and_self]
  | createContentVariant sourceArtifactId variantKind payload authority =>
    simp only [startCall, createContentVariant]
    split
    · exact trivial
    · simp only [Fits, isCall, LineageCall.Delivers, LineageCall.artifactId, and_self]

theorem fits_readSource {derivation : Derivation}
    (fits : Fits env documents call (.awaitingSource derivation)) :
    Fits env documents call (readSource documents (env.runId call) derivation) := by
  unfold readSource
  split
  · exact trivial
  · exact fits

theorem fits_persistOrExtend {derivation : Derivation} {source : ArtifactDocumentRecord}
    (fits : Fits env documents call (.extending derivation source)) :
    Fits env documents call (persistOrExtend documents (env.runId call) (env.newDocumentId call)
      derivation source) := by
  unfold persistOrExtend
  cases found : getLatest documents (env.runId call) derivation.derivedArtifactId with
  | none =>
    apply fits_draft
    exact
      { documentId := rfl
        artifactId := fits.1
        payload := fits.2
        follows := .inr ⟨rfl, rfl, .inl found⟩ }
  | some latest =>
    rcases mem_of_getLatest found with ⟨member, sameRun, sameArtifact⟩
    apply fits_draft
    exact
      { documentId := rfl
        artifactId := fits.1
        payload := fits.2
        follows := .inl ⟨latest, member, sameRun, sameArtifact, rfl, rfl⟩ }

/-- What the statements of a call do where they do anything. -/
inductive Moves (env : LineageCalls) (state : DocumentLineages) (call : CallId) :
    DocumentLineages → Option (CallId × ArtifactDocument) → Prop
  | phased {after : DocumentLineages} {phase : LineagePhase} :
      after.documents = state.documents →
      after.calls = Function.update state.calls call phase →
      Fits env state.documents call phase →
      (∀ document, state.calls call ≠ .returned document) →
      Moves env state call after none
  | returned {after : DocumentLineages} {document persisted : ArtifactDocument} :
      state.calls call = .inserted document →
      insertDocument state.documents (record (env.runId call) document) = .ok after.documents →
      readPersisted after.documents document.documentId = .ok persisted →
      after.calls = Function.update state.calls call (.returned persisted) →
      Moves env state call after (some (call, persisted))

theorem step_cases (fits : ∀ call, Fits env state.documents call (state.calls call))
    (op : LineageOp) :
    (state.step env op) = (state, none) ∨
      Moves env state op.call (state.step env op).1 (state.step env op).2 := by
  cases op with
  | read call =>
    have own := fits call
    simp only [step, read]
    split
    · next isWaiting => exact .inr (.phased rfl rfl fits_startCall (by simp [isWaiting]))
    · next isEditing =>
      rw [isEditing] at own
      exact .inr (.phased rfl rfl (fits_editArtifactDocument own.1 own.2)
        (by simp [isEditing]))
    · next isAwaiting =>
      rw [isAwaiting] at own
      exact .inr (.phased rfl rfl (fits_readSource own) (by simp [isAwaiting]))
    · next isExtending =>
      rw [isExtending] at own
      exact .inr (.phased rfl rfl (fits_persistOrExtend own) (by simp [isExtending]))
    · exact .inl rfl
  | lock call =>
    have own := fits call
    simp only [step, lock]
    split
    · next isDrafted =>
      rw [isDrafted] at own
      split
      · exact .inr (.phased rfl rfl own (by simp [isDrafted]))
      · exact .inl rfl
    · exact .inl rfl
  | check call =>
    have own := fits call
    simp only [step, check]
    split
    · next isLocked =>
      rw [isLocked] at own
      split
      · exact .inr (.phased rfl rfl trivial (by simp [isLocked]))
      · exact .inr (.phased rfl rfl own (by simp [isLocked]))
    · exact .inl rfl
  | insert call =>
    have own := fits call
    simp only [step, insert]
    split
    · next isPersisting =>
      rw [isPersisting] at own
      split
      · exact .inr (.phased rfl rfl trivial (by simp [isPersisting]))
      · exact .inr (.phased rfl rfl own (by simp [isPersisting]))
    · exact .inl rfl
  | commit call =>
    simp only [step, commit]
    split
    · next isInserted =>
      split
      · exact .inr (.phased rfl rfl trivial (by simp [isInserted]))
      · next inserted =>
        split
        · exact .inr (.phased rfl rfl trivial (by simp [isInserted]))
        · next persistedEq => exact .inr (.returned isInserted inserted persistedEq rfl)
    · exact .inl rfl
  | rollback call =>
    simp only [step, rollback]
    split
    · next isOpen =>
      have notReturned (document : ArtifactDocument) : state.calls call ≠ .returned document := by
        intro isReturned
        simp [isReturned, LineagePhase.isOpen] at isOpen
      exact .inr (.phased rfl rfl trivial notReturned)
    · exact .inl rfl

/-! ## One more version -/

section Append

variable {runId : RunId} {document : ArtifactDocument}

theorem listVersions_of_follows (linear : Linear documents)
    (follows : Follows documents runId document)
    (appended : grown.rows = documents.rows ++ [record runId document])
    (free : ∀ stored ∈ documents.rows, ¬ stored.Conflict (record runId document)) :
    listVersions grown runId document.artifactId =
        record runId document :: listVersions documents runId document.artifactId ∧
      ∀ older ∈ getLatest documents runId document.artifactId,
        Succeeds (record runId document) older := by
  rcases follows with ⟨parent, member, sameRun, sameArtifact, isNext, isParent⟩ | ⟨isFirst, _, noVersion⟩
  · have listed := mem_listVersions.mpr ⟨member, sameRun, sameArtifact⟩
    have isLatest : getLatest documents runId document.artifactId = some parent := by
      apply head?_of_no_successor (linear runId document.artifactId) listed
      intro other otherListed succeeds
      rw [mem_listVersions] at otherListed
      apply free other otherListed.1
      exact .inr ⟨otherListed.2.1, otherListed.2.2, succeeds.1.trans isNext.symm⟩
    constructor
    · apply listVersions_of_append_above appended
      intro stored storedListed
      have below : stored.version ≤ parent.version := by
        rcases List.head?_eq_some_iff.mp isLatest with ⟨rest, isHead⟩
        have sorted := Sorting.pairwise_sortByDesc ArtifactDocumentRecord.version
          (documents.rows.filter fun row =>
            row.runId = runId ∧ row.artifactId = document.artifactId)
        change (listVersions documents runId document.artifactId).Pairwise _ at sorted
        change stored ∈ listVersions documents runId document.artifactId at storedListed
        rw [isHead] at sorted storedListed
        rcases mem_cons.mp storedListed with rfl | inRest
        · exact le_refl _
        · exact rel_of_pairwise_cons sorted inRest
      change stored.version < document.version
      omega
    · intro older isOlder
      rcases Option.some.inj (isLatest.symm.trans isOlder) with rfl
      exact ⟨isNext, isParent⟩
  · have isEmpty : getLatest documents runId document.artifactId = none := by
      rcases noVersion with noVersion | ⟨first, member, sameRun, sameArtifact, isOne⟩
      · exact noVersion
      · exact absurd (.inr ⟨sameRun, sameArtifact, isOne.trans isFirst.symm⟩) (free first member)
    constructor
    · apply listVersions_of_append_above appended
      intro stored storedListed
      change stored ∈ listVersions documents runId document.artifactId at storedListed
      rw [List.head?_eq_none_iff.mp isEmpty] at storedListed
      cases storedListed
    · simp [isEmpty]

theorem linear_of_follows (linear : Linear documents)
    (follows : Follows documents runId document)
    (appended : grown.rows = documents.rows ++ [record runId document])
    (free : ∀ stored ∈ documents.rows, ¬ stored.Conflict (record runId document)) :
    Linear grown := by
  intro otherRun otherArtifact
  by_cases same : runId = otherRun ∧ document.artifactId = otherArtifact
  · rcases same with ⟨rfl, rfl⟩
    rcases listVersions_of_follows linear follows appended free with ⟨listed, succeeds⟩
    have before := linear runId document.artifactId
    rw [listed]
    rcases older : listVersions documents runId document.artifactId with _ | ⟨latest, rest⟩
    · exact isChain_singleton _
    · rw [older] at before
      have isLatest : getLatest documents runId document.artifactId = some latest := by
        rw [getLatest, older, List.head?_cons]
      exact isChain_cons_cons.mpr ⟨succeeds latest isLatest, before⟩
  · rw [listVersions_of_append appended same]
    exact linear otherRun otherArtifact

theorem Follows.append {otherRun : RunId} {other : ArtifactDocument}
    (follows : Follows documents runId document)
    (otherFollows : Follows documents otherRun other)
    (appended : grown.rows = documents.rows ++ [record otherRun other]) :
    Follows grown runId document := by
  have kept (row : ArtifactDocumentRecord) (member : row ∈ documents.rows) :
      row ∈ grown.rows := by
    rw [appended]
    exact mem_append_left _ member
  rcases follows with ⟨parent, member, isParent⟩ | ⟨isFirst, noParent, noVersion⟩
  · exact .inl ⟨parent, kept parent member, isParent⟩
  · refine .inr ⟨isFirst, noParent, ?_⟩
    rcases noVersion with noVersion | ⟨first, member, isOne⟩
    · by_cases same : otherRun = runId ∧ other.artifactId = document.artifactId
      · rcases same with ⟨rfl, sameArtifact⟩
        rw [getLatest_eq_none_iff] at noVersion
        rcases otherFollows with ⟨parent, member, sameRun, parentArtifact, _⟩ | ⟨isOne, _⟩
        · exact absurd (parentArtifact.trans sameArtifact) (noVersion parent member sameRun)
        · right
          refine ⟨record otherRun other, ?_, rfl, sameArtifact, isOne⟩
          rw [appended]
          exact mem_append_right _ (mem_singleton_self _)
      · left
        rw [getLatest, listVersions_of_append appended same]
        exact noVersion
    · exact .inr ⟨first, kept first member, isOne⟩

theorem Fits.append {phase : LineagePhase} (fits : Fits env documents call phase)
    (otherFollows : Follows documents runId document)
    (appended : grown.rows = documents.rows ++ [record runId document]) :
    Fits env grown call phase := by
  have delivers {payload : ArtifactPayload}
      (before : (env.call call).Delivers documents (env.runId call) payload) :
      (env.call call).Delivers grown (env.runId call) payload := by
    cases isCall : env.call call with
    | restoreArtifactDocument artifactId targetVersion =>
      rw [isCall] at before
      rcases before with ⟨target, member, isTarget⟩
      refine ⟨target, ?_, isTarget⟩
      rw [appended]
      exact mem_append_left _ member
    | _ =>
      rw [isCall] at before
      exact before
  have drafts {drafted : ArtifactDocument} (before : Drafts env documents call drafted) :
      Drafts env grown call drafted :=
    { before with
      payload := delivers before.payload
      follows := before.follows.append otherFollows appended }
  cases phase with
  | editing edit => exact ⟨fits.1, delivers fits.2⟩
  | awaitingSource derivation => exact ⟨fits.1, delivers fits.2⟩
  | extending derivation source => exact ⟨fits.1, delivers fits.2⟩
  | drafted drafted baseVersion => exact drafts fits
  | locked drafted baseVersion => exact drafts fits
  | persisting drafted => exact drafts fits
  | inserted drafted => exact drafts fits
  | waiting | returned _ | failed _ | rolledBack => exact trivial

end Append

/-! ## Every run -/

/-- Linear lineages, drafts that follow them, and ids drawn by returned calls
only. -/
structure Sound (env : LineageCalls) (state : DocumentLineages) : Prop where
  linear : Linear state.documents
  fits : ∀ call, Fits env state.documents call (state.calls call)
  drawn : ∀ row ∈ state.documents.rows, ∀ call, row.documentId = env.newDocumentId call →
    ∃ document, state.calls call = .returned document

/-- What a commit stores and returns. -/
structure Returns (env : LineageCalls) (state after : DocumentLineages) (call : CallId)
    (document : ArtifactDocument) : Prop where
  isInserted : state.calls call = .inserted document
  drafts : Drafts env state.documents call document
  appended : after.documents.rows = state.documents.rows ++ [record (env.runId call) document]
  free : ∀ stored ∈ state.documents.rows,
    ¬ stored.Conflict (record (env.runId call) document)
  calls : after.calls = Function.update state.calls call (.returned document)

namespace Sound

variable {after : DocumentLineages} {answer : Option (CallId × ArtifactDocument)}

theorem returns_of_moves (sound : Sound env state) {op : LineageOp} {document : ArtifactDocument}
    (moved : Moves env state op.call after (some (call, document))) :
    Returns env state after call document := by
  cases moved with
  | @returned drafted _ isInserted inserted persistedEq calls =>
    have drafts := sound.fits op.call
    rw [isInserted] at drafts
    have isNew : ∀ stored ∈ state.documents.rows,
        stored.documentId ≠ (record (env.runId op.call) drafted).documentId := by
      intro stored member same
      rcases sound.drawn stored member op.call (same.trans drafts.documentId) with ⟨_, isReturned⟩
      rw [isInserted] at isReturned
      cases isReturned
    rcases rows_of_insertDocument isNew inserted with ⟨appended, free⟩
    have isDrafted : document = drafted := by
      have stored : record (env.runId op.call) drafted ∈ after.documents.rows := by
        rw [appended]
        exact mem_append_right _ (mem_singleton_self _)
      have found : readPersisted after.documents drafted.documentId = .ok drafted :=
        readPersisted_of_mem stored
      rw [found] at persistedEq
      exact (Except.ok.inj persistedEq).symm
    rcases isDrafted with rfl
    exact ⟨isInserted, drafts, appended, free, calls⟩

theorem calls_of_update {phase : LineagePhase} {call : CallId}
    (calls : after.calls = Function.update state.calls call phase) (other : CallId) :
    (other = call ∧ after.calls other = phase) ∨
      (other ≠ call ∧ after.calls other = state.calls other) := by
  rw [calls]
  by_cases same : other = call
  · rw [same, update_self]
    exact .inl ⟨rfl, rfl⟩
  · rw [update_of_ne same]
    exact .inr ⟨same, rfl⟩

theorem of_moves (sound : Sound env state) (distinct : Function.Injective env.newDocumentId)
    {op : LineageOp} (moved : Moves env state op.call after answer) : Sound env after := by
  rcases answer with _ | ⟨mover, document⟩
  · cases moved with
    | @phased phase documents calls fits isOpen =>
      constructor
      · rw [documents]
        exact sound.linear
      · intro other
        rw [documents]
        rcases calls_of_update calls other with ⟨same, isPhase⟩ | ⟨_, unchanged⟩
        · rw [isPhase, same]
          exact fits
        · rw [unchanged]
          exact sound.fits other
      · intro row member other same
        rw [documents] at member
        rcases sound.drawn row member other same with ⟨document, isReturned⟩
        rcases calls_of_update calls other with ⟨same, _⟩ | ⟨_, unchanged⟩
        · rw [same] at isReturned
          exact absurd isReturned (isOpen document)
        · exact ⟨document, unchanged.trans isReturned⟩
  · have returns := sound.returns_of_moves moved
    constructor
    · exact linear_of_follows sound.linear returns.drafts.follows returns.appended returns.free
    · intro other
      rcases calls_of_update returns.calls other with ⟨_, isPhase⟩ | ⟨_, unchanged⟩
      · rw [isPhase]
        exact trivial
      · rw [unchanged]
        exact (sound.fits other).append returns.drafts.follows returns.appended
    · intro row member other same
      rcases calls_of_update returns.calls other with
        ⟨_, isPhase⟩ | ⟨different, unchanged⟩
      · exact ⟨document, isPhase⟩
      · rw [returns.appended, mem_append, mem_singleton] at member
        rcases member with member | rfl
        · rw [unchanged]
          exact sound.drawn row member other same
        · exact absurd (distinct (same.symm.trans returns.drafts.documentId)) different

theorem step (sound : Sound env state) (distinct : Function.Injective env.newDocumentId)
    (op : LineageOp) : Sound env (state.step env op).1 := by
  rcases step_cases sound.fits op with unchanged | moved
  · rw [unchanged]
    exact sound
  · exact sound.of_moves distinct moved

theorem of_run (distinct : Function.Injective env.newDocumentId)
    {history : History LineageOp (Option (CallId × ArtifactDocument))}
    (run : (lineageMachine env).Run (fun _ _ _ => True) state history) : Sound env state := by
  apply run.invariant fun state _ => Sound env state
  · intro state quiet
    constructor
    · exact quiet.linear
    · intro call
      rw [quiet.waiting call]
      exact trivial
    · intro row member call same
      exact absurd same (quiet.unused row member call)
  · intro state _ op sound _
    exact sound.step distinct op

end Sound

theorem Returns.head {after : DocumentLineages} {document : ArtifactDocument}
    (returns : Returns env state after call document) (linear : Linear state.documents) :
    getLatest after.documents (env.runId call) (env.call call).artifactId =
      some (record (env.runId call) document) := by
  rcases listVersions_of_follows linear returns.drafts.follows returns.appended returns.free with
    ⟨listed, _⟩
  rw [getLatest, ← returns.drafts.artifactId, listed, List.head?_cons]

theorem Sound.prefix_step (sound : Sound env state) (op : LineageOp) :
    state.documents.rows <+: (state.step env op).1.documents.rows := by
  rcases step_cases sound.fits op with unchanged | moved
  · simp only [unchanged, prefix_rfl]
  · generalize (state.step env op).1 = after, (state.step env op).2 = answer at moved ⊢
    cases moved with
    | phased documents =>
      simp only [documents, prefix_rfl]
    | returned _ inserted => exact prefix_of_insertDocument inserted

/-- Whatever transactions do in between, the versions of every artifact follow
one another, no stored version changes, a transaction that fails writes
nothing, and one that returns has made its payload the newest version. -/
theorem lineages_linear {history : History LineageOp (Option (CallId × ArtifactDocument))}
    (distinct : Function.Injective env.newDocumentId)
    (run : (lineageMachine env).Run (fun _ _ _ => True) state history) :
    Linear state.documents ∧
      (∀ ops, state.documents.rows <+:
        ((lineageMachine env).drive (state, history) ops).1.documents.rows) ∧
      ∀ op,
        match state.step env op with
        | (after, none) => after.documents = state.documents
        | (after, some (call, document)) =>
          (env.call call).Delivers state.documents (env.runId call) document.payload ∧
            ∃ head, getLatest after.documents (env.runId call) (env.call call).artifactId =
                some head ∧
              head.documentJson = document := by
  have sound := Sound.of_run distinct run
  refine ⟨sound.linear, ?_, ?_⟩
  · intro ops
    have admitted : (lineageMachine env).Admits (fun _ _ _ => True) (state, history) ops :=
      Machine.admits_all
    have grown := admitted.invariant
      (fun later => Sound env later ∧ state.documents.rows <+: later.documents.rows)
      (fun later _ op ⟨laterSound, isPrefix⟩ _ =>
        ⟨laterSound.step distinct op, isPrefix.trans (laterSound.prefix_step op)⟩)
      ⟨sound, prefix_rfl⟩
    exact grown.2
  · intro op
    rcases step_cases sound.fits op with unchanged | moved
    · rw [unchanged]
    · rcases stepped : state.step env op with ⟨after, _ | ⟨mover, document⟩⟩
      · rw [stepped] at moved
        cases moved with
        | phased documents => exact documents
      · rw [stepped] at moved
        have returns := sound.returns_of_moves moved
        exact ⟨returns.drafts.payload, _, returns.head sound.linear, rfl⟩

def lessonPayload : ArtifactPayload where
  payloadKind := .blockDocument
  members := []

def lessonDocument : ArtifactDocument where
  documentId := "doc-first"
  artifactId := "lesson-1"
  artifactType := .lesson
  version := 1
  language := .en
  audience := .teacher
  authority := .generated
  payload := lessonPayload
  parentDocumentId := none
  sourceDocumentId := none

def generated : DocumentLineages where
  documents := .single (record "run-1" lessonDocument)
  calls _ := .waiting
  locks _ := none

/-- The first two calls edit the lesson, the third restores it and the others
translate it. -/
def editors : LineageCalls where
  runId _ := "run-1"
  call
    | 0 | 1 => .editArtifactDocument ⟨"lesson-1", 1, lessonPayload, .teacherEdit⟩
    | 2 => .restoreArtifactDocument "lesson-1" 1
    | _ => .createLanguageVersion "lesson-1" .vi lessonPayload .translated
  newDocumentId call := "doc-000000000000000" ++ String.ofList (Nat.toDigits 10 call)
  hashtext artifactId := artifactId.length

theorem editors_distinct : Function.Injective editors.newDocumentId := by
  intro first second same
  simp only [editors, String.append_right_inj, String.ofList_inj] at same
  exact Text.toDigits_injective same

theorem generated_quiet : Quiet editors generated := by
  constructor
  · intro call
    rfl
  · intro key
    rfl
  · intro runId artifactId
    have few : (listVersions generated.documents runId artifactId).length ≤ 1 := by
      rw [listVersions, (Sorting.sortByDesc_perm _ _).length_eq]
      exact length_filter_le _ _
    rcases listed : listVersions generated.documents runId artifactId with
      _ | ⟨only, _ | ⟨second, rest⟩⟩
    · exact isChain_nil
    · exact isChain_singleton _
    · simp [listed] at few
  · intro row member call same
    rcases mem_singleton.mp member with rfl
    have texts := congrArg String.toList same
    simp [record, lessonDocument, editors] at texts

/-- The second edit waits for the first one and is stale then. -/
def racedEdits : List LineageOp :=
  [.read 0, .read 1, .lock 0, .lock 1, .check 0, .insert 0, .commit 0, .lock 1, .check 1,
    .read 2, .read 2, .lock 2, .check 2, .insert 2, .commit 2,
    .read 3, .read 3, .read 3, .insert 3, .commit 3]

def raced : DocumentLineages :=
  ((lineageMachine editors).drive (generated, []) racedEdits).1

/-- The restored lesson follows the first edit, which follows the generated
one. -/
theorem raced_lineages_linear :
    Linear raced.documents ∧
      (listVersions raced.documents "run-1" "lesson-1").map ArtifactDocumentRecord.version =
        [3, 2, 1] := by
  have admitted : (lineageMachine editors).Admits (fun _ _ _ => True) (generated, []) racedEdits :=
    Machine.admits_all
  have run : (lineageMachine editors).Run (fun _ _ _ => True) generated [] :=
    .start generated_quiet
  exact ⟨(lineages_linear editors_distinct (run.drive racedEdits admitted)).1, by decide +kernel⟩

end DocumentLineages

end OhMyClass.Gateway.Documents
