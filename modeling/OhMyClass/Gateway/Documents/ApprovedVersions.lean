import OhMyClass.Gateway.Documents.Edits

/-!
# Approvals and review notes

An approval reads the head of an artifact, looks for open blocking notes and
inserts its row; `approve_all_current` does so for one artifact after the other
before it commits.  Edits of the same artifacts and notes on them go on in
transactions of their own.
-/

namespace OhMyClass.Gateway.Documents

open List Function OhMyClass.Contracts OhMyClass.Sorting OhMyClass.Transition

inductive ReviewNoteStatus where
  | opened
  | resolved
  deriving DecidableEq

structure ReviewNoteRecord where
  noteId : String
  runId : RunId
  artifactId : String
  documentId : String
  contentEntityId : Option String
  authorId : String
  body : String
  blocking : Bool
  status : ReviewNoteStatus

structure ContentApprovalRecord where
  approvalId : String
  documentId : String
  status : String
  approvedBy : String
  createdAt : DateTime

inductive ReviewError where
  | artifactNotCurrent (artifactId : String) (requestedVersion currentVersion : Int)
  | blockingReviewNotesOpen (artifactId : String)
  | reviewNoteNotFound (noteId : String)
  | integrityError

/-- The note blocks approvals of its artifact. -/
def ReviewNoteRecord.blocks (note : ReviewNoteRecord) (runId : RunId) (artifactId : String) :
    Prop :=
  note.runId = runId ∧ note.artifactId = artifactId ∧ note.blocking = true ∧
    note.status = .opened

instance (note : ReviewNoteRecord) (runId : RunId) (artifactId : String) :
    Decidable (note.blocks runId artifactId) :=
  inferInstanceAs (Decidable (_ ∧ _))

def hasOpenBlocking (notes : List ReviewNoteRecord) (runId : RunId) (artifactId : String) :
    Bool :=
  notes.any fun note => note.blocks runId artifactId

/-- The `approval_status` of `_read_persisted`. -/
def approvalStatus (approvals : List ContentApprovalRecord) (documentId : String) :
    Option String :=
  (sortByDesc ContentApprovalRecord.createdAt
    (approvals.filter fun row => row.documentId = documentId)).head?.map
      ContentApprovalRecord.status

/-- `insert_approval`, `ON CONFLICT (approval_id) DO NOTHING`. -/
def insertApproval (approvals : List ContentApprovalRecord) (row : ContentApprovalRecord) :
    List ContentApprovalRecord :=
  if ∃ stored ∈ approvals, stored.approvalId = row.approvalId then approvals
  else approvals ++ [row]

/-! ## Calls -/

inductive ReviewCall where
  | approveArtifactVersion (runId : RunId) (artifactId : String) (version : Int)
      (approverId : String)
  | approveAllCurrent (runId : RunId) (artifactIds : List String) (approverId : String)
  | createNote (note : ReviewNoteRecord)
  | resolveNote (noteId : String)

/-- The run an approval is about, and who approves. -/
def ReviewCall.approval : ReviewCall → RunId × String
  | approveArtifactVersion runId _ _ approverId | approveAllCurrent runId _ approverId =>
    (runId, approverId)
  | createNote _ | resolveNote _ => ("", "")

/-- The calls, the ids `uuid4` and the times the clock gives to their approvals,
and the edits that go on. -/
structure ReviewCalls where
  lineages : LineageCalls
  call : CallId → ReviewCall
  newApprovalId : CallId → Nat → String
  utcNow : CallId → Nat → DateTime

/-- An approval that is inserted, and the head it is about. -/
structure WrittenApproval where
  artifactId : String
  latest : ArtifactDocumentRecord
  row : ContentApprovalRecord

/-- The lists of `approve_all_current`, and the approvals it has inserted. -/
structure ReviewProgress where
  remaining : List String
  approved : List String := []
  blocked : List (String × String) := []
  written : List WrittenApproval := []

/-- How far a call has come. -/
inductive ReviewPhase where
  | waiting
  | looping (progress : ReviewProgress)
  | readLatest (progress : ReviewProgress) (artifactId : String) (latest : ArtifactDocumentRecord)
  | checked (progress : ReviewProgress) (artifactId : String) (latest : ArtifactDocumentRecord)
  | flushed (progress : ReviewProgress)
  | noteFlushed (note : ReviewNoteRecord)
  | resolveFlushed (noteId : String)
  | returned (progress : ReviewProgress)
  | noted
  | failed (error : ReviewError)
  | rolledBack

/-- The committed rows, the edits and the calls on their way. -/
structure ReviewedDocuments where
  lineages : DocumentLineages
  notes : List ReviewNoteRecord
  approvals : List ContentApprovalRecord
  calls : CallId → ReviewPhase

inductive ReviewOp where
  | lineage (op : LineageOp)
  | advance (call : CallId)
  | commit (call : CallId)
  | rollback (call : CallId)

namespace ReviewedDocuments

def setCall (state : ReviewedDocuments) (call : CallId) (phase : ReviewPhase) :
    ReviewedDocuments :=
  { state with calls := Function.update state.calls call phase }

/-- `_approval`, inserted for a head. -/
def approvalOf (env : ReviewCalls) (call : CallId) (progress : ReviewProgress)
    (latest : ArtifactDocumentRecord) : ContentApprovalRecord where
  approvalId := env.newApprovalId call progress.written.length
  documentId := latest.documentId
  status := "approved"
  approvedBy := (env.call call).approval.2
  createdAt := env.utcNow call progress.written.length

/-- The next turn of the loop reads the head of an artifact. -/
def lookAt (documents : ArtifactDocuments) (runId : RunId) (progress : ReviewProgress) :
    ReviewPhase :=
  match progress.remaining with
  | [] => .flushed progress
  | artifactId :: rest =>
    match getLatest documents runId artifactId with
    | none =>
      .looping { progress with
        remaining := rest
        blocked := progress.blocked ++ [(artifactId, "no_version")] }
    | some latest => .readLatest { progress with remaining := rest } artifactId latest

/-- What an open blocking note does to an approval. -/
def block (progress : ReviewProgress) (artifactId : String) : ReviewCall → ReviewPhase
  | .approveAllCurrent _ _ _ =>
    .looping { progress with
      blocked := progress.blocked ++ [(artifactId, "blocking_review_note")] }
  | _ => .failed (.blockingReviewNotesOpen artifactId)

/-- The approval of a head is inserted. -/
def approve (env : ReviewCalls) (call : CallId) (progress : ReviewProgress) (artifactId : String)
    (latest : ArtifactDocumentRecord) : ReviewProgress :=
  { progress with
    approved := progress.approved ++ [artifactId]
    written := progress.written ++ [⟨artifactId, latest, approvalOf env call progress latest⟩] }

/-- The first statement of a call. -/
def start (state : ReviewedDocuments) : ReviewCall → ReviewPhase
  | .approveArtifactVersion runId artifactId version _ =>
    match getLatest state.lineages.documents runId artifactId with
    | none => .failed (.artifactNotCurrent artifactId version 0)
    | some latest =>
      if latest.version = version then .readLatest { remaining := [] } artifactId latest
      else .failed (.artifactNotCurrent artifactId version latest.version)
  | .approveAllCurrent _ artifactIds _ => .looping { remaining := artifactIds }
  | .createNote note =>
    if (state.notes.any fun stored => stored.noteId = note.noteId) ||
        !state.lineages.documents.rows.any fun row => row.documentId = note.documentId then
      .failed .integrityError
    else
      .noteFlushed { note with status := .opened }
  | .resolveNote noteId =>
    if state.notes.any fun stored => stored.noteId = noteId then .resolveFlushed noteId
    else .failed (.reviewNoteNotFound noteId)

variable (env : ReviewCalls)

/-- The next statement of a call. -/
def advance (call : CallId) (state : ReviewedDocuments) : ReviewedDocuments :=
  let runId := (env.call call).approval.1
  match state.calls call with
  | .waiting => state.setCall call (state.start (env.call call))
  | .looping progress => state.setCall call (lookAt state.lineages.documents runId progress)
  | .readLatest progress artifactId latest =>
    if hasOpenBlocking state.notes runId artifactId then
      state.setCall call (block progress artifactId (env.call call))
    else
      state.setCall call (.checked progress artifactId latest)
  | .checked progress artifactId latest =>
    state.setCall call (.looping (approve env call progress artifactId latest))
  | _ => state

/-- A note whose id another call has committed meanwhile fails. -/
def commit (call : CallId) (state : ReviewedDocuments) : ReviewedDocuments :=
  match state.calls call with
  | .flushed progress =>
    { state.setCall call (.returned progress) with
      approvals := (progress.written.map WrittenApproval.row).foldl insertApproval
        state.approvals }
  | .noteFlushed note =>
    if state.notes.any fun stored => stored.noteId = note.noteId then
      state.setCall call (.failed .integrityError)
    else
      { state.setCall call .noted with notes := state.notes ++ [note] }
  | .resolveFlushed noteId =>
    { state.setCall call .noted with
      notes := state.notes.map fun note =>
        if note.noteId = noteId then { note with status := .resolved } else note }
  | _ => state

def rollback (call : CallId) (state : ReviewedDocuments) : ReviewedDocuments :=
  match state.calls call with
  | .waiting | .returned _ | .noted | .failed _ | .rolledBack => state
  | _ => state.setCall call .rolledBack

def step (state : ReviewedDocuments) : ReviewOp → ReviewedDocuments
  | .lineage op => { state with lineages := (state.lineages.step env.lineages op).1 }
  | .advance call => state.advance env call
  | .commit call => state.commit call
  | .rollback call => state.rollback call

/-- No review has started, and no approval has an id that is still to be drawn. -/
structure Quiet (state : ReviewedDocuments) : Prop where
  waiting : ∀ call, state.calls call = .waiting
  unused : ∀ row ∈ state.approvals, ∀ call index, row.approvalId ≠ env.newApprovalId call index

end ReviewedDocuments

def reviewing (env : ReviewCalls) : Machine ReviewedDocuments ReviewOp Unit where
  initial := ReviewedDocuments.Quiet env
  step state op := (state.step env op, ())

/-! ## Approved versions -/

section Heads

variable {documents : ArtifactDocuments} {runId : RunId} {artifactId : String}
  {record latest : ArtifactDocumentRecord}

/-- A stored version of an artifact. -/
def IsVersion (documents : ArtifactDocuments) (runId : RunId) (artifactId : String)
    (record : ArtifactDocumentRecord) : Prop :=
  record ∈ documents.rows ∧ record.runId = runId ∧ record.artifactId = artifactId

/-- The version with the highest number. -/
def IsHead (documents : ArtifactDocuments) (runId : RunId) (artifactId : String)
    (record : ArtifactDocumentRecord) : Prop :=
  IsVersion documents runId artifactId record ∧
    ∀ other, IsVersion documents runId artifactId other → other.version ≤ record.version

theorem isVersion_iff :
    IsVersion documents runId artifactId record ↔
      record ∈ listVersions documents runId artifactId :=
  mem_listVersions.symm

theorem isHead_of_getLatest (found : getLatest documents runId artifactId = some latest) :
    IsHead documents runId artifactId latest := by
  have listed := List.head?_eq_some_iff.mp found
  obtain ⟨older, isList⟩ := listed
  constructor
  · rw [isVersion_iff, isList]
    exact mem_cons_self
  · intro other isOther
    rw [isVersion_iff, isList] at isOther
    have descending := pairwise_sortByDesc ArtifactDocumentRecord.version
      (documents.rows.filter fun row => row.runId = runId ∧ row.artifactId = artifactId)
    change (listVersions documents runId artifactId).Pairwise _ at descending
    rw [isList, pairwise_cons] at descending
    rcases mem_cons.mp isOther with rfl | isOlder
    · exact le_rfl
    · exact descending.1 other isOlder

theorem IsVersion.eq (first : IsVersion documents runId artifactId record)
    (second : IsVersion documents runId artifactId latest)
    (sameNumber : record.version = latest.version) : record = latest :=
  Table.eq_of_conflict (fun _ _ => ArtifactDocumentRecord.Conflict.symm) documents first.1 second.1
    (.inr ⟨first.2.1.trans second.2.1.symm, first.2.2.trans second.2.2.symm, sameNumber⟩)

theorem getLatest_eq_some_iff :
    getLatest documents runId artifactId = some latest ↔
      IsHead documents runId artifactId latest := by
  constructor
  · exact isHead_of_getLatest
  · intro isHead
    cases found : getLatest documents runId artifactId with
    | none =>
      have noVersion := getLatest_eq_none_iff.mp found latest isHead.1.1 isHead.1.2.1
      exact absurd isHead.1.2.2 noVersion
    | some other =>
      have otherHead := isHead_of_getLatest found
      rw [otherHead.1.eq isHead.1
        (le_antisymm (isHead.2 other otherHead.1) (otherHead.2 latest isHead.1))]

end Heads

section Rows

variable {approvals rows : List ContentApprovalRecord} {documentId : String}

theorem foldl_insertApproval (distinct : (rows.map ContentApprovalRecord.approvalId).Nodup)
    (fresh : ∀ row ∈ rows, ∀ stored ∈ approvals, stored.approvalId ≠ row.approvalId) :
    rows.foldl insertApproval approvals = approvals ++ rows := by
  induction rows generalizing approvals with
  | nil => simp
  | cons row rest ih =>
    rw [map_cons, nodup_cons] at distinct
    have inserted : insertApproval approvals row = approvals ++ [row] := by
      apply if_neg
      rintro ⟨stored, mem, same⟩
      exact fresh row mem_cons_self stored mem same
    rw [List.foldl_cons, inserted, ih distinct.2, append_assoc, singleton_append]
    intro other otherMem stored mem
    rcases mem_append.mp mem with old | isRow
    · exact fresh other (mem_cons_of_mem _ otherMem) stored old
    · rw [mem_singleton.mp isRow]
      intro same
      exact distinct.1 (same ▸ mem_map_of_mem otherMem)

theorem approvalStatus_append (others : ∀ row ∈ rows, row.documentId ≠ documentId) :
    approvalStatus (approvals ++ rows) documentId = approvalStatus approvals documentId := by
  have none : rows.filter (fun row => row.documentId = documentId) = [] := by
    rw [filter_eq_nil_iff]
    intro row mem
    rw [decide_eq_true_eq]
    exact others row mem
  rw [approvalStatus, approvalStatus, filter_append, none, append_nil]

end Rows

theorem DocumentLineages.prefix_step (env : LineageCalls) (state : DocumentLineages)
    (op : LineageOp) : state.documents.rows <+: (state.step env op).1.documents.rows := by
  cases op with
  | read call =>
    simp only [step, read]
    split <;> exact prefix_rfl
  | lock call =>
    simp only [step, lock]
    split
    next => split <;> exact prefix_rfl
    next => exact prefix_rfl
  | check call =>
    simp only [step, check]
    split
    next => split <;> exact prefix_rfl
    next => exact prefix_rfl
  | insert call =>
    simp only [step, insert]
    split
    next => split <;> exact prefix_rfl
    next => exact prefix_rfl
  | commit call =>
    simp only [step, commit]
    split
    next document _ =>
      split
      next => exact prefix_rfl
      next grown inserted =>
        split
        next => exact prefix_rfl
        next => exact prefix_of_insertDocument inserted
    next => exact prefix_rfl
  | rollback call =>
    simp only [step, rollback]
    split <;> exact prefix_rfl

/-- The artifacts an approval is asked for. -/
def ReviewCall.artifactIds : ReviewCall → List String
  | approveArtifactVersion _ artifactId _ _ => [artifactId]
  | approveAllCurrent _ artifactIds _ => artifactIds
  | createNote _ | resolveNote _ => []

namespace ReviewedDocuments

variable {env : ReviewCalls} {state : ReviewedDocuments} {call : CallId} {phase : ReviewPhase}
  {progress : ReviewProgress} {artifactId : String} {latest : ArtifactDocumentRecord}

@[simp]
theorem setCall_same : (state.setCall call phase).calls call = phase :=
  update_self _ _ _

theorem setCall_other {other : CallId} (different : other ≠ call) :
    (state.setCall call phase).calls other = state.calls other :=
  update_of_ne different _ _

def runOf (env : ReviewCalls) (call : CallId) : RunId :=
  (env.call call).approval.1

/-- Every artifact is approved, blocked, in hand or still to come, and every
approved one has a row for a version that was read. -/
structure Tracks (env : ReviewCalls) (documents : ArtifactDocuments) (call : CallId)
    (inHand : List String) (progress : ReviewProgress) : Prop where
  counted : ∀ id, progress.approved.count id + (progress.blocked.map Prod.fst).count id +
    (inHand ++ progress.remaining).count id = ((env.call call).artifactIds).count id
  named : progress.written.map WrittenApproval.artifactId = progress.approved
  drawn : progress.written.map (fun written => written.row.approvalId) =
    (List.range progress.written.length).map (env.newApprovalId call)
  read : ∀ written ∈ progress.written, written.row.documentId = written.latest.documentId ∧
    IsVersion documents (runOf env call) written.artifactId written.latest

/-- What the phase of a call says about its progress. -/
def Fits (env : ReviewCalls) (documents : ArtifactDocuments) (call : CallId) :
    ReviewPhase → Prop
  | .looping progress => Tracks env documents call [] progress
  | .readLatest progress artifactId latest | .checked progress artifactId latest =>
    Tracks env documents call [artifactId] progress ∧
      IsVersion documents (runOf env call) artifactId latest
  | .flushed progress | .returned progress =>
    Tracks env documents call [] progress ∧ progress.remaining = []
  | _ => True

/-- The call has not returned. -/
def IsOpen : ReviewPhase → Prop
  | .returned _ => False
  | _ => True

structure Sound (env : ReviewCalls) (state : ReviewedDocuments) : Prop where
  fits : ∀ call, Fits env state.lineages.documents call (state.calls call)
  unused : ∀ row ∈ state.approvals, ∀ call, IsOpen (state.calls call) →
    ∀ index, row.approvalId ≠ env.newApprovalId call index

section Grown

variable {documents grown : ArtifactDocuments} {inHand : List String}

theorem isVersion_mono {runId : RunId} (isPrefix : documents.rows <+: grown.rows)
    (isVersion : IsVersion documents runId artifactId latest) :
    IsVersion grown runId artifactId latest :=
  ⟨isPrefix.subset isVersion.1, isVersion.2⟩

theorem Tracks.mono (isPrefix : documents.rows <+: grown.rows)
    (tracks : Tracks env documents call inHand progress) :
    Tracks env grown call inHand progress where
  counted := tracks.counted
  named := tracks.named
  drawn := tracks.drawn
  read written member := ⟨(tracks.read written member).1,
    isVersion_mono isPrefix (tracks.read written member).2⟩

theorem fits_mono (isPrefix : documents.rows <+: grown.rows)
    (fits : Fits env documents call phase) : Fits env grown call phase := by
  cases phase with
  | looping progress => exact Tracks.mono isPrefix fits
  | readLatest progress artifactId latest =>
    exact ⟨fits.1.mono isPrefix, isVersion_mono isPrefix fits.2⟩
  | checked progress artifactId latest =>
    exact ⟨fits.1.mono isPrefix, isVersion_mono isPrefix fits.2⟩
  | flushed progress => exact ⟨fits.1.mono isPrefix, fits.2⟩
  | returned progress => exact ⟨fits.1.mono isPrefix, fits.2⟩
  | _ => trivial

theorem tracks_start {ids : List String}
    (isIds : (env.call call).artifactIds = inHand ++ ids) :
    Tracks env documents call inHand { remaining := ids } where
  counted id := by simp [isIds]
  named := rfl
  drawn := rfl
  read _ member := absurd member not_mem_nil

theorem Tracks.block {reason : String} (tracks : Tracks env documents call [artifactId] progress) :
    Tracks env documents call []
      { progress with blocked := progress.blocked ++ [(artifactId, reason)] } where
  counted id := by
    have counted := tracks.counted id
    simp only [count_append, map_append, map_cons, map_nil,
      count_nil] at counted ⊢
    omega
  named := tracks.named
  drawn := tracks.drawn
  read := tracks.read

theorem Tracks.approve (tracks : Tracks env documents call [artifactId] progress)
    (isVersion : IsVersion documents (runOf env call) artifactId latest) :
    Tracks env documents call [] (approve env call progress artifactId latest) where
  counted id := by
    have counted := tracks.counted id
    simp only [ReviewedDocuments.approve, count_append, count_nil] at counted ⊢
    omega
  named := by
    simp only [ReviewedDocuments.approve, map_append, tracks.named, map_cons,
      map_nil]
  drawn := by
    simp only [ReviewedDocuments.approve, map_append, tracks.drawn, length_append,
      length_singleton, range_succ, map_cons, map_nil, approvalOf]
  read written member := by
    rcases mem_append.mp member with old | isNew
    · exact tracks.read written old
    · rw [mem_singleton.mp isNew]
      exact ⟨rfl, isVersion⟩

theorem Tracks.take {rest : List String} (tracks : Tracks env documents call [] progress)
    (isFirst : progress.remaining = artifactId :: rest) :
    Tracks env documents call [artifactId] { progress with remaining := rest } where
  counted id := by
    have counted := tracks.counted id
    rw [isFirst] at counted
    exact counted
  named := tracks.named
  drawn := tracks.drawn
  read := tracks.read

theorem isVersion_getLatest {runId : RunId}
    (found : getLatest documents runId artifactId = some latest) :
    IsVersion documents runId artifactId latest :=
  (isHead_of_getLatest found).1

theorem fits_lookAt (tracks : Tracks env documents call [] progress) :
    Fits env documents call (lookAt documents (runOf env call) progress) ∧
      IsOpen (lookAt documents (runOf env call) progress) := by
  unfold lookAt
  split
  next isDone => exact ⟨⟨tracks, isDone⟩, trivial⟩
  next first rest isFirst =>
    split
    next => exact ⟨(tracks.take isFirst).block, trivial⟩
    next latest found => exact ⟨⟨tracks.take isFirst, isVersion_getLatest found⟩, trivial⟩

end Grown

theorem fits_start (env : ReviewCalls) (state : ReviewedDocuments) (call : CallId) :
    Fits env state.lineages.documents call (state.start (env.call call)) ∧
      IsOpen (state.start (env.call call)) := by
  cases request : env.call call with
  | approveArtifactVersion runId artifactId version approverId =>
    simp only [start]
    split
    next => exact ⟨trivial, trivial⟩
    next latest found =>
      split
      next =>
        have isRun : runOf env call = runId := by rw [runOf, request]; rfl
        have isIds : (env.call call).artifactIds = [artifactId] ++ [] := by
          rw [request]; rfl
        exact ⟨⟨tracks_start isIds, isRun ▸ isVersion_getLatest found⟩, trivial⟩
      next => exact ⟨trivial, trivial⟩
  | approveAllCurrent runId artifactIds approverId =>
    have isIds : (env.call call).artifactIds = [] ++ artifactIds := by
      rw [request]; rfl
    exact ⟨tracks_start isIds, trivial⟩
  | createNote note =>
    simp only [start]
    split <;> exact ⟨trivial, trivial⟩
  | resolveNote noteId =>
    simp only [start]
    split <;> exact ⟨trivial, trivial⟩

variable {documents : ArtifactDocuments}

theorem fits_block (tracks : Tracks env documents call [artifactId] progress) :
    Fits env documents call (block progress artifactId (env.call call)) ∧
      IsOpen (block progress artifactId (env.call call)) := by
  unfold block
  split
  next => exact ⟨tracks.block, trivial⟩
  next => exact ⟨trivial, trivial⟩

/-! ## What every step keeps -/

theorem Sound.setCall (sound : Sound env state) (isOpen : IsOpen (state.calls call))
    (fits : Fits env state.lineages.documents call phase) :
    Sound env (state.setCall call phase) := by
  constructor
  · intro other
    by_cases same : other = call
    · rw [same, setCall_same]
      exact fits
    · rw [setCall_other same]
      exact sound.fits other
  · intro row mem other otherOpen
    by_cases same : other = call
    · exact sound.unused row mem other (same ▸ isOpen)
    · rw [setCall_other same] at otherOpen
      exact sound.unused row mem other otherOpen

theorem Sound.lineage (sound : Sound env state) (op : LineageOp) :
    Sound env (state.step env (.lineage op)) where
  fits call := fits_mono (state.lineages.prefix_step env.lineages op) (sound.fits call)
  unused := sound.unused

theorem isOpen_of_eq (atPhase : state.calls call = phase) (isOpen : IsOpen phase) :
    IsOpen (state.calls call) :=
  atPhase ▸ isOpen

theorem Sound.advance (sound : Sound env state) (call : CallId) :
    Sound env (state.advance env call) := by
  have fits := sound.fits call
  simp only [ReviewedDocuments.advance]
  split
  next waiting => exact sound.setCall (isOpen_of_eq waiting trivial) (fits_start env state call).1
  next progress looping =>
    rw [looping] at fits
    exact sound.setCall (isOpen_of_eq looping trivial) (fits_lookAt fits).1
  next progress artifactId latest hasRead =>
    rw [hasRead] at fits
    split
    next => exact sound.setCall (isOpen_of_eq hasRead trivial) (fits_block fits.1).1
    next => exact sound.setCall (isOpen_of_eq hasRead trivial) fits
  next progress artifactId latest checked =>
    rw [checked] at fits
    exact sound.setCall (isOpen_of_eq checked trivial) (fits.1.approve fits.2)
  next => exact sound

/-- `uuid4` draws an id for each approval. -/
def DistinctApprovals (env : ReviewCalls) : Prop :=
  ∀ first second firstIndex secondIndex,
    env.newApprovalId first firstIndex = env.newApprovalId second secondIndex →
      first = second ∧ firstIndex = secondIndex

theorem Sound.approvals_commit (sound : Sound env state) (distinct : DistinctApprovals env)
    (flushed : state.calls call = .flushed progress) :
    (progress.written.map WrittenApproval.row).foldl insertApproval state.approvals =
      state.approvals ++ progress.written.map WrittenApproval.row := by
  have fits := sound.fits call
  rw [flushed] at fits
  have drawn := fits.1.drawn
  apply foldl_insertApproval
  · rw [map_map]
    change (progress.written.map fun written => written.row.approvalId).Nodup
    rw [drawn]
    refine List.Nodup.map ?_ nodup_range
    intro first second same
    exact (distinct call call first second same).2
  · intro row mem stored storedMem
    have isDrawn : row.approvalId ∈ progress.written.map fun written => written.row.approvalId := by
      obtain ⟨written, writtenMem, rfl⟩ := mem_map.mp mem
      exact mem_map_of_mem writtenMem
    rw [drawn] at isDrawn
    obtain ⟨index, _, isIndex⟩ := mem_map.mp isDrawn
    rw [← isIndex]
    exact sound.unused stored storedMem call (isOpen_of_eq flushed trivial) index

theorem Sound.commit (sound : Sound env state) (distinct : DistinctApprovals env)
    (call : CallId) :
    Sound env (state.commit call) := by
  have fits := sound.fits call
  unfold ReviewedDocuments.commit
  split
  next progress flushed =>
    rw [flushed] at fits
    have after : Sound env (state.setCall call (.returned progress)) :=
      sound.setCall (isOpen_of_eq flushed trivial) fits
    refine ⟨after.fits, ?_⟩
    rw [sound.approvals_commit distinct flushed]
    intro row mem other isOpen index
    rcases mem_append.mp mem with old | isNew
    · exact after.unused row old other isOpen index
    · obtain ⟨written, writtenMem, rfl⟩ := mem_map.mp isNew
      have different : other ≠ call := by
        rintro rfl
        rw [setCall_same] at isOpen
        exact isOpen
      have isDrawn := mem_map_of_mem (f := fun written : WrittenApproval =>
        written.row.approvalId) writtenMem
      rw [fits.1.drawn] at isDrawn
      obtain ⟨drawnIndex, _, isIndex⟩ := mem_map.mp isDrawn
      intro same
      exact different (distinct call other drawnIndex index (isIndex.trans same)).1.symm
  next note noteFlushed =>
    have after : Sound env (state.setCall call .noted) :=
      sound.setCall (isOpen_of_eq noteFlushed trivial) trivial
    split
    next => exact sound.setCall (isOpen_of_eq noteFlushed trivial) trivial
    next => exact ⟨after.fits, after.unused⟩
  next noteId resolveFlushed =>
    have after : Sound env (state.setCall call .noted) :=
      sound.setCall (isOpen_of_eq resolveFlushed trivial) trivial
    exact ⟨after.fits, after.unused⟩
  next => exact sound

theorem Sound.rollback (sound : Sound env state) (call : CallId) :
    Sound env (state.rollback call) := by
  unfold ReviewedDocuments.rollback
  split
  next => exact sound
  next => exact sound
  next => exact sound
  next => exact sound
  next => exact sound
  next phase _ notReturned _ _ _ =>
    refine sound.setCall ?_ trivial
    cases atPhase : state.calls call with
    | returned progress => exact notReturned progress atPhase
    | _ => trivial

theorem Sound.step (sound : Sound env state) (distinct : DistinctApprovals env) (op : ReviewOp) :
    Sound env (state.step env op) := by
  cases op with
  | lineage op => exact sound.lineage op
  | advance call => exact sound.advance call
  | commit call => exact sound.commit distinct call
  | rollback call => exact sound.rollback call

theorem Quiet.sound (quiet : Quiet env state) : Sound env state where
  fits call := by
    rw [quiet.waiting call]
    trivial
  unused row mem call _ index := quiet.unused row mem call index

/-! ## Runs -/

/-- What a step should do: approve heads without open blocking notes, report each
artifact once, insert one row for each approved one and leave others alone. -/
structure Lawful (env : ReviewCalls) (state : ReviewedDocuments) (op : ReviewOp) : Prop where
  current : ∀ call progress, op = .commit call → state.calls call = .flushed progress →
    ∀ written ∈ progress.written,
      (∃ record, record.documentId = written.row.documentId ∧
        IsHead state.lineages.documents (runOf env call) written.artifactId record) ∧
      ∀ note ∈ state.notes, ¬ note.blocks (runOf env call) written.artifactId
  reported : ∀ call progress, (state.step env op).calls call = .returned progress →
    ∀ id, progress.approved.count id + (progress.blocked.map Prod.fst).count id =
      (env.call call).artifactIds.count id
  inserted : ∀ call progress, op = .commit call → state.calls call = .flushed progress →
    ∃ rows, (state.step env op).approvals = state.approvals ++ rows ∧
      List.Forall₂ (fun artifactId row => ∃ record, record.documentId = row.documentId ∧
        IsVersion state.lineages.documents (runOf env call) artifactId record)
        progress.approved rows
  others : ∀ documentId, (∀ call progress, op = .commit call →
      state.calls call = .flushed progress →
        ∀ written ∈ progress.written, written.row.documentId ≠ documentId) →
    approvalStatus (state.step env op).approvals documentId =
      approvalStatus state.approvals documentId

/-- Both reads of an approval are still answered as they were. -/
def StillApprovable (env : ReviewCalls) (state : ReviewedDocuments) (call : CallId) :
    ReviewPhase → Prop
  | .flushed progress => ∀ written ∈ progress.written,
      (getLatest state.lineages.documents (runOf env call) written.artifactId).map
          ArtifactDocumentRecord.documentId = some written.row.documentId ∧
        hasOpenBlocking state.notes (runOf env call) written.artifactId = false
  | _ => True

def Allowed (env : ReviewCalls) (state : ReviewedDocuments) : ReviewOp → Prop
  | .commit call => StillApprovable env state call (state.calls call)
  | .lineage _ | .advance _ | .rollback _ => True

theorem hasOpenBlocking_eq_false_iff {notes : List ReviewNoteRecord} {runId : RunId} :
    hasOpenBlocking notes runId artifactId = false ↔
      ∀ note ∈ notes, ¬ note.blocks runId artifactId := by
  simp [hasOpenBlocking]

theorem latestId_eq_some_iff {runId : RunId} {documentId : String} :
    (getLatest documents runId artifactId).map ArtifactDocumentRecord.documentId =
        some documentId ↔
      ∃ record, record.documentId = documentId ∧ IsHead documents runId artifactId record := by
  simp only [Option.map_eq_some_iff, getLatest_eq_some_iff]
  exact exists_congr fun _ => and_comm

theorem Tracks.forall₂ {inHand : List String} (tracks : Tracks env documents call inHand progress) :
    List.Forall₂ (fun artifactId row => ∃ record : ArtifactDocumentRecord,
        record.documentId = row.documentId ∧
          IsVersion documents (runOf env call) artifactId record)
      progress.approved (progress.written.map WrittenApproval.row) := by
  rw [← tracks.named, forall₂_map_left_iff, forall₂_map_right_iff, forall₂_same]
  intro written mem
  obtain ⟨sameDocument, isVersion⟩ := tracks.read written mem
  exact ⟨written.latest, sameDocument.symm, isVersion⟩

theorem approvals_step (env : ReviewCalls) (state : ReviewedDocuments) (op : ReviewOp) :
    (state.step env op).approvals = state.approvals ∨ ∃ call progress, op = .commit call ∧
      state.calls call = .flushed progress := by
  cases op with
  | lineage op => exact .inl rfl
  | advance call =>
    left
    simp only [step, advance]
    split
    next => rfl
    next => rfl
    next => split <;> rfl
    next => rfl
    next => rfl
  | commit call =>
    simp only [step, commit]
    split
    next progress flushed => exact .inr ⟨call, progress, rfl, flushed⟩
    next => split <;> exact .inl rfl
    next => exact .inl rfl
    next => exact .inl rfl
  | rollback call =>
    left
    simp only [step, rollback]
    split <;> rfl

theorem Sound.lawful_iff (sound : Sound env state) (distinct : DistinctApprovals env)
    (op : ReviewOp) : Lawful env state op ↔ Allowed env state op := by
  constructor
  · intro lawful
    cases op with
    | commit call =>
      simp only [Allowed]
      cases atPhase : state.calls call with
      | flushed progress =>
        intro written mem
        rw [latestId_eq_some_iff, hasOpenBlocking_eq_false_iff]
        exact lawful.current call progress rfl atPhase written mem
      | _ => trivial
    | _ => trivial
  · intro allowed
    have committed {call : CallId} {progress : ReviewProgress}
        (flushed : state.calls call = .flushed progress) :
        (state.step env (.commit call)).approvals =
          state.approvals ++ progress.written.map WrittenApproval.row := by
      simp only [ReviewedDocuments.step, ReviewedDocuments.commit, flushed]
      exact sound.approvals_commit distinct flushed
    constructor
    · rintro call progress rfl flushed written mem
      simp only [Allowed, flushed] at allowed
      rw [← latestId_eq_some_iff, ← hasOpenBlocking_eq_false_iff]
      exact allowed written mem
    · intro call progress ret id
      have fits := (sound.step distinct op).fits call
      rw [ret] at fits
      have counted := fits.1.counted id
      rw [fits.2] at counted
      simpa using counted
    · rintro call progress rfl flushed
      have fits := sound.fits call
      rw [flushed] at fits
      exact ⟨_, committed flushed, fits.1.forall₂⟩
    · intro documentId others
      rcases approvals_step env state op with same | ⟨call, progress, rfl, flushed⟩
      · rw [same]
      · rw [committed flushed, approvalStatus_append]
        intro row mem
        obtain ⟨written, writtenMem, rfl⟩ := mem_map.mp mem
        exact others call progress rfl flushed written writtenMem

def recapDocument : ArtifactDocument where
  documentId := "doc-1"
  artifactId := "recap-1"
  artifactType := .recap
  version := 1
  language := .en
  audience := .teacher
  authority := .generated
  payload := ⟨.richDocument, []⟩
  parentDocumentId := none
  sourceDocumentId := none

def recap : ReviewedDocuments where
  lineages :=
    { documents := .single (record "run-1" recapDocument)
      calls _ := .waiting
      locks _ := none }
  notes := []
  approvals := []
  calls _ := .waiting

def blockingNote : ReviewNoteRecord where
  noteId := "note-1"
  runId := "run-1"
  artifactId := "recap-1"
  documentId := "doc-1"
  contentEntityId := none
  authorId := "teacher-2"
  body := "Wrong date."
  blocking := true
  status := .opened

/-- The recap is edited; the first review approves it, the second puts a note on
it that the third resolves, and the others approve a list. -/
def reviewers : ReviewCalls where
  lineages :=
    { runId _ := "run-1"
      call _ := .editArtifactDocument ⟨"recap-1", 1, ⟨.richDocument, []⟩, .teacherEdit⟩
      newDocumentId call := "doc-2" ++ String.ofList (List.replicate call '0')
      hashtext artifactId := artifactId.length }
  call
    | 0 => .approveArtifactVersion "run-1" "recap-1" 1 "teacher-1"
    | 1 => .createNote blockingNote
    | 2 => .resolveNote "note-1"
    | _ => .approveAllCurrent "run-1" ["recap-1", "quiz-1", "recap-1"] "teacher-1"
  newApprovalId call index :=
    String.ofList (List.replicate call 'a' ++ 'b' :: List.replicate index 'c')
  utcNow _ _ := 0

theorem reviewers_distinct : DistinctApprovals reviewers := by
  intro first second firstIndex secondIndex same
  have texts := String.ofList_injective same
  have firsts := congrArg (List.count 'a') texts
  have indices := congrArg (List.count 'c') texts
  simp only [count_append, count_cons, count_replicate] at firsts indices
  constructor
  · simpa using firsts
  · simpa using indices

theorem recap_quiet : Quiet reviewers recap :=
  ⟨fun _ => rfl, fun _ mem => absurd mem not_mem_nil⟩

def statements (call : CallId) (count : Nat) : List ReviewOp :=
  List.replicate count (.advance call)

def wholeEdit : List ReviewOp :=
  [.lineage (.read 0), .lineage (.lock 0), .lineage (.check 0), .lineage (.insert 0),
    .lineage (.commit 0)]

def editedDuringApproval : List ReviewOp :=
  statements 0 1 ++ wholeEdit ++ statements 0 3 ++ [.commit 0]

def notedDuringApproval : List ReviewOp :=
  statements 0 2 ++ [.advance 1, .commit 1] ++ statements 0 2 ++ [.commit 0]

instance (env : ReviewCalls) (state : ReviewedDocuments) (call : CallId) :
    ∀ phase, Decidable (StillApprovable env state call phase)
  | .flushed progress => inferInstanceAs (Decidable (∀ written ∈ progress.written, _))
  | .waiting | .looping _ | .readLatest _ _ _ | .checked _ _ _ | .noteFlushed _
  | .resolveFlushed _ | .returned _ | .noted | .failed _ | .rolledBack => .isTrue trivial

instance (env : ReviewCalls) (state : ReviewedDocuments) : ∀ op, Decidable (Allowed env state op)
  | .commit call => inferInstanceAs (Decidable (StillApprovable env state call _))
  | .lineage _ | .advance _ | .rollback _ => .isTrue trivial

/-- The note is resolved and the recap edited before it is approved twice. -/
def reviewedInTurn : List ReviewOp :=
  [.advance 1, .commit 1, .advance 2, .commit 2] ++ wholeEdit ++ statements 3 9 ++ [.commit 3]

end ReviewedDocuments

end OhMyClass.Gateway.Documents
