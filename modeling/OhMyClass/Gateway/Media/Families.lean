import OhMyClass.Gateway.Basic
import OhMyClass.Sorting.Core
import OhMyClass.Table.Core
import OhMyClass.Transition.Machine

/-!
# Media asset versions

The versions of media assets and the documents that depend on them.  Each call
is a transaction of its own that reads the newest version that is not deleted,
reads its dependents, writes and commits; any steps of other calls may come
between.
-/

namespace OhMyClass.Gateway.Media

open List Function OhMyClass.Sorting OhMyClass.Transition

/-- The file a version is made of. -/
structure Upload where
  filename : String
  contentType : String
  storageKey : String
  content : List UInt8
  licenseNote : Option String
  altText : Option String

structure MediaAssetVersionRecord where
  versionId : String
  assetId : String
  version : Nat
  ownerScope : String
  ownerId : String
  filename : String
  contentType : String
  storageKey : String
  checksumSha256 : String
  licenseNote : Option String
  altText : Option String
  parentVersionId : Option String
  deletedAt : Option DateTime
  deriving DecidableEq

structure MediaAssetDependencyRecord where
  mediaVersionId : String
  documentId : String

/-- The primary key. -/
def MediaAssetVersionRecord.Conflict (first second : MediaAssetVersionRecord) : Prop :=
  first.versionId = second.versionId
  deriving Decidable

theorem MediaAssetVersionRecord.Conflict.symm {first second : MediaAssetVersionRecord}
    (clash : first.Conflict second) : second.Conflict first :=
  Eq.symm clash

abbrev MediaAssetVersions := Table MediaAssetVersionRecord MediaAssetVersionRecord.Conflict

/-- The fields of `MediaAssetVersion`, which `_to_contract` builds. -/
def MediaAssetVersionRecord.isValid (row : MediaAssetVersionRecord) : Bool :=
  let bounded (low high : Nat) (text : String) := low ≤ text.length && text.length ≤ high
  bounded 1 80 row.versionId && bounded 1 80 row.assetId && 1 ≤ row.version &&
    ["private_teacher", "organization", "system"].contains row.ownerScope &&
    bounded 1 64 row.ownerId && bounded 1 255 row.filename && bounded 1 100 row.contentType &&
    bounded 1 255 row.storageKey && bounded 64 64 row.checksumSha256 &&
    row.licenseNote.all (bounded 0 500) && row.altText.all (bounded 0 500) &&
    row.parentVersionId.all (bounded 1 80)

inductive MediaError where
  | mediaAssetNotFound (assetId : String)
  | mediaAssetHasDependents (assetId : String) (dependentDocumentIds : List String)
  | validationError
  | integrityError

/-! ## Calls -/

abbrev CallId := Nat

inductive MediaCall where
  | create (assetId ownerScope ownerId : String) (upload : Upload)
  | replace (assetId : String) (upload : Upload)
  | recordDependency (mediaVersionId documentId : String)
  | softDelete (assetId : String)

/-- The calls, the id `uuid4` and the time the clock gives each of them, the hash
of contents and the documents that exist. -/
structure MediaCalls where
  call : CallId → MediaCall
  newVersionId : CallId → String
  utcNow : CallId → DateTime
  computeChecksum : List UInt8 → String
  documentExists : String → Bool

/-- What a call writes; a replacement knows the head and its dependents. -/
inductive MediaWrite where
  | creation (row : MediaAssetVersionRecord)
  | replacement (head row : MediaAssetVersionRecord) (impacted : List String)
  | dependency (row : MediaAssetDependencyRecord)
  | deletion (head : MediaAssetVersionRecord) (deletedAt : DateTime)

/-- How far a call has come. -/
inductive MediaPhase where
  | waiting
  | readHead (head : MediaAssetVersionRecord)
  | readDependents (head : MediaAssetVersionRecord) (dependents : List String)
  | flushed (write : MediaWrite)
  | returned (write : MediaWrite)
  | failed (error : MediaError)
  | rolledBack

/-- The committed rows and the calls on their way. -/
structure MediaStore where
  versions : MediaAssetVersions
  dependencies : List MediaAssetDependencyRecord
  calls : CallId → MediaPhase

/-- A row of the upload of a call. -/
def newRow (env : MediaCalls) (call : CallId) (assetId ownerScope ownerId : String)
    (version : Nat) (parentVersionId : Option String) (upload : Upload) :
    MediaAssetVersionRecord where
  versionId := env.newVersionId call
  assetId := assetId
  version := version
  ownerScope := ownerScope
  ownerId := ownerId
  filename := upload.filename
  contentType := upload.contentType
  storageKey := upload.storageKey
  checksumSha256 := env.computeChecksum upload.content
  licenseNote := upload.licenseNote
  altText := upload.altText
  parentVersionId := parentVersionId
  deletedAt := none

/-- The row after the head, with the head's owner. -/
def nextRow (env : MediaCalls) (call : CallId) (head : MediaAssetVersionRecord)
    (upload : Upload) : MediaAssetVersionRecord :=
  newRow env call head.assetId head.ownerScope head.ownerId (head.version + 1)
    (some head.versionId) upload

inductive MediaOp where
  | advance (call : CallId)
  | commit (call : CallId)
  | rollback (call : CallId)

namespace MediaStore

def setCall (store : MediaStore) (call : CallId) (phase : MediaPhase) : MediaStore :=
  { store with calls := Function.update store.calls call phase }

/-- All versions of an asset, the deleted ones too. -/
def family (store : MediaStore) (assetId : String) : List MediaAssetVersionRecord :=
  store.versions.rows.filter fun row => row.assetId = assetId

def getLatest (store : MediaStore) (assetId : String) : Option MediaAssetVersionRecord :=
  (sortByDesc MediaAssetVersionRecord.version
    ((store.family assetId).filter fun row => row.deletedAt.isNone)).head?

def dependentDocumentIds (store : MediaStore) (mediaVersionId : String) : List String :=
  (store.dependencies.filter fun row => row.mediaVersionId = mediaVersionId).map
    MediaAssetDependencyRecord.documentId

/-- `db.add`, `db.flush()` and `_to_contract` of a new version. -/
def flushVersion (store : MediaStore) (row : MediaAssetVersionRecord) (write : MediaWrite) :
    MediaPhase :=
  match store.versions.insert row with
  | none => .failed .integrityError
  | some _ => if row.isValid then .flushed write else .failed .validationError

variable (env : MediaCalls)

/-- The first statement of a call. -/
def start (store : MediaStore) (call : CallId) : MediaCall → MediaPhase
  | .create assetId ownerScope ownerId upload =>
    let row := newRow env call assetId ownerScope ownerId 1 none upload
    store.flushVersion row (.creation row)
  | .recordDependency mediaVersionId documentId =>
    if (store.versions.rows.any fun row => row.versionId = mediaVersionId) &&
        env.documentExists documentId then
      .flushed (.dependency ⟨mediaVersionId, documentId⟩)
    else
      .failed .integrityError
  | .replace assetId _ | .softDelete assetId =>
    match store.getLatest assetId with
    | none => .failed (.mediaAssetNotFound assetId)
    | some head => .readHead head

/-- The last statement of a call that has read the head and its dependents. -/
def write (store : MediaStore) (call : CallId) (head : MediaAssetVersionRecord)
    (dependents : List String) : MediaCall → MediaPhase
  | .replace _ upload =>
    let row := nextRow env call head upload
    store.flushVersion row (.replacement head row dependents)
  | .softDelete assetId =>
    if dependents = [] then .flushed (.deletion head (env.utcNow call))
    else .failed (.mediaAssetHasDependents assetId dependents)
  | .create _ _ _ _ | .recordDependency _ _ => .rolledBack

/-- The next statement of a call. -/
def advance (call : CallId) (store : MediaStore) : MediaStore :=
  match store.calls call with
  | .waiting => store.setCall call (store.start env call (env.call call))
  | .readHead head =>
    store.setCall call (.readDependents head (store.dependentDocumentIds head.versionId))
  | .readDependents head dependents =>
    store.setCall call (store.write env call head dependents (env.call call))
  | _ => store

/-- `record.deleted_at = utc_now()`. -/
def markDeleted (versions : MediaAssetVersions) (versionId : String) (deletedAt : DateTime) :
    MediaAssetVersions :=
  versions.update (fun row => row.versionId = versionId)
    (fun row => { row with deletedAt := some deletedAt }) fun first second clash => by
      have kept (row : MediaAssetVersionRecord) :
          (Table.changeSelected (fun row => decide (row.versionId = versionId))
            (fun row => { row with deletedAt := some deletedAt }) row).versionId =
              row.versionId :=
        Table.changeSelected_frame MediaAssetVersionRecord.versionId rfl
      unfold MediaAssetVersionRecord.Conflict at clash ⊢
      rwa [kept, kept] at clash

/-- The rows with those of a write. -/
def apply (store : MediaStore) : MediaWrite → Option MediaStore
  | .creation row | .replacement _ row _ =>
    (store.versions.insert row).map fun grown => { store with versions := grown }
  | .dependency row => some { store with dependencies := store.dependencies ++ [row] }
  | .deletion head deletedAt =>
    some { store with versions := markDeleted store.versions head.versionId deletedAt }

def commit (call : CallId) (store : MediaStore) : MediaStore :=
  match store.calls call with
  | .flushed write =>
    match store.apply write with
    | none => store.setCall call (.failed .integrityError)
    | some grown => grown.setCall call (.returned write)
  | _ => store

def rollback (call : CallId) (store : MediaStore) : MediaStore :=
  match store.calls call with
  | .readHead _ | .readDependents _ _ | .flushed _ => store.setCall call .rolledBack
  | _ => store

def step (store : MediaStore) : MediaOp → MediaStore
  | .advance call => store.advance env call
  | .commit call => store.commit call
  | .rollback call => store.rollback call

/-- The store before the first call. -/
def empty : MediaStore where
  versions := .empty
  dependencies := []
  calls _ := .waiting

end MediaStore

def keeping (env : MediaCalls) : Machine MediaStore MediaOp Unit where
  initial store := store = .empty
  step store op := (store.step env op, ())

/-! ## Families of media versions -/

/-! ## Linear families -/

/-- Versions numbered from one on, each the child of the one before. -/
structure Linear (rows : List MediaAssetVersionRecord) : Prop where
  numbered : rows.map MediaAssetVersionRecord.version = List.range' 1 rows.length
  parents : ∀ row ∈ rows, 1 < row.version → ∃ parent ∈ rows,
    parent.version + 1 = row.version ∧ row.parentVersionId = some parent.versionId

section Linear

variable {rows : List MediaAssetVersionRecord} {row head : MediaAssetVersionRecord}

theorem linear_nil : Linear [] :=
  ⟨rfl, fun _ mem => absurd mem not_mem_nil⟩

theorem Linear.version_le (linear : Linear rows) (mem : row ∈ rows) :
    row.version ≤ rows.length := by
  have isNumber := mem_map_of_mem (f := MediaAssetVersionRecord.version) mem
  rw [linear.numbered, mem_range'_1] at isNumber
  omega

theorem Linear.version_eq (linear : Linear rows) (mem : head ∈ rows)
    (above : ∀ row ∈ rows, row.version ≤ head.version) : head.version = rows.length := by
  have positive := length_pos_of_mem mem
  have isLast : rows.length ∈ rows.map MediaAssetVersionRecord.version := by
    rw [linear.numbered, mem_range'_1]
    omega
  obtain ⟨last, lastMem, isLength⟩ := mem_map.mp isLast
  have upper := linear.version_le mem
  have lower := above last lastMem
  omega

theorem Linear.concat (linear : Linear rows) (isNext : row.version = rows.length + 1)
    (hasParent : 1 < row.version → ∃ parent ∈ rows,
      parent.version + 1 = row.version ∧ row.parentVersionId = some parent.versionId) :
    Linear (rows ++ [row]) := by
  constructor
  · rw [map_append, linear.numbered, length_append, length_singleton,
      List.range'_concat, map_singleton, isNext, Nat.one_mul, Nat.add_comm 1]
  · intro later mem isLater
    rcases mem_append.mp mem with old | isRow
    · obtain ⟨parent, parentMem, follows⟩ := linear.parents later old isLater
      exact ⟨parent, mem_append_left _ parentMem, follows⟩
    · rw [mem_singleton.mp isRow] at isLater ⊢
      obtain ⟨parent, parentMem, follows⟩ := hasParent isLater
      exact ⟨parent, mem_append_left _ parentMem, follows⟩

theorem Linear.map {change : MediaAssetVersionRecord → MediaAssetVersionRecord}
    (linear : Linear rows) (sameVersion : ∀ row, (change row).version = row.version)
    (sameId : ∀ row, (change row).versionId = row.versionId)
    (sameParent : ∀ row, (change row).parentVersionId = row.parentVersionId) :
    Linear (rows.map change) := by
  constructor
  · rw [map_map, length_map, ← linear.numbered]
    exact map_congr_left fun row _ => sameVersion row
  · intro changed mem isLater
    obtain ⟨row, rowMem, rfl⟩ := mem_map.mp mem
    rw [sameVersion] at isLater
    obtain ⟨parent, parentMem, follows, isParent⟩ := linear.parents row rowMem isLater
    refine ⟨change parent, mem_map_of_mem parentMem, ?_, ?_⟩
    · rw [sameVersion, sameVersion, follows]
    · rw [sameParent, sameId, isParent]

end Linear

namespace MediaStore

variable {env : MediaCalls} {store : MediaStore} {call : CallId} {phase : MediaPhase}
  {assetId : String} {row head : MediaAssetVersionRecord}

@[simp]
theorem setCall_same : (store.setCall call phase).calls call = phase :=
  update_self _ _ _

theorem setCall_other {other : CallId} (different : other ≠ call) :
    (store.setCall call phase).calls other = store.calls other :=
  update_of_ne different _ _

@[simp]
theorem setCall_family : (store.setCall call phase).family assetId = store.family assetId :=
  rfl

theorem mem_family : row ∈ store.family assetId ↔
    row ∈ store.versions.rows ∧ row.assetId = assetId := by
  rw [family, mem_filter, decide_eq_true_eq]

theorem getLatest_eq_some (latest : store.getLatest assetId = some head) :
    head ∈ store.family assetId ∧ head.deletedAt = none ∧
      ∀ row ∈ store.family assetId, row.deletedAt = none → row.version ≤ head.version := by
  unfold getLatest at latest
  rw [List.head?_eq_some_iff] at latest
  obtain ⟨others, sorted⟩ := latest
  have listed (row : MediaAssetVersionRecord) :
      row ∈ head :: others ↔ row ∈ store.family assetId ∧ row.deletedAt = none := by
    rw [← sorted, (sortByDesc_perm _ _).mem_iff, mem_filter, Option.isNone_iff_eq_none]
  have isListed := (listed head).mp mem_cons_self
  refine ⟨isListed.1, isListed.2, ?_⟩
  intro row mem present
  have descending := pairwise_sortByDesc MediaAssetVersionRecord.version
    ((store.family assetId).filter fun row => row.deletedAt.isNone)
  rw [sorted, pairwise_cons] at descending
  rcases mem_cons.mp ((listed row).mpr ⟨mem, present⟩) with rfl | isOther
  · exact le_rfl
  · exact descending.1 row isOther

theorem getLatest_eq_none_iff :
    store.getLatest assetId = none ↔ ∀ row ∈ store.family assetId, row.deletedAt ≠ none := by
  rw [getLatest, List.head?_eq_none_iff, ← length_eq_zero_iff,
    (sortByDesc_perm _ _).length_eq, length_eq_zero_iff, filter_eq_nil_iff]
  simp only [Option.isNone_iff_eq_none, ne_eq]

theorem family_append {grown : MediaStore}
    (rows : grown.versions.rows = store.versions.rows ++ [row]) :
    grown.family assetId =
      if row.assetId = assetId then store.family assetId ++ [row] else store.family assetId := by
  unfold family
  rw [rows]
  by_cases same : row.assetId = assetId
  · simp [same]
  · simp [same]

/-- `deleted_at` set in the rows with an id. -/
def deleted (versionId : String) (deletedAt : DateTime) :
    MediaAssetVersionRecord → MediaAssetVersionRecord :=
  Table.changeSelected (fun row => row.versionId = versionId)
    fun row => { row with deletedAt := some deletedAt }

variable {versionId : String} {deletedAt : DateTime}

theorem deleted_frame {β : Type} (column : MediaAssetVersionRecord → β)
    (kept : ∀ row : MediaAssetVersionRecord,
      column { row with deletedAt := some deletedAt } = column row)
    (row : MediaAssetVersionRecord) : column (deleted versionId deletedAt row) = column row :=
  Table.changeSelected_frame column (kept row)

theorem family_markDeleted :
    ({ store with versions := markDeleted store.versions versionId deletedAt } :
      MediaStore).family assetId = (store.family assetId).map (deleted versionId deletedAt) := by
  change (store.versions.rows.map (deleted versionId deletedAt)).filter _ = _
  rw [filter_map]
  congr 1
  apply filter_congr
  intro row _
  simp only [Function.comp_apply,
    deleted_frame MediaAssetVersionRecord.assetId (fun _ => rfl) row]

theorem deletedAt_deleted (row : MediaAssetVersionRecord) :
    (deleted versionId deletedAt row).deletedAt =
      if row.versionId = versionId then some deletedAt else row.deletedAt := by
  unfold deleted Table.changeSelected
  split
  next same => rw [if_pos (of_decide_eq_true same)]
  next different => rw [if_neg (by simpa using different)]

/-! ## What calls have read -/

/-- The head a call has read is a version of the asset it is about. -/
def HasHead (env : MediaCalls) (store : MediaStore) (call : CallId)
    (head : MediaAssetVersionRecord) : Prop :=
  ((∃ upload, env.call call = .replace head.assetId upload) ∨
      env.call call = .softDelete head.assetId) ∧
    ∃ row ∈ store.family head.assetId, row.versionId = head.versionId

/-- What the phase of a call says about its arguments. -/
def Fits (env : MediaCalls) (store : MediaStore) (call : CallId) : MediaPhase → Prop
  | .readHead head | .readDependents head _ => HasHead env store call head
  | .flushed (.creation row) => ∃ assetId ownerScope ownerId upload,
      env.call call = .create assetId ownerScope ownerId upload ∧
        row = newRow env call assetId ownerScope ownerId 1 none upload
  | .flushed (.replacement head row _) => ∃ upload,
      env.call call = .replace head.assetId upload ∧ row = nextRow env call head upload
  | .flushed (.deletion head _) =>
      env.call call = .softDelete head.assetId ∧
        ∃ row ∈ store.family head.assetId, row.versionId = head.versionId
  | .flushed (.dependency row) => env.call call = .recordDependency row.mediaVersionId row.documentId
  | .waiting | .returned _ | .failed _ | .rolledBack => True

/-- The call has not returned. -/
def IsOpen : MediaPhase → Prop
  | .returned _ => False
  | _ => True

theorem fits_start (env : MediaCalls) (store : MediaStore) (call : CallId) :
    Fits env store call (store.start env call (env.call call)) ∧
      IsOpen (store.start env call (env.call call)) := by
  have readsHead {assetId : String} (isTarget : (∃ upload, env.call call = .replace assetId upload) ∨
      env.call call = .softDelete assetId) {head : MediaAssetVersionRecord}
      (latest : store.getLatest assetId = some head) : HasHead env store call head := by
    have member := (getLatest_eq_some latest).1
    have sameAsset := (mem_family.mp member).2
    rw [← sameAsset] at isTarget member
    exact ⟨isTarget, head, member, rfl⟩
  cases request : env.call call with
  | create assetId ownerScope ownerId upload =>
    simp only [start, flushVersion]
    split
    next => exact ⟨trivial, trivial⟩
    next =>
      split
      next => exact ⟨⟨assetId, ownerScope, ownerId, upload, request, rfl⟩, trivial⟩
      next => exact ⟨trivial, trivial⟩
  | replace assetId upload =>
    simp only [start]
    split
    next => exact ⟨trivial, trivial⟩
    next head latest => exact ⟨readsHead (.inl ⟨upload, request⟩) latest, trivial⟩
  | recordDependency mediaVersionId documentId =>
    simp only [start]
    split
    next => exact ⟨request, trivial⟩
    next => exact ⟨trivial, trivial⟩
  | softDelete assetId =>
    simp only [start]
    split
    next => exact ⟨trivial, trivial⟩
    next head latest => exact ⟨readsHead (.inr request) latest, trivial⟩

theorem fits_write {dependents : List String} (hasHead : HasHead env store call head) :
    Fits env store call (store.write env call head dependents (env.call call)) ∧
      IsOpen (store.write env call head dependents (env.call call)) := by
  obtain ⟨⟨upload, request⟩ | request, stored⟩ := hasHead
  · simp only [write, request, flushVersion]
    split
    next => exact ⟨trivial, trivial⟩
    next =>
      split
      next => exact ⟨⟨upload, request, rfl⟩, trivial⟩
      next => exact ⟨trivial, trivial⟩
  · simp only [write, request]
    split
    next => exact ⟨⟨request, stored⟩, trivial⟩
    next => exact ⟨trivial, trivial⟩

/-! ## What every allowed step keeps -/

structure Sound (env : MediaCalls) (store : MediaStore) : Prop where
  linear : ∀ assetId, Linear (store.family assetId)
  whole : ∀ assetId, ∀ first ∈ store.family assetId, ∀ second ∈ store.family assetId,
    first.deletedAt = none → second.deletedAt = none
  created : ∀ assetId, store.family assetId ≠ [] → ∃ call ownerScope ownerId upload write,
    env.call call = .create assetId ownerScope ownerId upload ∧ store.calls call = .returned write
  fits : ∀ call, Fits env store call (store.calls call)
  final : ∀ call assetId write, env.call call = .softDelete assetId →
    store.calls call = .returned write →
      store.family assetId ≠ [] ∧ ∀ row ∈ store.family assetId, row.deletedAt ≠ none

theorem Sound.setCall (sound : Sound env store) (isOpen : IsOpen (store.calls call))
    (fits : Fits env store call phase) (staysOpen : IsOpen phase) :
    Sound env (store.setCall call phase) := by
  have returnedBefore {other : CallId} {write : MediaWrite}
      (returned : (store.setCall call phase).calls other = .returned write) :
      store.calls other = .returned write := by
    by_cases same : other = call
    · rw [same, setCall_same] at returned
      rw [returned] at staysOpen
      exact staysOpen.elim
    · rwa [setCall_other same] at returned
  constructor
  · exact sound.linear
  · exact sound.whole
  · intro assetId nonempty
    obtain ⟨creator, ownerScope, ownerId, upload, write, isCreate, returned⟩ :=
      sound.created assetId nonempty
    refine ⟨creator, ownerScope, ownerId, upload, write, isCreate, ?_⟩
    rw [setCall_other, returned]
    rintro rfl
    rw [returned] at isOpen
    exact isOpen
  · intro other
    by_cases same : other = call
    · rw [same, setCall_same]
      exact fits
    · rw [setCall_other same]
      exact sound.fits other
  · intro other assetId write isDelete returned
    exact sound.final other assetId write isDelete (returnedBefore returned)

/-- All versions of an asset are deleted, and there are some. -/
def IsDeleted (store : MediaStore) (assetId : String) : Prop :=
  store.family assetId ≠ [] ∧ ∀ row ∈ store.family assetId, row.deletedAt ≠ none

theorem Sound.of_commit (sound : Sound env store) {write : MediaWrite} {grown : MediaStore}
    (flushed : store.calls call = .flushed write) (sameCalls : grown.calls = store.calls)
    (linear : ∀ assetId, Linear (grown.family assetId))
    (whole : ∀ assetId, ∀ first ∈ grown.family assetId, ∀ second ∈ grown.family assetId,
      first.deletedAt = none → second.deletedAt = none)
    (kept : ∀ assetId, ∀ row ∈ store.family assetId,
      ∃ other ∈ grown.family assetId, other.versionId = row.versionId)
    (created : ∀ assetId, grown.family assetId ≠ [] → store.family assetId ≠ [] ∨
      ∃ ownerScope ownerId upload, env.call call = .create assetId ownerScope ownerId upload)
    (staysDeleted : ∀ assetId, store.IsDeleted assetId → grown.IsDeleted assetId)
    (deletes : ∀ assetId, env.call call = .softDelete assetId → grown.IsDeleted assetId) :
    Sound env (grown.setCall call (.returned write)) := by
  have stored {other : MediaAssetVersionRecord}
      (isStored : ∃ row ∈ store.family other.assetId, row.versionId = other.versionId) :
      ∃ row ∈ grown.family other.assetId, row.versionId = other.versionId := by
    obtain ⟨row, mem, isOther⟩ := isStored
    obtain ⟨later, laterMem, sameId⟩ := kept other.assetId row mem
    exact ⟨later, laterMem, sameId.trans isOther⟩
  constructor
  · exact linear
  · exact whole
  · intro assetId nonempty
    rcases created assetId nonempty with before | ⟨ownerScope, ownerId, upload, isCreate⟩
    · obtain ⟨creator, ownerScope, ownerId, upload, written, isCreate, returned⟩ :=
        sound.created assetId before
      refine ⟨creator, ownerScope, ownerId, upload, written, isCreate, ?_⟩
      rw [setCall_other, sameCalls, returned]
      rintro rfl
      rw [returned] at flushed
      cases flushed
    · exact ⟨call, ownerScope, ownerId, upload, write, isCreate, setCall_same⟩
  · intro other
    by_cases same : other = call
    · rw [same, setCall_same]
      trivial
    · rw [setCall_other same, sameCalls]
      have fits := sound.fits other
      cases atPhase : store.calls other with
      | readHead head =>
        rw [atPhase] at fits
        exact ⟨fits.1, stored fits.2⟩
      | readDependents head dependents =>
        rw [atPhase] at fits
        exact ⟨fits.1, stored fits.2⟩
      | flushed pending =>
        rw [atPhase] at fits
        cases pending with
        | deletion head deletedAt => exact ⟨fits.1, stored fits.2⟩
        | creation row => exact fits
        | replacement head row impacted => exact fits
        | dependency row => exact fits
      | _ => trivial
  · intro other assetId written isDelete returned
    by_cases same : other = call
    · exact deletes assetId (same ▸ isDelete)
    · rw [setCall_other same, sameCalls] at returned
      exact staysDeleted assetId (sound.final other assetId written isDelete returned)

end MediaStore

/-- An asset is created by one call. -/
def CreatedOnce (env : MediaCalls) : Prop :=
  ∀ first second assetId ownerScope ownerId upload otherScope otherId otherUpload,
    env.call first = .create assetId ownerScope ownerId upload →
    env.call second = .create assetId otherScope otherId otherUpload → first = second

namespace MediaStore

variable {env : MediaCalls} {store grown : MediaStore} {call : CallId}

/-- A replacement commits on the head and the dependents it read, a deletion on
a family of one version without dependents. -/
def MayCommit (store : MediaStore) : MediaPhase → Prop
  | .flushed (.replacement head _ impacted) =>
    store.getLatest head.assetId = some head ∧
      store.dependentDocumentIds head.versionId = impacted
  | .flushed (.deletion head _) =>
    (∀ row ∈ store.family head.assetId, row.versionId = head.versionId) ∧
      store.dependentDocumentIds head.versionId = []
  | _ => True

def Allowed (store : MediaStore) : MediaOp → Prop
  | .commit call => store.MayCommit (store.calls call)
  | .advance _ | .rollback _ => True

instance (store : MediaStore) : ∀ phase, Decidable (store.MayCommit phase)
  | .flushed (.replacement _ _ _) | .flushed (.deletion _ _) =>
    inferInstanceAs (Decidable (_ ∧ _))
  | .flushed (.creation _) | .flushed (.dependency _) | .waiting | .readHead _
  | .readDependents _ _ | .returned _ | .failed _ | .rolledBack => .isTrue trivial

instance (store : MediaStore) : ∀ op, Decidable (store.Allowed op)
  | .commit call => inferInstanceAs (Decidable (store.MayCommit (store.calls call)))
  | .advance _ | .rollback _ => .isTrue trivial

theorem Sound.of_append (sound : Sound env store) {write : MediaWrite}
    {row : MediaAssetVersionRecord} (flushed : store.calls call = .flushed write)
    (applied : ((store.versions.insert row).map fun versions =>
      { store with versions := versions }) = some grown)
    (linear : Linear (store.family row.assetId ++ [row])) (isPresent : row.deletedAt = none)
    (present : ∀ old ∈ store.family row.assetId, old.deletedAt = none)
    (created : store.family row.assetId ≠ [] ∨ ∃ ownerScope ownerId upload,
      env.call call = .create row.assetId ownerScope ownerId upload)
    (notDelete : ∀ assetId, env.call call ≠ .softDelete assetId) :
    Sound env (grown.setCall call (.returned write)) := by
  obtain ⟨versions, inserted, isGrown⟩ := Option.map_eq_some_iff.mp applied
  have rows : grown.versions.rows = store.versions.rows ++ [row] :=
    isGrown ▸ Table.rows_of_insert inserted
  have families (other : String) : grown.family other =
      if row.assetId = other then store.family other ++ [row] else store.family other :=
    family_append rows
  apply sound.of_commit flushed (isGrown ▸ rfl)
  · intro other
    rw [families]
    split
    next same => exact same ▸ linear
    next => exact sound.linear other
  · intro other first firstMem second secondMem firstPresent
    rw [families] at firstMem secondMem
    split at firstMem
    next same =>
      rw [if_pos same, ← same] at secondMem
      rcases mem_append.mp secondMem with old | isNew
      · exact present second old
      · rwa [mem_singleton.mp isNew]
    next different =>
      rw [if_neg different] at secondMem
      exact sound.whole other first firstMem second secondMem firstPresent
  · intro other old mem
    refine ⟨old, ?_, rfl⟩
    rw [families]
    split
    · exact mem_append_left _ mem
    · exact mem
  · intro other nonempty
    rw [families] at nonempty
    split at nonempty
    next same => exact same ▸ created
    next => exact .inl nonempty
  · rintro other ⟨nonempty, allDeleted⟩
    have different : row.assetId ≠ other := by
      rintro rfl
      obtain ⟨old, mem⟩ := exists_mem_of_ne_nil _ nonempty
      exact allDeleted old mem (present old mem)
    rw [IsDeleted, families, if_neg different]
    exact ⟨nonempty, allDeleted⟩
  · exact fun other isDelete => absurd isDelete (notDelete other)

theorem Sound.commit_creation (createdOnce : CreatedOnce env) (sound : Sound env store)
    {row : MediaAssetVersionRecord} (flushed : store.calls call = .flushed (.creation row))
    (applied : store.apply (.creation row) = some grown) :
    Sound env (grown.setCall call (.returned (.creation row))) := by
  have fits := sound.fits call
  rw [flushed] at fits
  obtain ⟨assetId, ownerScope, ownerId, upload, isCreate, rfl⟩ := fits
  have isNew : store.family assetId = [] := by
    by_contra nonempty
    obtain ⟨creator, otherScope, otherId, otherUpload, write, isOther, returned⟩ :=
      sound.created assetId nonempty
    rw [createdOnce creator call _ _ _ _ _ _ _ isOther isCreate, flushed] at returned
    cases returned
  apply sound.of_append flushed applied
  · have first : store.family (newRow env call assetId ownerScope ownerId 1 none upload).assetId =
      [] := isNew
    rw [first]
    exact linear_nil.concat rfl nofun
  · rfl
  · intro old mem
    cases isNew ▸ mem
  · exact .inr ⟨ownerScope, ownerId, upload, isCreate⟩
  · intro other isDelete
    cases isCreate.symm.trans isDelete

variable {head : MediaAssetVersionRecord}

theorem Sound.commit_replacement (sound : Sound env store) {row : MediaAssetVersionRecord}
    {impacted : List String}
    (flushed : store.calls call = .flushed (.replacement head row impacted))
    (latest : store.getLatest head.assetId = some head)
    (applied : store.apply (.replacement head row impacted) = some grown) :
    Sound env (grown.setCall call (.returned (.replacement head row impacted))) := by
  have fits := sound.fits call
  rw [flushed] at fits
  obtain ⟨upload, isReplace, rfl⟩ := fits
  obtain ⟨mem, isPresent, above⟩ := getLatest_eq_some latest
  have present := fun old oldMem => sound.whole head.assetId head mem old oldMem isPresent
  apply sound.of_append flushed applied
  · apply (sound.linear head.assetId).concat
    · exact congrArg (· + 1) ((sound.linear head.assetId).version_eq mem fun old oldMem =>
        above old oldMem (present old oldMem))
    · exact fun _ => ⟨head, mem, rfl, rfl⟩
  · rfl
  · exact present
  · exact .inl (ne_nil_of_mem mem)
  · intro other isDelete
    cases isReplace.symm.trans isDelete

theorem Sound.commit_deletion (sound : Sound env store) {deletedAt : DateTime}
    (flushed : store.calls call = .flushed (.deletion head deletedAt))
    (only : ∀ row ∈ store.family head.assetId, row.versionId = head.versionId)
    (applied : store.apply (.deletion head deletedAt) = some grown) :
    Sound env (grown.setCall call (.returned (.deletion head deletedAt))) := by
  have fits := sound.fits call
  rw [flushed] at fits
  obtain ⟨isDelete, stored, storedMem, isStored⟩ := fits
  have sameCalls : grown.calls = store.calls := by
    cases applied
    rfl
  have families (other : String) :
      grown.family other = (store.family other).map (deleted head.versionId deletedAt) := by
    cases applied
    exact family_markDeleted
  have mapped {other : String} {row : MediaAssetVersionRecord}
      (mem : row ∈ (store.family other).map (deleted head.versionId deletedAt)) :
      ∃ before ∈ store.family other, deleted head.versionId deletedAt before = row :=
    mem_map.mp mem
  have familyDeleted : ∀ before ∈ store.family head.assetId,
      (deleted head.versionId deletedAt before).deletedAt ≠ none := by
    intro before mem
    rw [deletedAt_deleted, if_pos (only before mem)]
    nofun
  apply sound.of_commit flushed sameCalls
  · intro other
    rw [families]
    exact (sound.linear other).map (deleted_frame _ fun _ => rfl) (deleted_frame _ fun _ => rfl)
      (deleted_frame _ fun _ => rfl)
  · intro other first firstMem second secondMem isPresent
    rw [families] at firstMem secondMem
    obtain ⟨firstBefore, firstBeforeMem, rfl⟩ := mapped firstMem
    obtain ⟨secondBefore, secondBeforeMem, rfl⟩ := mapped secondMem
    have different : other ≠ head.assetId := by
      rintro rfl
      exact familyDeleted firstBefore firstBeforeMem isPresent
    -- a version of another asset has another id
    have otherId {before : MediaAssetVersionRecord} (mem : before ∈ store.family other) :
        before.versionId ≠ head.versionId := by
      intro sameId
      have same := Table.eq_of_conflict (fun _ _ => MediaAssetVersionRecord.Conflict.symm)
        store.versions (mem_family.mp mem).1 (mem_family.mp storedMem).1
        (sameId.trans isStored.symm)
      apply different
      rw [← (mem_family.mp mem).2, same, (mem_family.mp storedMem).2]
    rw [deletedAt_deleted, if_neg (otherId firstBeforeMem)] at isPresent
    rw [deletedAt_deleted, if_neg (otherId secondBeforeMem)]
    exact sound.whole other firstBefore firstBeforeMem secondBefore secondBeforeMem isPresent
  · intro other row mem
    refine ⟨deleted head.versionId deletedAt row, ?_, deleted_frame _ (fun _ => rfl) row⟩
    rw [families]
    exact mem_map_of_mem mem
  · intro other nonempty
    rw [families] at nonempty
    exact .inl fun empty => nonempty (by rw [empty, map_nil])
  · rintro other ⟨nonempty, allDeleted⟩
    constructor
    · rw [families]
      exact fun empty => nonempty (map_eq_nil_iff.mp empty)
    · intro row mem
      rw [families] at mem
      obtain ⟨before, beforeMem, rfl⟩ := mapped mem
      rw [deletedAt_deleted]
      split
      next => nofun
      next => exact allDeleted before beforeMem
  · intro other isOther
    rw [isDelete] at isOther
    cases isOther
    constructor
    · rw [families]
      exact fun empty => ne_nil_of_mem storedMem (map_eq_nil_iff.mp empty)
    · intro row mem
      rw [families] at mem
      obtain ⟨before, beforeMem, rfl⟩ := mapped mem
      exact familyDeleted before beforeMem

theorem Sound.commit_dependency (sound : Sound env store) {row : MediaAssetDependencyRecord}
    (flushed : store.calls call = .flushed (.dependency row))
    (applied : store.apply (.dependency row) = some grown) :
    Sound env (grown.setCall call (.returned (.dependency row))) := by
  have fits := sound.fits call
  rw [flushed] at fits
  have isRecord : env.call call = .recordDependency row.mediaVersionId row.documentId := fits
  have sameCalls : grown.calls = store.calls := by
    cases applied
    rfl
  have families (other : String) : grown.family other = store.family other := by
    cases applied
    rfl
  apply sound.of_commit flushed sameCalls
  · intro other
    rw [families]
    exact sound.linear other
  · intro other
    rw [families]
    exact sound.whole other
  · intro other version mem
    rw [families]
    exact ⟨version, mem, rfl⟩
  · intro other nonempty
    rw [families] at nonempty
    exact .inl nonempty
  · intro other isDeleted
    rw [IsDeleted, families]
    exact isDeleted
  · intro other isDelete
    rw [isRecord] at isDelete
    cases isDelete

theorem Sound.commit (createdOnce : CreatedOnce env) (sound : Sound env store)
    (allowed : store.Allowed (.commit call)) : Sound env (store.commit call) := by
  unfold MediaStore.commit
  split
  next write flushed =>
    have isOpen : IsOpen (store.calls call) := by
      rw [flushed]
      trivial
    split
    next => exact sound.setCall isOpen trivial trivial
    next grown applied =>
      simp only [Allowed, flushed] at allowed
      cases write with
      | creation row => exact sound.commit_creation createdOnce flushed applied
      | replacement head row impacted => exact sound.commit_replacement flushed allowed.1 applied
      | dependency row => exact sound.commit_dependency flushed applied
      | deletion head deletedAt => exact sound.commit_deletion flushed allowed.1 applied
  next => exact sound

theorem Sound.advance (sound : Sound env store) (call : CallId) :
    Sound env (store.advance env call) := by
  have fits := sound.fits call
  unfold MediaStore.advance
  split
  next waiting =>
    obtain ⟨startFits, staysOpen⟩ := fits_start env store call
    have isOpen : IsOpen (store.calls call) := by
      rw [waiting]
      trivial
    exact sound.setCall isOpen startFits staysOpen
  next head hasRead =>
    rw [hasRead] at fits
    have isOpen : IsOpen (store.calls call) := by
      rw [hasRead]
      trivial
    exact sound.setCall isOpen fits trivial
  next head dependents hasRead =>
    rw [hasRead] at fits
    obtain ⟨writeFits, staysOpen⟩ := fits_write fits
    have isOpen : IsOpen (store.calls call) := by
      rw [hasRead]
      trivial
    exact sound.setCall isOpen writeFits staysOpen
  next => exact sound

theorem Sound.rollback (sound : Sound env store) (call : CallId) :
    Sound env (store.rollback call) := by
  unfold MediaStore.rollback
  split
  next head hasRead => exact sound.setCall (by rw [hasRead]; trivial) trivial trivial
  next head dependents hasRead => exact sound.setCall (by rw [hasRead]; trivial) trivial trivial
  next write flushed => exact sound.setCall (by rw [flushed]; trivial) trivial trivial
  next => exact sound

theorem Sound.step (createdOnce : CreatedOnce env) (sound : Sound env store) {op : MediaOp}
    (allowed : store.Allowed op) : Sound env (store.step env op) := by
  cases op with
  | advance call => exact sound.advance call
  | commit call => exact sound.commit createdOnce allowed
  | rollback call => exact sound.rollback call

theorem sound_empty (env : MediaCalls) : Sound env empty := by
  constructor
  · exact fun _ => linear_nil
  · exact fun _ _ mem => absurd mem not_mem_nil
  · exact fun _ nonempty => absurd rfl nonempty
  · exact fun _ => trivial
  · intro call assetId write _ ret
    cases ret

/-- What a step should do: families stay linear and deleted assets deleted, and
what a commit returns or has checked is true. -/
structure Lawful (env : MediaCalls) (store : MediaStore) (op : MediaOp) : Prop where
  linear : ∀ assetId, Linear ((store.step env op).family assetId)
  deleted : ∀ call assetId write, env.call call = .softDelete assetId →
    (store.step env op).calls call = .returned write →
      (store.step env op).getLatest assetId = none
  notFound : ∀ call assetId upload deleter write, op = .advance call →
    store.calls call = .waiting → env.call call = .replace assetId upload →
    env.call deleter = .softDelete assetId → store.calls deleter = .returned write →
      (store.step env op).calls call = .failed (.mediaAssetNotFound assetId)
  impacted : ∀ call head row impacted parent, op = .commit call →
    store.calls call = .flushed (.replacement head row impacted) →
    row.parentVersionId = some parent → impacted = store.dependentDocumentIds parent
  unblocked : ∀ call head deletedAt, op = .commit call →
    store.calls call = .flushed (.deletion head deletedAt) →
      ∀ row ∈ store.family head.assetId, store.dependentDocumentIds row.versionId = []

theorem Sound.getLatest_eq_none (sound : Sound env store) {assetId : String} {write : MediaWrite}
    (isDelete : env.call call = .softDelete assetId)
    (returned : store.calls call = .returned write) : store.getLatest assetId = none :=
  getLatest_eq_none_iff.mpr (sound.final call assetId write isDelete returned).2

theorem Sound.lawful (createdOnce : CreatedOnce env) (sound : Sound env store) {op : MediaOp}
    (allowed : store.Allowed op) : Lawful env store op := by
  have after := sound.step createdOnce allowed
  constructor
  · exact after.linear
  · intro call assetId write isDelete ret
    exact after.getLatest_eq_none isDelete ret
  · rintro call assetId upload deleter write rfl waiting isReplace isDelete ret
    have noLatest := sound.getLatest_eq_none isDelete ret
    simp only [MediaStore.step, MediaStore.advance, waiting, start, isReplace, noLatest,
      setCall_same]
  · rintro call head row impacted parent rfl flushed isParent
    simp only [Allowed, flushed, MayCommit] at allowed
    have fits := sound.fits call
    rw [flushed] at fits
    obtain ⟨upload, _, rfl⟩ := fits
    rw [← Option.some.inj isParent, allowed.2]
  · rintro call head deletedAt rfl flushed row mem
    simp only [Allowed, flushed, MayCommit] at allowed
    rw [allowed.1 row mem, allowed.2]

def upload : Upload where
  filename := "cell.png"
  contentType := "image/png"
  storageKey := "teacher-1/media-1.png"
  content := []
  licenseNote := none
  altText := none

/-- The first call creates an asset, two replace it, the others delete it and
record a dependency on its first version. -/
def assetCalls : MediaCalls where
  call
    | 0 => .create "media-1" "private_teacher" "teacher-1" upload
    | 1 | 2 => .replace "media-1" upload
    | 3 => .softDelete "media-1"
    | _ => .recordDependency "mediav-" "doc-1"
  newVersionId call := "mediav-" ++ String.ofList (List.replicate call 'a')
  utcNow _ := 0
  computeChecksum _ := String.ofList (List.replicate 64 '0')
  documentExists _ := true

theorem assetCalls_createdOnce : CreatedOnce assetCalls := by
  intro first second assetId ownerScope ownerId upload otherScope otherId otherUpload isFirst
    isSecond
  rcases first with _ | _ | _ | _ | first <;> cases isFirst
  rcases second with _ | _ | _ | _ | second <;> cases isSecond
  rfl

/-- Every statement of a call, and its commit. -/
def whole (call : CallId) : List MediaOp :=
  [.advance call, .advance call, .advance call, .commit call]

/-- Both replacements read the first version. -/
def replacedTwice : List MediaOp :=
  whole 0 ++ [.advance 1, .advance 2, .advance 1, .advance 2, .advance 1, .advance 2, .commit 1,
    .commit 2]

/-- The second version is deleted while a document depends on the first. -/
def deletedHead : List MediaOp :=
  whole 0 ++ whole 4 ++ whole 1 ++ whole 3

def replacedInTurn : List MediaOp :=
  whole 0 ++ whole 4 ++ whole 1 ++ whole 2

end MediaStore

end OhMyClass.Gateway.Media
