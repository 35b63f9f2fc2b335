import OhMyClass.Gateway.Snapshots.Store
import OhMyClass.Transition.Machine

/-!
# Versions of an artifact

The head of an artifact is its newest snapshot.  An edit that submits content
stored before creates no row, so that the head stays what it was.
-/

namespace OhMyClass.Gateway

open List OhMyClass.Transition TeachingPackSnapshotStore

inductive SnapshotOp where
  | tick (elapsed : Nat)
  | createSnapshot (payload : ArtifactSnapshotCreate)
  | createScopedEditSnapshot (runId : RunId) (artifactId baseSnapshotId : String)
      (newSnapshot : ArtifactSnapshotCreate)

namespace SnapshotOp

/-- The clock moves on after a call, so that no two rows have the same
`created_at`. -/
def finish (outcome : Except GatewayError ArtifactSnapshot × Db) :
    Db × Except GatewayError (Option ArtifactSnapshot) :=
  ({ outcome.2 with now := outcome.2.now + 1 }, outcome.1.map some)

def step (tools : SnapshotTools) (db : Db) :
    SnapshotOp → Db × Except GatewayError (Option ArtifactSnapshot)
  | tick elapsed => ({ db with now := db.now + elapsed }, .ok none)
  | createSnapshot payload =>
    finish (Session.atomically (TeachingPackSnapshotStore.createSnapshot tools payload) db)
  | createScopedEditSnapshot runId artifactId baseSnapshotId newSnapshot =>
    finish (Session.atomically (TeachingPackSnapshotStore.createScopedEditSnapshot tools runId
      artifactId baseSnapshotId newSnapshot) db)

/-- Any database before its first snapshot. -/
def start (db : Db) : Db :=
  { db with snapshots := .empty, exportRecords := .empty }

end SnapshotOp

def snapshotMachine (tools : SnapshotTools) :
    Machine Db SnapshotOp (Except GatewayError (Option ArtifactSnapshot)) where
  initial db := db.snapshots.rows = []
  step := SnapshotOp.step tools

/-- The snapshots a call leaves: those before, or one more for the
submission. -/
inductive SnapshotStep (tools : SnapshotTools) (before : Db) : Db → Prop
  | kept {after : Db} : after.snapshots = before.snapshots → before.now ≤ after.now →
      SnapshotStep tools before after
  | inserted {after : Db} (payload : ArtifactSnapshotCreate) :
      after.snapshots.rows = before.snapshots.rows ++ [payload.row tools before.now] →
      before.now < after.now → SnapshotStep tools before after

variable {tools : SnapshotTools} {db : Db} {after : Db} {answer : ArtifactSnapshot}

theorem snapshotStep_createSnapshot {payload : ArtifactSnapshotCreate}
    (ret : createSnapshot tools payload db = (.ok answer, after)) :
    SnapshotStep tools db (SnapshotOp.finish (.ok answer, after)).1 := by
  rcases createSnapshot_eq_ok ret with ⟨rfl, _⟩ | ⟨_, snapshots, rows, rfl⟩
  · exact .kept rfl (Int.le_add_of_nonneg_right Int.one_nonneg)
  · exact .inserted payload rows (Int.lt_succ _)

theorem createScopedEditSnapshot_eq_ok {runId : RunId} {artifactId baseSnapshotId : String}
    {newSnapshot : ArtifactSnapshotCreate}
    (ret : createScopedEditSnapshot tools runId artifactId baseSnapshotId newSnapshot db =
      (.ok answer, after)) :
    createSnapshot tools newSnapshot db = (.ok answer, after) := by
  unfold createScopedEditSnapshot at ret
  rw [Session.read_bind] at ret
  split at ret
  · exact ret
  · cases ret

theorem snapshotStep_step (tools : SnapshotTools) (db : Db) (op : SnapshotOp) :
    SnapshotStep tools db (op.step tools db).1 := by
  have rolledBack (error : GatewayError) :
      SnapshotStep tools db (SnapshotOp.finish (.error error, db)).1 :=
    .kept rfl (Int.le_add_of_nonneg_right Int.one_nonneg)
  cases op with
  | tick elapsed => exact .kept rfl (Int.le_add_of_nonneg_right (Int.natCast_nonneg elapsed))
  | createSnapshot payload =>
    rcases Session.atomically_cases (createSnapshot tools payload) db with
      ⟨answer, after, ret, committed⟩ | ⟨error, _, _, discarded⟩
    · rw [SnapshotOp.step, committed]
      exact snapshotStep_createSnapshot ret
    · rw [SnapshotOp.step, discarded]
      exact rolledBack error
  | createScopedEditSnapshot runId artifactId baseSnapshotId newSnapshot =>
    rcases Session.atomically_cases
        (createScopedEditSnapshot tools runId artifactId baseSnapshotId newSnapshot) db with
      ⟨answer, after, ret, committed⟩ | ⟨error, _, _, discarded⟩
    · rw [SnapshotOp.step, committed]
      exact snapshotStep_createSnapshot (createScopedEditSnapshot_eq_ok ret)
    · rw [SnapshotOp.step, discarded]
      exact rolledBack error

/-! ## The head of an artifact -/

/-- The head of the artifact holds the submitted content. -/
def HeadHolds (runId : RunId) (artifactId : String) (submitted : ArtifactSnapshotCreate)
    (db : Db) : Prop :=
  ∃ head ∈ getLatestSnapshot runId artifactId db, ∃ content ∈ head.contentJson,
    SameContent content submitted.storedContent

/-- An edit that returns leaves its content as the head. -/
def EditBecomesHead (tools : SnapshotTools) (db : Db) : SnapshotOp → Prop
  | .createScopedEditSnapshot runId artifactId baseSnapshotId newSnapshot =>
    ∀ answer after,
      createScopedEditSnapshot tools runId artifactId baseSnapshotId newSnapshot db =
        (.ok answer, after) → HeadHolds runId artifactId newSnapshot after
  | _ => True

/-- An edit that returns submits, for the artifact it names, content that is
not stored yet, or the content of the current head. -/
def EditIsNewOrCurrent (tools : SnapshotTools) (db : Db) : SnapshotOp → Prop
  | .createScopedEditSnapshot runId artifactId baseSnapshotId newSnapshot =>
    ∀ answer after,
      createScopedEditSnapshot tools runId artifactId baseSnapshotId newSnapshot db =
        (.ok answer, after) →
      (newSnapshot.runId = runId ∧ newSnapshot.artifactId = artifactId ∧
        ∀ stored ∈ db.snapshots.rows, stored.contentHash ≠ newSnapshot.contentHash tools) ∨
      HeadHolds runId artifactId newSnapshot db
  | _ => True

/-- Every snapshot is older than the clock. -/
def CreatedInThePast (db : Db) : Prop :=
  ∀ snapshot ∈ db.snapshots.rows, snapshot.createdAt < db.now

theorem CreatedInThePast.step (past : CreatedInThePast db) (op : SnapshotOp) :
    CreatedInThePast (op.step tools db).1 := by
  intro snapshot mem
  rcases snapshotStep_step tools db op with ⟨same, later⟩ | ⟨payload, rows, later⟩
  · rw [same] at mem
    exact (past snapshot mem).trans_le later
  · rw [rows] at mem
    rcases mem_append.mp mem with old | new
    · exact (past snapshot old).trans later
    · rw [mem_singleton.mp new]
      exact later

section Head

variable {tools : SnapshotTools} {db : Db} {payload : ArtifactSnapshotCreate}
  {snapshots : ArtifactSnapshots}

variable {runId : RunId} {artifactId : String}

theorem lineage_of_inserted
    (rows : snapshots.rows = db.snapshots.rows ++ [payload.row tools db.now]) :
    lineage runId artifactId { db with snapshots := snapshots } =
      lineage runId artifactId db ++
        if payload.runId = runId ∧ payload.artifactId = artifactId then
          [payload.row tools db.now] else [] := by
  have isOwn : ((payload.row tools db.now).runId == runId &&
      (payload.row tools db.now).artifactId == artifactId) =
        decide (payload.runId = runId ∧ payload.artifactId = artifactId) := by
    simp only [Bool.decide_and]
    rfl
  rw [lineage, rows, filter_append, filter_cons, isOwn]
  simp only [decide_eq_true_eq]
  rfl

theorem getLatestSnapshot_of_inserted (past : CreatedInThePast db)
    (rows : snapshots.rows = db.snapshots.rows ++ [payload.row tools db.now]) :
    getLatestSnapshot payload.runId payload.artifactId { db with snapshots := snapshots } =
      some (payload.row tools db.now) := by
  rw [getLatestSnapshot, lineage_of_inserted rows, if_pos ⟨rfl, rfl⟩, argmax_concat]
  cases newest : (lineage payload.runId payload.artifactId db).argmax
      ArtifactSnapshot.createdAt with
  | none => rfl
  | some older =>
    have stored := (mem_filter.mp (argmax_mem newest)).1
    exact if_pos (past older stored)

theorem getLatestSnapshot_of_other
    (rows : snapshots.rows = db.snapshots.rows ++ [payload.row tools db.now])
    (other : ¬ (payload.runId = runId ∧ payload.artifactId = artifactId)) :
    getLatestSnapshot runId artifactId { db with snapshots := snapshots } =
      getLatestSnapshot runId artifactId db := by
  rw [getLatestSnapshot, lineage_of_inserted rows, if_neg other, append_nil]
  rfl

end Head

theorem editBecomesHead_iff (past : CreatedInThePast db) (op : SnapshotOp) :
    EditBecomesHead tools db op ↔ EditIsNewOrCurrent tools db op := by
  cases op with
  | tick | createSnapshot => exact Iff.rfl
  | createScopedEditSnapshot runId artifactId baseSnapshotId newSnapshot =>
    apply forall_congr'
    intro answer
    apply forall_congr'
    intro after
    apply imp_congr_right
    intro ret
    rcases createSnapshot_eq_ok (createScopedEditSnapshot_eq_ok ret) with
      ⟨rfl, existing, mem, sameHash⟩ | ⟨newContent, snapshots, rows, rfl⟩
    · constructor
      · exact .inr
      · rintro (⟨_, _, newContent⟩ | holds)
        · exact absurd sameHash (newContent existing mem)
        · exact holds
    · by_cases own : newSnapshot.runId = runId ∧ newSnapshot.artifactId = artifactId
      · rcases own with ⟨rfl, rfl⟩
        have head := getLatestSnapshot_of_inserted past rows
        constructor
        · exact fun _ => .inl ⟨rfl, rfl, newContent⟩
        · exact fun _ => ⟨_, head, _, rfl, SameContent.refl _⟩
      · have head := getLatestSnapshot_of_other rows own
        unfold HeadHolds
        rw [head]
        constructor
        · exact .inr
        · rintro (⟨sameRun, sameArtifact, _⟩ | holds)
          · exact absurd ⟨sameRun, sameArtifact⟩ own
          · exact holds

/-- In every history of calls, all returning edits become the head exactly if
each of them submits content that is not stored yet or is the head already. -/
theorem edits_become_head_iff (tools : SnapshotTools) (db : Db) (ops : List SnapshotOp) :
    (∀ visit ∈ (snapshotMachine tools).visits (SnapshotOp.start db) ops,
        EditBecomesHead tools visit.1 visit.2) ↔
      ∀ visit ∈ (snapshotMachine tools).visits (SnapshotOp.start db) ops,
        EditIsNewOrCurrent tools visit.1 visit.2 :=
  Machine.forall_visits_congr CreatedInThePast (fun _ op past _ => past.step op)
    (fun _ op past => editBecomesHead_iff past op)
    (fun _ member => (List.not_mem_nil member).elim) ops

/-- The SHA-256 digests of the texts two small snapshots hash. -/
def sampleDigests : List (String × String) :=
  [("\x7b\"title\":\"A\"\x7d\x00<p>A</p>",
      "a27b0a5b970e0896024b3c757f6d9e7beaf43dd361c4eedaff0f397510d2e54f"),
    ("\x7b\"title\":\"B\"\x7d\x00<p>B</p>",
      "b50e4d7d5f8925c926a3937ce53773e130b635275f2643bee7b5d8dbf44f943d"),
    ("<p>A</p>", "88f8e72647fda6eedd96d8678131dd1b6320185127612942a7c7e184c516f626"),
    ("<p>B</p>", "195496d31a53a72f700019545b919ec7b18bfc4811b341f7fb70fd0d6f36e722")]

/-- These digests, and no hex digest for any other text. -/
def sampleSha256 (text : String) : String :=
  (sampleDigests.lookup text).getD ("?" ++ text)

def sampleTools : SnapshotTools where
  sha256 := sampleSha256
  isStandaloneHtml := fun _ => false

/-- A lesson whose title and page show one letter. -/
def letterSnapshot (snapshotId runId letter : String) : ArtifactSnapshotCreate where
  snapshotId := snapshotId
  runId := runId
  artifactId := "lesson-1"
  artifactType := "lesson"
  contentJson := [("title", .str letter)]
  renderedHtml := "<p>" ++ letter ++ "</p>"
  rendererVersion := "renderer@1"

def twoRunsDb : Db :=
  { Db.empty 0 with
    runs := ⟨[⟨"run-1", "teacher-1", .generating, 0, none, none, none, none⟩,
      ⟨"run-2", "teacher-2", .generating, 0, none, none, none, none⟩], by decide⟩ }

def editBack : List SnapshotOp :=
  [.createSnapshot (letterSnapshot "snap-1" "run-1" "A"),
    .createScopedEditSnapshot "run-1" "lesson-1" "snap-1" (letterSnapshot "snap-2" "run-1" "B"),
    .createScopedEditSnapshot "run-1" "lesson-1" "snap-2" (letterSnapshot "snap-3" "run-1" "A")]

/-- The edit back returns the first version, and the head still shows the
second letter. -/
theorem edit_back_keeps_head :
    (¬ ∀ visit ∈ (snapshotMachine sampleTools).visits (SnapshotOp.start twoRunsDb) editBack,
      EditBecomesHead sampleTools visit.1 visit.2) ∧
    (getLatestSnapshot "run-1" "lesson-1" ((snapshotMachine sampleTools).drive
      (SnapshotOp.start twoRunsDb, []) editBack).1).map ArtifactSnapshot.renderedHtml =
        some "<p>B</p>" := by
  apply And.intro _ (by decide +kernel)
  intro allBecomeHead
  let visits := (snapshotMachine sampleTools).visits (SnapshotOp.start twoRunsDb) editBack
  let back := visits.get ⟨2, by decide +kernel⟩
  let outcome := createScopedEditSnapshot sampleTools "run-1" "lesson-1" "snap-2"
    (letterSnapshot "snap-3" "run-1" "A") back.1
  obtain ⟨answer, answerEq⟩ : ∃ answer, outcome.1 = .ok answer := by
    have isOk : outcome.1.isOk = true := by decide +kernel
    cases first : outcome.1 with
    | ok answer => exact ⟨answer, rfl⟩
    | error error =>
      rw [first] at isOk
      cases isOk
  obtain ⟨head, headEq, content, contentEq, same⟩ :=
    allBecomeHead back (get_mem visits _) answer outcome.2 (Prod.ext answerEq rfl)
  have shown : ((getLatestSnapshot "run-1" "lesson-1" outcome.2).bind
      ArtifactSnapshot.contentJson).map (fun content => (Json.obj content).dumps) =
        some "\x7b\"title\":\"B\"\x7d".toList := by
    decide +kernel
  rw [Option.mem_def.mp headEq, Option.bind_some, Option.mem_def.mp contentEq, Option.map_some,
    Json.dumps_eq_iff.mpr same] at shown
  revert shown
  decide +kernel

/-! ## Snapshots of different runs -/

/-- The snapshot has the submitted content and the submitted page. -/
def StoresSubmitted (payload : ArtifactSnapshotCreate) (snapshot : ArtifactSnapshot) : Prop :=
  (∃ content ∈ snapshot.contentJson, SameContent content payload.storedContent) ∧
    snapshot.renderedHtml = payload.renderedHtml

/-- The hash of a stored snapshot is the hash of what it stores. -/
def HashesItsContent (tools : SnapshotTools) (snapshot : ArtifactSnapshot) : Prop :=
  ∃ content ∈ snapshot.contentJson,
    snapshot.contentHash = snapshotContentHash tools.sha256 content snapshot.renderedHtml

/-- The texts hashed for the snapshot and for the submission are equal if their
digests are. -/
def CollisionFree (tools : SnapshotTools) (payload : ArtifactSnapshotCreate)
    (snapshot : ArtifactSnapshot) : Prop :=
  ∀ content ∈ snapshot.contentJson,
    snapshotContentHash tools.sha256 content snapshot.renderedHtml = payload.contentHash tools →
      hashedText content snapshot.renderedHtml =
        hashedText payload.storedContent payload.renderedHtml

theorem hashesItsContent_row (tools : SnapshotTools) (payload : ArtifactSnapshotCreate)
    (now : DateTime) : HashesItsContent tools (payload.row tools now) :=
  ⟨_, rfl, rfl⟩

theorem hashesItsContent_of_run {tools : SnapshotTools}
    {guard : Guard Db SnapshotOp (Except GatewayError (Option ArtifactSnapshot))} {db : Db}
    {history : History SnapshotOp (Except GatewayError (Option ArtifactSnapshot))}
    (run : (snapshotMachine tools).Run guard db history) :
    ∀ snapshot ∈ db.snapshots.rows, HashesItsContent tools snapshot := by
  apply run.invariant fun db _ => ∀ snapshot ∈ db.snapshots.rows, HashesItsContent tools snapshot
  · intro start isEmpty snapshot mem
    rw [isEmpty] at mem
    cases mem
  · intro before history op hashes _ snapshot mem
    rcases snapshotStep_step tools before op with ⟨same, _⟩ | ⟨payload, rows, _⟩
    · change snapshot ∈ (op.step tools before).1.snapshots.rows at mem
      rw [same] at mem
      exact hashes snapshot mem
    · change snapshot ∈ (op.step tools before).1.snapshots.rows at mem
      rw [rows] at mem
      rcases mem_append.mp mem with old | new
      · exact hashes snapshot old
      · rw [mem_singleton.mp new]
        exact hashesItsContent_row tools payload before.now

section Outcome

variable {tools : SnapshotTools} {db : Db} {payload : ArtifactSnapshotCreate}

theorem contentHash_eq_iff {snapshot : ArtifactSnapshot} (hashes : HashesItsContent tools snapshot)
    (collisionFree : CollisionFree tools payload snapshot) :
    snapshot.contentHash = payload.contentHash tools ↔ StoresSubmitted payload snapshot := by
  rcases hashes with ⟨content, contentEq, hashEq⟩
  rw [hashEq]
  constructor
  · intro sameHash
    rcases hashedText_eq_iff.mp (collisionFree content contentEq sameHash) with ⟨same, sameHtml⟩
    exact ⟨⟨content, contentEq, same⟩, sameHtml⟩
  · rintro ⟨⟨other, otherEq, same⟩, sameHtml⟩
    rcases Option.mem_unique contentEq otherEq with rfl
    exact congrArg tools.sha256 (hashedText_eq_iff.mpr ⟨same, sameHtml⟩)

theorem eq_of_contentHash {first second : ArtifactSnapshot} (firstMem : first ∈ db.snapshots.rows)
    (secondMem : second ∈ db.snapshots.rows) (same : first.contentHash = second.contentHash) :
    first = second :=
  db.snapshots.eq_of_conflict (fun _ _ clash => clash.imp Eq.symm Eq.symm) firstMem secondMem
    (.inr same)

/-- The answer to a submission whose content is stored already. -/
def answerStored (payload : ArtifactSnapshotCreate) (existing : ArtifactSnapshot) :
    Except GatewayError ArtifactSnapshot :=
  if payload.versionMismatchPolicy = .block ∧ payload.OtherVersions existing then
    .error (.snapshot (.versionMismatch existing.snapshotId))
  else if existing.runId = payload.runId then .ok existing
  else .error (.snapshot (.persistence payload.snapshotId))

theorem getByRunContentHash_of_stored {existing : ArtifactSnapshot}
    (stored : existing ∈ db.snapshots.rows)
    (sameHash : existing.contentHash = payload.contentHash tools) :
    getByRunContentHash payload.runId (payload.contentHash tools) db =
      if existing.runId = payload.runId then some existing else none := by
  cases found : getByRunContentHash payload.runId (payload.contentHash tools) db with
  | none =>
    have other := List.find?_eq_none.mp found existing stored
    rw [Bool.and_eq_true, beq_iff_eq, beq_iff_eq] at other
    rw [if_neg fun sameRun => other ⟨sameRun, sameHash⟩]
  | some snapshot =>
    have isFound := List.find?_some found
    rw [Bool.and_eq_true, beq_iff_eq, beq_iff_eq] at isFound
    obtain rfl := eq_of_contentHash stored (mem_of_find?_eq_some found)
      (sameHash.trans isFound.2.symm)
    rw [if_pos isFound.1]

theorem lookupSubmitted_of_stored
    (newId : ∀ stored ∈ db.snapshots.rows, stored.snapshotId ≠ payload.snapshotId)
    {existing : ArtifactSnapshot} (stored : existing ∈ db.snapshots.rows)
    (found : getByContentHash (payload.contentHash tools) db = some existing) :
    lookupSubmitted tools payload db = answerStored payload existing := by
  have notById : getSnapshot payload.runId payload.snapshotId db = none := by
    rw [getSnapshot, List.find?_eq_none]
    intro snapshot mem
    rw [Bool.and_eq_true, beq_iff_eq, beq_iff_eq]
    exact fun isFound => newId snapshot mem isFound.2
  have byHash := getByRunContentHash_of_stored stored (of_getByContentHash found).2
  have versions : checkStoredVersions tools payload db =
      validateSnapshotVersions payload existing := by
    rw [checkStoredVersions, found]
  by_cases blocked : payload.versionMismatchPolicy = .block ∧ payload.OtherVersions existing
  · have verdict : validateSnapshotVersions payload existing =
        .error (.snapshot (.versionMismatch existing.snapshotId)) := by
      have notWarn : payload.versionMismatchPolicy ≠ .warn := by
        rw [blocked.1]
        exact VersionMismatchPolicy.noConfusion
      rw [validateSnapshotVersions, if_neg notWarn, if_pos blocked.2]
    rw [lookupSubmitted, versions, verdict, answerStored, if_pos blocked]
  · have verdict : validateSnapshotVersions payload existing = .ok ⟨⟩ := by
      unfold validateSnapshotVersions
      cases policy : payload.versionMismatchPolicy with
      | warn => rfl
      | block => rw [if_neg fun others => blocked ⟨policy, others⟩, ite_self]
    rw [lookupSubmitted, versions, verdict, notById, byHash, Option.none_or, answerStored,
      if_neg blocked]
    by_cases sameRun : existing.runId = payload.runId
    · rw [if_pos sameRun, if_pos sameRun]
    · rw [if_neg sameRun, if_neg sameRun]

end Outcome

/-- In every state reached by calls, new content is stored for the submitting
run whatever other runs hold; stored content is answered with the run's own
snapshot or refused; and no answer is another run's snapshot or other
content. -/
theorem createSnapshot_outcome {tools : SnapshotTools} {db : Db}
    {history : History SnapshotOp (Except GatewayError (Option ArtifactSnapshot))}
    (run : (snapshotMachine tools).Run (fun _ _ _ => True) db history)
    {payload : ArtifactSnapshotCreate}
    (collisionFree : ∀ stored ∈ db.snapshots.rows, CollisionFree tools payload stored)
    (passes : payload.checkAnswerKeys = .ok ⟨⟩)
    (newId : ∀ stored ∈ db.snapshots.rows, stored.snapshotId ≠ payload.snapshotId)
    (hasRun : db.HasRun payload.runId) :
    ((∀ stored ∈ db.snapshots.rows, ¬ StoresSubmitted payload stored) →
      ∃ snapshots, snapshots.rows = db.snapshots.rows ++ [payload.row tools db.now] ∧
        createSnapshot tools payload db =
          (.ok (payload.row tools db.now), { db with snapshots := snapshots })) ∧
    (∀ existing ∈ db.snapshots.rows, StoresSubmitted payload existing →
      createSnapshot tools payload db = (answerStored payload existing, db)) ∧
    ∀ answer after, createSnapshot tools payload db = (.ok answer, after) →
      answer.runId = payload.runId ∧ StoresSubmitted payload answer := by
  have hashes := hashesItsContent_of_run run
  have hashIff (stored : ArtifactSnapshot) (mem : stored ∈ db.snapshots.rows) :=
    contentHash_eq_iff (hashes stored mem) (collisionFree stored mem)
  have whenNew (new : ∀ stored ∈ db.snapshots.rows, ¬ StoresSubmitted payload stored) :
      ∃ snapshots, snapshots.rows = db.snapshots.rows ++ [payload.row tools db.now] ∧
        createSnapshot tools payload db =
          (.ok (payload.row tools db.now), { db with snapshots := snapshots }) := by
    apply createSnapshot_of_new passes _ newId hasRun
    rw [getByContentHash_eq_none_iff]
    intro stored mem sameHash
    exact new stored mem ((hashIff stored mem).mp sameHash)
  have whenStored (existing : ArtifactSnapshot) (mem : existing ∈ db.snapshots.rows)
      (stores : StoresSubmitted payload existing) :
      createSnapshot tools payload db = (answerStored payload existing, db) := by
    have sameHash := (hashIff existing mem).mpr stores
    obtain ⟨found, foundEq⟩ : ∃ found,
        getByContentHash (payload.contentHash tools) db = some found := by
      apply Option.ne_none_iff_exists'.mp
      rw [ne_eq, getByContentHash_eq_none_iff]
      exact fun none => none existing mem sameHash
    rcases of_getByContentHash foundEq with ⟨foundMem, foundHash⟩
    rcases eq_of_contentHash mem foundMem (sameHash.trans foundHash.symm) with rfl
    rw [createSnapshot_of_stored passes foundEq,
      lookupSubmitted_of_stored newId mem foundEq]
  refine ⟨whenNew, whenStored, ?_⟩
  intro answer after ret
  by_cases isStored : ∃ existing ∈ db.snapshots.rows, StoresSubmitted payload existing
  · rcases isStored with ⟨existing, mem, stores⟩
    rw [whenStored existing mem stores] at ret
    rcases Prod.ext_iff.mp ret with ⟨answerEq, -⟩
    unfold answerStored at answerEq
    split at answerEq
    · cases answerEq
    · split at answerEq
      · next sameRun =>
        cases answerEq
        exact ⟨sameRun, stores⟩
      · cases answerEq
  · simp only [not_exists, not_and] at isStored
    rcases whenNew isStored with ⟨snapshots, _, created⟩
    rw [created] at ret
    cases ret
    exact ⟨rfl, ⟨_, rfl, SameContent.refl _⟩, rfl⟩

/-! ## Two runs with the same lesson -/

/-- The first run has stored its lesson. -/
def sharedLesson : List SnapshotOp :=
  [.createSnapshot (letterSnapshot "snap-1" "run-1" "A")]

def sharedDb : Db :=
  ((snapshotMachine sampleTools).drive (SnapshotOp.start twoRunsDb, []) sharedLesson).1

theorem run_sharedDb :
    ∃ history, (snapshotMachine sampleTools).Run (fun _ _ _ => True) sharedDb history := by
  have started : (snapshotMachine sampleTools).Run (fun _ _ _ => True)
      (SnapshotOp.start twoRunsDb) [] := .start rfl
  exact ⟨_, started.drive sharedLesson Machine.admits_all⟩

/-- The second run cannot store the lesson of the first. -/
theorem lesson_of_other_run_refused :
    (∃ history, (snapshotMachine sampleTools).Run (fun _ _ _ => True) sharedDb history) ∧
      (letterSnapshot "snap-2" "run-2" "A").checkAnswerKeys = .ok ⟨⟩ ∧
      (∀ stored ∈ sharedDb.snapshots.rows, stored.snapshotId ≠ "snap-2") ∧
      sharedDb.HasRun "run-2" ∧
      (createSnapshot sampleTools (letterSnapshot "snap-2" "run-2" "A") sharedDb).1 =
        .error (.snapshot (.persistence "snap-2")) :=
  ⟨run_sharedDb, rfl, by decide +kernel, by decide +kernel, rfl⟩

theorem another_lesson_stored :
    ∃ answer after, createSnapshot sampleTools (letterSnapshot "snap-2" "run-2" "B") sharedDb =
      (.ok answer, after) ∧ answer.runId = "run-2" := by
  rcases run_sharedDb with ⟨history, run⟩
  have passes : (letterSnapshot "snap-2" "run-2" "B").checkAnswerKeys = .ok ⟨⟩ := rfl
  have otherHash : ∀ stored ∈ sharedDb.snapshots.rows, ∀ content ∈ stored.contentJson,
      snapshotContentHash sampleSha256 content stored.renderedHtml ≠
        (letterSnapshot "snap-2" "run-2" "B").contentHash sampleTools := by
    decide +kernel
  have otherPage : ∀ stored ∈ sharedDb.snapshots.rows,
      stored.renderedHtml ≠ (letterSnapshot "snap-2" "run-2" "B").renderedHtml := by
    decide +kernel
  obtain ⟨whenNew, -, -⟩ := createSnapshot_outcome run
    (fun stored mem content contentMem sameHash =>
      absurd sameHash (otherHash stored mem content contentMem))
    passes (by decide +kernel) (by decide +kernel)
  rcases whenNew fun stored mem stores => otherPage stored mem stores.2 with ⟨_, _, created⟩
  exact ⟨_, _, created, rfl⟩

/-! ## Stored for good -/

/-- Stored snapshots stay as they are and where they are; each is found by the
hash of what it shows, and no two of them, of whatever runs, show the same. -/
structure ContentAddressed (tools : SnapshotTools) (before after : Db) : Prop where
  kept : before.snapshots.rows <+: after.snapshots.rows
  hashes : ∀ snapshot ∈ after.snapshots.rows, HashesItsContent tools snapshot
  distinct : after.snapshots.rows.Pairwise fun first second =>
    ∀ content ∈ first.contentJson, ∀ other ∈ second.contentJson, SameContent content other →
      first.renderedHtml ≠ second.renderedHtml

theorem snapshots_prefix_drive (tools : SnapshotTools)
    (here : Db × History SnapshotOp (Except GatewayError (Option ArtifactSnapshot)))
    (ops : List SnapshotOp) :
    here.1.snapshots.rows <+: ((snapshotMachine tools).drive here ops).1.snapshots.rows := by
  induction ops generalizing here with
  | nil => exact prefix_rfl
  | cons op rest ih =>
    refine List.IsPrefix.trans ?_ (ih ((snapshotMachine tools).advance here.1 here.2 op))
    change _ <+: (op.step tools here.1).1.snapshots.rows
    rcases snapshotStep_step tools here.1 op with ⟨same, _⟩ | ⟨payload, rows, _⟩
    · rw [same]
    · rw [rows]
      exact prefix_append _ _

/-- In every sequence of creations and edits by any runs. -/
theorem snapshots_content_addressed (tools : SnapshotTools) (db : Db)
    (ops later : List SnapshotOp) :
    ContentAddressed tools ((snapshotMachine tools).drive (SnapshotOp.start db, []) ops).1
      ((snapshotMachine tools).drive
        ((snapshotMachine tools).drive (SnapshotOp.start db, []) ops) later).1 := by
  have started : (snapshotMachine tools).Run (fun _ _ _ => True) (SnapshotOp.start db) [] :=
    .start rfl
  have run := (started.drive ops Machine.admits_all).drive later Machine.admits_all
  have hashes := hashesItsContent_of_run run
  refine ⟨snapshots_prefix_drive tools _ later, hashes, ?_⟩
  refine (Table.consistent _).imp_of_mem ?_
  intro first second firstMem secondMem apart content isContent other isOther same sameHtml
  rcases hashes first firstMem with ⟨own, isOwn, ownHash⟩
  rcases hashes second secondMem with ⟨own', isOwn', ownHash'⟩
  obtain rfl := Option.mem_unique isOwn isContent
  obtain rfl := Option.mem_unique isOwn' isOther
  apply apart (.inr _)
  rw [ownHash, ownHash', snapshotContentHash, snapshotContentHash,
    hashedText_eq_iff.mpr ⟨same, sameHtml⟩]

end OhMyClass.Gateway
