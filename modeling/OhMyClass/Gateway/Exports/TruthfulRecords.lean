import OhMyClass.Gateway.Exports.Regeneration

/-!
# Truthful export records

A record is truthful as long as its file was made in its format from its
snapshot.  Records stay truthful while the names of the files tell their formats
and no file that was recorded for other snapshots is overwritten.
-/

namespace OhMyClass.Gateway.ExportRuns

open List Function OhMyClass.Sorting OhMyClass.Transition

/-- What a record says of a file. -/
structure ExportClaim where
  storagePath : String
  format : String
  snapshotId : String

def recordClaim (record : ExportRecord) : ExportClaim :=
  ⟨record.storagePath, record.format, record.snapshotId⟩

def payloadClaim (payload : ExportRecordCreate) : ExportClaim :=
  ⟨payload.storagePath, payload.format, payload.snapshotId⟩

/-- The file at the path was made as claimed. -/
def Backed (files : String → Option ExportFile) (claim : ExportClaim) : Prop :=
  ∃ file, files claim.storagePath = some file ∧ file.Backs claim.format claim.snapshotId

/-- The records a call has written the files of and is going to create. -/
def announced : List ExportTask → List ExportRecordCreate
  | [] => []
  | .write path _ :: rest => (announced rest).filter fun payload => payload.storagePath ≠ path
  | .create payload :: rest => payload :: announced rest
  | .raise :: _ => []

/-- Every file that is going to be written backs the records that follow. -/
def Planned : List ExportTask → Prop
  | [] => True
  | .write path file :: rest =>
    (∀ payload ∈ announced rest, payload.storagePath = path →
      file.Backs payload.format payload.snapshotId) ∧ Planned rest
  | .create _ :: rest => Planned rest
  | .raise :: _ => True

/-- A stored record, one of an open transaction, or one that is going to be
created of a written file. -/
inductive ExportState.IsClaim (store : ExportState) : ExportClaim → Prop
  | stored {record : ExportRecord} : record ∈ store.records → IsClaim store (recordClaim record)
  | uncommitted {entry : CallId × ExportRecord} : entry ∈ store.uncommitted →
      IsClaim store (recordClaim entry.2)
  | announced {call : CallId} {tasks : List ExportTask} {payload : ExportRecordCreate} :
      store.calls call = some tasks → payload ∈ announced tasks →
      IsClaim store (payloadClaim payload)

/-! ## Tasks that announce nothing yet -/

structure Covered (tasks : List ExportTask) : Prop where
  planned : Planned tasks
  silent : announced tasks = []

theorem covered_nil : Covered [] :=
  ⟨trivial, rfl⟩

theorem covered_raise (rest : List ExportTask) : Covered (.raise :: rest) :=
  ⟨trivial, rfl⟩

variable {rest : List ExportTask}

theorem Covered.round (covered : Covered rest) (file : ExportFile) (payload : ExportRecordCreate)
    (backs : file.Backs payload.format payload.snapshotId) :
    Covered (.write payload.storagePath file :: .create payload :: rest) := by
  constructor
  · refine ⟨?_, covered.planned⟩
    intro other mem _
    rw [announced, covered.silent, mem_singleton] at mem
    rw [mem]
    exact backs
  · simp [announced, covered.silent]

theorem announced_creates (payloads : List ExportRecordCreate) :
    announced (payloads.map .create) = payloads := by
  induction payloads with
  | nil => rfl
  | cons payload rest ih => rw [map_cons, announced, ih]

theorem planned_creates (payloads : List ExportRecordCreate) :
    Planned (payloads.map .create) := by
  induction payloads with
  | nil => trivial
  | cons payload rest ih => exact ih

theorem covered_writes {writes : List (String × ExportFile)} (planned : Planned rest)
    (written : ∀ payload ∈ announced rest, ∃ write ∈ writes, write.1 = payload.storagePath)
    (backs : ∀ write ∈ writes, ∀ payload ∈ announced rest, payload.storagePath = write.1 →
      write.2.Backs payload.format payload.snapshotId) :
    Covered ((writes.map fun write => .write write.1 write.2) ++ rest) := by
  have still : ∀ (remaining : List (String × ExportFile)), ∀ payload,
      payload ∈ announced ((remaining.map fun write => ExportTask.write write.1 write.2) ++ rest) →
      payload ∈ announced rest ∧ ∀ write ∈ remaining, write.1 ≠ payload.storagePath := by
    intro remaining payload member
    induction remaining with
    | nil => exact ⟨member, forall_mem_nil _⟩
    | cons write others ih =>
      rw [map_cons, cons_append, announced, mem_filter, decide_eq_true_eq] at member
      rcases ih member.1 with ⟨isAnnounced, apart⟩
      exact ⟨isAnnounced, forall_mem_cons.mpr ⟨Ne.symm member.2, apart⟩⟩
  constructor
  · have all := backs
    clear written
    induction writes with
    | nil => exact planned
    | cons write others ih =>
      rw [forall_mem_cons] at all
      refine ⟨?_, ih all.2 all.2⟩
      intro payload member here
      exact all.1 payload (still others payload member).1 here
  · rw [eq_nil_iff_forall_not_mem]
    intro payload member
    rcases still writes payload member with ⟨isAnnounced, apart⟩
    rcases written payload isAnnounced with ⟨write, isWrite, here⟩
    exact apart write isWrite here

theorem covered_writes_raise (writes : List (String × ExportFile)) :
    Covered ((writes.map fun write => .write write.1 write.2) ++ [.raise]) :=
  covered_writes trivial nofun fun _ _ => nofun

variable {setting : RunSetting}

theorem completionTasks_covered {state : JsonObject} (names : NamesFormats setting state) :
    Covered (completionTasks setting state) := by
  unfold completionTasks
  split
  · next supported =>
    split
    · have pages := covered_writes_raise
        (((approvedSnapshotsForExport setting.env.builtin state).map
          (ExportWriter.snapshotId setting.env)).map (htmlWrite setting))
      rw [map_map] at pages
      exact pages
    · next formats isFormats =>
      apply covered_writes (planned_creates _)
      · rw [announced_creates]
        exact fun payload => exists_write_of_mem_exportRecordsFromFiles
      · rw [announced_creates]
        intro write written payload mem here
        rcases names supported formats isFormats with none | ⟨plain, plainIds, selfNamed⟩
        · rcases of_mem_exportRecordsFromFiles mem with ⟨_, _, target, isTarget, _⟩
          have isApproved := mem_of_mem_exportTargets isTarget
          rw [none] at isApproved
          cases isApproved
        · exact completionWrites_backs plain plainIds selfNamed written mem here
  · exact covered_raise []

theorem regenerateFormat_cases (artifactId artifactType headId format : String) :
    regenerateFormat setting artifactId artifactType headId format = [.raise] ∨
      ∃ path, regenerateFormat setting artifactId artifactType headId format =
        [.write path ⟨format, [headId]⟩,
          .create (regeneratedExport setting artifactId headId format path)] := by
  unfold regenerateFormat
  split
  · split
    · exact .inr ⟨_, rfl⟩
    · split
      · exact .inr ⟨_, rfl⟩
      · exact .inl rfl
  · exact .inl rfl

theorem regenerateTasks_covered (artifactId artifactType headId : String)
    (formats : List String) :
    Covered (formats.flatMap (regenerateFormat setting artifactId artifactType headId)) := by
  induction formats with
  | nil => exact covered_nil
  | cons format rest ih =>
    rw [flatMap_cons]
    rcases regenerateFormat_cases artifactId artifactType headId format with
      raises | ⟨path, isRound⟩
    · rw [raises]
      exact covered_raise _
    · rw [isRound]
      exact ih.round ⟨format, [headId]⟩ (regeneratedExport setting artifactId headId format path)
        ⟨rfl, mem_singleton_self headId⟩

/-! ## Steps -/

namespace ExportState

variable {store : ExportState} {call : CallId} {claim : ExportClaim}

theorem isClaim_of_calls {grown : ExportState} (isClaim : grown.IsClaim claim)
    (store : ExportState) (call : CallId) (tasks : Option (List ExportTask))
    (records : ∀ record ∈ grown.records, store.IsClaim (recordClaim record))
    (uncommitted : ∀ entry ∈ grown.uncommitted, store.IsClaim (recordClaim entry.2))
    (calls : grown.calls = Function.update store.calls call tasks) :
    store.IsClaim claim ∨ ∃ known ∈ tasks, ∃ payload ∈ ExportRuns.announced known,
      claim = payloadClaim payload := by
  cases isClaim with
  | stored mem => exact .inl (records _ mem)
  | uncommitted mem => exact .inl (uncommitted _ mem)
  | announced known mem =>
    rename_i other otherTasks payload
    rw [calls] at known
    by_cases same : other = call
    · rw [same, update_self] at known
      exact .inr ⟨otherTasks, known, payload, mem, rfl⟩
    · rw [update_of_ne same] at known
      exact .inl (.announced known mem)

theorem isClaim_of_begin {tasks : List ExportTask} (covered : Covered tasks)
    (isClaim : (store.begin call tasks).IsClaim claim) : store.IsClaim claim := by
  unfold begin at isClaim
  split at isClaim
  · rcases isClaim_of_calls isClaim store call (some tasks) (fun _ mem => .stored mem)
      (fun _ mem => .uncommitted mem) rfl with known | ⟨_, ⟨⟩, payload, mem, _⟩
    · exact known
    · rw [covered.silent] at mem
      cases mem
  · exact isClaim

theorem isClaim_of_rollBack (isClaim : (store.rollBack call).IsClaim claim) :
    store.IsClaim claim := by
  rcases isClaim_of_calls isClaim store call none (fun _ mem => .stored mem)
    (fun _ mem => .uncommitted (mem_filter.mp mem).1) rfl with
    known | ⟨_, none, _⟩
  · exact known
  · cases none

variable {rest : List ExportTask} {path : String} {file : ExportFile}

theorem isClaim_of_writeFile (isClaim : (store.writeFile call path file rest).IsClaim claim) :
    store.IsClaim claim ∨ ∃ payload ∈ ExportRuns.announced rest, claim = payloadClaim payload := by
  rcases isClaim_of_calls isClaim store call (some rest) (fun _ mem => .stored mem)
    (fun _ mem => .uncommitted mem) rfl with known | ⟨_, ⟨⟩, announces⟩
  · exact .inl known
  · exact .inr announces

variable {payload : ExportRecordCreate}

theorem isClaim_of_create (next : store.calls call = some (.create payload :: rest))
    (isClaim : (store.create call payload rest).IsClaim claim) : store.IsClaim claim := by
  have later : (∃ known ∈ some rest, ∃ other ∈ ExportRuns.announced known,
      claim = payloadClaim other) → store.IsClaim claim := by
    rintro ⟨_, ⟨⟩, other, mem, rfl⟩
    exact .announced next (mem_cons_of_mem _ mem)
  unfold create at isClaim
  split at isClaim
  · exact (isClaim_of_calls isClaim store call (some rest) (fun _ mem => .stored mem)
      (fun _ mem => .uncommitted mem) rfl).elim id later
  · split at isClaim
    · exact isClaim
    · refine (isClaim_of_calls isClaim store call (some rest) (fun _ mem => .stored mem)
        ?_ rfl).elim id later
      intro entry mem
      rcases mem_append.mp mem with old | new
      · exact .uncommitted old
      · rw [mem_singleton.mp new]
        exact .announced next mem_cons_self

theorem isClaim_of_commit (isClaim : (store.commit call).IsClaim claim) : store.IsClaim claim := by
  unfold commit at isClaim
  split at isClaim
  · have records : ∀ record ∈ store.records ++
        (store.uncommitted.filter fun entry => entry.1 = call).map Prod.snd,
        store.IsClaim (recordClaim record) := by
      intro record mem
      rcases mem_append.mp mem with old | new
      · exact .stored old
      · rcases mem_map.mp new with ⟨entry, isEntry, rfl⟩
        exact .uncommitted (mem_filter.mp isEntry).1
    rcases isClaim_of_calls isClaim store call none records
      (fun _ mem => .uncommitted (mem_filter.mp mem).1) rfl with
      known | ⟨_, none, _⟩
    · exact known
    · cases none
  all_goals exact isClaim

/-- Every claim is backed, and will be once the planned files are written. -/
structure Sound (store : ExportState) : Prop where
  backed : ∀ claim, store.IsClaim claim → Backed store.files claim
  planned : ∀ call tasks, store.calls call = some tasks → Planned tasks

section

variable (sound : Sound store)

include sound

theorem Sound.planned_update {tasks : Option (List ExportTask)}
    (isPlanned : ∀ known ∈ tasks, Planned known) {other : CallId} {otherTasks : List ExportTask}
    (known : Function.update store.calls call tasks other = some otherTasks) :
    Planned otherTasks := by
  by_cases same : other = call
  · rw [same, update_self] at known
    exact isPlanned otherTasks known
  · rw [update_of_ne same] at known
    exact sound.planned other otherTasks known

theorem Sound.begin {tasks : List ExportTask} (covered : Covered tasks) :
    Sound (store.begin call tasks) := by
  have sameFiles : (store.begin call tasks).files = store.files := by
    unfold ExportState.begin
    split <;> rfl
  constructor
  · intro claim isClaim
    rw [sameFiles]
    exact sound.backed claim (isClaim_of_begin covered isClaim)
  · intro other otherTasks known
    unfold ExportState.begin at known
    split at known
    · exact sound.planned_update (fun _ isTasks => Option.some.inj isTasks ▸ covered.planned) known
    · exact sound.planned other otherTasks known

theorem Sound.rollBack : Sound (store.rollBack call) where
  backed claim isClaim := sound.backed claim (isClaim_of_rollBack isClaim)
  planned _ _ known :=
    sound.planned_update (fun _ isNone => (Option.not_mem_none _ isNone).elim) known

theorem Sound.writeFile (next : store.calls call = some (.write path file :: rest))
    (agrees : ∀ claim, store.IsClaim claim → claim.storagePath = path →
      file.Backs claim.format claim.snapshotId) : Sound (store.writeFile call path file rest) := by
  have isPlanned := sound.planned call _ next
  constructor
  · intro claim isClaim
    by_cases here : claim.storagePath = path
    · refine ⟨file, ?_, ?_⟩
      · rw [here]
        exact update_self _ _ _
      · rcases isClaim_of_writeFile isClaim with known | ⟨payload, mem, rfl⟩
        · exact agrees claim known here
        · exact isPlanned.1 payload mem here
    · have known : store.IsClaim claim := by
        rcases isClaim_of_writeFile isClaim with known | ⟨payload, mem, rfl⟩
        · exact known
        · exact .announced next (mem_filter.mpr ⟨mem, decide_eq_true here⟩)
      rcases sound.backed claim known with ⟨old, found, backs⟩
      exact ⟨old, (update_of_ne here _ _).trans found, backs⟩
  · intro other otherTasks known
    exact sound.planned_update (fun _ isRest => Option.some.inj isRest ▸ isPlanned.2) known

theorem Sound.create (next : store.calls call = some (.create payload :: rest)) :
    Sound (store.create call payload rest) := by
  have isPlanned : Planned rest :=
    (sound.planned call _ next : Planned (.create payload :: rest))
  have sameFiles : (store.create call payload rest).files = store.files := by
    unfold ExportState.create
    split
    · rfl
    · split <;> rfl
  constructor
  · intro claim isClaim
    rw [sameFiles]
    exact sound.backed claim (isClaim_of_create next isClaim)
  · intro other otherTasks known
    unfold ExportState.create at known
    split at known
    · exact sound.planned_update (fun _ isRest => Option.some.inj isRest ▸ isPlanned) known
    · split at known
      · exact sound.planned other otherTasks known
      · exact sound.planned_update (fun _ isRest => Option.some.inj isRest ▸ isPlanned) known

theorem Sound.commit : Sound (store.commit call) := by
  have sameFiles : (store.commit call).files = store.files := by
    unfold ExportState.commit
    split <;> rfl
  constructor
  · intro claim isClaim
    rw [sameFiles]
    exact sound.backed claim (isClaim_of_commit isClaim)
  · intro other otherTasks known
    unfold ExportState.commit at known
    split at known
    · exact sound.planned_update (fun _ isNone => (Option.not_mem_none _ isNone).elim) known
    all_goals exact sound.planned other otherTasks known

end

end ExportState

/-- A completion whose file names tell their formats; a write over no file that
others recorded in another format or for other snapshots. -/
def Allowed (setting : RunSetting) (store : ExportState) : ExportInput → Prop
  | .persistCompletion _ state => NamesFormats setting state
  | .work call true => ∀ path file rest, store.calls call = some (.write path file :: rest) →
    ∀ claim, store.IsClaim claim → claim.storagePath = path →
      file.Backs claim.format claim.snapshotId
  | .edit _ _ | .regenerate _ _ _ _ _ | .work _ false | .commit _ => True

theorem ExportState.Sound.step {store : ExportState} (sound : store.Sound) {input : ExportInput}
    (allowed : Allowed setting store input) : (store.step setting input).1.Sound := by
  cases input with
  | edit artifactId snapshotId =>
    refine ⟨fun claim isClaim => sound.backed claim ?_, sound.planned⟩
    cases isClaim with
    | stored mem => exact .stored mem
    | uncommitted mem => exact .uncommitted mem
    | announced known mem => exact .announced known mem
  | persistCompletion call state => exact sound.begin (completionTasks_covered allowed)
  | regenerate call artifactId artifactType headId formats =>
    exact sound.begin (regenerateTasks_covered artifactId artifactType headId _)
  | work call succeeds =>
    change (store.work call succeeds).Sound
    unfold ExportState.work
    split
    · next path file rest next =>
      cases succeeds with
      | true => exact sound.writeFile next (allowed path file rest next)
      | false => exact sound.rollBack
    · next payload rest next => exact sound.create next
    · exact sound.rollBack
    all_goals exact sound
  | commit call => exact sound.commit

end OhMyClass.Gateway.ExportRuns
