import OhMyClass.Gateway.Exports.TruthfulRecords

/-!
# Current exports

A regeneration that nothing interrupts leaves no format stale, unless the
snapshot was recorded in a format before and a record of another snapshot is
newer: the insert then ignores the conflict.
-/

namespace OhMyClass.Gateway.ExportRuns

open List Function OhMyClass.Sorting OhMyClass.Transition

section Latest

variable {records added : List ExportRecord} {record : ExportRecord} {artifactId format : String}

/-- A record of the artifact in the format. -/
def OfFormat (artifactId format : String) (record : ExportRecord) : Prop :=
  record.artifactId = artifactId ∧ record.format = format

theorem getLatest_eq_some
    (latest : getLatestExportForFormat records artifactId format = some record) :
    (record ∈ records ∧ OfFormat artifactId format record) ∧
      ∀ other ∈ records, OfFormat artifactId format other →
        other.createdAt ≤ record.createdAt := by
  unfold getLatestExportForFormat at latest
  rw [List.head?_eq_some_iff] at latest
  rcases latest with ⟨others, sorted⟩
  have listed (row : ExportRecord) : row ∈ record :: others ↔
      row ∈ records ∧ OfFormat artifactId format row := by
    rw [← sorted, (sortByDesc_perm _ _).mem_iff, mem_filter, Bool.and_eq_true, beq_iff_eq,
      beq_iff_eq]
    rfl
  refine ⟨(listed record).mp mem_cons_self, ?_⟩
  intro other mem isOf
  have descending := pairwise_sortByDesc ExportRecord.createdAt (records.filter fun row =>
    row.artifactId == artifactId && row.format == format)
  rw [sorted, pairwise_cons] at descending
  rcases mem_cons.mp ((listed other).mpr ⟨mem, isOf⟩) with rfl | isOther
  · exact le_rfl
  · exact descending.1 other isOther

theorem getLatest_eq_none_iff :
    getLatestExportForFormat records artifactId format = none ↔
      ∀ row ∈ records, ¬ OfFormat artifactId format row := by
  rw [getLatestExportForFormat, List.head?_eq_none_iff, ← length_eq_zero_iff,
    (sortByDesc_perm _ _).length_eq, length_eq_zero_iff, filter_eq_nil_iff]
  simp only [Bool.and_eq_true, beq_iff_eq, OfFormat]

theorem getLatest_append_of_other (apart : ∀ row ∈ added, ¬ OfFormat artifactId format row) :
    getLatestExportForFormat (records ++ added) artifactId format =
      getLatestExportForFormat records artifactId format := by
  have none : (added.filter fun row => row.artifactId == artifactId && row.format == format) =
      [] := by
    rw [filter_eq_nil_iff]
    intro row mem
    rw [Bool.and_eq_true, beq_iff_eq, beq_iff_eq]
    exact apart row mem
  rw [getLatestExportForFormat, filter_append, none, append_nil]
  rfl

theorem getLatest_append_of_later
    (later : ∀ old ∈ records, ∀ new ∈ added, old.createdAt < new.createdAt)
    (mem : record ∈ added) (isOf : OfFormat artifactId format record) :
    ∃ latest ∈ added, getLatestExportForFormat (records ++ added) artifactId format =
      some latest := by
  cases found : getLatestExportForFormat (records ++ added) artifactId format with
  | none =>
    exact absurd isOf (getLatest_eq_none_iff.mp found record (mem_append_right _ mem))
  | some latest =>
    rcases getLatest_eq_some found with ⟨⟨isIn, _⟩, newest⟩
    rcases mem_append.mp isIn with isOld | isNew
    · have notNewer := newest record (mem_append_right _ mem) isOf
      exact absurd notNewer (not_le_of_gt (later latest isOld record mem))
    · exact ⟨latest, isNew, rfl⟩

theorem staleFormats_eq_nil_iff {headId : String} {formats : List String} :
    staleFormats records artifactId (some headId) formats = [] ↔
      ∀ format ∈ formats, ∀ latest, getLatestExportForFormat records artifactId format =
        some latest → latest.snapshotId = headId := by
  unfold staleFormats
  rw [filter_eq_nil_iff]
  refine forall₂_congr fun format _ => ?_
  cases getLatestExportForFormat records artifactId format with
  | none => simp
  | some latest => simp

theorem mem_needsGeneration {headId : String} {formats : List String} :
    format ∈ needsGeneration records artifactId headId formats ↔
      format ∈ formats ∧ ∀ latest, getLatestExportForFormat records artifactId format =
        some latest → latest.snapshotId ≠ headId := by
  unfold needsGeneration
  rw [mem_filter]
  refine and_congr_right fun _ => ?_
  cases getLatestExportForFormat records artifactId format with
  | none => simp
  | some latest => simp

end Latest

/-- No format has a record of the head behind a newer one of another snapshot. -/
def Regenerable (records : List ExportRecord) (artifactId headId : String)
    (formats : List String) : Prop :=
  ∀ format ∈ formats, ∀ latest, getLatestExportForFormat records artifactId format = some latest →
    latest.snapshotId ≠ headId → ∀ record ∈ records, takes headId format record = false

/-! ## Dates and owners -/

/-- The clock is ahead of all rows; uncommitted rows belong to open calls. -/
structure ExportState.Dated (store : ExportState) : Prop where
  records : ∀ record ∈ store.records, record.createdAt < store.now
  uncommitted : ∀ entry ∈ store.uncommitted, entry.2.createdAt < store.now
  owned : ∀ entry ∈ store.uncommitted, store.calls entry.1 ≠ none

namespace ExportState

variable {setting : RunSetting} {store : ExportState} {call : CallId}

theorem Dated.setCall (dated : Dated store) (call : CallId) (tasks : List ExportTask) :
    Dated (store.setCall call (some tasks)) := by
  refine ⟨dated.records, dated.uncommitted, ?_⟩
  intro entry mem
  change Function.update store.calls call (some tasks) entry.1 ≠ none
  by_cases same : entry.1 = call
  · rw [same, update_self]
    nofun
  · rw [update_of_ne same]
    exact dated.owned entry mem

theorem Dated.close (dated : Dated store) {records : List ExportRecord}
    (earlier : ∀ record ∈ records, record.createdAt < store.now) :
    Dated { store with
      records := records
      uncommitted := store.uncommitted.filter fun entry => entry.1 ≠ call
      calls := Function.update store.calls call none } := by
  refine ⟨earlier, ?_, ?_⟩
  · exact fun entry mem => dated.uncommitted entry (mem_filter.mp mem).1
  · intro entry mem
    rcases mem_filter.mp mem with ⟨isOpen, other⟩
    change Function.update store.calls call none entry.1 ≠ none
    rw [update_of_ne (of_decide_eq_true other)]
    exact dated.owned entry isOpen

theorem Dated.begin (dated : Dated store) (tasks : List ExportTask) :
    Dated (store.begin call tasks) := by
  unfold ExportState.begin
  split
  · exact dated.setCall call tasks
  · exact dated

theorem Dated.create (dated : Dated store) (payload : ExportRecordCreate)
    (rest : List ExportTask) : Dated (store.create call payload rest) := by
  have ticks : store.now < store.now + 1 := Int.lt_succ store.now
  unfold ExportState.create
  split
  · exact dated.setCall call rest
  · split
    · exact dated
    · refine ⟨?_, ?_, ?_⟩
      · exact fun record mem => lt_trans (dated.records record mem) ticks
      · intro entry mem
        rcases mem_append.mp mem with old | new
        · exact lt_trans (dated.uncommitted entry old) ticks
        · rw [mem_singleton.mp new]
          exact ticks
      · intro entry mem
        change Function.update store.calls call (some rest) entry.1 ≠ none
        by_cases same : entry.1 = call
        · rw [same, update_self]
          nofun
        · rw [update_of_ne same]
          rcases mem_append.mp mem with old | new
          · exact dated.owned entry old
          · exact absurd (congrArg Prod.fst (mem_singleton.mp new)) same

theorem Dated.step (dated : Dated store) (input : ExportInput) :
    Dated (store.step setting input).1 := by
  cases input with
  | edit artifactId snapshotId => exact ⟨dated.records, dated.uncommitted, dated.owned⟩
  | persistCompletion call state => exact dated.begin _
  | regenerate call artifactId artifactType headId formats => exact dated.begin _
  | work call succeeds =>
    change (store.work call succeeds).Dated
    unfold ExportState.work
    split
    · next path file rest _ =>
      split
      · have stays := dated.setCall call rest
        exact ⟨stays.records, stays.uncommitted, stays.owned⟩
      · exact dated.close dated.records
    · exact dated.create _ _
    · exact dated.close dated.records
    all_goals exact dated
  | commit call =>
    change (store.commit call).Dated
    unfold ExportState.commit
    split
    · apply dated.close
      intro record mem
      rcases mem_append.mp mem with old | new
      · exact dated.records record old
      · rcases mem_map.mp new with ⟨entry, isEntry, rfl⟩
        exact dated.uncommitted entry (mem_filter.mp isEntry).1
    all_goals exact dated

/-! ## A regeneration alone -/

/-- What an uninterrupted call has inserted and has still to do. -/
structure Regenerating (start : ExportState) (call : CallId) (artifactId headId : String)
    (needs : List String) (store : ExportState) : Prop where
  records : store.records = start.records
  heads : store.heads = start.heads
  clock : ∀ record ∈ start.records, record.createdAt < store.now
  rows : ∀ entry ∈ store.uncommitted, entry.1 = call ∧ entry.2.artifactId = artifactId ∧
    entry.2.snapshotId = headId ∧ entry.2.format ∈ needs ∧
    ∀ record ∈ start.records, takes headId entry.2.format record = false ∧
      record.createdAt < entry.2.createdAt
  payloads : ∀ tasks, store.calls call = some tasks → ∀ payload, .create payload ∈ tasks →
    payload.artifactId = artifactId ∧ payload.snapshotId = headId ∧ payload.format ∈ needs
  settled : ∀ tasks, store.calls call = some tasks → ∀ format ∈ needs,
    (∃ entry ∈ store.uncommitted, entry.2.format = format) ∨
    (∃ record ∈ start.records, takes headId format record = true) ∨
    .raise ∈ tasks ∨ ∃ payload, .create payload ∈ tasks ∧ payload.format = format

section Alone

variable {start grown : ExportState} {artifactId headId : String} {needs : List String}
  (running : Regenerating start call artifactId headId needs store)

include running

theorem Regenerating.rollBack :
    Regenerating start call artifactId headId needs (store.rollBack call) := by
  have closed : (store.rollBack call).calls call = none := update_self _ _ _
  refine ⟨running.records, running.heads, running.clock, ?_, ?_, ?_⟩
  · exact fun entry mem => running.rows entry (mem_filter.mp mem).1
  · intro tasks known
    rw [closed] at known
    cases known
  · intro tasks known
    rw [closed] at known
    cases known

theorem Regenerating.next {task : ExportTask} {rest : List ExportTask}
    (next : store.calls call = some (task :: rest)) (isRest : grown.calls call = some rest)
    (records : grown.records = store.records) (heads : grown.heads = store.heads)
    (clock : store.now ≤ grown.now)
    (kept : ∀ entry ∈ store.uncommitted, entry ∈ grown.uncommitted)
    (rows : ∀ entry ∈ grown.uncommitted, entry ∈ store.uncommitted ∨
      entry.1 = call ∧ entry.2.artifactId = artifactId ∧ entry.2.snapshotId = headId ∧
        entry.2.format ∈ needs ∧ ∀ record ∈ start.records,
          takes headId entry.2.format record = false ∧ record.createdAt < entry.2.createdAt)
    (goesOn : task ≠ .raise)
    (settled : ∀ payload, task = .create payload →
      (∃ entry ∈ grown.uncommitted, entry.2.format = payload.format) ∨
        ∃ record ∈ start.records, takes headId payload.format record = true) :
    Regenerating start call artifactId headId needs grown := by
  refine ⟨records.trans running.records, heads.trans running.heads, ?_, ?_, ?_, ?_⟩
  · exact fun record mem => lt_of_lt_of_le (running.clock record mem) clock
  · intro entry mem
    rcases rows entry mem with old | new
    · exact running.rows entry old
    · exact new
  · intro tasks known payload mem
    rw [isRest] at known
    cases known
    exact running.payloads _ next payload (mem_cons_of_mem _ mem)
  · intro tasks known format isNeeded
    rw [isRest] at known
    cases known
    rcases running.settled _ next format isNeeded with
      ⟨entry, mem, same⟩ | taken | raises | ⟨payload, later, same⟩
    · exact .inl ⟨entry, kept entry mem, same⟩
    · exact .inr (.inl taken)
    · rcases mem_cons.mp raises with isTask | raises
      · exact absurd isTask.symm goesOn
      · exact .inr (.inr (.inl raises))
    · rcases mem_cons.mp later with isTask | later
      · rcases settled payload isTask.symm with inserted | taken
        · rw [← same]
          exact .inl inserted
        · rw [← same]
          exact .inr (.inl taken)
      · exact .inr (.inr (.inr ⟨payload, later, same⟩))

theorem Regenerating.create {payload : ExportRecordCreate} {rest : List ExportTask}
    (next : store.calls call = some (.create payload :: rest)) :
    Regenerating start call artifactId headId needs (store.create call payload rest) := by
  rcases running.payloads _ next payload mem_cons_self with
    ⟨isArtifact, isHead, isNeeded⟩
  unfold ExportState.create
  split
  · next taken =>
    refine running.next next (update_self _ _ _) rfl rfl (le_refl _) (fun _ => id)
      (fun _ => .inl) nofun ?_
    intro other same
    cases same
    rw [Bool.or_eq_true, any_eq_true, any_eq_true, running.records, isHead] at taken
    rcases taken with stored | ⟨entry, mem, both⟩
    · exact .inr stored
    · rw [Bool.and_eq_true, takes, Bool.and_eq_true, beq_iff_eq, beq_iff_eq, beq_iff_eq] at both
      exact .inl ⟨entry, mem, both.2.2⟩
  · next free =>
    rw [Bool.or_eq_true, not_or, Bool.not_eq_true] at free
    split
    · exact running
    · refine running.next next (update_self _ _ _) rfl rfl (Int.lt_succ store.now).le
        (fun _ => mem_append_left _) ?_ nofun ?_
      · intro entry mem
        rcases mem_append.mp mem with old | new
        · exact .inl old
        · rw [mem_singleton.mp new]
          refine .inr ⟨rfl, isArtifact, isHead, isNeeded, fun record isRecord => ⟨?_, ?_⟩⟩
          · have apart := any_eq_false.mp free.1 record (running.records ▸ isRecord)
            rw [isHead, Bool.not_eq_true] at apart
            exact apart
          · exact running.clock record isRecord
      · intro other same
        cases same
        exact .inl ⟨_, mem_append_right _ (mem_singleton_self _), rfl⟩

theorem Regenerating.work (succeeds : Bool) :
    Regenerating start call artifactId headId needs (store.work call succeeds) := by
  unfold ExportState.work
  split
  · next path file rest next =>
    split
    · exact running.next next (update_self _ _ _) rfl rfl (le_refl _) (fun _ => id)
        (fun _ => .inl) nofun nofun
    · exact running.rollBack
  · next payload rest next => exact running.create next
  · exact running.rollBack
  all_goals exact running

theorem Regenerating.drive (outcomes : List Bool) (history : History ExportInput Bool) :
    Regenerating start call artifactId headId needs
      ((exports setting).drive (store, history) (outcomes.map (.work call))).1 := by
  induction outcomes generalizing store history with
  | nil => exact running
  | cons succeeds rest ih => exact ih (running.work succeeds) _

theorem Regenerating.rows_of_done (done : store.calls call = some []) {format : String}
    (isNeeded : format ∈ needs) :
    (∃ entry ∈ store.uncommitted, entry.2.format = format) ∨
      ∃ record ∈ start.records, takes headId format record = true := by
  rcases running.settled [] done format isNeeded with inserted | taken | raises | ⟨_, later, _⟩
  · exact .inl inserted
  · exact .inr taken
  · cases raises
  · cases later

end Alone

variable {artifactId headId : String} {formats : List String}

theorem regenerating_begin (dated : Dated store) (closed : ∀ other, store.calls other = none)
    (artifactType : String) :
    Regenerating store call artifactId headId
      (needsGeneration store.records artifactId headId formats)
      (store.step setting (.regenerate call artifactId artifactType headId formats)).1 := by
  have noRows : store.uncommitted = [] := by
    rw [eq_nil_iff_forall_not_mem]
    exact fun entry mem => dated.owned entry mem (closed entry.1)
  generalize isNeeds : needsGeneration store.records artifactId headId formats = needs
  have begun : (store.step setting (.regenerate call artifactId artifactType headId formats)).1 =
      store.setCall call (some (needs.flatMap
        (regenerateFormat setting artifactId artifactType headId))) := by
    change store.begin call _ = _
    unfold ExportState.begin
    rw [closed call, isNeeds]
  have isTasks : (store.setCall call (some (needs.flatMap
      (regenerateFormat setting artifactId artifactType headId)))).calls call =
      some (needs.flatMap (regenerateFormat setting artifactId artifactType headId)) :=
    update_self _ _ _
  rw [begun]
  refine ⟨rfl, rfl, dated.records, ?_, ?_, ?_⟩
  · intro entry mem
    change entry ∈ store.uncommitted at mem
    rw [noRows] at mem
    cases mem
  · intro tasks known payload mem
    rw [isTasks] at known
    cases known
    rcases mem_flatMap.mp mem with ⟨format, isNeeded, isTask⟩
    rcases regenerateFormat_cases artifactId artifactType headId format with
      raises | ⟨path, isRound⟩
    · rw [raises] at isTask
      simp at isTask
    · rw [isRound] at isTask
      have isPayload : payload = regeneratedExport setting artifactId headId format path := by
        simpa using isTask
      rw [isPayload]
      exact ⟨rfl, rfl, isNeeded⟩
  · intro tasks known format isNeeded
    rw [isTasks] at known
    cases known
    rcases regenerateFormat_cases artifactId artifactType headId format with
      raises | ⟨path, isRound⟩
    · refine .inr (.inr (.inl (mem_flatMap.mpr ⟨format, isNeeded, ?_⟩)))
      rw [raises]
      exact mem_singleton_self _
    · refine .inr (.inr (.inr ⟨regeneratedExport setting artifactId headId format path,
        mem_flatMap.mpr ⟨format, isNeeded, ?_⟩, rfl⟩))
      rw [isRound]
      exact .tail _ (mem_singleton_self _)

def committedRows (store : ExportState) (call : CallId) : List ExportRecord :=
  (store.uncommitted.filter fun entry => entry.1 = call).map Prod.snd

theorem Regenerating.current_iff {start : ExportState}
    (running : Regenerating start call artifactId headId
      (needsGeneration start.records artifactId headId formats) store)
    (done : store.calls call = some []) {format : String} (isRequested : format ∈ formats) :
    (∀ latest, getLatestExportForFormat (start.records ++ store.committedRows call) artifactId
        format = some latest → latest.snapshotId = headId) ↔
      ∀ latest, getLatestExportForFormat start.records artifactId format = some latest →
        latest.snapshotId ≠ headId →
          ∀ record ∈ start.records, takes headId format record = false := by
  have isRow : ∀ row ∈ store.committedRows call, ∃ entry ∈ store.uncommitted, entry.2 = row := by
    intro row mem
    rcases mem_map.mp mem with ⟨entry, isEntry, same⟩
    exact ⟨entry, (mem_filter.mp isEntry).1, same⟩
  by_cases inserted : ∃ entry ∈ store.uncommitted, entry.2.format = format
  · rcases inserted with ⟨entry, mem, isFormat⟩
    rcases running.rows entry mem with ⟨isCall, isArtifact, _, _, isFresh⟩
    have isCommitted : entry.2 ∈ store.committedRows call :=
      mem_map_of_mem (mem_filter.mpr ⟨mem, decide_eq_true isCall⟩)
    have later : ∀ old ∈ start.records, ∀ new ∈ store.committedRows call,
        old.createdAt < new.createdAt := by
      intro old isOld new isNew
      rcases isRow new isNew with ⟨other, otherMem, rfl⟩
      exact ((running.rows other otherMem).2.2.2.2 old isOld).2
    rcases getLatest_append_of_later later isCommitted ⟨isArtifact, isFormat⟩ with
      ⟨newest, isNew, isNewest⟩
    refine iff_of_true ?_ ?_
    · intro latest found
      rw [isNewest] at found
      cases found
      rcases isRow newest isNew with ⟨other, otherMem, rfl⟩
      exact (running.rows other otherMem).2.2.1
    · intro _ _ _ record isRecord
      rw [← isFormat]
      exact (isFresh record isRecord).1
  · have apart : ∀ row ∈ store.committedRows call, ¬ OfFormat artifactId format row := by
      intro row mem isOf
      rcases isRow row mem with ⟨entry, isEntry, rfl⟩
      exact inserted ⟨entry, isEntry, isOf.2⟩
    rw [getLatest_append_of_other apart]
    constructor
    · intro current latest found stale
      exact absurd (current latest found) stale
    · intro free latest found
      by_contra stale
      have isNeeded : format ∈ needsGeneration start.records artifactId headId formats := by
        refine mem_needsGeneration.mpr ⟨isRequested, ?_⟩
        intro other otherFound
        rw [found] at otherFound
        cases otherFound
        exact stale
      rcases running.rows_of_done done isNeeded with insertedRow | ⟨record, isRecord, taken⟩
      · exact inserted insertedRow
      · rw [free latest found stale record isRecord] at taken
        cases taken

/-- A call without interruptions, up to its commit, and whether it returns. -/
def regenerateAlone (setting : RunSetting) (store : ExportState) (call : CallId)
    (artifactId artifactType headId : String) (formats : List String) (outcomes : List Bool) :
    ExportState × Bool :=
  ((exports setting).drive (store, [])
    (.regenerate call artifactId artifactType headId formats :: outcomes.map (.work call))).1.step
      setting (.commit call)

theorem commit_of_returns (returns : (store.step setting (.commit call)).2 = true) :
    store.calls call = some [] ∧
      (store.step setting (.commit call)).1.records = store.records ++ store.committedRows call ∧
      (store.step setting (.commit call)).1.heads = store.heads := by
  cases open_ : store.calls call with
  | none => simp [ExportState.step, open_] at returns
  | some tasks =>
    cases tasks with
    | nil => simp [ExportState.step, ExportState.commit, open_, committedRows]
    | cons task rest => simp [ExportState.step, open_] at returns

theorem staleFormats_regenerateAlone (dated : Dated store)
    (closed : ∀ other, store.calls other = none) (isHead : store.heads artifactId = some headId)
    {artifactType : String} {outcomes : List Bool}
    (returns : (regenerateAlone setting store call artifactId artifactType headId formats
      outcomes).2 = true) :
    staleFormats (regenerateAlone setting store call artifactId artifactType headId formats
        outcomes).1.records artifactId
      ((regenerateAlone setting store call artifactId artifactType headId formats
        outcomes).1.heads artifactId) formats = [] ↔
      Regenerable store.records artifactId headId formats := by
  have begun : Regenerating store call artifactId headId
      (needsGeneration store.records artifactId headId formats)
      (store.step setting (.regenerate call artifactId artifactType headId formats)).1 :=
    regenerating_begin dated closed artifactType
  have running : Regenerating store call artifactId headId
      (needsGeneration store.records artifactId headId formats)
      ((exports setting).drive (store, []) (.regenerate call artifactId artifactType headId formats
        :: outcomes.map (.work call))).1 :=
    begun.drive outcomes _
  rcases commit_of_returns returns with ⟨done, records, heads⟩
  unfold regenerateAlone
  rw [records, heads, running.records, running.heads, isHead, staleFormats_eq_nil_iff]
  exact forall₂_congr fun format isRequested => running.current_iff done isRequested

end ExportState

/-- The formats that are stale after a call on the head that nothing interrupts. -/
def staleAfter (setting : RunSetting) (store : ExportState) (call : CallId)
    (artifactId artifactType headId : String) (formats : List String) (outcomes : List Bool) :
    List String :=
  staleFormats
    (store.regenerateAlone setting call artifactId artifactType headId formats outcomes).1.records
    artifactId
    ((store.regenerateAlone setting call artifactId artifactType headId formats
      outcomes).1.heads artifactId)
    formats

theorem sound_of_initial {setting : RunSetting} {start : ExportState}
    (initial : (exports setting).initial start) : start.Sound ∧ start.Dated := by
  rcases initial with ⟨noRecords, noRows, noCalls⟩
  refine ⟨⟨?_, ?_⟩, ?_, ?_, ?_⟩
  · intro claim isClaim
    cases isClaim with
    | stored mem =>
      rw [noRecords] at mem
      cases mem
    | uncommitted mem =>
      rw [noRows] at mem
      cases mem
    | announced known mem =>
      rw [noCalls] at known
      cases known
  · intro call tasks known
    rw [noCalls] at known
    cases known
  · rw [noRecords]
    exact forall_mem_nil _
  · rw [noRows]
    exact forall_mem_nil _
  · rw [noRows]
    exact forall_mem_nil _

def exampleSetting : RunSetting where
  env := ExportWriter.plainEnv
  freshId := toString
  manifest := ⟨"1", [⟨"html", false, ["quiz"]⟩]⟩
  baseDir := "exports"
  runId := "run-1"

def emptyExports : ExportState where
  now := 0
  files _ := none
  records := []
  uncommitted := []
  heads _ := some "snapshot-1"
  calls _ := none

/-- One approved snapshot, to be exported in a format. -/
def approvedQuiz (format : String) : JsonObject :=
  [("approved_snapshot_ids", .arr [.str "snapshot-1"]),
    ("rendered_snapshots", .arr [
      .obj [("snapshot_id", .str "snapshot-1"), ("artifact_id", .str "artifact-1")]]),
    ("contract", .obj [("export_formats", .arr [.str format])])]

/-- One file, one record and the commit. -/
def completedPage : List ExportInput :=
  [.persistCompletion 0 (approvedQuiz "html"), .work 0 true, .work 0 true, .commit 0]

theorem completedPage_names : NamesFormats exampleSetting (approvedQuiz "html") := by
  intro _ formats isFormats
  cases isFormats
  refine .inr ⟨by decide, ?_, forall_mem_nil _⟩
  intro snapshot mem
  have isSnapshot : snapshot ∈ [[("snapshot_id", Json.str "snapshot-1"),
      ("artifact_id", Json.str "artifact-1")]] := mem
  rw [mem_singleton.mp isSnapshot]
  decide +kernel

theorem completedPage_allowed :
    ∀ visit ∈ (exports exampleSetting).visits emptyExports completedPage,
      Allowed exampleSetting visit.1 visit.2 := by
  refine forall_mem_cons.mpr ⟨completedPage_names, forall_mem_cons.mpr ⟨?_,
    forall_mem_cons.mpr ⟨?_, forall_mem_singleton.mpr trivial⟩⟩⟩
  · intro path file rest _ claim isClaim
    have begun : (emptyExports.begin 0
        (completionTasks exampleSetting (approvedQuiz "html"))).IsClaim claim := isClaim
    have known := ExportState.isClaim_of_begin (completionTasks_covered completedPage_names) begun
    cases known with
    | stored mem => cases mem
    | uncommitted mem => cases mem
    | announced known _ => cases known
  · intro path file rest next
    cases next

/-- Two files, two records and the commit. -/
def completedQuiz (format : String) : List ExportInput :=
  [.persistCompletion 0 (approvedQuiz format), .work 0 true, .work 0 true, .work 0 true,
    .work 0 true, .commit 0]

end OhMyClass.Gateway.ExportRuns
