import OhMyClass.Gateway.Retention.Sequences

/-!
# Cleanup passes and the rollups they leave

A pass rolls up every day with an event old enough to be purged and then
purges whole runs.  Rolling a day up again after one of its runs was purged
replaces its row by the aggregate of what is left.
-/

namespace OhMyClass.Gateway

open List OhMyClass.Transition Session TeachingPackRunStore

structure DataLifecycleCleanupResult where
  dryRun : Bool
  rolledUpDays : Nat
  purgedEvents : Nat
  purgedSnapshots : Nat
  purgedRuns : List RunId

/-- A dry run does everything and rolls back. -/
def runDataLifecycleCleanup (builtin : BuiltinConversions) (dryRun : Bool) :
    DbSession DataLifecycleCleanupResult := fun db =>
  (do
    let daysToRollUp ← Session.read (daysNeedingRollupBeforePurge retention.events)
    Session.forEach daysToRollUp (ensureKpiRollupForDay builtin)
    let purgedEvents ← purgeExpiredRunEvents
    let purgedSnapshots ← purgeExpiredSnapshots
    let purgedRuns ← purgeExpiredRuns
    Session.write fun after => if dryRun then db else after
    return { dryRun, rolledUpDays := daysToRollUp.length, purgedEvents, purgedSnapshots,
             purgedRuns } : DbSession DataLifecycleCleanupResult) db

inductive CleanupOp where
  | log (op : SequenceOp)
  | cleanup (dryRun : Bool)

namespace CleanupOp

def step (builtin : BuiltinConversions) (db : Db) : CleanupOp → Db × Except GatewayError Unit
  | log op => op.step db
  | cleanup dryRun =>
    SequenceOp.step.finish (Session.atomically (runDataLifecycleCleanup builtin dryRun) db)

/-- The days a committed pass rolls up. -/
def rolledDays (builtin : BuiltinConversions) (db : Db) : CleanupOp → List Date
  | cleanup false =>
    match (runDataLifecycleCleanup builtin false db).1 with
    | .ok _ => daysNeedingRollupBeforePurge retention.events db
    | .error _ => []
  | _ => []

end CleanupOp

/-- The database, every event ever recorded in it, and the days rolled up. -/
structure CleanupLog where
  db : Db
  recorded : List RunEvent
  rolledUp : List Date

namespace CleanupLog

def step (builtin : BuiltinConversions) (log : CleanupLog) (op : CleanupOp) :
    CleanupLog × Except GatewayError Unit :=
  (⟨(op.step builtin log.db).1, log.recorded ++ newEvents log.db (op.step builtin log.db).1,
    op.rolledDays builtin log.db ++ log.rolledUp⟩, (op.step builtin log.db).2)

/-- Any database before its first event and its first rollup. -/
def start (db : Db) : CleanupLog :=
  ⟨{ db with events := .empty, outbox := .empty, rollups := .empty }, [], []⟩

end CleanupLog

def cleanupMachine (builtin : BuiltinConversions) :
    Machine CleanupLog CleanupOp (Except GatewayError Unit) where
  initial log := ∃ db, log = CleanupLog.start db
  step := CleanupLog.step builtin

/-- Every day ever rolled up has a row, the aggregate of all events ever
recorded on that day. -/
def RollupsCountEverything (builtin : BuiltinConversions) (log : CleanupLog) : Prop :=
  ∀ day ∈ log.rolledUp, ∃ rollup ∈ log.db.rollups.rows,
    computeDailyKpiRollup builtin log.recorded day = .ok rollup

/-- A committed pass rolls up only days that have lost no event. -/
def RollsUpWholeDays (builtin : BuiltinConversions) (log : CleanupLog) (op : CleanupOp) : Prop :=
  ∀ day ∈ op.rolledDays builtin log.db,
    eventsOf day log.db.events.rows = eventsOf day log.recorded

/-! ## What a pass does to events and rollups -/

/-- Only events and rollups are watched; purges delete events and touch no
rollup. -/
structure Purges (before after : Db) : Prop where
  now : after.now = before.now
  rollups : after.rollups = before.rollups
  events : after.events.rows.Sublist before.events.rows

theorem Purges.refl (db : Db) : Purges db db :=
  ⟨rfl, rfl, List.Sublist.refl _⟩

theorem Purges.trans {first second third : Db} (left : Purges first second)
    (right : Purges second third) : Purges first third :=
  ⟨right.now.trans left.now, right.rollups.trans left.rollups, right.events.trans left.events⟩

theorem purges_deleteEvents (db : Db) (selected : RunId → Bool) :
    Purges db (db.deleteEvents selected) :=
  ⟨rfl, rfl, filter_sublist⟩

theorem purges_deleteSnapshots (db : Db) (selected : ArtifactSnapshot → Bool) :
    Purges db (db.deleteSnapshots selected) :=
  ⟨rfl, rfl, List.Sublist.refl _⟩

theorem purges_deleteRun (db : Db) (runId : RunId) : Purges db (db.deleteRun runId) :=
  ⟨rfl, rfl, filter_sublist⟩

theorem purges_foldl_purgeRun (deleted : List Run) (found : Db × List RunId) :
    Purges found.1 (deleted.foldl purgeRun found).1 := by
  induction deleted generalizing found with
  | nil => exact .refl _
  | cons run rest ih =>
    have first : Purges found.1 (purgeRun found run).1 := by
      simp only [purgeRun]
      split
      · exact purges_deleteRun _ _
      · exact .refl _
    exact first.trans (ih (purgeRun found run))

variable {builtin : BuiltinConversions} {db after : Db}

theorem runDataLifecycleCleanup_eq_ok {result : DataLifecycleCleanupResult}
    (ret : runDataLifecycleCleanup builtin false db = (.ok result, after)) :
    ∃ rolled, forEach (daysNeedingRollupBeforePurge retention.events db)
        (ensureKpiRollupForDay builtin) db = (.ok ⟨⟩, rolled) ∧ Purges rolled after := by
  unfold runDataLifecycleCleanup at ret
  rw [read_bind] at ret
  rcases Session.bind_eq_ok.mp ret with ⟨_, rolled, rollupsEq, ret⟩
  rcases Session.bind_eq_ok.mp ret with ⟨purgedEvents, withoutEvents, eventsEq, ret⟩
  obtain ⟨purgedSnapshots, withoutSnapshots, snapshotsEq, ret⟩ :=
    Session.bind_eq_ok.mp ret
  rcases Session.bind_eq_ok.mp ret with ⟨purgedRuns, withoutRuns, runsEq, ret⟩
  cases ret
  cases eventsEq
  cases snapshotsEq
  cases runsEq
  refine ⟨rolled, rollupsEq, ?_⟩
  apply (purges_deleteEvents rolled _).trans
  apply (purges_deleteSnapshots _ _).trans
  exact purges_foldl_purgeRun _ (_, [])

theorem step_dryRun (builtin : BuiltinConversions) (db : Db) :
    (CleanupOp.step builtin db (.cleanup true)).1 = db := by
  rcases atomically_cases (runDataLifecycleCleanup builtin true) db with
    ⟨result, after, ret, committed⟩ | ⟨error, _, _, rolledBack⟩
  · unfold runDataLifecycleCleanup at ret
    rw [read_bind] at ret
    rcases Session.bind_eq_ok.mp ret with ⟨_, _, _, ret⟩
    rcases Session.bind_eq_ok.mp ret with ⟨_, _, _, ret⟩
    cases ret
    simp only [CleanupOp.step, committed, SequenceOp.step.finish]
    rfl
  · simp only [CleanupOp.step, rolledBack, SequenceOp.step.finish]

/-- The other operations keep the rollups; each deletes events or writes one
with the current time. -/
structure LogStep (before after : Db) : Prop where
  now : before.now ≤ after.now
  rollups : after.rollups = before.rollups
  events : after.events.rows.Sublist before.events.rows ∨
    ∃ row, after.events.rows = before.events.rows ++ [row] ∧ row.createdAt = before.now ∧
      ∀ stored ∈ before.events.rows, ¬ RunEvent.Conflict stored row

theorem LogStep.of_purges {before : Db} (purges : Purges before after) :
    LogStep before after :=
  ⟨purges.now.ge, purges.rollups, .inl purges.events⟩

theorem logStep_step (db : Db) (op : SequenceOp) : LogStep db (op.step db).1 := by
  cases isTarget : op.target with
  | none =>
    cases op with
    | tick elapsed =>
      exact ⟨Int.le_add_of_nonneg_right (Int.natCast_nonneg elapsed), rfl, .inl (.refl _)⟩
    | purgeExpiredRunEvents => exact .of_purges (purges_deleteEvents _ _)
    | writeEvent | writeObservabilityEvent | softDeleteRun | restoreRun => cases isTarget
  | some runId =>
    by_cases hasRun : db.HasRun runId
    · rcases SequenceOp.writesRow isTarget hasRun with ⟨runs, row, writes⟩
      by_cases taken : ∃ stored ∈ db.outbox.rows, RunEventOutbox.Conflict stored
          (outboxRow runId (TeachingPackRunStore.nextSequence db runId) db.now)
      · rcases taken with ⟨stored, mem, clash⟩
        obtain ⟨events, rejected⟩ :=
          writeRow_of_taken writes.rowOf writes.hasRun mem clash
        rw [writes.raised rejected]
        exact .of_purges (.refl db)
      · simp only [not_exists, not_and] at taken
        obtain ⟨events, outbox, eventRows, _, written⟩ :=
          writeRow_of_free writes.rowOf writes.hasRun taken
        obtain ⟨runEq, sequenceEq, createdEq⟩ :=
          writes.rowOf (TeachingPackRunStore.nextSequence db runId) db.now
        rw [writes.returned written]
        refine ⟨le_rfl, rfl, .inr ⟨_, eventRows, createdEq, ?_⟩⟩
        intro stored mem
        apply not_conflict_next mem
        exact sequenceEq.trans
          (congrArg (TeachingPackRunStore.nextSequence db) runEq.symm)
    · rw [SequenceOp.step_of_missing isTarget hasRun]
      exact .of_purges (.refl db)

/-! ## Rollups of whole days stay right -/

variable {day : Date}

theorem computeDailyKpiRollup_congr {first second : List RunEvent}
    (same : eventsOf day first = eventsOf day second) :
    computeDailyKpiRollup builtin first day = computeDailyKpiRollup builtin second day := by
  rw [computeDailyKpiRollup, computeDailyKpiRollup, same]

theorem utcDay_over {created now retentionDays : Int} (atLeastOne : 1 ≤ retentionDays)
    (old : created < now - days retentionDays) : days (utcDay created + 1) ≤ now := by
  simp only [utcDay, days, seconds] at old ⊢
  omega

theorem day_over (needed : day ∈ daysNeedingRollupBeforePurge retention.events db) :
    days (day + 1) ≤ db.now := by
  rw [daysNeedingRollupBeforePurge, mem_insertionSort, mem_dedup] at needed
  rcases mem_map.mp needed with ⟨event, mem, rfl⟩
  exact utcDay_over (by decide) (of_decide_eq_true (mem_filter.mp mem).2)

theorem utcDay_ne_of_over {now : DateTime} (ended : days (day + 1) ≤ now) :
    utcDay now ≠ day := by
  rintro rfl
  simp only [utcDay, days, seconds] at ended
  omega

namespace CleanupLog

variable {builtin : BuiltinConversions} {log : CleanupLog}

/-- What is stored was recorded, days rolled up are over, and their rollups are
right. -/
structure Sound (builtin : BuiltinConversions) (log : CleanupLog) : Prop where
  stored : log.db.events.rows.Sublist log.recorded
  ended : ∀ day ∈ log.rolledUp, days (day + 1) ≤ log.db.now
  complete : RollupsCountEverything builtin log

theorem sound_start (db : Db) : Sound builtin (start db) :=
  ⟨List.Sublist.refl _, nofun, nofun⟩

theorem eventsOf_append {day : Date} {recorded : List RunEvent} {row : RunEvent}
    (ended : days (day + 1) ≤ row.createdAt) :
    eventsOf day (recorded ++ [row]) = eventsOf day recorded := by
  have otherDay : (utcDay row.createdAt == day) = false :=
    beq_eq_false_iff_ne.mpr (utcDay_ne_of_over ended)
  rw [eventsOf, filter_append, filter_cons, otherDay]
  simp only [Bool.false_eq_true, if_false, filter_nil, append_nil]
  rfl

variable {after : Db}

theorem Sound.of_logStep (sound : log.Sound builtin) (logStep : LogStep log.db after) :
    Sound builtin ⟨after, log.recorded ++ newEvents log.db after, log.rolledUp⟩ := by
  have ended : ∀ day ∈ log.rolledUp, days (day + 1) ≤ after.now := fun day rolled =>
    (sound.ended day rolled).trans logStep.now
  rcases logStep.events with purged | ⟨row, rows, createdEq, fresh⟩
  · rw [newEvents_of_subset fun event mem => purged.subset mem, append_nil]
    refine ⟨purged.trans sound.stored, ended, ?_⟩
    intro day rolled
    rw [logStep.rollups]
    exact sound.complete day rolled
  · rw [newEvents_of_append rows fresh]
    refine ⟨?_, ended, ?_⟩
    · rw [rows]
      exact sound.stored.append (.refl _)
    · intro day rolled
      rcases sound.complete day rolled with ⟨rollup, mem, computed⟩
      refine ⟨rollup, by rw [logStep.rollups]; exact mem, ?_⟩
      rw [computeDailyKpiRollup_congr (eventsOf_append _)]
      · exact computed
      · rw [createdEq]
        exact sound.ended day rolled

/-- A pass that rolls up the listed days leaves their rows right exactly if none
of the days has lost an event. -/
theorem Sound.pass_iff (sound : log.Sound builtin) {rolledDays : List Date} {rolled : Db}
    {answer : PUnit} (rollups : forEach rolledDays (ensureKpiRollupForDay builtin) log.db =
      (.ok answer, rolled)) (purges : Purges rolled after) :
    RollupsCountEverything builtin ⟨after, log.recorded, rolledDays ++ log.rolledUp⟩ ↔
      ∀ day ∈ rolledDays, eventsOf day log.db.events.rows = eventsOf day log.recorded := by
  rcases forEach_ensureKpiRollupForDay rollups with ⟨_, computed, untouched⟩
  constructor
  · intro complete day isRolled
    rcases complete day (mem_append_left _ isRolled) with ⟨right, rightStored, rightEq⟩
    rcases computed day isRolled with ⟨written, writtenStored, writtenEq⟩
    rcases computeDailyKpiRollup_counts rightEq with ⟨rightDay, rightCount⟩
    rcases computeDailyKpiRollup_counts writtenEq with ⟨writtenDay, writtenCount⟩
    rw [purges.rollups] at rightStored
    have same : right = written :=
      rolled.rollups.eq_of_conflict (fun _ _ => Eq.symm) rightStored writtenStored
        (rightDay.trans writtenDay.symm)
    apply (sound.stored.filter _).eq_of_length
    rw [same] at rightCount
    exact writtenCount.symm.trans rightCount
  · intro whole day isRolledUp
    rw [purges.rollups]
    by_cases isRolled : day ∈ rolledDays
    · rcases computed day isRolled with ⟨written, writtenStored, writtenEq⟩
      refine ⟨written, writtenStored, ?_⟩
      rw [← computeDailyKpiRollup_congr (whole day isRolled)]
      exact writtenEq
    · obtain ⟨rollup, stored, rollupEq⟩ :=
        sound.complete day ((mem_append.mp isRolledUp).resolve_left isRolled)
      refine ⟨rollup, untouched rollup stored ?_, rollupEq⟩
      rw [(computeDailyKpiRollup_counts rollupEq).1]
      exact isRolled

/-- After the step the rollups are right exactly if the step rolled up whole
days, and then the log is sound again. -/
def StepsRight (builtin : BuiltinConversions) (log : CleanupLog) (op : CleanupOp) : Prop :=
  (RollupsCountEverything builtin (log.step builtin op).1 ↔ RollsUpWholeDays builtin log op) ∧
    (RollupsCountEverything builtin (log.step builtin op).1 →
      Sound builtin (log.step builtin op).1)

theorem Sound.stepsRight_of_logStep (sound : log.Sound builtin) {op : CleanupOp}
    (noDays : op.rolledDays builtin log.db = [])
    (logStep : LogStep log.db (op.step builtin log.db).1) : StepsRight builtin log op := by
  have next := sound.of_logStep logStep
  have stepEq : (log.step builtin op).1 =
      ⟨(op.step builtin log.db).1, log.recorded ++ newEvents log.db (op.step builtin log.db).1,
        log.rolledUp⟩ := by
    simp only [CleanupLog.step, noDays, nil_append]
  have guardHolds : RollsUpWholeDays builtin log op := by
    rw [RollsUpWholeDays, noDays]
    exact nofun
  rw [StepsRight, stepEq]
  exact ⟨⟨fun _ => guardHolds, fun _ => next.complete⟩, fun _ => next⟩

theorem Sound.stepsRight_of_committed (sound : log.Sound builtin)
    {result : DataLifecycleCleanupResult}
    (ret : runDataLifecycleCleanup builtin false log.db = (.ok result, after)) :
    StepsRight builtin log (.cleanup false) := by
  rcases runDataLifecycleCleanup_eq_ok ret with ⟨rolled, rollups, purges⟩
  have rolledEq := (forEach_ensureKpiRollupForDay rollups).1
  have events : after.events.rows.Sublist log.db.events.rows := by
    rw [rolledEq] at purges
    exact purges.events
  have now : after.now = log.db.now := by
    rw [rolledEq] at purges
    exact purges.now
  have stepEq : (log.step builtin (.cleanup false)).1 =
      ⟨after, log.recorded,
        daysNeedingRollupBeforePurge retention.events log.db ++ log.rolledUp⟩ := by
    simp only [CleanupLog.step, CleanupOp.step, CleanupOp.rolledDays, ret,
      atomically_of_ok ret, SequenceOp.step.finish]
    rw [newEvents_of_subset fun event mem => events.subset mem, append_nil]
  have guardEq : RollsUpWholeDays builtin log (.cleanup false) ↔
      ∀ day ∈ daysNeedingRollupBeforePurge retention.events log.db,
        eventsOf day log.db.events.rows = eventsOf day log.recorded := by
    simp only [RollsUpWholeDays, CleanupOp.rolledDays, ret]
  rw [StepsRight, stepEq, guardEq]
  apply And.intro (sound.pass_iff rollups purges)
  intro complete
  refine ⟨events.trans sound.stored, ?_, complete⟩
  intro day isRolledUp
  rw [now]
  rcases mem_append.mp isRolledUp with isRolled | earlier
  · exact day_over isRolled
  · exact sound.ended day earlier

theorem Sound.step (sound : log.Sound builtin) (op : CleanupOp) : StepsRight builtin log op := by
  cases op with
  | log op => exact sound.stepsRight_of_logStep rfl (logStep_step log.db op)
  | cleanup dryRun =>
    cases dryRun with
    | true =>
      apply sound.stepsRight_of_logStep rfl
      rw [step_dryRun]
      exact .of_purges (.refl log.db)
    | false =>
      rcases atomically_cases (runDataLifecycleCleanup builtin false) log.db with
        ⟨result, after, ret, _⟩ | ⟨error, _, raised, rolledBack⟩
      · exact sound.stepsRight_of_committed ret
      · apply sound.stepsRight_of_logStep
        · simp only [CleanupOp.rolledDays, raised]
        · simp only [CleanupOp.step, rolledBack, SequenceOp.step.finish]
          exact .of_purges (.refl log.db)

end CleanupLog

/-- In every history of a database, each rollup counts every event ever
recorded on its day after every step exactly if no pass rolls up a day that has
lost an event. -/
theorem rollups_count_everything_iff (builtin : BuiltinConversions) (db : Db)
    (ops : List CleanupOp) :
    (∀ visit ∈ (cleanupMachine builtin).visits (CleanupLog.start db) ops,
        RollupsCountEverything builtin (visit.1.step builtin visit.2).1) ↔
      ∀ visit ∈ (cleanupMachine builtin).visits (CleanupLog.start db) ops,
        RollsUpWholeDays builtin visit.1 visit.2 :=
  Machine.forall_visits_congr (CleanupLog.Sound builtin)
    (fun _ op sound => (sound.step op).2) (fun _ op sound => (sound.step op).1)
    (CleanupLog.sound_start db) ops

def finishedRunsDb : Db :=
  { Db.empty 0 with
    runs := ⟨[⟨"run-a", "teacher-1", .completed, 0, none, none, none, none⟩,
      ⟨"run-b", "teacher-1", .completed, 0, none, none, none, none⟩], by decide⟩ }

/-- Both runs have an event on the first day, and one of them is deleted that
day; two passes follow once its events may be purged. -/
def twoPasses : List CleanupOp :=
  [.log (.writeEvent ⟨"run-b", "teaching_pack.run.completed", .teacher, none, none⟩),
    .log (.softDeleteRun "run-a" "teacher-1"), .log (.tick (days 91).toNat), .cleanup false,
    .cleanup false]

/-- Conversions for payloads whose values need none. -/
def noConversions : BuiltinConversions where
  text := fun _ => ""
  parseInt := fun _ => none
  truncate := fun _ => none

/-- The first pass counts both events of the day, the second only the one that
is left; both events are past their retention period before either pass. -/
theorem second_pass_loses_event :
    (¬ ∀ visit ∈ (cleanupMachine noConversions).visits (CleanupLog.start finishedRunsDb) twoPasses,
      RollupsCountEverything noConversions (visit.1.step noConversions visit.2).1) ∧
    ((cleanupMachine noConversions).drive (CleanupLog.start finishedRunsDb, [])
      (twoPasses.take 4)).1.db.rollups.rows.map RunEventKpiRollup.eventCount = [2] ∧
    ((cleanupMachine noConversions).drive (CleanupLog.start finishedRunsDb, [])
      twoPasses).1.db.rollups.rows.map RunEventKpiRollup.eventCount = [1] ∧
    (∀ event ∈ ((cleanupMachine noConversions).drive (CleanupLog.start finishedRunsDb, [])
        (twoPasses.take 3)).1.recorded,
      utcDay event.createdAt = 0 ∧ event.createdAt < days 91 - days retention.events) := by
  apply And.intro _ (by decide +kernel)
  intro complete
  let visits := (cleanupMachine noConversions).visits (CleanupLog.start finishedRunsDb) twoPasses
  let secondPass := visits.get ⟨4, by decide +kernel⟩
  obtain ⟨rollup, stored, computed⟩ :=
    complete secondPass (get_mem visits _) 0 (by decide +kernel)
  have counted := (computeDailyKpiRollup_counts computed).2
  have listed := mem_map_of_mem (f := RunEventKpiRollup.eventCount) stored
  rw [counted] at listed
  revert listed
  decide +kernel

end OhMyClass.Gateway
