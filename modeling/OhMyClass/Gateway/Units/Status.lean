import OhMyClass.Gateway.Units.Orchestrator

/-!
# Units at rest

What becomes of a unit whose children are done, and the two summaries of it.
-/

namespace OhMyClass.Gateway.Units

open List

/-!
## Units without active children

Once no child is active, either a session can be spawned or the unit is
marked, unless children have failed and none has completed.  Such a unit is
blocked: the orchestrator leaves it without a marking.
-/

section

open OhMyClass.Contracts OhMyClass.Precedence

variable {sequence : LessonSequence} {childrenStates : ChildrenStates} {cap : Int}

/-- A session is spawned or the unit is marked. -/
def Progresses (actions : List SessionAction) : Prop :=
  Emits actions .spawn ∨ Emits actions .markComplete ∨ Emits actions .markPartiallyComplete
  deriving Decidable

theorem emits_spawn_decide_iff (positive : 1 ≤ cap) :
    Emits (Units.decide sequence childrenStates cap) .spawn ↔
      ∃ session ∈ sequence.sessions, Ready sequence childrenStates session.sessionId := by
  rw [emits_spawn_iff, spawnedIds_decide]
  constructor
  · intro spawns
    rcases exists_mem_of_ne_nil _ spawns with ⟨sessionId, spawned⟩
    have listed := spawnedIds_sessionActions_sublist.subset spawned
    rcases mem_map.mp listed with ⟨session, mem, rfl⟩
    exact ⟨session, mem, ready_of_mem_spawnedIds spawned⟩
  · rintro ⟨session, mem, isReady⟩
    exact spawnedIds_ne_nil_of_ready positive mem isReady

theorem emits_markPartiallyComplete_iff :
    Emits (Units.decide sequence childrenStates cap) .markPartiallyComplete ↔
      sequence.sessionIds.toFinset ≠ idsWith completedStatus childrenStates ∧
        idsWith failedStatus childrenStates ≠ ∅ ∧
        ¬ Emits (Units.decide sequence childrenStates cap) .spawn ∧
        idsWith activeStatuses childrenStates = ∅ ∧
        idsWith completedStatus childrenStates ≠ ∅ := by
  rw [emits_spawn_iff, spawnedIds_decide, not_not]
  have noMark : ¬ Emits (sessionActions sequence childrenStates sequence.sessions cap)
      .markPartiallyComplete := by
    rintro ⟨action, mem, isMark⟩
    rcases action_of_mem_sessionActions mem with isSpawn | isBlock
    · simp [isMark] at isSpawn
    · simp [isMark] at isBlock
  unfold Units.decide
  dsimp only
  split
  · next allCompleted =>
    simp only [allCompleted, ne_eq, not_true_eq_false, false_and, iff_false]
    rintro ⟨action, mem, isMark⟩
    rcases mem_append.mp mem with earlier | last
    · exact noMark ⟨action, earlier, isMark⟩
    · simp only [mem_singleton] at last
      subst last
      cases isMark
  · next notAll =>
    split
    · next isPartial => simp [Emits, markPartiallyComplete, notAll, isPartial]
    · next notPartial =>
      constructor
      · exact fun isMark => absurd isMark noMark
      · rintro ⟨_, isPartial⟩
        exact absurd isPartial notPartial

theorem completed_of_idle (idle : idsWith activeStatuses childrenStates = ∅)
    (noneFailed : idsWith failedStatus childrenStates = ∅) {sessionId : String}
    (isChild : sessionId ∈ childrenStates) :
    childrenStates.lookup sessionId = some .completed := by
  rcases Finmap.mem_iff.mp isChild with ⟨status, isStatus⟩
  rcases status_cases status with rfl | isFailed | isActive
  · exact isStatus
  · have failed : sessionId ∈ idsWith failedStatus childrenStates :=
      mem_idsWith.mpr ⟨status, contains_iff_mem.mp isFailed, isStatus⟩
    simp [noneFailed] at failed
  · have active : sessionId ∈ idsWith activeStatuses childrenStates :=
      mem_idsWith.mpr ⟨status, isActive, isStatus⟩
    simp [idle] at active

/-- While nothing has failed, an acyclic unit has completed or has a ready
session. -/
theorem complete_or_ready (acyclic : Acyclic (Requires sequence))
    (known : ∀ sessionId ∈ childrenStates, sessionId ∈ sequence.sessionIds)
    (idle : idsWith activeStatuses childrenStates = ∅)
    (noneFailed : idsWith failedStatus childrenStates = ∅) :
    sequence.sessionIds.toFinset = idsWith completedStatus childrenStates ∨
      ∃ session ∈ sequence.sessions, Ready sequence childrenStates session.sessionId := by
  by_cases allSpawned : ∀ sessionId ∈ sequence.sessionIds, sessionId ∈ childrenStates
  · left
    ext sessionId
    rw [mem_toFinset, mem_idsWith]
    constructor
    · intro listed
      have isCompleted := completed_of_idle idle noneFailed (allSpawned sessionId listed)
      exact ⟨.completed, by simp [completedStatus], isCompleted⟩
    · rintro ⟨status, _, isStatus⟩
      exact known sessionId (Finmap.mem_of_lookup_eq_some isStatus)
  · right
    simp only [not_forall] at allSpawned
    rcases allSpawned with ⟨missing, listed, isMissing⟩
    let outstanding : Set String :=
      {sessionId | sessionId ∈ sequence.sessionIds ∧ sessionId ∉ childrenStates}
    have isSome : outstanding.Nonempty := ⟨missing, listed, isMissing⟩
    rcases acyclic.exists_next (finite_toSet sequence.sessionIds)
      (fun _ _ isRequired => isRequired.known) isSome with ⟨next, ⟨isListed, noChild⟩, isFirst⟩
    rcases mem_map.mp isListed with ⟨session, mem, rfl⟩
    refine ⟨session, mem, noChild, fun required isRequired => ?_⟩
    have spawned : required ∈ childrenStates := by
      by_contra notSpawned
      exact isFirst required isRequired ⟨isRequired.known, notSpawned⟩
    exact completed_of_idle idle noneFailed spawned

/-- Where children have failed, a unit without active children progresses
exactly when some child has completed or a session without prerequisites is
still to be spawned. -/
theorem failed_unit_progresses_iff (idle : idsWith activeStatuses childrenStates = ∅)
    (positive : 1 ≤ cap) (someFailed : idsWith failedStatus childrenStates ≠ ∅) :
    Progresses (Units.decide sequence childrenStates cap) ↔
      idsWith completedStatus childrenStates ≠ ∅ ∨
        ∃ session ∈ sequence.sessions, session.sessionId ∉ childrenStates ∧
          predecessors sequence session.sessionId = [] := by
  constructor
  · intro progresses
    by_contra stalls
    simp only [not_or, not_not] at stalls
    rcases stalls with ⟨noneCompleted, noRoot⟩
    rcases progresses with spawns | marks | marks
    · rcases (emits_spawn_decide_iff positive).mp spawns with ⟨session, mem, noChild, done⟩
      apply noRoot
      refine ⟨session, mem, noChild, eq_nil_iff_forall_not_mem.mpr ?_⟩
      intro required isRequired
      have completed : required ∈ idsWith completedStatus childrenStates :=
        mem_idsWith.mpr ⟨.completed, by simp [completedStatus], done required isRequired⟩
      simp [noneCompleted] at completed
    · rw [emits_markComplete_iff, noneCompleted, toFinset_eq_empty_iff,
        LessonSequence.sessionIds, map_eq_nil_iff] at marks
      have nonempty := sequence.sessionCount.1
      simp [marks] at nonempty
    · exact (emits_markPartiallyComplete_iff.mp marks).2.2.2.2 noneCompleted
  · rintro (someCompleted | ⟨session, mem, noChild, isRoot⟩)
    · by_cases spawns : Emits (Units.decide sequence childrenStates cap) .spawn
      · exact .inl spawns
      · by_cases allCompleted :
            sequence.sessionIds.toFinset = idsWith completedStatus childrenStates
        · exact .inr (.inl (emits_markComplete_iff.mpr allCompleted))
        · exact .inr (.inr (emits_markPartiallyComplete_iff.mpr
            ⟨allCompleted, someFailed, spawns, idle, someCompleted⟩))
    · left
      rw [emits_spawn_decide_iff positive]
      refine ⟨session, mem, noChild, fun required isRequired => ?_⟩
      rw [Requires, isRoot] at isRequired
      cases isRequired

/-- A unit without active children is given something to do or a marking: where
children have failed, exactly when some child has completed or a session
without prerequisites is still to be spawned; where none has failed, whenever
the prerequisites are acyclic and every child is one of the sessions. -/
theorem idle_unit_progresses (idle : idsWith activeStatuses childrenStates = ∅)
    (positive : 1 ≤ cap) :
    (idsWith failedStatus childrenStates ≠ ∅ →
      (Progresses (Units.decide sequence childrenStates cap) ↔
        idsWith completedStatus childrenStates ≠ ∅ ∨
          ∃ session ∈ sequence.sessions, session.sessionId ∉ childrenStates ∧
            predecessors sequence session.sessionId = [])) ∧
      (idsWith failedStatus childrenStates = ∅ → Acyclic (Requires sequence) →
        (∀ sessionId ∈ childrenStates, sessionId ∈ sequence.sessionIds) →
        Progresses (Units.decide sequence childrenStates cap)) := by
  constructor
  · exact failed_unit_progresses_iff idle positive
  · intro noneFailed acyclic known
    rcases complete_or_ready acyclic known idle noneFailed with allCompleted | isReady
    · exact .inr (.inl (emits_markComplete_iff.mpr allCompleted))
    · exact .inl ((emits_spawn_decide_iff positive).mpr isReady)

/-! ## Units left alone -/

def sessionA : SessionPlan :=
  ⟨"A", 1, [], by decide, first_inRange⟩

def sessionB : SessionPlan :=
  ⟨"B", 2, ["A"], by decide, second_inRange⟩

def sessionC : SessionPlan :=
  ⟨"C", 3, ["B"], by decide, by decide⟩

/-- Each session builds on the one before. -/
def chain : LessonSequence :=
  ⟨[sessionA, sessionB, sessionC], by decide, checkReferences_eq_ok_iff.mpr (by decide)⟩

/-- Two sessions that build on each other. -/
def loop : LessonSequence :=
  ⟨[⟨"B", 1, ["C"], by decide, first_inRange⟩, sessionC], by decide,
    checkReferences_eq_ok_iff.mpr (by decide)⟩

def single : LessonSequence :=
  ⟨[sessionA], by decide, checkReferences_eq_ok_iff.mpr (by decide)⟩

def firstChild (status : RunStatus) : ChildrenStates :=
  Finmap.singleton "A" status

/-- No child is active and nothing is done: the first session has failed, the
sessions wait for each other, or a child is none of the sessions. -/
theorem idle_units_left_alone :
    (idsWith activeStatuses (firstChild .failed) = ∅ ∧
      ¬ Progresses (Units.decide chain (firstChild .failed) 1)) ∧
    (idsWith activeStatuses ∅ = ∅ ∧ ¬ Progresses (Units.decide loop ∅ 1)) ∧
    (idsWith activeStatuses ((firstChild .completed).insert "X" .completed) = ∅ ∧
      ¬ Progresses (Units.decide single ((firstChild .completed).insert "X" .completed) 1)) := by
  decide +kernel

theorem chain_acyclic : Acyclic (Requires chain) :=
  acyclic_of_ordered (by decide)

/-- A unit with a completed and a failed session is marked, and one whose only
child has completed spawns the next session. -/
theorem idle_chain_progresses :
    Progresses (Units.decide chain ((firstChild .completed).insert "B" .failed) 1) ∧
      Progresses (Units.decide chain (firstChild .completed) 1) := by
  constructor
  · apply ((idle_unit_progresses (by decide +kernel) le_rfl).1 (by decide +kernel)).mpr
    exact .inl (by decide +kernel)
  · apply (idle_unit_progresses (by decide +kernel) le_rfl).2 (by decide +kernel) chain_acyclic
    intro sessionId isChild
    rw [firstChild, Finmap.mem_singleton] at isChild
    subst isChild
    decide

end

/-!
## The status of a unit

`compute_unit_status` summarizes a unit from its child runs alone, `decide`
from its plan.  The two agree on completion except while every child has
completed and a session is still without one.
-/

section

open OhMyClass.Contracts OhMyClass.Sorting

inductive UnitLifecycle where
  | blocked
  | partiallyComplete
  | complete
  deriving DecidableEq

structure UnitStatusRead where
  lifecycle : UnitLifecycle
  totalSessions : Nat
  completedSessions : Nat
  activeSessions : Nat
  failedSessions : Nat

def isActiveStatus : RunStatus → Bool
  | .pending | .planning | .researching | .generating => true
  | .reviewing | .awaitingApproval | .exporting => true
  | .completed | .failed | .cancelled => false

def unitLifecycle (totalSessions completedSessions activeSessions failedSessions : Nat) :
    UnitLifecycle :=
  if totalSessions = 0 then .blocked
  else if completedSessions = totalSessions then .complete
  else if activeSessions = 0 ∧ completedSessions = 0 ∧ 0 < failedSessions then .blocked
  else .partiallyComplete

def computeUnitStatus (children : UnitSessionRuns) : UnitStatusRead :=
  let listed := listChildren children
  let completed := listed.countP fun child => child.status = .completed
  let active := listed.countP fun child => isActiveStatus child.status
  let failed := listed.countP fun child => child.status ∈ [RunStatus.failed, .cancelled]
  { lifecycle := unitLifecycle listed.length completed active failed
    totalSessions := listed.length
    completedSessions := completed
    activeSessions := active
    failedSessions := failed }

theorem unitLifecycle_eq_complete_iff {total completed active failed : Nat} :
    unitLifecycle total completed active failed = .complete ↔ total ≠ 0 ∧ completed = total := by
  unfold unitLifecycle
  split
  · next noSession => simp [noSession]
  · next someSession =>
    split
    · next allCompleted => simp [someSession, allCompleted]
    · next notAll =>
      simp only [notAll, and_false, iff_false]
      split <;> simp

variable {sequence : LessonSequence} {cap : Int} {children : UnitSessionRuns} {sessionId : String}

theorem lifecycle_eq_complete_iff :
    (computeUnitStatus children).lifecycle = .complete ↔
      children.rows ≠ [] ∧ ∀ child ∈ children.rows, child.status = .completed := by
  have listed : (listChildren children).Perm children.rows := sortBy_perm _ _
  unfold computeUnitStatus
  rw [unitLifecycle_eq_complete_iff, listed.length_eq, listed.countP_eq]
  simp

theorem HasCompleted.completed (completed : HasCompleted children sessionId)
    {child : UnitSessionRun} (stored : child ∈ children.rows)
    (same : child.sessionId = sessionId) : child.status = .completed := by
  rcases completed with ⟨other, otherStored, otherSame, isCompleted⟩
  rw [children.eq_of_conflict (fun _ _ => Eq.symm) stored otherStored
    (same.trans otherSame.symm)]
  exact isCompleted

theorem emits_markComplete_iff_hasCompleted
    (known : ∀ child ∈ children.rows, child.sessionId ∈ sequence.sessionIds) :
    Emits (Units.decide sequence (childrenStates children) cap) .markComplete ↔
      ∀ sessionId ∈ sequence.sessionIds, HasCompleted children sessionId := by
  have mem_completed (sessionId : String) :
      sessionId ∈ idsWith completedStatus (childrenStates children) ↔
        sessionId ≠ "" ∧ HasCompleted children sessionId := by
    simp [mem_idsWith, completedStatus, lookup_childrenStates_iff, HasCompleted]
  rw [emits_markComplete_iff, Finset.ext_iff]
  simp only [mem_toFinset, mem_completed]
  constructor
  · intro same sessionId listed
    exact ((same sessionId).mp listed).2
  · intro allCompleted sessionId
    constructor
    · exact fun listed => ⟨sessionId_ne_empty listed, allCompleted sessionId listed⟩
    · rintro ⟨_, child, stored, rfl, _⟩
      exact known child stored

/-- The two views of a unit agree on completion exactly when some child has
not completed, there is no child, or every session has a child. -/
theorem unit_views_agree_iff
    (known : ∀ child ∈ children.rows, child.sessionId ∈ sequence.sessionIds) :
    ((computeUnitStatus children).lifecycle = .complete ↔
        Emits (Units.decide sequence (childrenStates children) cap) .markComplete) ↔
      (∃ child ∈ children.rows, child.status ≠ .completed) ∨ children.rows = [] ∨
        ∀ sessionId ∈ sequence.sessionIds, HasChild children sessionId := by
  rw [lifecycle_eq_complete_iff, emits_markComplete_iff_hasCompleted known]
  constructor
  · intro agree
    by_contra apart
    simp only [not_or, not_exists, not_and, not_not] at apart
    rcases apart with ⟨allCompleted, someChild, notAllSpawned⟩
    apply notAllSpawned
    intro sessionId listed
    exact (agree.mp ⟨someChild, allCompleted⟩ sessionId listed).hasChild
  · intro spawned
    constructor
    · rintro ⟨someChild, allCompleted⟩
      rcases spawned with ⟨child, stored, open_⟩ | noChild | allSpawned
      · exact absurd (allCompleted child stored) open_
      · exact absurd noChild someChild
      · intro sessionId listed
        rcases allSpawned sessionId listed with ⟨child, stored, same⟩
        exact ⟨child, stored, same, allCompleted child stored⟩
    · intro sessionsCompleted
      constructor
      · intro noChild
        rcases exists_mem_of_length_pos sequence.sessionCount.1 with ⟨session, mem⟩
        rcases sessionsCompleted session.sessionId (mem_map_of_mem mem) with
          ⟨child, stored, _⟩
        rw [noChild] at stored
        cases stored
      · intro child stored
        exact (sessionsCompleted _ (known child stored)).completed stored rfl

/-! ## A unit on its way -/

/-- The first session has completed, the others are still to be spawned. -/
def startedUnit : UnitSessionRuns :=
  .single ⟨"A", 1, .completed⟩

theorem started_unit_views_disagree :
    (∀ child ∈ startedUnit.rows, child.sessionId ∈ chain.sessionIds) ∧
      (computeUnitStatus startedUnit).lifecycle = .complete ∧
      ¬ Emits (Units.decide chain (childrenStates startedUnit) 1) .markComplete := by
  decide +kernel

/-- While the first session is still running the views agree. -/
theorem running_unit_views_agree :
    (computeUnitStatus (.single ⟨"A", 1, .generating⟩)).lifecycle = .complete ↔
      Emits (Units.decide chain (childrenStates (.single ⟨"A", 1, .generating⟩)) 1)
        .markComplete :=
  (unit_views_agree_iff (by decide)).mpr (.inl ⟨_, List.mem_singleton_self _, by decide⟩)

end

end OhMyClass.Gateway.Units
