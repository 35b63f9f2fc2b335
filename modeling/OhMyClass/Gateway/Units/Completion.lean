import Mathlib.Order.Filter.Finite
import OhMyClass.Gateway.Units.Status

/-!
# Units complete

A child is only spawned once its prerequisites have completed, so that the
spawned sessions stay closed under prerequisites.  As long as a session is
missing, a tick finds a ready one, and the cap only decides how many of the
ready sessions are spawned at once.
-/

namespace OhMyClass.Gateway.Units

open List OhMyClass.Contracts OhMyClass.Precedence OhMyClass.Transition Filter

variable {sequence : LessonSequence} {cap : Int} {children : UnitSessionRuns} {sessionId : String}

theorem hasChild_iff :
    HasChild children sessionId ↔ sessionId ∈ children.rows.map UnitSessionRun.sessionId :=
  mem_map.symm

theorem sessionIds_step (cap : Int) (children : UnitSessionRuns)
    (distinct : sequence.sessionIds.Nodup) (op : UnitOp) :
    ((unitMachine sequence cap).step children op).1.rows.map UnitSessionRun.sessionId =
      children.rows.map UnitSessionRun.sessionId ++
        spawnedIds ((unitMachine sequence cap).step children op).2 := by
  cases op with
  | tick =>
    rcases rows_tick cap children distinct with ⟨new, rows, newIds, spawned⟩
    rw [rows, map_append, newIds, spawned]
  | advance advanced status =>
    exact (sessionIds_advanceChild status).trans (append_nil _).symm

theorem HasChild.step (distinct : sequence.sessionIds.Nodup) (hasChild : HasChild children sessionId)
    (op : UnitOp) : HasChild ((unitMachine sequence cap).step children op).1 sessionId := by
  rw [hasChild_iff, sessionIds_step cap children distinct]
  exact mem_append_left _ (hasChild_iff.mp hasChild)

theorem HasCompleted.step (distinct : sequence.sessionIds.Nodup)
    (completed : HasCompleted children sessionId) (op : UnitOp) :
    HasCompleted ((unitMachine sequence cap).step children op).1 sessionId := by
  rcases completed with ⟨child, stored, same, isCompleted⟩
  cases op with
  | tick =>
    rcases rows_tick cap children distinct with ⟨new, rows, _, _⟩
    refine ⟨child, ?_, same, isCompleted⟩
    rw [rows]
    exact mem_append_left _ stored
  | advance advanced status =>
    refine ⟨_, mem_map_of_mem stored, ?_⟩
    unfold Table.changeSelected
    split
    · next selected =>
      refine ⟨same, ?_⟩
      simp only [decide_eq_true_eq, isCompleted] at selected
      by_contra different
      rw [validateStatusTransition_of_terminal (.inl rfl) (Ne.symm different)] at selected
      cases selected.2
    · exact ⟨same, isCompleted⟩

/-- The children are the sessions spawned so far, and their prerequisites have
completed. -/
structure SpawnedInOrder (sequence : LessonSequence) (children : UnitSessionRuns)
    (history : History UnitOp (List SessionAction)) : Prop where
  logged : children.rows.map UnitSessionRun.sessionId = spawnedSoFar history
  listed : ∀ sessionId, HasChild children sessionId → sessionId ∈ sequence.sessionIds
  closed : ∀ required sessionId, Requires sequence required sessionId →
    HasChild children sessionId → HasCompleted children required

theorem spawnedSoFar_cons (entry : UnitOp × List SessionAction)
    (history : History UnitOp (List SessionAction)) :
    spawnedSoFar (entry :: history) = spawnedSoFar history ++ spawnedIds entry.2 := by
  simp [spawnedSoFar]

/-- A session has a child after a step if it had one or the step is a tick that
spawns it. -/
theorem hasChild_step_cases (distinct : sequence.sessionIds.Nodup) {op : UnitOp}
    (hasChild : HasChild ((unitMachine sequence cap).step children op).1 sessionId) :
    HasChild children sessionId ∨ sessionId ∈ toSpawn sequence cap children := by
  rw [hasChild_iff, sessionIds_step cap children distinct, mem_append] at hasChild
  rcases hasChild with before | spawned
  · exact .inl (hasChild_iff.mpr before)
  · cases op with
    | tick =>
      rcases rows_tick cap children distinct with ⟨_, _, _, spawnedEq⟩
      rw [spawnedEq] at spawned
      exact .inr spawned
    | advance advanced status => cases spawned

variable {history : History UnitOp (List SessionAction)}

theorem SpawnedInOrder.of_run (distinct : sequence.sessionIds.Nodup)
    {guard : Guard UnitSessionRuns UnitOp (List SessionAction)}
    (run : (unitMachine sequence cap).Run guard children history) :
    SpawnedInOrder sequence children history := by
  apply run.invariant (SpawnedInOrder sequence)
  · intro children isEmpty
    have noChild (sessionId : String) : ¬ HasChild children sessionId := by
      rw [hasChild_iff, isEmpty]
      exact not_mem_nil
    constructor
    · rw [isEmpty]
      rfl
    · exact fun sessionId hasChild => absurd hasChild (noChild sessionId)
    · exact fun _ sessionId _ hasChild => absurd hasChild (noChild sessionId)
  · intro children history op inOrder _
    constructor
    · change ((unitMachine sequence cap).step children op).1.rows.map _ = spawnedSoFar (_ :: history)
      rw [sessionIds_step cap children distinct, inOrder.logged, spawnedSoFar_cons]
    · intro sessionId hasChild
      rcases hasChild_step_cases distinct hasChild with before | spawned
      · exact inOrder.listed sessionId before
      · exact toSpawn_sublist.subset spawned
    · intro required sessionId isRequired hasChild
      apply HasCompleted.step distinct
      rcases hasChild_step_cases distinct hasChild with before | spawned
      · exact inOrder.closed required sessionId isRequired before
      · exact (ready_of_mem_toSpawn spawned).2 required isRequired

theorem SpawnedInOrder.prerequisites_completed (inOrder : SpawnedInOrder sequence children history)
    (spawned : sessionId ∈ toSpawn sequence cap children) {required : String}
    (before : Relation.TransGen (Requires sequence) required sessionId) :
    HasCompleted children required := by
  have isReady := (ready_of_mem_toSpawn spawned).2
  rcases Relation.TransGen.tail'_iff.mp before with ⟨direct, path, isDirect⟩
  rcases Relation.reflTransGen_iff_eq_or_transGen.mp path with rfl | chain
  · exact isReady _ isDirect
  · apply done_of_transGen _ chain (isReady direct isDirect)
    intro earlier later isRequired completed
    exact inOrder.closed earlier later isRequired completed.hasChild

/-! ## Fair schedules -/

/-- The unit before the n-th step of a schedule. -/
def unitAfter (sequence : LessonSequence) (cap : Int) (ops : ℕ → UnitOp) (n : ℕ) :
    UnitSessionRuns × History UnitOp (List SessionAction) :=
  (unitMachine sequence cap).trajectory .empty ops n

/-- The unit is ticked again and again, and every child run completes. -/
structure Fair (sequence : LessonSequence) (cap : Int) (ops : ℕ → UnitOp) : Prop where
  ticks : ∃ᶠ n in atTop, ops n = .tick
  completes : ∀ n sessionId, HasChild (unitAfter sequence cap ops n).1 sessionId →
    ∃ m, n ≤ m ∧ HasCompleted (unitAfter sequence cap ops m).1 sessionId

variable {ops : ℕ → UnitOp}

theorem spawnedInOrder_after (cap : Int) (ops : ℕ → UnitOp)
    (distinct : sequence.sessionIds.Nodup) (n : ℕ) :
    SpawnedInOrder sequence (unitAfter sequence cap ops n).1 (unitAfter sequence cap ops n).2 :=
  .of_run distinct (Machine.trajectory_run rfl ops n)

theorem eventually_completed (distinct : sequence.sessionIds.Nodup) {n : ℕ}
    (completed : HasCompleted (unitAfter sequence cap ops n).1 sessionId) :
    ∀ᶠ m in atTop, HasCompleted (unitAfter sequence cap ops m).1 sessionId :=
  eventually_of_stable (fun m isCompleted => isCompleted.step distinct (ops m)) completed

/-- The sessions that have no child yet. -/
def missing (sequence : LessonSequence) (children : UnitSessionRuns) : ℕ :=
  sequence.sessionIds.length - children.rows.length

theorem rows_length_le (inOrder : SpawnedInOrder sequence children history) :
    children.rows.length ≤ sequence.sessionIds.length := by
  rw [← length_map (f := UnitSessionRun.sessionId)]
  apply ((nodup_sessionIds children).subperm _).length_le
  intro sessionId mem
  exact inOrder.listed sessionId (hasChild_iff.mpr mem)

theorem rows_length_step (cap : Int) (children : UnitSessionRuns)
    (distinct : sequence.sessionIds.Nodup) (op : UnitOp) :
    ((unitMachine sequence cap).step children op).1.rows.length =
      children.rows.length + (spawnedIds ((unitMachine sequence cap).step children op).2).length := by
  have lengths := congrArg List.length
    (sessionIds_step cap children distinct op)
  simpa only [length_map, length_append] using lengths

/-- A session whose prerequisites have completed gets a child: as long as it has
none, every tick spawns some ready session, and there are finitely many. -/
theorem eventually_hasChild (distinct : sequence.sessionIds.Nodup) (positive : 1 ≤ cap)
    (ticks : ∃ᶠ n in atTop, ops n = .tick) (listed : sessionId ∈ sequence.sessionIds)
    (prerequisites : ∀ required, Requires sequence required sessionId →
      ∀ᶠ n in atTop, HasCompleted (unitAfter sequence cap ops n).1 required) :
    ∀ᶠ n in atTop, HasChild (unitAfter sequence cap ops n).1 sessionId := by
  have enabled : ∀ᶠ n in atTop, ∀ required ∈ predecessors sequence sessionId,
      HasCompleted (unitAfter sequence cap ops n).1 required :=
    (eventually_all_finite (finite_toSet (predecessors sequence sessionId))).mpr prerequisites
  apply eventually_of_progress fun n => missing sequence (unitAfter sequence cap ops n).1
  · exact fun n hasChild => hasChild.step distinct (ops n)
  · apply antitone_nat_of_succ_le
    intro n
    apply Nat.sub_le_sub_left
    exact (rows_length_step cap _ distinct (ops n)) ▸ Nat.le_add_right _ _
  · apply (ticks.and_eventually enabled).mono
    rintro n ⟨isTick, completed⟩ noChild
    have isReady := (ready_iff listed).mpr ⟨noChild, completed⟩
    rcases mem_map.mp listed with ⟨session, mem, rfl⟩
    have spawns : toSpawn sequence cap (unitAfter sequence cap ops n).1 ≠ [] := by
      rw [toSpawn, spawnedIds_decide]
      exact spawnedIds_ne_nil_of_ready positive mem isReady
    have grown := rows_length_step cap (unitAfter sequence cap ops n).1 distinct .tick
    rcases rows_tick cap (unitAfter sequence cap ops n).1 distinct with ⟨_, _, _, spawnedEq⟩
    rw [spawnedEq] at grown
    have bounded := rows_length_le (spawnedInOrder_after cap ops distinct (n + 1))
    have isNext : (unitAfter sequence cap ops (n + 1)).1 =
        ((unitMachine sequence cap).step (unitAfter sequence cap ops n).1 .tick).1 := by
      rw [← isTick]
      rfl
    have some := length_pos_iff.mpr spawns
    rw [isNext] at bounded ⊢
    simp only [missing]
    omega

theorem eventually_hasCompleted (distinct : sequence.sessionIds.Nodup)
    (acyclic : Acyclic (Requires sequence)) (positive : 1 ≤ cap) (fair : Fair sequence cap ops)
    (listed : sessionId ∈ sequence.sessionIds) :
    ∀ᶠ n in atTop, HasCompleted (unitAfter sequence cap ops n).1 sessionId := by
  have induct := acyclic.wellFounded (finite_toSet sequence.sessionIds)
    fun _ _ isRequired => isRequired.known
  induction sessionId using induct.induction with
  | h sessionId ih =>
    have hasChild := eventually_hasChild distinct positive fair.ticks listed
      fun required isRequired => ih required isRequired isRequired.known
    rcases hasChild.exists with ⟨n, child⟩
    rcases fair.completes n sessionId child with ⟨m, _, completed⟩
    exact eventually_completed distinct completed

theorem markComplete_of_hasCompleted (inOrder : SpawnedInOrder sequence children history)
    (completed : ∀ sessionId ∈ sequence.sessionIds, HasCompleted children sessionId) :
    Emits (Units.decide sequence (childrenStates children) cap) .markComplete := by
  rw [emits_markComplete_iff]
  ext sessionId
  rw [mem_toFinset, mem_idsWith]
  constructor
  · intro listed
    refine ⟨.completed, by simp [completedStatus], ?_⟩
    exact (lookup_eq_completed_iff (sessionId_ne_empty listed)).mpr (completed sessionId listed)
  · rintro ⟨status, _, isStatus⟩
    rcases lookup_childrenStates_iff.mp isStatus with ⟨_, child, stored, same, _⟩
    exact inOrder.listed sessionId ⟨child, stored, same⟩

/-- Under every fair schedule an acyclic unit is eventually marked complete with
each session spawned once, and at every time a session is only spawned when
everything it requires, directly or not, has completed. -/
theorem unit_completes (distinct : sequence.sessionIds.Nodup)
    (acyclic : Acyclic (Requires sequence)) (positive : 1 ≤ cap) (fair : Fair sequence cap ops) :
    (∀ᶠ n in atTop,
      Emits (Units.decide sequence (childrenStates (unitAfter sequence cap ops n).1) cap)
          .markComplete ∧
        ∀ sessionId ∈ sequence.sessionIds,
          (spawnedSoFar (unitAfter sequence cap ops n).2).count sessionId = 1) ∧
      ∀ n, ∀ sessionId ∈ toSpawn sequence cap (unitAfter sequence cap ops n).1,
        ∀ required, Relation.TransGen (Requires sequence) required sessionId →
          HasCompleted (unitAfter sequence cap ops n).1 required := by
  constructor
  · have allCompleted : ∀ᶠ n in atTop, ∀ sessionId ∈ sequence.sessionIds,
        HasCompleted (unitAfter sequence cap ops n).1 sessionId :=
      (eventually_all_finite (finite_toSet sequence.sessionIds)).mpr fun sessionId listed =>
        eventually_hasCompleted distinct acyclic positive fair listed
    apply allCompleted.mono
    intro n completed
    have inOrder := spawnedInOrder_after cap ops distinct n
    refine ⟨markComplete_of_hasCompleted inOrder completed, fun sessionId listed => ?_⟩
    rw [← inOrder.logged]
    exact count_eq_one_of_mem (nodup_sessionIds _)
      (hasChild_iff.mp (completed sessionId listed).hasChild)
  · intro n sessionId spawned required before
    exact (spawnedInOrder_after cap ops distinct n).prerequisites_completed spawned before

/-- A child run is approved, exported and completed. -/
def finish (sessionId : String) : List UnitOp :=
  [.advance sessionId .awaitingApproval, .advance sessionId .exporting,
    .advance sessionId .completed]

/-- Each session is spawned and finished in turn; the ticks go on. -/
def chainOps : List UnitOp :=
  .tick :: finish "A" ++ .tick :: finish "B" ++ .tick :: finish "C"

def chainSchedule (n : ℕ) : UnitOp :=
  chainOps.getD n .tick

theorem chainSchedule_fair : Fair chain 1 chainSchedule := by
  have distinct : chain.sessionIds.Nodup := by decide
  constructor
  · rw [frequently_atTop]
    intro n
    refine ⟨n + chainOps.length, Nat.le_add_right _ _, ?_⟩
    simp [chainSchedule]
  · intro n sessionId hasChild
    have listed := (spawnedInOrder_after 1 chainSchedule distinct n).listed sessionId hasChild
    have finished : ∀ sessionId ∈ chain.sessionIds,
        HasCompleted (unitAfter chain 1 chainSchedule 12).1 sessionId := by
      decide +kernel
    have completed := eventually_completed distinct (finished sessionId listed)
    rcases (completed.and (eventually_ge_atTop n)).exists with ⟨m, isCompleted, later⟩
    exact ⟨m, later, isCompleted⟩

theorem chain_completes :
    ∀ᶠ n in atTop,
      Emits (Units.decide chain (childrenStates (unitAfter chain 1 chainSchedule n).1) 1)
          .markComplete ∧
        ∀ sessionId ∈ chain.sessionIds,
          (spawnedSoFar (unitAfter chain 1 chainSchedule n).2).count sessionId = 1 :=
  (unit_completes (by decide) chain_acyclic le_rfl chainSchedule_fair).1

/-! ## Every schedule -/

end OhMyClass.Gateway.Units
