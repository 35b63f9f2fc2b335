import OhMyClass.Gateway.Units.Decide
import OhMyClass.Sorting.Core
import OhMyClass.Table.Core
import OhMyClass.Transition.Machine

/-!
# The orchestrator of a unit

Each tick loads the children of the unit, decides, and creates a child run for
every session to be spawned.  Between the ticks the child runs advance on
their own.
-/

namespace OhMyClass.Gateway.Units

open List OhMyClass.Contracts OhMyClass.Precedence OhMyClass.Sorting OhMyClass.Transition

/-- A row of `public.runs` whose parent is the unit. -/
structure UnitSessionRun where
  sessionId : String
  sessionIndex : Nat
  status : RunStatus

/-- `uq_runs_parent_session`. -/
def UnitSessionRun.Conflict (first second : UnitSessionRun) : Prop :=
  first.sessionId = second.sessionId
  deriving Decidable

abbrev UnitSessionRuns := Table UnitSessionRun UnitSessionRun.Conflict

def listChildren (children : UnitSessionRuns) : List UnitSessionRun :=
  sortBy UnitSessionRun.sessionIndex children.rows

/-- The states of the children by session id, as `react` collects them; a
later child would replace an earlier one. -/
def childrenStates (children : UnitSessionRuns) : ChildrenStates :=
  (((listChildren children).filter fun child => child.sessionId ≠ "").map fun child =>
    Sigma.mk child.sessionId child.status).reverse.toFinmap

theorem nodup_sessionIds (children : UnitSessionRuns) :
    (children.rows.map UnitSessionRun.sessionId).Nodup :=
  pairwise_map.mpr children.consistent

theorem lookup_childrenStates_iff {children : UnitSessionRuns} {sessionId : String}
    {status : RunStatus} :
    (childrenStates children).lookup sessionId = some status ↔
      sessionId ≠ "" ∧
        ∃ child ∈ children.rows, child.sessionId = sessionId ∧ child.status = status := by
  have distinct : ((((listChildren children).filter fun child => child.sessionId ≠ "").map
      fun child => Sigma.mk (β := fun _ : String => RunStatus) child.sessionId
        child.status).reverse).NodupKeys := by
    rw [List.NodupKeys, List.keys, map_reverse, nodup_reverse, map_map]
    have listed : ((listChildren children).map UnitSessionRun.sessionId).Nodup :=
      ((sortBy_perm _ _).map _).nodup_iff.mpr (nodup_sessionIds children)
    exact listed.sublist (filter_sublist.map _)
  rw [childrenStates, Finmap.dlookup_list_toFinmap, ← Option.mem_def, mem_dlookup_iff distinct]
  simp only [mem_reverse, mem_map, mem_filter, listChildren, mem_sortBy,
    decide_eq_true_eq]
  constructor
  · rintro ⟨child, ⟨stored, named⟩, equal⟩
    cases equal
    exact ⟨named, child, stored, rfl, rfl⟩
  · rintro ⟨named, child, stored, rfl, rfl⟩
    exact ⟨child, ⟨stored, named⟩, rfl⟩

/-! ## A tick -/

/-- `{s.session_id: s for s in sequence.sessions}`. -/
def sessionMap (sequence : LessonSequence) (sessionId : String) : Option SessionPlan :=
  sequence.sessions.reverse.find? fun session => session.sessionId == sessionId

/-- Create a child run for each session in turn; `none` is an integrity error. -/
def createChildRuns (sequence : LessonSequence) :
    List String → UnitSessionRuns → Option UnitSessionRuns
  | [], children => some children
  | sessionId :: rest, children =>
    match sessionMap sequence sessionId with
    | none => createChildRuns sequence rest children
    | some plan =>
      (children.insert ⟨sessionId, plan.orderIndex, .pending⟩).bind
        (createChildRuns sequence rest)

/-- `UnitOrchestrator.react`, which calls `decide` with a cap of one. -/
def react (sequence : LessonSequence) (cap : Int) (children : UnitSessionRuns) :
    Option (List SessionAction × UnitSessionRuns) :=
  let actions := Units.decide sequence (childrenStates children) cap
  (createChildRuns sequence (spawnedIds actions) children).map fun grown => (actions, grown)

/-- A validated transition of one child run. -/
def advanceChild (children : UnitSessionRuns) (sessionId : String) (status : RunStatus) :
    UnitSessionRuns :=
  children.update
    (fun child => child.sessionId = sessionId ∧
      validateStatusTransition child.status status = .accepted child.status status)
    (fun child => { child with status := status })
    (fun first second clash => by
      have keyEq (selected : UnitSessionRun → Bool) (child : UnitSessionRun) :
          (Table.changeSelected selected (fun child => { child with status := status })
            child).sessionId = child.sessionId :=
        Table.changeSelected_frame UnitSessionRun.sessionId rfl
      simpa only [UnitSessionRun.Conflict, keyEq] using clash)

inductive UnitOp where
  | tick
  | advance (sessionId : String) (status : RunStatus)

/-- A unit from its creation on; a tick that raises is rolled back. -/
def unitMachine (sequence : LessonSequence) (cap : Int) :
    Machine UnitSessionRuns UnitOp (List SessionAction) where
  initial children := children.rows = []
  step children
    | .tick =>
      match react sequence cap children with
      | none => (children, [])
      | some (actions, grown) => (grown, actions)
    | .advance sessionId status => (advanceChild children sessionId status, [])

/-- The sessions spawned so far, oldest first. -/
def spawnedSoFar (history : History UnitOp (List SessionAction)) : List String :=
  (history.reverse.map fun entry => spawnedIds entry.2).flatten

/-- The session has a child run. -/
def HasChild (children : UnitSessionRuns) (sessionId : String) : Prop :=
  ∃ child ∈ children.rows, child.sessionId = sessionId

/-- The session has a child run that has completed. -/
def HasCompleted (children : UnitSessionRuns) (sessionId : String) : Prop :=
  ∃ child ∈ children.rows, child.sessionId = sessionId ∧ child.status = .completed
  deriving Decidable

variable {sequence : LessonSequence} {cap : Int} {children : UnitSessionRuns} {sessionId : String}

theorem HasCompleted.hasChild (completed : HasCompleted children sessionId) :
    HasChild children sessionId := by
  rcases completed with ⟨child, stored, same, _⟩
  exact ⟨child, stored, same⟩

theorem mem_childrenStates_iff :
    sessionId ∈ childrenStates children ↔ sessionId ≠ "" ∧ HasChild children sessionId := by
  rw [Finmap.mem_iff]
  constructor
  · rintro ⟨status, isStatus⟩
    rcases lookup_childrenStates_iff.mp isStatus with ⟨named, child, stored, same, _⟩
    exact ⟨named, child, stored, same⟩
  · rintro ⟨named, child, stored, same⟩
    exact ⟨child.status, lookup_childrenStates_iff.mpr ⟨named, child, stored, same, rfl⟩⟩

theorem lookup_eq_completed_iff (named : sessionId ≠ "") :
    (childrenStates children).lookup sessionId = some .completed ↔
      HasCompleted children sessionId := by
  rw [lookup_childrenStates_iff]
  exact and_iff_right named

theorem sessionId_ne_empty (listed : sessionId ∈ sequence.sessionIds) : sessionId ≠ "" := by
  rcases mem_map.mp listed with ⟨session, _, rfl⟩
  exact session.sessionId_ne_empty

theorem ready_iff (listed : sessionId ∈ sequence.sessionIds) :
    Ready sequence (childrenStates children) sessionId ↔
      ¬ HasChild children sessionId ∧
        ∀ required, Requires sequence required sessionId → HasCompleted children required := by
  have named := sessionId_ne_empty listed
  unfold Ready
  rw [mem_childrenStates_iff, and_iff_right named]
  apply and_congr_right
  intro _
  apply forall₂_congr
  intro required isRequired
  exact lookup_eq_completed_iff (sessionId_ne_empty isRequired.known)

theorem sessionMap_isSome (listed : sessionId ∈ sequence.sessionIds) :
    ∃ plan, sessionMap sequence sessionId = some plan := by
  rcases mem_map.mp listed with ⟨session, mem, rfl⟩
  apply Option.isSome_iff_exists.mp
  rw [sessionMap, List.find?_isSome]
  exact ⟨session, mem_reverse.mpr mem, beq_self_eq_true _⟩

theorem createChildRuns_eq_some {sessionIds : List String} (distinct : sessionIds.Nodup)
    (listed : ∀ sessionId ∈ sessionIds, sessionId ∈ sequence.sessionIds)
    (fresh : ∀ sessionId ∈ sessionIds, ¬ HasChild children sessionId) :
    ∃ grown new, createChildRuns sequence sessionIds children = some grown ∧
      grown.rows = children.rows ++ new ∧ new.map UnitSessionRun.sessionId = sessionIds := by
  induction sessionIds generalizing children with
  | nil => exact ⟨children, [], rfl, (append_nil _).symm, rfl⟩
  | cons sessionId rest ih =>
    rcases nodup_cons.mp distinct with ⟨apart, restDistinct⟩
    rcases sessionMap_isSome (listed sessionId mem_cons_self) with ⟨plan, found⟩
    let child : UnitSessionRun := ⟨sessionId, plan.orderIndex, .pending⟩
    cases inserted : children.insert child with
    | none =>
      rcases Table.insert_eq_none_iff.mp inserted with ⟨stored, mem, clash⟩
      exact absurd ⟨stored, mem, clash⟩ (fresh sessionId mem_cons_self)
    | some between =>
      have rows := Table.rows_of_insert inserted
      have stillFresh : ∀ other ∈ rest, ¬ HasChild between other := by
        rintro other mem ⟨stored, storedMem, rfl⟩
        rw [rows, mem_append, mem_singleton] at storedMem
        rcases storedMem with storedMem | rfl
        · exact fresh _ (mem_cons_of_mem _ mem) ⟨stored, storedMem, rfl⟩
        · exact apart mem
      rcases ih restDistinct (fun other mem => listed other (mem_cons_of_mem _ mem))
        stillFresh with ⟨grown, new, created, grownRows, newIds⟩
      refine ⟨grown, child :: new, ?_, ?_, ?_⟩
      · simp only [createChildRuns, found]
        exact Option.bind_eq_some_iff.mpr ⟨between, inserted, created⟩
      · rw [grownRows, rows, append_assoc, singleton_append]
      · rw [map_cons, newIds]

/-- What a tick is about to spawn. -/
def toSpawn (sequence : LessonSequence) (cap : Int) (children : UnitSessionRuns) : List String :=
  spawnedIds (Units.decide sequence (childrenStates children) cap)

theorem toSpawn_sublist : (toSpawn sequence cap children).Sublist sequence.sessionIds := by
  rw [toSpawn, spawnedIds_decide]
  exact spawnedIds_sessionActions_sublist

theorem ready_of_mem_toSpawn (spawned : sessionId ∈ toSpawn sequence cap children) :
    ¬ HasChild children sessionId ∧
      ∀ required, Requires sequence required sessionId → HasCompleted children required := by
  have listed := toSpawn_sublist.subset spawned
  rw [toSpawn, spawnedIds_decide] at spawned
  exact (ready_iff listed).mp (ready_of_mem_spawnedIds spawned)

theorem rows_tick (cap : Int) (children : UnitSessionRuns)
    (distinct : sequence.sessionIds.Nodup) :
    ∃ new, ((unitMachine sequence cap).step children .tick).1.rows = children.rows ++ new ∧
      new.map UnitSessionRun.sessionId = toSpawn sequence cap children ∧
      spawnedIds ((unitMachine sequence cap).step children .tick).2 =
        toSpawn sequence cap children := by
  rcases createChildRuns_eq_some (distinct.sublist toSpawn_sublist)
    (fun _ spawned => toSpawn_sublist.subset spawned)
    (fun _ spawned => (ready_of_mem_toSpawn spawned).1) with ⟨grown, new, created, rows, newIds⟩
  have reacted : react sequence cap children =
      some (Units.decide sequence (childrenStates children) cap, grown) := by
    exact Option.map_eq_some_iff.mpr ⟨grown, created, rfl⟩
  refine ⟨new, ?_, newIds, ?_⟩
  · simp only [unitMachine, reacted]
    exact rows
  · simp only [unitMachine, reacted, toSpawn]

theorem sessionIds_advanceChild (status : RunStatus) :
    (advanceChild children sessionId status).rows.map UnitSessionRun.sessionId =
      children.rows.map UnitSessionRun.sessionId := by
  simp only [advanceChild, Table.update, map_map]
  apply map_congr_left
  intro child _
  exact Table.changeSelected_frame UnitSessionRun.sessionId rfl

end OhMyClass.Gateway.Units
