import Mathlib.Data.List.GetD
import Mathlib.Data.List.Induction
import Mathlib.Data.String.Basic

/-!
# Plans

What generation follows: the artifact types of a pack and the sessions of a
unit.
-/

namespace OhMyClass.Contracts

/-!
## Dependency plans

Artifact types in generation waves, and for each type the types that have to
be present before it.  A plan carries that its validator has accepted it: what
a type depends on stands in an earlier wave.
-/

section

inductive DependencyPlanError where
  | unknownDependency (artifactType unknownDependency : String)
  | forwardDependency (artifactType dependency : String)
  deriving DecidableEq

/-- `wave_index_by_type`, where a later wave overrides an earlier one. -/
def waveIndexByType (waves : List (List String)) (artifactType : String) : Option Nat :=
  waves.zipIdx.foldl
    (fun found wave => if artifactType ∈ wave.1 then some wave.2 else found) none

def checkDependency (waves : List (List String)) (artifactType dependency : String) :
    Except DependencyPlanError Unit :=
  match waveIndexByType waves dependency with
  | none => .error (.unknownDependency artifactType dependency)
  | some dependencyWave =>
    match waveIndexByType waves artifactType with
    | none => .ok ()
    | some dependentWave =>
      if dependentWave ≤ dependencyWave then .error (.forwardDependency artifactType dependency)
      else .ok ()

/-- The validator's loops, over pairs of a type and one of its dependencies. -/
def checkDependencies (waves : List (List String)) :
    List (String × String) → Except DependencyPlanError Unit
  | [] => .ok ()
  | (artifactType, dependency) :: rest =>
    match checkDependency waves artifactType dependency with
    | .error error => .error error
    | .ok () => checkDependencies waves rest

def dependencyPairs (dependencies : List (String × List String)) : List (String × String) :=
  dependencies.flatMap fun entry => entry.2.map fun dependency => (entry.1, dependency)

/-- A plan accepted by its validator. -/
structure DependencyPlan where
  waves : List (List String)
  dependencies : List (String × List String)
  someWave : waves ≠ []
  earlierWaves : checkDependencies waves (dependencyPairs dependencies) = .ok ()

namespace DependencyPlan

def dependenciesOf (plan : DependencyPlan) (artifactType : String) : List String :=
  (plan.dependencies.lookup artifactType).getD []

/-- The wave at an index; there is none beyond the last. -/
def wave (plan : DependencyPlan) (index : Nat) : List String :=
  plan.waves.getD index []

end DependencyPlan

variable {waves : List (List String)} {artifactType dependency : String} {index : Nat}

theorem waveIndexByType_concat {last : List String} :
    waveIndexByType (waves ++ [last]) artifactType =
      if artifactType ∈ last then some waves.length else waveIndexByType waves artifactType := by
  simp [waveIndexByType, List.zipIdx_append]

theorem mem_of_waveIndexByType (found : waveIndexByType waves artifactType = some index) :
    artifactType ∈ waves.getD index [] := by
  induction waves using List.reverseRecOn with
  | nil => cases found
  | append_singleton init last ih =>
    rw [waveIndexByType_concat] at found
    split at found
    · next member =>
      rcases Option.some.inj found with rfl
      simpa using member
    · have member := ih found
      have inside : index < init.length := by
        by_contra outside
        rw [List.getD_eq_default _ _ (by omega)] at member
        cases member
      rwa [List.getD_append _ _ _ _ inside]

theorem waveIndexByType_isSome (mem : artifactType ∈ waves.getD index []) :
    (waveIndexByType waves artifactType).isSome := by
  induction waves using List.reverseRecOn with
  | nil => simp at mem
  | append_singleton init last ih =>
    rw [waveIndexByType_concat]
    split
    · rfl
    · next absent =>
      apply ih
      by_cases inside : index < init.length
      · rwa [List.getD_append _ _ _ _ inside] at mem
      · rw [List.getD_append_right _ _ _ _ (by omega)] at mem
        rcases offset : index - init.length with _ | later
        · rw [offset] at mem
          exact absurd mem absent
        · rw [offset] at mem
          simp at mem

theorem le_of_waveIndexByType {last : Nat} (found : waveIndexByType waves artifactType = some last)
    (mem : artifactType ∈ waves.getD index []) : index ≤ last := by
  induction waves using List.reverseRecOn with
  | nil => cases found
  | append_singleton init final ih =>
    have inside : index < init.length + 1 := by
      by_contra outside
      rw [List.getD_eq_default _ _ (by simpa using outside)] at mem
      cases mem
    rw [waveIndexByType_concat] at found
    split at found
    · cases found
      exact Nat.le_of_lt_succ inside
    · next absent =>
      rcases Nat.lt_succ_iff_lt_or_eq.mp inside with before | rfl
      · rw [List.getD_append _ _ _ _ before] at mem
        exact ih found mem
      · simp [absent] at mem

theorem checkDependencies_eq_ok_iff {pairs : List (String × String)} :
    checkDependencies waves pairs = .ok () ↔
      ∀ pair ∈ pairs, checkDependency waves pair.1 pair.2 = .ok () := by
  induction pairs with
  | nil => simp [checkDependencies]
  | cons pair rest ih =>
    rw [List.forall_mem_cons, ← ih, checkDependencies]
    cases checkDependency waves pair.1 pair.2 <;> simp

theorem checkDependency_eq_ok (accepted : checkDependency waves artifactType dependency = .ok ()) :
    ∃ dependencyWave, waveIndexByType waves dependency = some dependencyWave ∧
      ∀ dependentWave, waveIndexByType waves artifactType = some dependentWave →
        dependencyWave < dependentWave := by
  unfold checkDependency at accepted
  split at accepted
  · cases accepted
  · next dependencyWave found =>
    refine ⟨dependencyWave, found, ?_⟩
    intro dependentWave isDependent
    rw [isDependent] at accepted
    simp only at accepted
    split at accepted
    · cases accepted
    · next later => omega

namespace DependencyPlan

variable {plan : DependencyPlan}

theorem dependency_before_last (mem : artifactType ∈ plan.wave index)
    (isRequired : dependency ∈ plan.dependenciesOf artifactType) :
    ∃ last, waveIndexByType plan.waves artifactType = some last ∧
      ∃ earlier < last, dependency ∈ plan.wave earlier := by
  have pair : (artifactType, dependency) ∈ dependencyPairs plan.dependencies := by
    unfold dependenciesOf at isRequired
    rcases found : plan.dependencies.lookup artifactType with _ | required
    · simp [found] at isRequired
    · rw [found] at isRequired
      rcases List.lookup_eq_some_iff.mp found with ⟨before, after, isEntry, _⟩
      refine List.mem_flatMap.mpr ⟨(artifactType, required), ?_, List.mem_map_of_mem isRequired⟩
      rw [isEntry]
      exact List.mem_append_right _ List.mem_cons_self
  rcases checkDependency_eq_ok (checkDependencies_eq_ok_iff.mp plan.earlierWaves _ pair) with
    ⟨earlier, found, isEarlier⟩
  rcases Option.isSome_iff_exists.mp (waveIndexByType_isSome mem) with ⟨last, isLast⟩
  exact ⟨last, isLast, earlier, isEarlier last isLast, mem_of_waveIndexByType found⟩

theorem dependency_earlier (apart : ∀ first second artifactType,
      artifactType ∈ plan.wave first → artifactType ∈ plan.wave second → first = second)
    (mem : artifactType ∈ plan.wave index)
    (isRequired : dependency ∈ plan.dependenciesOf artifactType) :
    ∃ earlier < index, dependency ∈ plan.wave earlier := by
  rcases dependency_before_last mem isRequired with ⟨last, isLast, before⟩
  rwa [apart last index artifactType (mem_of_waveIndexByType isLast) mem] at before

/-- A type with dependencies stands in some wave, and wherever it stands the
first waves of its dependencies come before. -/
structure Orderable (plan : DependencyPlan) : Prop where
  listed : ∀ artifactType, plan.dependenciesOf artifactType ≠ [] →
    ∃ index, artifactType ∈ plan.wave index
  later : ∀ artifactType, ∀ dependency ∈ plan.dependenciesOf artifactType, ∀ index,
    artifactType ∈ plan.wave index → ∃ earlier < index, dependency ∈ plan.wave earlier

/-- A type with dependencies stands in some wave, and if it stands in two, the
dependencies stand before the earlier one. -/
structure RepeatsInOrder (plan : DependencyPlan) : Prop where
  listed : ∀ artifactType, plan.dependenciesOf artifactType ≠ [] →
    ∃ index, artifactType ∈ plan.wave index
  again : ∀ artifactType index later, index < later → artifactType ∈ plan.wave index →
    artifactType ∈ plan.wave later → ∀ dependency ∈ plan.dependenciesOf artifactType,
      ∃ earlier < index, dependency ∈ plan.wave earlier

/-- An accepted plan is orderable exactly if repeated types are in order. -/
theorem orderable_iff (plan : DependencyPlan) : plan.Orderable ↔ plan.RepeatsInOrder := by
  constructor
  · intro orderable
    exact ⟨orderable.listed, fun artifactType index _ _ mem _ dependency isRequired =>
      orderable.later artifactType dependency isRequired index mem⟩
  · intro inOrder
    refine ⟨inOrder.listed, fun artifactType dependency isRequired index mem => ?_⟩
    rcases dependency_before_last mem isRequired with ⟨last, isLast, earlier⟩
    rcases (le_of_waveIndexByType isLast mem).lt_or_eq with again | rfl
    · exact inOrder.again artifactType index last again mem (mem_of_waveIndexByType isLast)
        dependency isRequired
    · exact earlier

end DependencyPlan

/-- A quiz that stands before the lesson it depends on, and after it. -/
def quizTwice : DependencyPlan where
  waves := [["quiz"], ["lesson"], ["quiz"]]
  dependencies := [("quiz", ["lesson"])]
  someWave := List.cons_ne_nil _ _
  earlierWaves := by decide +kernel

theorem quizTwice_not_orderable : ¬ quizTwice.Orderable := by
  intro orderable
  rcases orderable.later "quiz" "lesson" (by decide) 0 (by decide) with ⟨earlier, before, _⟩
  exact absurd before (Nat.not_lt_zero earlier)

/-! ## The default plan -/

def defaultDependencyPlan : DependencyPlan where
  waves :=
    [["lesson"],
      ["worksheet", "quiz", "drill", "flashcard_deck", "roadmap", "slide_deck",
        "reading_passage", "infographic", "exit_ticket"],
      ["recap", "answer_key"]]
  dependencies :=
    [("worksheet", ["lesson"]), ("quiz", ["lesson"]), ("drill", ["lesson"]),
      ("recap", ["lesson", "quiz"]), ("flashcard_deck", ["lesson"]), ("answer_key", ["quiz"]),
      ("roadmap", ["lesson"]), ("slide_deck", ["lesson"]), ("reading_passage", ["lesson"]),
      ("infographic", ["lesson"]), ("exit_ticket", ["lesson"])]
  someWave := List.cons_ne_nil _ _
  earlierWaves := by decide +kernel

end

/-!
## Lesson sequences

The plan of a unit: its sessions, and for each session the ones it builds on.
A sequence carries that its validator has accepted it, so that every
prerequisite names a session; nothing keeps prerequisites from being mutual.
-/

section

structure SessionPlan where
  sessionId : String
  orderIndex : Nat
  prerequisiteSessions : List String
  sessionIdLength : 1 ≤ sessionId.length ∧ sessionId.length ≤ 32
  orderIndexRange : 1 ≤ orderIndex ∧ orderIndex ≤ 20

theorem first_inRange : 1 ≤ 1 ∧ 1 ≤ 20 := by decide

theorem second_inRange : 1 ≤ 2 ∧ 2 ≤ 20 := by decide

theorem SessionPlan.sessionId_ne_empty (session : SessionPlan) : session.sessionId ≠ "" := by
  intro isEmpty
  have long := session.sessionIdLength.1
  rw [isEmpty] at long
  exact absurd long (by decide)

structure PydanticCustomError where
  errorType : String
  message : String

/-- `set(session.prerequisite_sessions) - session_ids`, sorted. -/
def unknownPrerequisites (sessionIds : List String) (session : SessionPlan) : List String :=
  (session.prerequisiteSessions.eraseDups.filter (· ∉ sessionIds)).mergeSort
    fun first second => first ≤ second

def unknownPrerequisiteSession (unknown : List String) : PydanticCustomError where
  errorType := "unknown_prerequisite_session"
  message := "unknown prerequisite session_id(s): " ++ ", ".intercalate unknown

def checkReferences (sessionIds : List String) :
    List SessionPlan → Except PydanticCustomError Unit
  | [] => .ok ()
  | session :: rest =>
    match unknownPrerequisites sessionIds session with
    | [] => checkReferences sessionIds rest
    | unknown => .error (unknownPrerequisiteSession unknown)

def validateSequenceReferences (sessions : List SessionPlan) : Except PydanticCustomError Unit :=
  checkReferences (sessions.map SessionPlan.sessionId) sessions

/-- A sequence accepted by its validator. -/
structure LessonSequence where
  sessions : List SessionPlan
  sessionCount : 1 ≤ sessions.length ∧ sessions.length ≤ 20
  references : validateSequenceReferences sessions = .ok ()

theorem unknownPrerequisites_eq_nil_iff {sessionIds : List String} {session : SessionPlan} :
    unknownPrerequisites sessionIds session = [] ↔
      ∀ required ∈ session.prerequisiteSessions, required ∈ sessionIds := by
  unfold unknownPrerequisites
  rw [← List.isEmpty_iff, (List.mergeSort_perm _ _).isEmpty_eq]
  simp

theorem checkReferences_eq_ok_iff {sessionIds : List String} {sessions : List SessionPlan} :
    checkReferences sessionIds sessions = .ok () ↔
      ∀ session ∈ sessions, ∀ required ∈ session.prerequisiteSessions, required ∈ sessionIds := by
  induction sessions with
  | nil => simp [checkReferences]
  | cons session rest ih =>
    rw [List.forall_mem_cons, ← ih, ← unknownPrerequisites_eq_nil_iff, checkReferences.eq_def]
    cases unknown : unknownPrerequisites sessionIds session <;> simp [unknown]

namespace LessonSequence

def sessionIds (sequence : LessonSequence) : List String :=
  sequence.sessions.map SessionPlan.sessionId

theorem prerequisite_known {sequence : LessonSequence} {session : SessionPlan}
    (mem : session ∈ sequence.sessions) {required : String}
    (isRequired : required ∈ session.prerequisiteSessions) : required ∈ sequence.sessionIds :=
  checkReferences_eq_ok_iff.mp sequence.references session mem required isRequired

end LessonSequence

end

end OhMyClass.Contracts
