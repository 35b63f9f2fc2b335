import OhMyClass.TeachingPack.FanoutRuns

/-!
# Cycles of a fan-out

What a cycle asks for, and how the coordinator finds it complete.
-/

namespace OhMyClass.TeachingPack

open List TeachingPackState

/-!
## Cycles with a settled request

A cycle asks for the same types from its first step to its last one, if its
scope is recorded or no response rejects what the cycle generates.
-/

section

open OhMyClass.Contracts OhMyClass.Keyed OhMyClass.Transition

namespace TeachingPackState

variable {state : TeachingPackState}

/-- The response rejects no artifact, whatever is stored. -/
def RejectsNothing (state : TeachingPackState) : Prop :=
  ∀ references, rejectedArtifactTypes references state.gatePayload = []

/-- The next coordination settles what the cycle asks for. -/
def Settled (state : TeachingPackState) : Prop :=
  state.scopedGenerationTypes ≠ [] ∨ state.RejectsNothing

/-- What the cycle asks for is settled. -/
def Fixed (state : TeachingPackState) : Prop :=
  state.artifactRegenerationScope ≠ [] ∨ state.RejectsNothing

theorem rejectsNothing_of_empty (isEmpty : state.gatePayload = .empty) : state.RejectsNothing := by
  intro references
  rw [isEmpty]
  rfl

theorem Fixed.settled (fixed : state.Fixed) : state.Settled := by
  rcases fixed with someScope | rejectsNothing
  · left
    unfold scopedGenerationTypes
    split
    · next noScope => exact absurd noScope someScope
    · exact someScope
  · exact .inr rejectsNothing

theorem Settled.coordinated (settled : state.Settled) : state.coordinated.Fixed := by
  rcases settled with someScope | rejectsNothing
  · left
    rw [coordinated_artifactRegenerationScope]
    exact someScope
  · exact .inr rejectsNothing

theorem rejectedGenerationTypes_eq_nil (rejectsNothing : state.RejectsNothing) :
    state.rejectedGenerationTypes = [] := by
  unfold rejectedGenerationTypes
  rw [rejectsNothing]

theorem Fixed.requestedTypes_eq (fixed : state.Fixed) :
    state.requestedTypes = state.settledTypes := by
  unfold requestedTypes scopedGenerationTypes settledTypes
  cases isScope : state.artifactRegenerationScope with
  | cons first rest => rfl
  | nil =>
    rcases fixed with someScope | rejectsNothing
    · exact absurd isScope someScope
    · rw [rejectedGenerationTypes_eq_nil rejectsNothing]

theorem Fixed.writeArtifact (fixed : state.Fixed) (payload : GenerateOneArtifactPayload)
    (outcome : ArtifactOutcome) : (state.writeArtifact payload outcome).Fixed :=
  fixed

theorem Fixed.requestedTypes_writeArtifact (fixed : state.Fixed)
    (payload : GenerateOneArtifactPayload) (outcome : ArtifactOutcome) :
    (state.writeArtifact payload outcome).requestedTypes = state.requestedTypes :=
  (fixed.writeArtifact payload outcome).requestedTypes_eq.trans fixed.requestedTypes_eq.symm

theorem currentWaveIndex_writeArtifact (incomplete : state.artifactFanoutComplete = false)
    (someIndex : state.artifactWaveIndex.isSome) (payload : GenerateOneArtifactPayload)
    (outcome : ArtifactOutcome) :
    (state.writeArtifact payload outcome).currentWaveIndex = state.currentWaveIndex := by
  rcases Option.isSome_iff_exists.mp someIndex with ⟨index, isIndex⟩
  have stillIncomplete : (state.writeArtifact payload outcome).artifactFanoutComplete = false :=
    incomplete
  have stillIndex : (state.writeArtifact payload outcome).artifactWaveIndex = some index := isIndex
  rw [currentWaveIndex_of_incomplete incomplete isIndex,
    currentWaveIndex_of_incomplete stillIncomplete stillIndex]

end TeachingPackState

/-- The current wave has a type to generate, unless no wave has one. -/
def SomeWave (requested : List String) (index : Nat) : Prop :=
  waveAt requested index ≠ [] ∨ ∀ index, waveAt requested index = []

/-- A cycle that asks for a list of types, between two steps. -/
structure Cycle (requested sent : List String) (run : FanoutRun) : Prop where
  isRequested : run.state.requestedTypes = requested
  settled : run.state.Settled
  isFixed : run.position ≠ .coordinating → run.state.Fixed
  someWave : run.position ≠ .finished → SomeWave requested run.state.currentWaveIndex
  sentRequested : sent ⊆ requested

namespace Cycle

variable {requested sent : List String}

theorem of_starts {run : FanoutRun} (starts : run.Starts) (settled : run.state.Settled) :
    Cycle run.state.requestedTypes [] run where
  isRequested := rfl
  settled := settled
  isFixed := fun elsewhere => absurd starts.coordinating elsewhere
  someWave := by
    intro _
    cases first : waveFrom run.state.requestedTypes 0 with
    | none => exact .inr fun index => waveFrom_eq_none first (Nat.zero_le _)
    | some start =>
      rw [starts.currentWaveIndex_eq first]
      exact .inl (waveFrom_eq_some first).2.1
  sentRequested := nil_subset _

theorem someWave_coordinated {state : TeachingPackState}
    (someWave : SomeWave state.requestedTypes state.currentWaveIndex)
    (incomplete : state.coordinated.artifactFanoutComplete = false) :
    SomeWave state.requestedTypes state.coordinated.currentWaveIndex := by
  cases coordinated_cases state with
  | sameWave _ _ isIndex =>
    rw [currentWaveIndex_of_incomplete incomplete isIndex]
    exact someWave
  | nextWave index _ _ isNext _ isIndex =>
    rw [currentWaveIndex_of_incomplete incomplete isIndex]
    exact .inl (waveFrom_eq_some isNext).2.1
  | noWave _ complete | lastWave _ _ _ complete | blocked _ _ complete =>
    rw [complete] at incomplete
    cases incomplete

theorem step {parallelism : Nat} {generationId : String} {run : FanoutRun} {branchEnd : BranchEnd}
    {after : FanoutRun × List GenerateOneArtifactPayload} (cycle : Cycle requested sent run)
    (stepped : Stepped parallelism generationId sent branchEnd run after) :
    Cycle requested (after.2.map GenerateOneArtifactPayload.artifactType ++ sent) after.1 := by
  cases stepped with
  | @completes state =>
    exact
      { isRequested := (requestedTypes_coordinated state).trans cycle.isRequested
        settled := cycle.settled.coordinated.settled
        isFixed := fun _ => cycle.settled.coordinated
        someWave := fun goesOn => absurd rfl goesOn
        sentRequested := cycle.sentRequested }
  | @sends state sends incomplete _ areSends =>
    have isRequested := (requestedTypes_coordinated state).trans
      cycle.isRequested
    have someWave := cycle.someWave (by simp)
    rw [← cycle.isRequested] at someWave
    exact
      { isRequested := isRequested
        settled := cycle.settled.coordinated.settled
        isFixed := fun _ => cycle.settled.coordinated
        someWave := by
          intro _
          rw [← cycle.isRequested]
          exact someWave_coordinated someWave incomplete
        sentRequested := by
          intro artifactType mem
          rcases mem_append.mp mem with isNew | isSent
          · rcases mem_map.mp isNew with ⟨payload, isSend, rfl⟩
            have isMissing := ((sends_sound incomplete areSends).1 payload isSend).2.1
            rw [← isRequested]
            exact (mem_waveAt.mp (Rounds.mem_missingTypes.mp isMissing).1).2
          · exact cycle.sentRequested isSent }
  | @branchEnds state sends rest payload incomplete someIndex =>
    have isFixed := cycle.isFixed (by simp)
    exact
      { isRequested := (isFixed.requestedTypes_writeArtifact payload branchEnd.outcome).trans
          cycle.isRequested
        settled := (isFixed.writeArtifact payload branchEnd.outcome).settled
        isFixed := fun _ => isFixed.writeArtifact payload branchEnd.outcome
        someWave := by
          intro _
          rw [currentWaveIndex_writeArtifact incomplete someIndex]
          exact cycle.someWave (by simp)
        sentRequested := cycle.sentRequested }
  | rests => exact cycle

theorem trajectory {parallelism : Nat} {start : FanoutRun} (atLeastOne : 1 ≤ parallelism)
    (starts : start.Starts) (settled : start.state.Settled) (inputs : ℕ → BranchEnd) (n : ℕ) :
    Cycle start.state.requestedTypes
      (sentTypes ((fanoutMachine parallelism).trajectory start inputs n).2)
      ((fanoutMachine parallelism).trajectory start inputs n).1 := by
  induction n with
  | zero => exact .of_starts starts settled
  | succ n ih =>
    exact ih.step ((standing_trajectory atLeastOne starts inputs n).stepped atLeastOne (inputs n))

end Cycle

def firstGeneration (artifactTypes : List String) : FanoutRun :=
  ⟨TeachingPackState.initial "run" ⟨none, artifactTypes⟩, .coordinating⟩

theorem settled_firstGeneration (artifactTypes : List String) :
    (firstGeneration artifactTypes).state.Settled :=
  .inr (rejectsNothing_of_empty rfl)

end

/-!
## The end of a cycle

How the coordinator finds a fan-out complete, and what the workflow states of
the generation are afterwards.
-/

section

open OhMyClass.Contracts OhMyClass.Keyed OhMyClass.Transition

def generationStates (state : TeachingPackState) : List WorkflowState :=
  currentGenerationWorkflowStates state.artifactWorkflowStates.members
    (state.artifactGenerationId.getD "")

section DefaultPlan

variable {artifactType dependency : String}

theorem mem_planTypes_iff :
    artifactType ∈ planTypes ↔ ∃ index, artifactType ∈ defaultDependencyPlan.wave index := by
  constructor
  · intro planned
    rcases mem_flatten.mp planned with ⟨wave, isWave, mem⟩
    rcases getElem_of_mem isWave with ⟨index, inside, rfl⟩
    refine ⟨index, ?_⟩
    rwa [DependencyPlan.wave, getD_eq_getElem _ _ inside]
  · rintro ⟨index, mem⟩
    exact mem_planTypes_of_wave mem

theorem mem_planTypes_of_dependency (isRequired : dependency ∈ dependenciesOf artifactType) :
    artifactType ∈ planTypes := by
  unfold dependenciesOf DependencyPlan.dependenciesOf at isRequired
  rcases found : defaultDependencyPlan.dependencies.lookup artifactType with _ | required
  · simp [found] at isRequired
  · rcases lookup_eq_some_iff.mp found with ⟨before, after, isEntry, _⟩
    have entry : (artifactType, required) ∈ defaultDependencyPlan.dependencies := by
      rw [isEntry]
      exact mem_append_right _ mem_cons_self
    have planned : ∀ entry ∈ defaultDependencyPlan.dependencies, entry.1 ∈ planTypes := by
      decide +kernel
    exact planned _ entry

end DefaultPlan

variable {generationId : String} {requested sent : List String} {state : TeachingPackState}

/-! ## The step that completes the fan-out -/

/-- What the coordinator writes for a type that has to be skipped. -/
def skippedState (generationId artifactType : String) : WorkflowState where
  workflowId := generationId ++ ":" ++ artifactType
  artifactGenerationId := generationId
  artifactId := artifactType
  artifactType := artifactType
  status := .skipped
  errorSummary := some "required dependency failed"

variable {branch : WorkflowState}

theorem mem_skippedDependents {types failed : List String} :
    branch ∈ skippedDependents dependenciesOf generationId types failed ↔
      ∃ artifactType ∈ types, (∃ dependency ∈ dependenciesOf artifactType, dependency ∈ failed) ∧
        branch = skippedState generationId artifactType := by
  unfold skippedDependents
  rw [mem_map]
  constructor
  · rintro ⟨artifactType, mem, rfl⟩
    rcases mem_filter.mp mem with ⟨isRequested, dependsOnSome⟩
    exact ⟨artifactType, isRequested, TeachingPackState.dependsOnSome_iff.mp dependsOnSome, rfl⟩
  · rintro ⟨artifactType, isRequested, depends, rfl⟩
    have dependsOnSome := TeachingPackState.dependsOnSome_iff.mpr depends
    exact ⟨artifactType, mem_filter.mpr ⟨isRequested, dependsOnSome⟩, rfl⟩

theorem mem_generationStates_coordinated :
    branch ∈ generationStates state.coordinated ↔
      branch ∈ state.coordinated.artifactWorkflowStates.members ∧
        branch.artifactGenerationId = state.currentId := by
  unfold generationStates
  rw [mem_currentGenerationWorkflowStates,
    coordinated_artifactGenerationId, Option.getD_some]

/-- The fan-out ends with every requested type completed, or with a failed
type that a requested one depends on. -/
inductive Completion (requested : List String) (state : TeachingPackState) : Prop
  | finished :
      (∀ artifactType ∈ requested, artifactType ∈ planTypes →
        artifactType ∈ completedTypes state.currentStates) →
      (∀ artifactType ∈ requested, ∀ failed ∈ failedTypes state.currentStates,
        failed ∉ dependenciesOf artifactType) →
      state.coordinated.artifactWorkflowStates = state.artifactWorkflowStates →
      Completion requested state
  | blocked {failed dependent : String} :
      failed ∈ failedTypes state.currentStates →
      dependent ∈ requested →
      failed ∈ dependenciesOf dependent →
      waveAt requested state.currentWaveIndex ⊆ completedTypes state.currentStates →
      state.coordinated.artifactWorkflowStates = state.artifactWorkflowStates.merge
        (skippedDependents dependenciesOf state.currentId requested
          (failedTypes state.currentStates)) →
      Completion requested state

theorem completion_of_complete (rounds : Rounds generationId requested sent [] state)
    (isRequested : state.requestedTypes = requested)
    (someWave : SomeWave requested state.currentWaveIndex)
    (complete : state.coordinated.artifactFanoutComplete = true) :
    Completion requested state := by
  cases coordinated_cases state with
  | sameWave _ incomplete | nextWave _ _ _ _ incomplete =>
    rw [incomplete] at complete
    cases complete
  | noWave isEmpty _ kept =>
    have unplanned : ∀ artifactType ∈ requested, artifactType ∉ planTypes := by
      intro artifactType mem planned
      rcases mem_planTypes_iff.mp planned with ⟨index, inWave⟩
      have inWaveAt := mem_waveAt.mpr ⟨inWave, mem⟩
      rcases someWave with someType | noTypes
      · rw [← isRequested] at someType
        exact someType isEmpty
      · rw [noTypes index] at inWaveAt
        cases inWaveAt
    refine .finished ?_ ?_ kept
    · intro artifactType mem planned
      exact absurd planned (unplanned artifactType mem)
    · intro artifactType mem failed _ isRequired
      exact unplanned artifactType mem (mem_planTypes_of_dependency isRequired)
  | lastWave finished harmless isLast _ kept =>
    rw [currentWave, isRequested] at finished
    rw [isRequested] at harmless isLast
    refine .finished ?_ harmless kept
    intro artifactType mem planned
    rcases mem_planTypes_iff.mp planned with ⟨index, inWave⟩
    have inWaveAt := mem_waveAt.mpr ⟨inWave, mem⟩
    rcases Nat.lt_trichotomy index state.currentWaveIndex with before | rfl | after
    · exact rounds.earlier index before inWaveAt
    · exact finished inWaveAt
    · rw [waveFrom_eq_none isLast (Nat.succ_le_of_lt after)] at inWaveAt
      cases inWaveAt
  | blocked finished someSkipped _ written =>
    rw [currentWave, isRequested] at finished
    rw [isRequested] at someSkipped written
    rcases exists_mem_of_ne_nil _ someSkipped with ⟨_, isSkipped⟩
    rcases mem_skippedDependents.mp isSkipped with
      ⟨dependent, mem, ⟨failed, isDependency, isFailed⟩, _⟩
    exact .blocked isFailed mem isDependency finished written

/-! ## The states of the generation afterwards -/

theorem mem_currentStates :
    branch ∈ state.currentStates ↔
      branch ∈ state.artifactWorkflowStates.members ∧
        branch.artifactGenerationId = state.currentId :=
  mem_currentGenerationWorkflowStates

variable {artifactType : String}

theorem workflowStateId_skippedState :
    workflowStateId (skippedState generationId artifactType) =
      generationId ++ ":" ++ artifactType :=
  workflowStateId_of_named rfl

theorem skippedType_of_key (rounds : Rounds generationId requested sent [] state)
    (mem : branch ∈ state.currentStates) {skippedType : String}
    (sameKey : workflowStateId (skippedState state.currentId skippedType) =
      workflowStateId branch) : skippedType = branch.artifactType := by
  rw [workflowStateId_of_named (rounds.branches branch mem).1, workflowStateId_skippedState,
    rounds.isCurrent] at sameKey
  exact (String.append_right_inj _).mp sameKey

section

variable (completion : Completion requested state)

include completion

theorem Completion.hasStatus (rounds : Rounds generationId requested sent [] state)
    (isCompleted : artifactType ∈ completedTypes state.currentStates) :
    ∃ branch ∈ generationStates state.coordinated, branch.artifactType = artifactType ∧
      branch.status ∈ [WorkflowStatus.passed, .failed, .skipped] := by
  rcases mem_completedTypes.mp isCompleted with ⟨branch, mem, isType, status⟩
  rcases mem_currentStates.mp mem with ⟨stored, isCurrent⟩
  cases completion with
  | finished _ _ kept =>
    refine ⟨branch, mem_generationStates_coordinated.mpr ⟨?_, isCurrent⟩, isType, status⟩
    rw [kept]
    exact stored
  | blocked _ _ _ _ written =>
    rcases Channel.exists_mem_merge state.artifactWorkflowStates
      (skippedDependents dependenciesOf state.currentId requested
        (failedTypes state.currentStates)) (.inr stored) with ⟨other, isMember, sameKey, source⟩
    rw [← written] at isMember
    rcases source with isSkipped | rfl
    · rcases mem_skippedDependents.mp isSkipped with ⟨skippedType, _, _, rfl⟩
      have sameType := skippedType_of_key rounds mem sameKey
      exact ⟨_, mem_generationStates_coordinated.mpr ⟨isMember, rfl⟩, sameType.trans isType,
        by simp [skippedState]⟩
    · exact ⟨other, mem_generationStates_coordinated.mpr ⟨isMember, isCurrent⟩, isType, status⟩

theorem Completion.keeps (rounds : Rounds generationId requested sent [] state)
    (mem : branch ∈ state.currentStates)
    (free : ∀ dependency ∈ dependenciesOf branch.artifactType,
      dependency ∉ failedTypes state.currentStates) :
    branch ∈ generationStates state.coordinated := by
  rcases mem_currentStates.mp mem with ⟨stored, isCurrent⟩
  refine mem_generationStates_coordinated.mpr ⟨?_, isCurrent⟩
  cases completion with
  | finished _ _ kept => rwa [kept]
  | blocked _ _ _ _ written =>
    rw [written]
    refine Channel.mem_merge.mpr (.inr ⟨stored, fun other isSkipped sameKey => ?_⟩)
    rcases mem_skippedDependents.mp isSkipped with
      ⟨skippedType, _, ⟨dependency, isRequired, isFailed⟩, rfl⟩
    have sameType := skippedType_of_key rounds mem sameKey
    rw [sameType] at isRequired
    exact free dependency isRequired isFailed

theorem Completion.skipped {dependency : String} (mem : artifactType ∈ requested)
    (isRequired : dependency ∈ dependenciesOf artifactType)
    (isFailed : dependency ∈ failedTypes state.currentStates) :
    ∃ branch ∈ generationStates state.coordinated,
      branch.artifactType = artifactType ∧ branch.status = .skipped := by
  cases completion with
  | finished _ harmless => exact absurd isRequired (harmless _ mem _ isFailed)
  | blocked _ _ _ _ written =>
    refine ⟨skippedState state.currentId artifactType,
      mem_generationStates_coordinated.mpr ⟨?_, rfl⟩, rfl, rfl⟩
    rw [written]
    apply Channel.mem_merge_of_mem
    · exact mem_skippedDependents.mpr ⟨artifactType, mem, ⟨dependency, isRequired, isFailed⟩, rfl⟩
    · intro other isOther sameKey
      rcases mem_skippedDependents.mp isOther with ⟨otherType, _, _, rfl⟩
      rw [workflowStateId_skippedState, workflowStateId_skippedState] at sameKey
      rw [(String.append_right_inj _).mp sameKey]

theorem Completion.failed_before (mem : branch ∈ generationStates state.coordinated)
    (isFailed : branch.status = .failed) :
    branch.artifactType ∈ failedTypes state.currentStates := by
  rcases mem_generationStates_coordinated.mp mem with ⟨stored, isCurrent⟩
  have wasStored : branch ∈ state.artifactWorkflowStates.members := by
    cases completion with
    | finished _ _ kept => rwa [kept] at stored
    | blocked _ _ _ _ written =>
      rw [written] at stored
      rcases Channel.mem_merge.mp stored with isSkipped | ⟨wasStored, _⟩
      · rcases mem_skippedDependents.mp isSkipped.mem with ⟨_, _, _, rfl⟩
        cases isFailed
      · exact wasStored
  exact mem_failedTypes.mpr ⟨branch, mem_currentStates.mpr ⟨wasStored, isCurrent⟩, rfl, isFailed⟩

theorem Completion.skipped_requires (rounds : Rounds generationId requested sent [] state)
    (mem : branch ∈ generationStates state.coordinated) (isSkipped : branch.status = .skipped) :
    ∃ dependency ∈ dependenciesOf branch.artifactType,
      dependency ∈ failedTypes state.currentStates := by
  rcases mem_generationStates_coordinated.mp mem with ⟨stored, isCurrent⟩
  have notBefore : branch ∉ state.artifactWorkflowStates.members := by
    intro wasStored
    have status := (rounds.branches branch (mem_currentStates.mpr ⟨wasStored, isCurrent⟩)).2.2.2
    rw [isSkipped] at status
    rcases status with impossible | impossible
    · cases impossible
    · cases impossible
  cases completion with
  | finished _ _ kept =>
    rw [kept] at stored
    exact absurd stored notBefore
  | blocked _ _ _ _ written =>
    rw [written] at stored
    rcases Channel.mem_merge.mp stored with isLast | ⟨wasStored, _⟩
    · rcases mem_skippedDependents.mp isLast.mem with ⟨_, _, depends, rfl⟩
      exact depends
    · exact absurd wasStored notBefore

end

end

end OhMyClass.TeachingPack
