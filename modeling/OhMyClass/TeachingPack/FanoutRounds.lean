import OhMyClass.TeachingPack.FanoutSteps
import OhMyClass.Transition.Machine

/-!
# Rounds of the fan-out

The coordinator and the branches it sends take turns until the coordinator
finds the fan-out complete.  The branches of a round end in any order.
-/

namespace OhMyClass.TeachingPack

open List OhMyClass.Contracts OhMyClass.Keyed OhMyClass.Transition TeachingPackState

inductive FanoutPosition where
  | coordinating
  | generating (sends : List GenerateOneArtifactPayload)
  | finished
  deriving DecidableEq

structure FanoutRun where
  state : TeachingPackState
  position : FanoutPosition

/-- Which of the open branches ends next, and how. -/
structure BranchEnd where
  index : Nat
  outcome : ArtifactOutcome

/-- A branch and the ones that are still open. -/
def takeBranch (sends : List GenerateOneArtifactPayload) (index : Nat) :
    Option (GenerateOneArtifactPayload × List GenerateOneArtifactPayload) :=
  (sends[index % sends.length]?).map fun payload =>
    (payload, sends.eraseIdx (index % sends.length))

namespace FanoutRun

/-- One step with the branches it sends. -/
def step (parallelism : Nat) (run : FanoutRun) (branchEnd : BranchEnd) :
    FanoutRun × List GenerateOneArtifactPayload :=
  match run.position with
  | .coordinating =>
    match routeAfterArtifactWorkflow parallelism run.state.coordinated with
    | [] => (⟨run.state.coordinated, .finished⟩, [])
    | sends => (⟨run.state.coordinated, .generating sends⟩, sends)
  | .generating sends =>
    match takeBranch sends branchEnd.index with
    | none => (⟨run.state, .coordinating⟩, [])
    | some (payload, []) =>
      (⟨run.state.writeArtifact payload branchEnd.outcome, .coordinating⟩, [])
    | some (payload, open_) =>
      (⟨run.state.writeArtifact payload branchEnd.outcome, .generating open_⟩, [])
  | .finished => (run, [])

/-- A generation is about to begin: the last one is complete and another one
is asked for, or none has begun.  No branch has written under its id. -/
structure Starts (run : FanoutRun) : Prop where
  coordinating : run.position = .coordinating
  isNew : run.state.needsNewGenerationCycle = true ∨
    run.state.artifactFanoutComplete = false ∧ run.state.artifactWaveIndex = none
  fresh : ∀ branch ∈ run.state.artifactWorkflowStates.members,
    branch.artifactGenerationId ≠ run.state.currentId

end FanoutRun

def fanoutMachine (parallelism : Nat) :
    Machine FanoutRun BranchEnd (List GenerateOneArtifactPayload) where
  initial := FanoutRun.Starts
  step := FanoutRun.step parallelism

theorem takeBranch_of_ne_nil {sends : List GenerateOneArtifactPayload} (someOpen : sends ≠ [])
    (index : Nat) :
    ∃ payload rest, takeBranch sends index = some (payload, rest) ∧
      (payload :: rest).Perm sends := by
  have inside : index % sends.length < sends.length :=
    Nat.mod_lt _ (length_pos_of_ne_nil someOpen)
  refine ⟨sends[index % sends.length], sends.eraseIdx (index % sends.length), ?_, ?_⟩
  · simp [takeBranch]
  · exact getElem_cons_eraseIdx_perm inside

theorem FanoutRun.Starts.currentWaveIndex_eq {run : FanoutRun} (starts : run.Starts) {start : Nat}
    (first : waveFrom run.state.requestedTypes 0 = some start) :
    run.state.currentWaveIndex = start := by
  unfold currentWaveIndex
  rcases starts.isNew with isNew | ⟨incomplete, noIndex⟩
  · simp [isNew, first]
  · simp [needsNewGenerationCycle_eq_false incomplete, noIndex, first]

theorem workflowStateId_of_named {branch : WorkflowState} {generationId artifactType : String}
    (isNamed : branch.workflowId = generationId ++ ":" ++ artifactType) :
    workflowStateId branch = generationId ++ ":" ++ artifactType := by
  have notEmpty : branch.workflowId ≠ "" := by
    intro isEmpty
    have texts := congrArg String.toList (isNamed.symm.trans isEmpty)
    simp at texts
  rw [workflowStateId, if_neg notEmpty, isNamed]

/-- The branches of a generation: which types were sent, which of them are
open, and what the waves before the current one have left. -/
structure Rounds (generationId : String) (requested sent pending : List String)
    (state : TeachingPackState) : Prop where
  isCurrent : state.currentId = generationId
  branches : ∀ branch ∈ state.currentStates,
    branch.workflowId = generationId ++ ":" ++ branch.artifactType ∧
      branch.artifactType ∈ sent ∧ branch.artifactType ∉ pending ∧
      (branch.status = .passed ∨ branch.status = .failed)
  ended : ∀ artifactType ∈ sent, artifactType ∉ pending →
    artifactType ∈ completedTypes state.currentStates
  sentOnce : sent.Nodup
  pendingOnce : pending.Nodup
  pendingSent : pending ⊆ sent
  pendingCurrent : ∀ artifactType ∈ pending,
    artifactType ∈ defaultDependencyPlan.wave state.currentWaveIndex
  inWaves : ∀ artifactType ∈ sent, ∃ index ≤ state.currentWaveIndex,
    artifactType ∈ defaultDependencyPlan.wave index
  earlier : ∀ index < state.currentWaveIndex,
    waveAt requested index ⊆ completedTypes state.currentStates
  harmless : ∀ index < state.currentWaveIndex, ∀ failed ∈ failedTypes state.currentStates,
    failed ∈ defaultDependencyPlan.wave index → ∀ artifactType ∈ requested,
      failed ∉ dependenciesOf artifactType

namespace Rounds

variable {generationId : String} {requested sent pending : List String}
  {state : TeachingPackState}

theorem mono (rounds : Rounds generationId requested sent pending state) {fewer : List String}
    (subset : fewer ⊆ requested) : Rounds generationId fewer sent pending state :=
  { rounds with
    earlier := fun index isEarlier artifactType member => by
      rw [mem_waveAt] at member
      exact rounds.earlier index isEarlier (mem_waveAt.mpr ⟨member.1, subset member.2⟩)
    harmless := fun index isEarlier failed isFailed inWave artifactType member =>
      rounds.harmless index isEarlier failed isFailed inWave artifactType (subset member) }

variable {artifactType : String}

theorem type_mem_sent (rounds : Rounds generationId requested sent pending state)
    (isCompleted : artifactType ∈ completedTypes state.currentStates) :
    artifactType ∈ sent ∧ artifactType ∉ pending := by
  rcases mem_completedTypes.mp isCompleted with ⟨branch, mem, rfl, _⟩
  exact ⟨(rounds.branches branch mem).2.1, (rounds.branches branch mem).2.2.1⟩

theorem of_starts {run : FanoutRun} (starts : run.Starts) :
    Rounds run.state.currentId run.state.requestedTypes [] [] run.state := by
  have noStates : run.state.currentStates = [] := by
    apply eq_nil_iff_forall_not_mem.mpr
    intro branch member
    rw [currentStates,
      mem_currentGenerationWorkflowStates] at member
    exact starts.fresh branch member.1 member.2
  have noEarlier : ∀ index < run.state.currentWaveIndex,
      waveAt run.state.requestedTypes index = [] := by
    intro index isEarlier
    cases first : waveFrom run.state.requestedTypes 0 with
    | none => exact waveFrom_eq_none first (Nat.zero_le _)
    | some start =>
      rw [starts.currentWaveIndex_eq first] at isEarlier
      exact (waveFrom_eq_some first).2.2 index (Nat.zero_le _) isEarlier
  constructor
  · rfl
  · simp [noStates]
  · simp
  · exact nodup_nil
  · exact nodup_nil
  · exact nil_subset _
  · simp
  · simp
  · intro index isEarlier
    rw [noEarlier index isEarlier]
    exact nil_subset _
  · simp [noStates, failedTypes]

/-! ### A round begins -/

/-- The types of the current wave that no branch has completed. -/
def missingTypes (state : TeachingPackState) : List String :=
  state.currentWave.filter fun artifactType =>
    artifactType ∉ completedTypes state.currentStates

theorem mem_missingTypes :
    artifactType ∈ missingTypes state ↔
      artifactType ∈ state.currentWave ∧
        artifactType ∉ completedTypes state.currentStates := by
  simp [missingTypes]

theorem coordinated (rounds : Rounds generationId state.requestedTypes sent [] state)
    (incomplete : state.coordinated.artifactFanoutComplete = false) :
    Rounds generationId state.requestedTypes sent [] state.coordinated ∧
      missingTypes state.coordinated ≠ [] := by
  have sameId := currentId_coordinated incomplete
  have requestedEq := requestedTypes_coordinated state
  have statesEq (kept : state.coordinated.artifactWorkflowStates = state.artifactWorkflowStates) :
      state.coordinated.currentStates = state.currentStates := by
    unfold currentStates
    rw [kept, sameId]
  cases coordinated_cases state with
  | sameWave unfinished _ isIndex kept =>
    have sameIndex := currentWaveIndex_of_incomplete incomplete isIndex
    have sameStates := statesEq kept
    constructor
    · exact
        { isCurrent := sameId.trans rounds.isCurrent
          branches := by rw [sameStates]; exact rounds.branches
          ended := by rw [sameStates]; exact rounds.ended
          sentOnce := rounds.sentOnce
          pendingOnce := rounds.pendingOnce
          pendingSent := rounds.pendingSent
          pendingCurrent := by simp
          inWaves := by rw [sameIndex]; exact rounds.inWaves
          earlier := by rw [sameIndex, sameStates]; exact rounds.earlier
          harmless := by rw [sameIndex, sameStates]; exact rounds.harmless }
    · intro none
      apply unfinished
      intro artifactType mem
      by_contra missing
      have isMissing : artifactType ∈ missingTypes state.coordinated := by
        rw [mem_missingTypes, currentWave, requestedEq, sameIndex, sameStates]
        exact ⟨mem, missing⟩
      rw [none] at isMissing
      cases isMissing
  | nextWave index finished noDependents isNext _ isIndex kept =>
    have newIndex := currentWaveIndex_of_incomplete incomplete isIndex
    have sameStates := statesEq kept
    rcases waveFrom_eq_some isNext with ⟨later, someType, noneBetween⟩
    constructor
    · exact
        { isCurrent := sameId.trans rounds.isCurrent
          branches := by rw [sameStates]; exact rounds.branches
          ended := by rw [sameStates]; exact rounds.ended
          sentOnce := rounds.sentOnce
          pendingOnce := rounds.pendingOnce
          pendingSent := rounds.pendingSent
          pendingCurrent := by simp
          inWaves := by
            intro artifactType mem
            rcases rounds.inWaves artifactType mem with ⟨wave, isWave, inWave⟩
            exact ⟨wave, by omega, inWave⟩
          earlier := by
            rw [newIndex, sameStates]
            intro wave isEarlier
            rcases Nat.lt_trichotomy wave state.currentWaveIndex with before | rfl | after
            · exact rounds.earlier wave before
            · exact finished
            · rw [noneBetween wave after isEarlier]
              exact nil_subset _
          harmless := by
            rw [sameStates]
            intro _ _ failed isFailed _ artifactType mem
            exact noDependents artifactType mem failed isFailed }
    · intro none
      rcases exists_mem_of_ne_nil _ someType with ⟨artifactType, mem⟩
      have isMissing : artifactType ∈ missingTypes state.coordinated := by
        rw [mem_missingTypes, currentWave, requestedEq, newIndex, sameStates]
        refine ⟨mem, fun isCompleted => ?_⟩
        rcases rounds.inWaves artifactType (rounds.type_mem_sent isCompleted).1 with
          ⟨wave, isWave, inWave⟩
        have same := waves_apart wave index artifactType inWave (mem_waveAt.mp mem).1
        omega
      rw [none] at isMissing
      cases isMissing
  | noWave _ complete | lastWave _ _ _ complete | blocked _ _ complete =>
    rw [complete] at incomplete
    cases incomplete

theorem send (rounds : Rounds generationId requested sent [] state) {types : List String}
    (missing : types ⊆ missingTypes state) (once : types.Nodup) :
    Rounds generationId requested (types ++ sent) types state := by
  have fresh : ∀ artifactType ∈ types, artifactType ∉ sent := by
    intro artifactType mem isSent
    exact (mem_missingTypes.mp (missing mem)).2 (rounds.ended artifactType isSent (by simp))
  have current : ∀ artifactType ∈ types,
      artifactType ∈ defaultDependencyPlan.wave state.currentWaveIndex := by
    intro artifactType mem
    exact (mem_waveAt.mp (mem_missingTypes.mp (missing mem)).1).1
  exact
    { isCurrent := rounds.isCurrent
      branches := by
        intro branch mem
        rcases rounds.branches branch mem with ⟨isId, isSent, _, isDone⟩
        exact ⟨isId, mem_append_right _ isSent, fun isNew => fresh _ isNew isSent, isDone⟩
      ended := by
        intro artifactType mem notOpen
        rcases mem_append.mp mem with isNew | isSent
        · exact absurd isNew notOpen
        · exact rounds.ended artifactType isSent (by simp)
      sentOnce := nodup_append.mpr ⟨once, rounds.sentOnce, by
        rintro artifactType isNew _ isSent rfl
        exact fresh artifactType isNew isSent⟩
      pendingOnce := once
      pendingSent := subset_append_left _ _
      pendingCurrent := current
      inWaves := by
        intro artifactType mem
        rcases mem_append.mp mem with isNew | isSent
        · exact ⟨_, le_rfl, current artifactType isNew⟩
        · exact rounds.inWaves artifactType isSent
      earlier := rounds.earlier
      harmless := rounds.harmless }

theorem dependency_passed (rounds : Rounds generationId state.requestedTypes sent pending state)
    {dependency : String} (missing : artifactType ∈ missingTypes state)
    (isRequired : dependency ∈ dependenciesOf artifactType)
    (isRequested : dependency ∈ state.requestedTypes) :
    ∃ branch ∈ state.currentStates, branch.artifactType = dependency ∧
      branch.status = .passed := by
  rcases mem_waveAt.mp (mem_missingTypes.mp missing).1 with ⟨inWave, typeRequested⟩
  rcases dependency_in_earlier_wave inWave isRequired with ⟨index, isEarlier, dependencyIn⟩
  have isCompleted := rounds.earlier index isEarlier (mem_waveAt.mpr ⟨dependencyIn, isRequested⟩)
  rcases mem_completedTypes.mp isCompleted with ⟨branch, mem, isType, _⟩
  rcases (rounds.branches branch mem).2.2.2 with isPassed | isFailed
  · exact ⟨branch, mem, isType, isPassed⟩
  · have failed := mem_failedTypes.mpr ⟨branch, mem, isType, isFailed⟩
    exact absurd isRequired
      (rounds.harmless index isEarlier dependency failed dependencyIn artifactType typeRequested)

/-! ### A branch ends -/

variable {payload : GenerateOneArtifactPayload}

theorem mem_currentStates_writeArtifact (rounds : Rounds generationId requested sent pending state)
    (incomplete : state.artifactFanoutComplete = false) (isOpen : payload.artifactType ∈ pending)
    (sameId : payload.artifactGenerationId = generationId) {outcome : ArtifactOutcome}
    {branch : WorkflowState} :
    branch ∈ (state.writeArtifact payload outcome).currentStates ↔
      branch = (generateOneArtifact payload outcome).2 ∨ branch ∈ state.currentStates := by
  rcases generateOneArtifact_state payload outcome with
    ⟨isWorkflow, isGeneration, _, _⟩
  unfold currentStates
  rw [currentId_writeArtifact incomplete,
    mem_currentGenerationWorkflowStates,
    mem_currentGenerationWorkflowStates, rounds.isCurrent]
  change branch ∈ (state.artifactWorkflowStates.merge [_]).members ∧ _ ↔ _
  rw [Channel.mem_merge_singleton]
  constructor
  · rintro ⟨rfl | ⟨mem, _⟩, isId⟩
    · exact .inl rfl
    · exact .inr ⟨mem, isId⟩
  · rintro (rfl | ⟨mem, isId⟩)
    · exact ⟨.inl rfl, isGeneration.trans sameId⟩
    · refine ⟨.inr ⟨mem, fun same => ?_⟩, isId⟩
      have isCurrent : branch ∈ state.currentStates :=
        mem_currentGenerationWorkflowStates.mpr
          ⟨mem, isId.trans rounds.isCurrent.symm⟩
      rcases rounds.branches branch isCurrent with ⟨isNamed, _, notOpen, _⟩
      have sameType : payload.artifactType = branch.artifactType := by
        rw [workflowStateId_of_named isWorkflow, workflowStateId_of_named isNamed, sameId] at same
        exact (String.append_right_inj _).mp same
      exact notOpen (sameType ▸ isOpen)

theorem writeArtifact (rounds : Rounds generationId requested sent pending state)
    (incomplete : state.artifactFanoutComplete = false) {index : Nat}
    (isIndex : state.artifactWaveIndex = some index)
    (sameId : payload.artifactGenerationId = generationId) {rest : List String}
    (order : (payload.artifactType :: rest).Perm pending) (outcome : ArtifactOutcome) :
    Rounds generationId requested sent rest (state.writeArtifact payload outcome) := by
  have isOpen : payload.artifactType ∈ pending := order.subset mem_cons_self
  have restOpen : rest ⊆ pending := fun _ mem => order.subset (mem_cons_of_mem _ mem)
  have restOnce := nodup_cons.mp (order.nodup_iff.mpr rounds.pendingOnce)
  have inWave := rounds.pendingCurrent _ isOpen
  have sameIndex : (state.writeArtifact payload outcome).currentWaveIndex =
      state.currentWaveIndex :=
    (currentWaveIndex_of_incomplete incomplete isIndex).symm ▸
      currentWaveIndex_of_incomplete incomplete isIndex
  rcases generateOneArtifact_state payload outcome with
    ⟨isWorkflow, _, isType, isDone⟩
  have memStates {branch : WorkflowState} :
      branch ∈ (state.writeArtifact payload outcome).currentStates ↔
        branch = (generateOneArtifact payload outcome).2 ∨ branch ∈ state.currentStates :=
    rounds.mem_currentStates_writeArtifact incomplete isOpen sameId
  have completedKept {artifactType : String}
      (isCompleted : artifactType ∈ completedTypes state.currentStates) :
      artifactType ∈ completedTypes (state.writeArtifact payload outcome).currentStates := by
    rcases mem_completedTypes.mp isCompleted with ⟨branch, mem, named, status⟩
    exact mem_completedTypes.mpr ⟨branch, memStates.mpr (.inr mem), named, status⟩
  exact
    { isCurrent := (currentId_writeArtifact incomplete).trans rounds.isCurrent
      branches := by
        intro branch mem
        rcases memStates.mp mem with rfl | stored
        · rw [isType, isWorkflow, sameId]
          exact ⟨rfl, rounds.pendingSent isOpen, restOnce.1, isDone⟩
        · rcases rounds.branches branch stored with ⟨isNamed, isSent, notOpen, status⟩
          exact ⟨isNamed, isSent, fun isRest => notOpen (restOpen isRest), status⟩
      ended := by
        intro artifactType isSent notRest
        by_cases isThis : artifactType = payload.artifactType
        · rw [isThis]
          refine mem_completedTypes.mpr ⟨_, memStates.mpr (.inl rfl), isType, ?_⟩
          rcases isDone with isPassed | isFailed
          · simp [isPassed]
          · simp [isFailed]
        · apply completedKept
          apply rounds.ended artifactType isSent
          intro wasOpen
          rcases mem_cons.mp (order.symm.subset wasOpen) with same | isRest
          · exact isThis same
          · exact notRest isRest
      sentOnce := rounds.sentOnce
      pendingOnce := restOnce.2
      pendingSent := fun _ mem => rounds.pendingSent (restOpen mem)
      pendingCurrent := by
        rw [sameIndex]
        exact fun artifactType mem => rounds.pendingCurrent artifactType (restOpen mem)
      inWaves := by
        rw [sameIndex]
        exact rounds.inWaves
      earlier := by
        rw [sameIndex]
        exact fun index isEarlier _ mem => completedKept (rounds.earlier index isEarlier mem)
      harmless := by
        rw [sameIndex]
        intro index isEarlier failed isFailed failedIn
        rcases mem_failedTypes.mp isFailed with ⟨branch, mem, rfl, status⟩
        rcases memStates.mp mem with rfl | stored
        -- a branch that fails now belongs to the wave of the round
        · rw [isType] at failedIn
          have same := waves_apart _ _ _ failedIn inWave
          omega
        · exact rounds.harmless index isEarlier _
            (mem_failedTypes.mpr ⟨branch, stored, rfl, status⟩) failedIn }

end Rounds

end OhMyClass.TeachingPack
