import OhMyClass.TeachingPack.FanoutRounds

/-!
# Runs of a generation

A generation ends after finitely many steps, sends no type twice and sends a
type only after what it depends on has passed.
-/

namespace OhMyClass.TeachingPack

open List OhMyClass.Contracts OhMyClass.Keyed OhMyClass.Transition TeachingPackState

def sentTypes (history : History BranchEnd (List GenerateOneArtifactPayload)) : List String :=
  history.flatMap fun entry => entry.2.map GenerateOneArtifactPayload.artifactType

@[simp]
theorem sentTypes_nil : sentTypes [] = [] :=
  rfl

@[simp]
theorem sentTypes_cons {branchEnd : BranchEnd} {sends : List GenerateOneArtifactPayload}
    {history : History BranchEnd (List GenerateOneArtifactPayload)} :
    sentTypes ((branchEnd, sends) :: history) =
      sends.map GenerateOneArtifactPayload.artifactType ++ sentTypes history :=
  rfl

section Sends

variable {parallelism : Nat} {state : TeachingPackState}

theorem routeAfterArtifactWorkflow_eq (incomplete : state.artifactFanoutComplete = false) :
    routeAfterArtifactWorkflow parallelism state =
      ((Rounds.missingTypes state).map fun artifactType =>
        ⟨state.currentId, artifactType, state.artifactReferences.members⟩).take parallelism := by
  have sameRevision := nextGenerationRevision_of_incomplete incomplete
  unfold routeAfterArtifactWorkflow
  rw [if_neg (by simp [incomplete])]
  unfold Rounds.missingTypes currentStates currentWave
    currentId
  rw [sameRevision]

theorem routeAfterArtifactWorkflow_of_complete (complete : state.artifactFanoutComplete = true) :
    routeAfterArtifactWorkflow parallelism state = [] := by
  simp [routeAfterArtifactWorkflow, complete]

theorem sends_sound (incomplete : state.artifactFanoutComplete = false)
    {sends : List GenerateOneArtifactPayload}
    (areSends : routeAfterArtifactWorkflow parallelism state = sends) :
    (∀ payload ∈ sends, payload.artifactGenerationId = state.currentId ∧
      payload.artifactType ∈ Rounds.missingTypes state ∧
      payload.dependencyArtifactReferences = state.artifactReferences.members) ∧
      (sends.map GenerateOneArtifactPayload.artifactType).Nodup := by
  rw [routeAfterArtifactWorkflow_eq incomplete] at areSends
  constructor
  · rintro payload mem
    rw [← areSends] at mem
    rcases mem_map.mp (mem_of_mem_take mem) with ⟨artifactType, isMissing, rfl⟩
    exact ⟨rfl, isMissing, rfl⟩
  · rw [← areSends, map_take, map_map]
    have sameTypes : (GenerateOneArtifactPayload.artifactType ∘ fun artifactType =>
        (⟨state.currentId, artifactType, state.artifactReferences.members⟩ :
          GenerateOneArtifactPayload)) = id := rfl
    rw [sameTypes, map_id]
    exact (nodup_waveAt.filter _).sublist (take_sublist _ _)

theorem sends_ne_nil (atLeastOne : 1 ≤ parallelism)
    (incomplete : state.artifactFanoutComplete = false)
    (someMissing : Rounds.missingTypes state ≠ []) :
    routeAfterArtifactWorkflow parallelism state ≠ [] := by
  rw [routeAfterArtifactWorkflow_eq incomplete]
  intro isEmpty
  rcases take_eq_nil_iff.mp isEmpty with isZero | noTypes
  · omega
  · exact someMissing (map_eq_nil_iff.mp noTypes)

end Sends

/-! ## Where a generation stands -/

/-- The generation between two steps, with the types sent so far. -/
inductive Standing (generationId : String) (sent : List String) : FanoutRun → Prop
  | coordinating {state : TeachingPackState} :
      Rounds generationId state.requestedTypes sent [] state →
      Standing generationId sent ⟨state, .coordinating⟩
  | generating {state : TeachingPackState} {sends : List GenerateOneArtifactPayload} :
      state.artifactFanoutComplete = false →
      state.artifactWaveIndex.isSome →
      sends ≠ [] →
      (∀ payload ∈ sends, payload.artifactGenerationId = generationId) →
      Rounds generationId state.settledTypes sent
        (sends.map GenerateOneArtifactPayload.artifactType) state →
      Standing generationId sent ⟨state, .generating sends⟩
  | finished {before : TeachingPackState} :
      before.coordinated.artifactFanoutComplete = true →
      Rounds generationId before.requestedTypes sent [] before →
      Standing generationId sent ⟨before.coordinated, .finished⟩

/-- What a step does to a generation that stands somewhere. -/
inductive Stepped (parallelism : Nat) (generationId : String) (sent : List String)
    (branchEnd : BranchEnd) : FanoutRun → FanoutRun × List GenerateOneArtifactPayload → Prop
  | completes {state : TeachingPackState} :
      state.coordinated.artifactFanoutComplete = true →
      Rounds generationId state.requestedTypes sent [] state →
      Stepped parallelism generationId sent branchEnd ⟨state, .coordinating⟩
        (⟨state.coordinated, .finished⟩, [])
  | sends {state : TeachingPackState} {sends : List GenerateOneArtifactPayload} :
      state.coordinated.artifactFanoutComplete = false →
      Rounds generationId state.requestedTypes sent [] state.coordinated →
      routeAfterArtifactWorkflow parallelism state.coordinated = sends →
      sends ≠ [] →
      Stepped parallelism generationId sent branchEnd ⟨state, .coordinating⟩
        (⟨state.coordinated, .generating sends⟩, sends)
  | branchEnds {state : TeachingPackState} {sends rest : List GenerateOneArtifactPayload}
      {payload : GenerateOneArtifactPayload} :
      state.artifactFanoutComplete = false →
      state.artifactWaveIndex.isSome →
      takeBranch sends branchEnd.index = some (payload, rest) →
      (payload :: rest).Perm sends →
      (∀ payload ∈ sends, payload.artifactGenerationId = generationId) →
      Rounds generationId state.settledTypes sent
        (rest.map GenerateOneArtifactPayload.artifactType)
        (state.writeArtifact payload branchEnd.outcome) →
      Stepped parallelism generationId sent branchEnd ⟨state, .generating sends⟩
        (⟨state.writeArtifact payload branchEnd.outcome,
          if rest = [] then .coordinating else .generating rest⟩, [])
  | rests {state : TeachingPackState} :
      state.coordinated.artifactFanoutComplete = true →
      Rounds generationId state.requestedTypes sent [] state →
      Stepped parallelism generationId sent branchEnd ⟨state.coordinated, .finished⟩
        (⟨state.coordinated, .finished⟩, [])

section Steps

variable {parallelism : Nat} {generationId : String} {sent : List String} {run : FanoutRun}
  {branchEnd : BranchEnd}

theorem Standing.stepped (atLeastOne : 1 ≤ parallelism)
    (standing : Standing generationId sent run) (branchEnd : BranchEnd) :
    Stepped parallelism generationId sent branchEnd run (run.step parallelism branchEnd) := by
  cases standing with
  | @coordinating state rounds =>
    unfold FanoutRun.step
    simp only
    cases complete : state.coordinated.artifactFanoutComplete with
    | true =>
      rw [routeAfterArtifactWorkflow_of_complete complete]
      exact .completes complete rounds
    | false =>
      rcases rounds.coordinated complete with ⟨coordinated, someMissing⟩
      split
      · next noSends => exact absurd noSends (sends_ne_nil atLeastOne complete someMissing)
      · next sends someSends => exact .sends complete coordinated rfl someSends
  | @generating state sends incomplete someIndex someOpen sameId rounds =>
    rcases takeBranch_of_ne_nil someOpen branchEnd.index with ⟨payload, rest, taken, order⟩
    rcases Option.isSome_iff_exists.mp someIndex with ⟨index, isIndex⟩
    have ended := rounds.writeArtifact incomplete isIndex
      (sameId payload (order.subset mem_cons_self))
      (order.map GenerateOneArtifactPayload.artifactType) branchEnd.outcome
    have stepped : Stepped parallelism generationId sent branchEnd ⟨state, .generating sends⟩ _ :=
      .branchEnds incomplete someIndex taken order sameId ended
    unfold FanoutRun.step
    simp only [taken]
    cases rest with
    | nil => exact stepped
    | cons next others => exact stepped
  | finished complete rounds => exact .rests complete rounds

variable {after : FanoutRun × List GenerateOneArtifactPayload}

theorem Stepped.standing (stepped : Stepped parallelism generationId sent branchEnd run after) :
    Standing generationId (after.2.map GenerateOneArtifactPayload.artifactType ++ sent)
      after.1 := by
  cases stepped with
  | completes complete rounds => exact .finished complete rounds
  | @sends state sends incomplete rounds areSends someSends =>
    rcases sends_sound incomplete areSends with ⟨sound, once⟩
    have missing : sends.map GenerateOneArtifactPayload.artifactType ⊆
        Rounds.missingTypes state.coordinated := by
      intro artifactType mem
      rcases mem_map.mp mem with ⟨payload, isSend, rfl⟩
      exact (sound payload isSend).2.1
    have sent := rounds.send missing once
    rw [← settledTypes_coordinated] at sent
    refine .generating incomplete rfl someSends ?_ sent
    intro payload isSend
    exact (sound payload isSend).1.trans rounds.isCurrent
  | @branchEnds state sends rest payload incomplete someIndex _ order sameId rounds =>
    split
    · next noRest =>
      subst noRest
      exact .coordinating (rounds.mono requestedTypes_subset_settledTypes)
    · next someRest =>
      refine .generating incomplete someIndex someRest ?_ rounds
      intro other mem
      exact sameId other (order.subset (mem_cons_of_mem _ mem))
  | rests complete rounds => exact .finished complete rounds

theorem Stepped.sends_in_order (stepped : Stepped parallelism generationId sent branchEnd run after)
    {payload : GenerateOneArtifactPayload} (isSend : payload ∈ after.2) :
    payload.artifactGenerationId = generationId ∧
      ∀ dependency ∈ dependenciesOf payload.artifactType, dependency ∈ run.state.requestedTypes →
        ∃ branch ∈ run.state.artifactWorkflowStates.members,
          branch.artifactGenerationId = generationId ∧ branch.artifactType = dependency ∧
            branch.status = .passed := by
  cases stepped with
  | completes | branchEnds | rests => cases isSend
  | @sends state sends incomplete rounds areSends someSends =>
    rcases (sends_sound incomplete areSends).1 payload isSend with ⟨sameId, isMissing, _⟩
    refine ⟨sameId.trans rounds.isCurrent, ?_⟩
    intro dependency isRequired isRequested
    rw [← requestedTypes_coordinated] at isRequested rounds
    rcases rounds.dependency_passed isMissing isRequired isRequested with
      ⟨branch, mem, isType, isPassed⟩
    rcases mem_currentGenerationWorkflowStates.mp mem with ⟨stored, isId⟩
    rw [artifactWorkflowStates_of_incomplete incomplete] at stored
    exact ⟨branch, stored, isId.trans rounds.isCurrent, isType, isPassed⟩

def planTypes : List String :=
  defaultDependencyPlan.waves.flatten

/-- How many steps may still follow, at most. -/
def stepsLeft (sent : List String) (run : FanoutRun) : Nat :=
  3 * (planTypes.length - sent.length) +
    match run.position with
    | .coordinating => 1
    | .generating sends => 2 * sends.length
    | .finished => 0

theorem mem_planTypes_of_wave {artifactType : String} {index : Nat}
    (mem : artifactType ∈ defaultDependencyPlan.wave index) : artifactType ∈ planTypes := by
  by_cases inside : index < defaultDependencyPlan.waves.length
  · rw [DependencyPlan.wave, getD_eq_getElem _ _ inside] at mem
    exact mem_flatten.mpr ⟨_, getElem_mem inside, mem⟩
  · rw [DependencyPlan.wave, getD_eq_default _ _ (by omega)] at mem
    cases mem

theorem Rounds.sent_length {requested pending : List String} {state : TeachingPackState}
    (rounds : Rounds generationId requested sent pending state) :
    sent.length ≤ planTypes.length := by
  have planned : sent ⊆ planTypes := by
    intro artifactType mem
    rcases rounds.inWaves artifactType mem with ⟨_, _, inWave⟩
    exact mem_planTypes_of_wave inWave
  exact (rounds.sentOnce.subperm planned).length_le

theorem Standing.sent_length (standing : Standing generationId sent run) :
    sent.length ≤ planTypes.length := by
  cases standing with
  | coordinating rounds => exact rounds.sent_length
  | generating _ _ _ _ rounds => exact rounds.sent_length
  | finished _ rounds => exact rounds.sent_length

theorem Standing.sent_nodup (standing : Standing generationId sent run) : sent.Nodup := by
  cases standing with
  | coordinating rounds => exact rounds.sentOnce
  | generating _ _ _ _ rounds => exact rounds.sentOnce
  | finished _ rounds => exact rounds.sentOnce

theorem Stepped.stepsLeft_lt (stepped : Stepped parallelism generationId sent branchEnd run after)
    (goesOn : run.position ≠ .finished) :
    stepsLeft (after.2.map GenerateOneArtifactPayload.artifactType ++ sent) after.1 <
      stepsLeft sent run := by
  have bound := stepped.standing.sent_length
  cases stepped with
  | completes => simp [stepsLeft]
  | @sends state sends _ _ _ someSends =>
    simp only [length_append, length_map] at bound
    simp only [stepsLeft, length_append, length_map]
    omega
  | @branchEnds state sends rest payload _ _ _ order =>
    have lengths := order.length_eq
    rw [length_cons] at lengths
    simp only [map_nil, nil_append, stepsLeft]
    split
    · next isCoordinating =>
      omega
    · next others isGenerating =>
      split at isGenerating
      · cases isGenerating
      · rcases FanoutPosition.generating.inj isGenerating with rfl
        omega
    · next isFinished =>
      split at isFinished
      · cases isFinished
      · cases isFinished
  | rests => exact absurd rfl goesOn

end Steps

section Generations

variable {parallelism : Nat} {start : FanoutRun}

theorem standing_trajectory (atLeastOne : 1 ≤ parallelism) (starts : start.Starts)
    (inputs : ℕ → BranchEnd) (n : ℕ) :
    Standing start.state.currentId
      (sentTypes ((fanoutMachine parallelism).trajectory start inputs n).2)
      ((fanoutMachine parallelism).trajectory start inputs n).1 := by
  induction n with
  | zero =>
    rcases start with ⟨state, position⟩
    rcases starts.coordinating with rfl
    exact .coordinating (Rounds.of_starts starts)
  | succ n ih => exact (ih.stepped atLeastOne (inputs n)).standing

theorem finishes (atLeastOne : 1 ≤ parallelism) (starts : start.Starts)
    (inputs : ℕ → BranchEnd) :
    ∃ n, ((fanoutMachine parallelism).trajectory start inputs n).1.position = .finished := by
  apply exists_of_descent fun n =>
    stepsLeft (sentTypes ((fanoutMachine parallelism).trajectory start inputs n).2)
      ((fanoutMachine parallelism).trajectory start inputs n).1
  intro n goesOn
  have stepped := (standing_trajectory atLeastOne starts inputs n).stepped atLeastOne (inputs n)
  exact stepped.stepsLeft_lt goesOn

theorem Standing.complete {generationId : String} {sent : List String} {run : FanoutRun}
    (standing : Standing generationId sent run) (isFinished : run.position = .finished) :
    run.state.artifactFanoutComplete = true := by
  cases standing with
  | coordinating => cases isFinished
  | generating => cases isFinished
  | finished complete => exact complete

/-- A generation becomes complete, sends no type twice, and sends a type only
after every requested type it depends on has passed under the same id. -/
structure CompletesInOrder (parallelism : Nat) (start : FanoutRun) (inputs : ℕ → BranchEnd) :
    Prop where
  completes : ∃ n,
    ((fanoutMachine parallelism).trajectory start inputs n).1.position = .finished ∧
      ((fanoutMachine parallelism).trajectory start inputs n).1.state.artifactFanoutComplete =
        true
  onlyOnce : ∀ n, (sentTypes ((fanoutMachine parallelism).trajectory start inputs n).2).Nodup
  inOrder : ∀ n, let run := ((fanoutMachine parallelism).trajectory start inputs n).1
    ∀ payload ∈ ((fanoutMachine parallelism).step run (inputs n)).2,
      payload.artifactGenerationId = start.state.currentId ∧
        ∀ dependency ∈ dependenciesOf payload.artifactType,
          dependency ∈ run.state.requestedTypes →
            ∃ branch ∈ run.state.artifactWorkflowStates.members,
              branch.artifactGenerationId = start.state.currentId ∧
                branch.artifactType = dependency ∧ branch.status = .passed

theorem fanout_completes_in_order (atLeastOne : 1 ≤ parallelism) (starts : start.Starts)
    (inputs : ℕ → BranchEnd) : CompletesInOrder parallelism start inputs where
  completes := by
    rcases finishes atLeastOne starts inputs with ⟨n, isFinished⟩
    have standing := standing_trajectory atLeastOne starts inputs n
    exact ⟨n, isFinished, standing.complete isFinished⟩
  onlyOnce := fun n => (standing_trajectory atLeastOne starts inputs n).sent_nodup
  inOrder := by
    intro n run payload isSend
    have standing := standing_trajectory atLeastOne starts inputs n
    exact (standing.stepped atLeastOne (inputs n)).sends_in_order isSend

end Generations

/-! ## Generations of a run -/

theorem starts_initial (runId : String) (contract : Contract) :
    FanoutRun.Starts ⟨TeachingPackState.initial runId contract, .coordinating⟩ where
  coordinating := rfl
  isNew := .inr ⟨rfl, rfl⟩
  fresh := by
    intro branch mem
    cases mem

theorem fanout_completes_in_order_of_failures :
    CompletesInOrder 2
      ⟨TeachingPackState.initial "run" ⟨none, ["lesson", "quiz"]⟩, .coordinating⟩
      fun _ => ⟨0, .failed "timed out"⟩ :=
  fanout_completes_in_order (by decide) (starts_initial "run" _) _

/-- Every id in the state is that of a revision so far. -/
structure Numbered (state : TeachingPackState) : Prop where
  current : ∀ generationId, state.artifactGenerationId = some generationId → generationId ≠ "" →
    generationId = generationIdText state.runId state.generationRevision
  stored : ∀ branch ∈ state.artifactWorkflowStates.members, ∃ revision ≤ state.generationRevision,
    branch.artifactGenerationId = generationIdText state.runId revision

namespace Numbered

variable {state : TeachingPackState}

theorem initial (runId : String) (contract : Contract) :
    Numbered (TeachingPackState.initial runId contract) where
  current := by
    intro generationId isCurrent
    cases isCurrent
  stored := by
    intro branch mem
    cases mem

theorem currentId_eq (numbered : Numbered state) :
    state.currentId = generationIdText state.runId state.nextGenerationRevision := by
  unfold currentId TeachingPackState.generationId
  split
  · rfl
  · rfl
  · next existing notEmpty isExisting =>
    split
    · next sameRevision =>
      rw [sameRevision]
      exact numbered.current existing isExisting notEmpty
    · rfl

theorem generationRevision_coordinated :
    state.coordinated.generationRevision = state.nextGenerationRevision := by
  unfold generationRevision
  rw [coordinated_artifactGenerationRevision]
  have positive : 0 < state.nextGenerationRevision :=
    nextGenerationRevision_pos
  split
  · next missing => cases missing
  · next isZero => exact absurd (Option.some.inj isZero) positive.ne'
  · next isRevision => exact (Option.some.inj isRevision).symm

theorem generationRevision_le : state.generationRevision ≤ state.nextGenerationRevision := by
  unfold nextGenerationRevision
  split
  · exact Nat.le_succ _
  · exact le_rfl

theorem coordinated (numbered : Numbered state) : Numbered state.coordinated where
  current := by
    intro generationId isCurrent _
    rw [coordinated_artifactGenerationId] at isCurrent
    rw [generationRevision_coordinated, ← Option.some.inj isCurrent]
    exact numbered.currentId_eq
  stored := by
    rw [generationRevision_coordinated]
    have kept : ∀ branch ∈ state.artifactWorkflowStates.members,
        ∃ revision ≤ state.nextGenerationRevision,
          branch.artifactGenerationId = generationIdText state.runId revision := by
      intro branch mem
      rcases numbered.stored branch mem with ⟨revision, isEarlier, isId⟩
      exact ⟨revision, isEarlier.trans generationRevision_le, isId⟩
    cases coordinated_cases state with
    | sameWave _ _ _ same | noWave _ _ same | nextWave _ _ _ _ _ _ same
    | lastWave _ _ _ _ same =>
      rw [same]
      exact kept
    | blocked _ _ _ written =>
      rw [written]
      intro branch mem
      rcases Channel.mem_merge.mp mem with isSkipped | ⟨stored, _⟩
      · rcases mem_map.mp isSkipped.mem with ⟨_, _, rfl⟩
        exact ⟨_, le_rfl, numbered.currentId_eq⟩
      · exact kept branch stored

theorem writeArtifact (numbered : Numbered state)
    (incomplete : state.artifactFanoutComplete = false) {payload : GenerateOneArtifactPayload}
    (sameId : payload.artifactGenerationId = state.currentId) (outcome : ArtifactOutcome) :
    Numbered (state.writeArtifact payload outcome) where
  current := numbered.current
  stored := by
    intro branch mem
    rcases Channel.mem_merge_singleton.mp mem with rfl | ⟨stored, _⟩
    · rw [(generateOneArtifact_state payload outcome).2.1, sameId,
        numbered.currentId_eq,
        nextGenerationRevision_of_incomplete incomplete]
      exact ⟨_, le_rfl, rfl⟩
    · exact numbered.stored branch stored

theorem step {parallelism : Nat} {generationId : String} {sent : List String} {run : FanoutRun}
    {branchEnd : BranchEnd} {after : FanoutRun × List GenerateOneArtifactPayload} (numbered : Numbered run.state)
    (stepped : Stepped parallelism generationId sent branchEnd run after) : Numbered after.1.state := by
  cases stepped with
  | completes | sends => exact numbered.coordinated
  | branchEnds incomplete _ _ order sameId rounds =>
    apply numbered.writeArtifact incomplete
    rw [sameId _ (order.subset mem_cons_self), ← rounds.isCurrent]
    exact currentId_writeArtifact incomplete
  | rests => exact numbered

theorem trajectory {parallelism : Nat} (atLeastOne : 1 ≤ parallelism) {start : FanoutRun}
    (starts : start.Starts) (numbered : Numbered start.state) (inputs : ℕ → BranchEnd) (n : ℕ) :
    Numbered ((fanoutMachine parallelism).trajectory start inputs n).1.state := by
  induction n with
  | zero => exact numbered
  | succ n ih =>
    exact ih.step ((standing_trajectory atLeastOne starts inputs n).stepped atLeastOne (inputs n))

theorem currentId_of_new (numbered : Numbered state)
    (isNew : state.needsNewGenerationCycle = true) :
    state.currentId = generationIdText state.runId (state.generationRevision + 1) := by
  rw [numbered.currentId_eq, nextGenerationRevision, if_pos isNew]

theorem starts (numbered : Numbered state) (isNew : state.needsNewGenerationCycle = true) :
    FanoutRun.Starts ⟨state, .coordinating⟩ where
  coordinating := rfl
  isNew := .inl isNew
  fresh := by
    intro branch mem sameId
    rcases numbered.stored branch mem with ⟨revision, isEarlier, isId⟩
    rw [isId, numbered.currentId_of_new isNew] at sameId
    have same := generationIdText_injective state.runId sameId
    omega

theorem changes (numbered : Numbered state) (isNew : state.needsNewGenerationCycle = true) :
    state.artifactGenerationId ≠ some state.currentId := by
  intro isCurrent
  have isId := numbered.current _ isCurrent (generationId_ne_empty _)
  rw [numbered.currentId_of_new isNew] at isId
  have same := generationIdText_injective state.runId isId
  omega

end Numbered

end OhMyClass.TeachingPack
