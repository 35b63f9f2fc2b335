import OhMyClass.Contracts.Plans
import OhMyClass.TeachingPack.State
import OhMyClass.Text.Core

/-!
# Artifact fan-out

A coordinator decides on the generation, its requested types and the wave to
generate; a route sends one branch for each missing type of the wave, at most
as many as the parallelism allows; a branch writes the status of its artifact
and, if it passes, a reference.
-/

namespace OhMyClass.TeachingPack

open List OhMyClass.Contracts

/-- The artifacts a response rejects one by one, with the type each of them
has in the pack. -/
structure ScopedRejection where
  artifactId : String
  artifactType : String
  reason : String

/-- `artifacts_by_id.get(artifact_id)`, where a later artifact overrides an
earlier one. -/
def artifactById (references : List ArtifactReference) (artifactId : String) :
    Option ArtifactReference :=
  references.reverse.find? fun reference => reference.artifactId = artifactId

def scopedRejections (references : List ArtifactReference) (gatePayload : GatePayload) :
    List ScopedRejection :=
  if gatePayload.rejectionType ≠ some "scoped" ∧ gatePayload.action ≠ some "reject_selected" then
    []
  else
    match gatePayload.artifactRejections with
    | none => []
    | some rejections =>
      rejections.filterMap fun rejection =>
        (artifactById references rejection.artifactId).map fun artifact =>
          ⟨rejection.artifactId, artifact.artifactType, rejection.reason⟩

def rejectedArtifactTypes (references : List ArtifactReference) (gatePayload : GatePayload) :
    List String :=
  (scopedRejections references gatePayload).foldl
    (fun types rejection =>
      if rejection.artifactType ∈ types then types else types ++ [rejection.artifactType]) []

def hasScopedSectionEdit (gatePayload : GatePayload) : Bool :=
  gatePayload.editType = some "scoped_section" ∧ gatePayload.sectionEdit

section Dependents

variable (dependenciesOf : String → List String)

/-- `affected.intersection(artifact_dependencies)`. -/
def dependsOnSome (types : List String) (artifactType : String) : Bool :=
  (dependenciesOf artifactType).any fun dependency => dependency ∈ types

/-- One round of the loop of `with_dependents`. -/
def addDependents (requestedTypes affected : List String) : List String :=
  requestedTypes.foldl
    (fun affected artifactType =>
      if artifactType ∉ affected ∧ dependsOnSome dependenciesOf affected artifactType then
        affected ++ [artifactType]
      else
        affected) affected

/-- Every round but the last one adds a requested type, so that as many rounds
as there are requested types reach the end of the loop. -/
def withDependents (seedTypes requestedTypes : List String) : List String :=
  let affected := (addDependents dependenciesOf requestedTypes)^[requestedTypes.length] seedTypes
  requestedTypes.filter fun artifactType => artifactType ∈ affected

def skippedDependents (generationId : String) (requestedTypes failedTypes : List String) :
    List WorkflowState :=
  (requestedTypes.filter (dependsOnSome dependenciesOf failedTypes)).map fun artifactType =>
    { workflowId := generationId ++ ":" ++ artifactType
      artifactGenerationId := generationId
      artifactId := artifactType
      artifactType := artifactType
      status := .skipped
      errorSummary := some "required dependency failed" }

end Dependents

/-! ## Generations and waves -/

/-- `_DEPENDENCIES.get(artifact_type, ())`. -/
abbrev dependenciesOf : String → List String :=
  defaultDependencyPlan.dependenciesOf

namespace TeachingPackState

variable (state : TeachingPackState)

def allRequestedTypes : List String :=
  if state.artifactTypes ≠ [] then state.artifactTypes
  else if state.contract.artifactTypes ≠ [] then state.contract.artifactTypes
  else ["lesson", "worksheet", "quiz", "drill", "slide_deck"]

def rejectedGenerationTypes : List String :=
  match rejectedArtifactTypes state.artifactReferences.members state.gatePayload with
  | [] => []
  | rejectedTypes => withDependents dependenciesOf rejectedTypes state.allRequestedTypes

def scopedGenerationTypes : List String :=
  match state.artifactRegenerationScope with
  | [] => state.rejectedGenerationTypes
  | existingScope => existingScope

def requestedTypes : List String :=
  match state.scopedGenerationTypes with
  | [] => state.allRequestedTypes
  | scopedTypes => scopedTypes

def needsNewGenerationCycle : Bool :=
  state.artifactFanoutComplete &&
    (state.rejectedGenerationTypes ≠ [] || state.qualityRecoveryRoute = some .artifactWorkflow)

def generationRevision : Nat :=
  match state.artifactGenerationRevision with
  | none | some 0 => 1
  | some revision => revision

def nextGenerationRevision : Nat :=
  if state.needsNewGenerationCycle then state.generationRevision + 1 else state.generationRevision

end TeachingPackState

/-- `f"{run_id}:artifact:{revision}"`. -/
def generationIdText (runId : String) (revision : Nat) : String :=
  runId ++ ":artifact:" ++ String.ofList (Nat.toDigits 10 revision)

/-- `_generation_id`: an id of the current revision stays, another one is
replaced by the expected one. -/
def TeachingPackState.generationId (state : TeachingPackState) (revision : Nat) : String :=
  match state.artifactGenerationId with
  | none | some "" => generationIdText state.runId revision
  | some existing =>
    if revision = state.generationRevision then existing
    else generationIdText state.runId revision

def waveAt (requestedTypes : List String) (waveIndex : Nat) : List String :=
  (defaultDependencyPlan.wave waveIndex).filter fun artifactType => artifactType ∈ requestedTypes

/-- The first index from `start` on whose wave has a requested type. -/
def waveFrom (requestedTypes : List String) (start : Nat) : Option Nat :=
  (List.range defaultDependencyPlan.waves.length).find? fun index =>
    start ≤ index ∧ waveAt requestedTypes index ≠ []

def nextWaveIndex (requestedTypes : List String) (waveIndex : Nat) : Option Nat :=
  waveFrom requestedTypes (waveIndex + 1)

def TeachingPackState.currentWaveIndex (state : TeachingPackState) : Nat :=
  let first := waveFrom state.requestedTypes 0
  match if state.needsNewGenerationCycle then first else none with
  | some index => index
  | none =>
    match state.artifactWaveIndex with
    | some index => index
    | none => first.getD 0

def completedTypes (states : List WorkflowState) : List String :=
  (states.filter fun state =>
    state.status ∈ [WorkflowStatus.passed, .failed, .skipped]).map WorkflowState.artifactType

def failedTypes (states : List WorkflowState) : List String :=
  (states.filter fun state => state.status = .failed).map WorkflowState.artifactType

/-- What `coordinate_artifact_fanout` returns. -/
structure FanoutUpdate where
  artifactGenerationId : String
  artifactGenerationRevision : Nat
  artifactWaveIndex : Nat
  artifactFanoutComplete : Bool
  artifactFanoutBlocked : Option Bool
  artifactReferences : List ArtifactReference
  artifactRegenerationScope : Option (List String)
  artifactWorkflowStates : Option (List WorkflowState)

/-- The `update` the coordinator starts from. -/
def fanoutUpdate (state : TeachingPackState) : FanoutUpdate :=
  let generationRevision := state.nextGenerationRevision
  let generationId := state.generationId generationRevision
  let scopedTypes := state.scopedGenerationTypes
  let currentReferences :=
    currentGenerationArtifactReferences state.artifactReferences.members generationId
  let preservedReferences :=
    if scopedTypes = [] then []
    else state.artifactReferences.members.filter fun reference =>
      reference.artifactType ∉ scopedTypes
  { artifactGenerationId := generationId
    artifactGenerationRevision := generationRevision
    artifactWaveIndex := state.currentWaveIndex
    artifactFanoutComplete := false
    artifactFanoutBlocked := none
    artifactReferences := preservedReferences ++ currentReferences
    artifactRegenerationScope := if scopedTypes = [] then none else some scopedTypes
    artifactWorkflowStates := none }

def coordinateArtifactFanout (state : TeachingPackState) : FanoutUpdate :=
  let generationId := state.generationId state.nextGenerationRevision
  let requestedTypes := state.requestedTypes
  let currentWaveIndex := state.currentWaveIndex
  let currentStates :=
    currentGenerationWorkflowStates state.artifactWorkflowStates.members generationId
  let update := fanoutUpdate state
  let currentWave := waveAt requestedTypes currentWaveIndex
  if currentWave = [] then
    { update with artifactFanoutComplete := true }
  else if ¬ currentWave ⊆ completedTypes currentStates then
    update
  else
    match skippedDependents dependenciesOf generationId requestedTypes
        (failedTypes currentStates) with
    | [] =>
      match nextWaveIndex requestedTypes currentWaveIndex with
      | none => { update with artifactFanoutComplete := true }
      | some index => { update with artifactWaveIndex := index }
    | skippedStates =>
      { update with
        artifactFanoutComplete := true
        artifactFanoutBlocked := some true
        artifactWorkflowStates := some skippedStates }

/-- The state with the update; the channels merge what it lists, and their own
members where it lists nothing. -/
def FanoutUpdate.apply (update : FanoutUpdate) (state : TeachingPackState) : TeachingPackState :=
  { state with
    artifactGenerationId := some update.artifactGenerationId
    artifactGenerationRevision := some update.artifactGenerationRevision
    artifactWaveIndex := some update.artifactWaveIndex
    artifactFanoutComplete := update.artifactFanoutComplete
    artifactFanoutBlocked := update.artifactFanoutBlocked.getD state.artifactFanoutBlocked
    artifactRegenerationScope :=
      update.artifactRegenerationScope.getD state.artifactRegenerationScope
    artifactReferences := state.artifactReferences.merge update.artifactReferences
    artifactWorkflowStates :=
      state.artifactWorkflowStates.merge
        (update.artifactWorkflowStates.getD state.artifactWorkflowStates.members) }

/-- What a branch is sent. -/
structure GenerateOneArtifactPayload where
  artifactGenerationId : String
  artifactType : String
  dependencyArtifactReferences : List ArtifactReference
  deriving DecidableEq

/-- The sends after the coordinator; none stands for the route to
`render_quality`. -/
def routeAfterArtifactWorkflow (parallelism : Nat) (state : TeachingPackState) :
    List GenerateOneArtifactPayload :=
  if state.artifactFanoutComplete then
    []
  else
    let generationId := state.generationId state.generationRevision
    let currentStates :=
      currentGenerationWorkflowStates state.artifactWorkflowStates.members generationId
    (((waveAt state.requestedTypes state.currentWaveIndex).filter fun artifactType =>
      artifactType ∉ completedTypes currentStates).map fun artifactType =>
        ⟨generationId, artifactType, state.artifactReferences.members⟩).take parallelism

/-- What becomes of a generation: an error, or an artifact with the id its
content carries, if any. -/
inductive ArtifactOutcome where
  | failed (error : String)
  | passed (artifactId : Option String)

/-- The quiz `_derived_answer_key` reads, the first one among the references. -/
def GenerateOneArtifactPayload.quizReference (payload : GenerateOneArtifactPayload) :
    Option ArtifactReference :=
  payload.dependencyArtifactReferences.find? fun reference => reference.artifactType = "quiz"

/-- The status of a branch; an answer key fails without a quiz. -/
def generateOneArtifact (payload : GenerateOneArtifactPayload) (outcome : ArtifactOutcome) :
    Option ArtifactReference × WorkflowState :=
  let workflowState (artifactId : String) (status : WorkflowStatus) (error : Option String) :
      WorkflowState :=
    { workflowId := payload.artifactGenerationId ++ ":" ++ payload.artifactType
      artifactGenerationId := payload.artifactGenerationId
      artifactId := if artifactId = "" then payload.artifactType else artifactId
      artifactType := payload.artifactType
      status := status
      errorSummary := error.map fun text => String.ofList (text.toList.take 240) }
  match outcome with
  | .failed error => (none, workflowState "" .failed (some error))
  | .passed generatedId =>
    if payload.artifactType = "answer_key" ∧ payload.quizReference = none then
      (none, workflowState "" .failed (some "answer_key requires a generated quiz dependency"))
    else
      let artifactId := generatedId.getD (payload.artifactType ++ "-1")
      (some
        { documentId := payload.artifactGenerationId ++ ":" ++ artifactId
          artifactId := artifactId
          artifactType := payload.artifactType
          generationId := payload.artifactGenerationId
          quizDocumentId :=
            if payload.artifactType = "answer_key" then
              payload.quizReference.map ArtifactReference.documentId
            else
              none },
        workflowState artifactId .passed none)

/-- The writes of a branch, merged by the channels. -/
def TeachingPackState.writeArtifact (state : TeachingPackState)
    (payload : GenerateOneArtifactPayload) (outcome : ArtifactOutcome) : TeachingPackState :=
  let written := generateOneArtifact payload outcome
  { state with
    artifactReferences := state.artifactReferences.merge written.1.toList
    artifactWorkflowStates := state.artifactWorkflowStates.merge [written.2] }

/-! ## Steps of the fan-out -/

open OhMyClass.Keyed

variable {requestedTypes : List String} {artifactType dependency : String} {index start : Nat}

theorem mem_waveAt :
    artifactType ∈ waveAt requestedTypes index ↔
      artifactType ∈ defaultDependencyPlan.wave index ∧ artifactType ∈ requestedTypes := by
  simp [waveAt]

theorem wave_of_ge (beyond : 3 ≤ index) : defaultDependencyPlan.wave index = [] :=
  getD_eq_default _ _ beyond

theorem waveIndexByType_of_mem (mem : artifactType ∈ defaultDependencyPlan.wave index) :
    waveIndexByType defaultDependencyPlan.waves artifactType = some index := by
  have inside : index < 3 := by
    by_contra beyond
    rw [wave_of_ge (by omega)] at mem
    cases mem
  have each : ∀ index < 3, ∀ artifactType ∈ defaultDependencyPlan.wave index,
      waveIndexByType defaultDependencyPlan.waves artifactType = some index := by
    decide +kernel
  exact each index inside artifactType mem

theorem waves_apart (first second : Nat) (artifactType : String)
    (inFirst : artifactType ∈ defaultDependencyPlan.wave first)
    (inSecond : artifactType ∈ defaultDependencyPlan.wave second) : first = second :=
  Option.some.inj ((waveIndexByType_of_mem inFirst).symm.trans (waveIndexByType_of_mem inSecond))

theorem nodup_wave (index : Nat) : (defaultDependencyPlan.wave index).Nodup := by
  by_cases inside : index < 3
  · have each : ∀ index < 3, (defaultDependencyPlan.wave index).Nodup := by decide +kernel
    exact each index inside
  · rw [wave_of_ge (by omega)]
    exact nodup_nil

theorem nodup_waveAt : (waveAt requestedTypes index).Nodup :=
  (nodup_wave index).filter _

theorem dependency_in_earlier_wave (mem : artifactType ∈ defaultDependencyPlan.wave index)
    (isRequired : dependency ∈ dependenciesOf artifactType) :
    ∃ earlier < index, dependency ∈ defaultDependencyPlan.wave earlier :=
  DependencyPlan.dependency_earlier waves_apart mem isRequired

theorem waveFrom_eq_some (found : waveFrom requestedTypes start = some index) :
    start ≤ index ∧ waveAt requestedTypes index ≠ [] ∧
      ∀ skipped, start ≤ skipped → skipped < index → waveAt requestedTypes skipped = [] := by
  unfold waveFrom at found
  rw [List.find?_range_eq_some] at found
  rcases found with ⟨isFirst, _, none⟩
  simp only [decide_eq_true_eq] at isFirst
  refine ⟨isFirst.1, isFirst.2, ?_⟩
  intro skipped later earlier
  simpa [later] using none skipped earlier

theorem waveFrom_eq_none (missing : waveFrom requestedTypes start = none) (later : start ≤ index) :
    waveAt requestedTypes index = [] := by
  by_cases inside : index < 3
  · have none := List.find?_eq_none.mp missing index (mem_range.mpr inside)
    simpa [later] using none
  · rw [waveAt, wave_of_ge (by omega), filter_nil]

namespace TeachingPackState

variable {state : TeachingPackState}

/-- The types a cycle that has begun asks for, whatever is rejected meanwhile. -/
def settledTypes (state : TeachingPackState) : List String :=
  match state.artifactRegenerationScope with
  | [] => state.allRequestedTypes
  | existingScope => existingScope

theorem withDependents_subset {dependenciesOf : String → List String}
    {seedTypes requestedTypes : List String} :
    withDependents dependenciesOf seedTypes requestedTypes ⊆ requestedTypes :=
  filter_subset_self _

theorem rejectedGenerationTypes_subset :
    state.rejectedGenerationTypes ⊆ state.allRequestedTypes := by
  unfold rejectedGenerationTypes
  split
  · exact nil_subset _
  · exact withDependents_subset

theorem requestedTypes_subset_settledTypes : state.requestedTypes ⊆ state.settledTypes := by
  unfold requestedTypes scopedGenerationTypes settledTypes
  cases state.artifactRegenerationScope with
  | nil =>
    split
    · exact List.Subset.refl _
    · exact rejectedGenerationTypes_subset
  | cons first rest => exact List.Subset.refl _

/-! ## The coordinator -/

/-- The generation the coordinator works on. -/
def currentId (state : TeachingPackState) : String :=
  state.generationId state.nextGenerationRevision

def currentStates (state : TeachingPackState) : List WorkflowState :=
  currentGenerationWorkflowStates state.artifactWorkflowStates.members state.currentId

def currentWave (state : TeachingPackState) : List String :=
  waveAt state.requestedTypes state.currentWaveIndex

/-- The state after the coordinator. -/
def coordinated (state : TeachingPackState) : TeachingPackState :=
  (coordinateArtifactFanout state).apply state

variable {generationId : String}

theorem mem_currentGenerationWorkflowStates {workflowStates : List WorkflowState}
    {branch : WorkflowState} :
    branch ∈ currentGenerationWorkflowStates workflowStates generationId ↔
      branch ∈ workflowStates ∧ branch.artifactGenerationId = generationId := by
  simp [currentGenerationWorkflowStates]

theorem currentGenerationArtifactReferences_subset {references : List ArtifactReference} :
    currentGenerationArtifactReferences references generationId ⊆ references := by
  intro reference mem
  unfold currentGenerationArtifactReferences stableMerge at mem
  rw [Sorting.mem_sortBy, mem_foldl_put] at mem
  rcases mem with isLast | ⟨impossible, _⟩
  · exact mem_of_mem_filter isLast.mem
  · cases impossible

/-- The two ways the coordinator goes on, and the three in which the fan-out is
complete. -/
inductive Coordinated (state after : TeachingPackState) : Prop
  | sameWave :
      ¬ state.currentWave ⊆ completedTypes state.currentStates →
      after.artifactFanoutComplete = false →
      after.artifactWaveIndex = some state.currentWaveIndex →
      after.artifactWorkflowStates = state.artifactWorkflowStates → Coordinated state after
  | nextWave (index : Nat) :
      state.currentWave ⊆ completedTypes state.currentStates →
      (∀ artifactType ∈ state.requestedTypes, ∀ failed ∈ failedTypes state.currentStates,
        failed ∉ dependenciesOf artifactType) →
      nextWaveIndex state.requestedTypes state.currentWaveIndex = some index →
      after.artifactFanoutComplete = false →
      after.artifactWaveIndex = some index →
      after.artifactWorkflowStates = state.artifactWorkflowStates → Coordinated state after
  | noWave :
      state.currentWave = [] →
      after.artifactFanoutComplete = true →
      after.artifactWorkflowStates = state.artifactWorkflowStates → Coordinated state after
  | lastWave :
      state.currentWave ⊆ completedTypes state.currentStates →
      (∀ artifactType ∈ state.requestedTypes, ∀ failed ∈ failedTypes state.currentStates,
        failed ∉ dependenciesOf artifactType) →
      nextWaveIndex state.requestedTypes state.currentWaveIndex = none →
      after.artifactFanoutComplete = true →
      after.artifactWorkflowStates = state.artifactWorkflowStates → Coordinated state after
  | blocked :
      state.currentWave ⊆ completedTypes state.currentStates →
      skippedDependents dependenciesOf state.currentId state.requestedTypes
        (failedTypes state.currentStates) ≠ [] →
      after.artifactFanoutComplete = true →
      after.artifactWorkflowStates = state.artifactWorkflowStates.merge
        (skippedDependents dependenciesOf state.currentId state.requestedTypes
          (failedTypes state.currentStates)) → Coordinated state after

theorem dependsOnSome_iff {types : List String} {artifactType : String} :
    dependsOnSome dependenciesOf types artifactType = true ↔
      ∃ dependency ∈ dependenciesOf artifactType, dependency ∈ types := by
  simp [dependsOnSome]

theorem skippedDependents_eq_nil {requestedTypes failedTypes : List String}
    (none : skippedDependents dependenciesOf generationId requestedTypes failedTypes = []) :
    ∀ artifactType ∈ requestedTypes, ∀ failed ∈ failedTypes,
      failed ∉ dependenciesOf artifactType := by
  intro artifactType mem failed isFailed isRequired
  unfold skippedDependents at none
  rw [map_eq_nil_iff, filter_eq_nil_iff] at none
  exact none artifactType mem (dependsOnSome_iff.mpr ⟨failed, isRequired, isFailed⟩)

section

variable (state : TeachingPackState)

theorem coordinated_cases :
    Coordinated state state.coordinated := by
  have statesKept : state.artifactWorkflowStates.merge state.artifactWorkflowStates.members =
      state.artifactWorkflowStates := Channel.merge_members
  unfold coordinated coordinateArtifactFanout
  simp only
  split
  · next isEmpty => exact .noWave isEmpty rfl statesKept
  · split
    · next unfinished => exact .sameWave unfinished rfl rfl statesKept
    · next finished =>
      rw [not_not] at finished
      split
      · next harmless =>
        have noDependents := skippedDependents_eq_nil harmless
        split
        · next isLast => exact .lastWave finished noDependents isLast rfl statesKept
        · next index isNext =>
          exact .nextWave index finished noDependents isNext rfl rfl statesKept
      · next skippedStates someSkipped => exact .blocked finished someSkipped rfl rfl

theorem fanoutUpdate_references_subset :
    (fanoutUpdate state).artifactReferences ⊆ state.artifactReferences.members := by
  apply append_subset.mpr
  constructor
  · split
    · exact nil_subset _
    · exact filter_subset_self _
  · exact currentGenerationArtifactReferences_subset

theorem coordinateArtifactFanout_common :
    (coordinateArtifactFanout state).artifactGenerationId = state.currentId ∧
      (coordinateArtifactFanout state).artifactGenerationRevision =
        state.nextGenerationRevision ∧
      (coordinateArtifactFanout state).artifactRegenerationScope =
        (fanoutUpdate state).artifactRegenerationScope ∧
      (coordinateArtifactFanout state).artifactReferences =
        (fanoutUpdate state).artifactReferences := by
  unfold coordinateArtifactFanout
  simp only
  split
  · exact ⟨rfl, rfl, rfl, rfl⟩
  · split
    · exact ⟨rfl, rfl, rfl, rfl⟩
    · split
      · split
        · exact ⟨rfl, rfl, rfl, rfl⟩
        · exact ⟨rfl, rfl, rfl, rfl⟩
      · exact ⟨rfl, rfl, rfl, rfl⟩

@[simp]
theorem coordinated_artifactReferences :
    state.coordinated.artifactReferences = state.artifactReferences :=
  Channel.merge_of_subset fun _ mem =>
    fanoutUpdate_references_subset state
      ((coordinateArtifactFanout_common state).2.2.2 ▸ mem)

theorem coordinated_artifactGenerationId :
    state.coordinated.artifactGenerationId = some state.currentId :=
  congrArg some (coordinateArtifactFanout_common state).1

theorem coordinated_artifactGenerationRevision :
    state.coordinated.artifactGenerationRevision = some state.nextGenerationRevision :=
  congrArg some (coordinateArtifactFanout_common state).2.1

theorem coordinated_artifactRegenerationScope :
    state.coordinated.artifactRegenerationScope = state.scopedGenerationTypes := by
  have scope : state.coordinated.artifactRegenerationScope =
      (coordinateArtifactFanout state).artifactRegenerationScope.getD
        state.artifactRegenerationScope := rfl
  rw [scope, (coordinateArtifactFanout_common state).2.2.1]
  unfold fanoutUpdate
  simp only
  split
  · next noScope =>
    unfold scopedGenerationTypes at noScope ⊢
    cases isScope : state.artifactRegenerationScope with
    | nil =>
      rw [isScope] at noScope
      exact noScope.symm
    | cons first rest =>
      rw [isScope] at noScope
      cases noScope
  · rfl

theorem settledTypes_coordinated :
    state.coordinated.settledTypes = state.requestedTypes := by
  unfold settledTypes requestedTypes
  rw [coordinated_artifactRegenerationScope]
  rfl

theorem rejectedGenerationTypes_coordinated :
    state.coordinated.rejectedGenerationTypes = state.rejectedGenerationTypes := by
  unfold rejectedGenerationTypes
  rw [coordinated_artifactReferences]
  rfl

end

theorem rejectedGenerationTypes_of_no_scope (noScope : state.scopedGenerationTypes = []) :
    state.rejectedGenerationTypes = [] := by
  unfold scopedGenerationTypes at noScope
  split at noScope
  · exact noScope
  · next someType => exact absurd noScope someType

theorem scopedGenerationTypes_coordinated (state : TeachingPackState) :
    state.coordinated.scopedGenerationTypes = state.scopedGenerationTypes := by
  change (match state.coordinated.artifactRegenerationScope with
    | [] => state.coordinated.rejectedGenerationTypes
    | existingScope => existingScope) = state.scopedGenerationTypes
  rw [coordinated_artifactRegenerationScope, rejectedGenerationTypes_coordinated]
  cases isScope : state.scopedGenerationTypes with
  | nil => exact rejectedGenerationTypes_of_no_scope isScope
  | cons first rest => rfl

theorem requestedTypes_coordinated (state : TeachingPackState) :
    state.coordinated.requestedTypes = state.requestedTypes := by
  unfold requestedTypes
  rw [scopedGenerationTypes_coordinated]
  rfl

/-! ## Within a generation -/

theorem generationRevision_pos : 0 < state.generationRevision := by
  unfold generationRevision
  split
  · exact Nat.one_pos
  · exact Nat.one_pos
  · next notZero _ => exact Nat.pos_of_ne_zero notZero

theorem generationIdText_ne_empty (runId : String) (revision : Nat) :
    generationIdText runId revision ≠ "" := by
  intro isEmpty
  have texts := congrArg String.toList isEmpty
  simp [generationIdText] at texts

theorem generationIdText_injective (runId : String) {first second : Nat}
    (same : generationIdText runId first = generationIdText runId second) : first = second := by
  have digits := String.ofList_injective ((String.append_right_inj _).mp same)
  exact Text.toDigits_injective digits

theorem generationId_ne_empty (revision : Nat) : state.generationId revision ≠ "" := by
  unfold generationId
  split
  · exact generationIdText_ne_empty _ _
  · exact generationIdText_ne_empty _ _
  · next notEmpty _ =>
    split
    · exact notEmpty
    · exact generationIdText_ne_empty _ _

theorem needsNewGenerationCycle_eq_false (incomplete : state.artifactFanoutComplete = false) :
    state.needsNewGenerationCycle = false := by
  simp [needsNewGenerationCycle, incomplete]

theorem nextGenerationRevision_of_incomplete (incomplete : state.artifactFanoutComplete = false) :
    state.nextGenerationRevision = state.generationRevision := by
  simp [nextGenerationRevision, needsNewGenerationCycle_eq_false incomplete]

theorem nextGenerationRevision_pos : 0 < state.nextGenerationRevision := by
  unfold nextGenerationRevision
  split
  · exact Nat.succ_pos _
  · exact generationRevision_pos

theorem generationId_of_current (isCurrent : state.artifactGenerationId = some generationId)
    (notEmpty : generationId ≠ "") :
    state.generationId state.generationRevision = generationId := by
  unfold TeachingPackState.generationId
  rw [isCurrent]
  split
  · next missing => cases missing
  · next isEmpty => exact absurd (Option.some.inj isEmpty) notEmpty
  · next existing _ isExisting =>
    rw [if_pos rfl]
    exact (Option.some.inj isExisting).symm

theorem artifactWorkflowStates_of_incomplete
    (incomplete : state.coordinated.artifactFanoutComplete = false) :
    state.coordinated.artifactWorkflowStates = state.artifactWorkflowStates := by
  cases coordinated_cases state with
  | sameWave _ _ _ kept => exact kept
  | nextWave _ _ _ _ _ _ kept => exact kept
  | noWave _ _ kept => exact kept
  | lastWave _ _ _ _ kept => exact kept
  | blocked _ _ complete =>
    rw [complete] at incomplete
    cases incomplete

theorem currentId_coordinated (incomplete : state.coordinated.artifactFanoutComplete = false) :
    state.coordinated.currentId = state.currentId := by
  unfold currentId
  rw [nextGenerationRevision_of_incomplete incomplete]
  exact generationId_of_current (coordinated_artifactGenerationId state) (generationId_ne_empty _)

theorem currentWaveIndex_of_incomplete {index : Nat}
    (incomplete : state.artifactFanoutComplete = false)
    (isIndex : state.artifactWaveIndex = some index) : state.currentWaveIndex = index := by
  simp [currentWaveIndex, needsNewGenerationCycle_eq_false incomplete, isIndex]

section Branches

variable {payload : GenerateOneArtifactPayload} {outcome : ArtifactOutcome}

theorem currentId_writeArtifact (incomplete : state.artifactFanoutComplete = false) :
    (state.writeArtifact payload outcome).currentId = state.currentId := by
  have stillIncomplete : (state.writeArtifact payload outcome).artifactFanoutComplete = false :=
    incomplete
  unfold currentId
  rw [nextGenerationRevision_of_incomplete incomplete,
    nextGenerationRevision_of_incomplete stillIncomplete]
  rfl

theorem generateOneArtifact_state (payload : GenerateOneArtifactPayload)
    (outcome : ArtifactOutcome) :
    (generateOneArtifact payload outcome).2.workflowId =
        payload.artifactGenerationId ++ ":" ++ payload.artifactType ∧
      (generateOneArtifact payload outcome).2.artifactGenerationId =
        payload.artifactGenerationId ∧
      (generateOneArtifact payload outcome).2.artifactType = payload.artifactType ∧
      ((generateOneArtifact payload outcome).2.status = .passed ∨
        (generateOneArtifact payload outcome).2.status = .failed) := by
  unfold generateOneArtifact
  split
  · exact ⟨rfl, rfl, rfl, .inr rfl⟩
  · split
    · exact ⟨rfl, rfl, rfl, .inr rfl⟩
    · exact ⟨rfl, rfl, rfl, .inl rfl⟩

end Branches

end TeachingPackState

section Stored

variable {payload : GenerateOneArtifactPayload} {outcome : ArtifactOutcome}
  {reference : ArtifactReference}

/-- The reference a branch writes is of its generation and its type; that of an
answer key names a quiz the branch was given. -/
theorem generateOneArtifact_reference
    (written : (generateOneArtifact payload outcome).1 = some reference) :
    reference.generationId = payload.artifactGenerationId ∧
      reference.documentId = payload.artifactGenerationId ++ ":" ++ reference.artifactId ∧
      reference.artifactType = payload.artifactType ∧
      (reference.artifactType = "answer_key" →
        ∃ quiz ∈ payload.dependencyArtifactReferences, quiz.artifactType = "quiz" ∧
          reference.quizDocumentId = some quiz.documentId) := by
  unfold generateOneArtifact at written
  split at written
  · cases written
  · split at written
    · cases written
    · next hasQuiz =>
      rcases Option.some.inj written with rfl
      refine ⟨rfl, rfl, rfl, fun isKey => ?_⟩
      simp only at isKey
      rcases found : payload.quizReference with _ | quiz
      · exact absurd ⟨isKey, found⟩ hasQuiz
      · have isQuiz := List.find?_some found
        exact ⟨quiz, mem_of_find?_eq_some found, by simpa using isQuiz, by simp [isKey]⟩

theorem generateOneArtifact_passed
    (passed : (generateOneArtifact payload outcome).2.status = .passed) :
    ∃ reference, (generateOneArtifact payload outcome).1 = some reference := by
  unfold generateOneArtifact at passed ⊢
  split at passed
  · cases passed
  · split at passed
    · cases passed
    · next hasQuiz => exact ⟨_, by rw [if_neg hasQuiz]⟩

theorem generationIdText_of_document {runId first second : String} {revision other : Nat}
    (same : generationIdText runId revision ++ ":" ++ first =
      generationIdText runId other ++ ":" ++ second) : revision = other := by
  have texts := congrArg String.toList same
  simp only [generationIdText, String.toList_append, String.toList_ofList, append_assoc,
    append_cancel_left_eq] at texts
  have noColon (n : Nat) : ':' ∉ Nat.toDigits 10 n := by
    intro mem
    have isDigit := Text.isDigit_of_mem_toDigits mem
    exact absurd isDigit (by decide)
  exact Text.toDigits_injective (Text.split_at_first (noColon _) (noColon _) texts).1

theorem TeachingPackState.writeArtifact_of_none {state : TeachingPackState}
    (storesNothing : (generateOneArtifact payload outcome).1 = none) :
    (state.writeArtifact payload outcome).artifactReferences = state.artifactReferences := by
  simp only [TeachingPackState.writeArtifact, storesNothing, Option.toList_none]
  exact Channel.merge_of_subset nofun

end Stored

variable {states : List WorkflowState}

theorem mem_completedTypes :
    artifactType ∈ completedTypes states ↔
      ∃ branch ∈ states, branch.artifactType = artifactType ∧
        branch.status ∈ [WorkflowStatus.passed, .failed, .skipped] := by
  simp only [completedTypes, mem_map, mem_filter, decide_eq_true_eq]
  constructor
  · rintro ⟨branch, ⟨mem, isDone⟩, isType⟩
    exact ⟨branch, mem, isType, isDone⟩
  · rintro ⟨branch, mem, isType, isDone⟩
    exact ⟨branch, ⟨mem, isDone⟩, isType⟩

theorem mem_failedTypes :
    artifactType ∈ failedTypes states ↔
      ∃ branch ∈ states, branch.artifactType = artifactType ∧ branch.status = .failed := by
  simp only [failedTypes, mem_map, mem_filter, decide_eq_true_eq]
  constructor
  · rintro ⟨branch, ⟨mem, isFailed⟩, isType⟩
    exact ⟨branch, mem, isType, isFailed⟩
  · rintro ⟨branch, mem, isType, isFailed⟩
    exact ⟨branch, ⟨mem, isFailed⟩, isType⟩

end OhMyClass.TeachingPack
