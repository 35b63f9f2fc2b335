import OhMyClass.TeachingPack.Progress
import OhMyClass.TeachingPack.Replacement

/-!
# What a run records of its generations

Only the artifact workflow and its branches work on the fields of the fan-out.
Every workflow state they leave is that of a type in a numbered generation,
and every reference has one beside it.
-/

namespace OhMyClass.TeachingPack

open List OhMyClass.Healing OhMyClass.Keyed OhMyClass.Transition TeachingPackState

/-- The fields of the fan-out. -/
structure SameFanout (state after : TeachingPackState) : Prop where
  runId : after.runId = state.runId
  artifactGenerationId : after.artifactGenerationId = state.artifactGenerationId
  artifactGenerationRevision : after.artifactGenerationRevision = state.artifactGenerationRevision
  artifactWaveIndex : after.artifactWaveIndex = state.artifactWaveIndex
  artifactFanoutComplete : after.artifactFanoutComplete = state.artifactFanoutComplete
  artifactRegenerationScope : after.artifactRegenerationScope = state.artifactRegenerationScope
  artifactReferences : after.artifactReferences = state.artifactReferences
  artifactWorkflowStates : after.artifactWorkflowStates = state.artifactWorkflowStates

section Frames

variable {config : GraphConfig} {outcome : StageOutcome} {stage : StageEnum}
  {state merged : TeachingPackState} {store after : BreakerStore} {visit : Visit}

theorem SameFanout.refl (state : TeachingPackState) : SameFanout state state :=
  ⟨rfl, rfl, rfl, rfl, rfl, rfl, rfl, rfl⟩

theorem SameFanout.completed (same : SameFanout state merged) :
    SameFanout state (completeStage stage merged) := by
  rcases same with ⟨h1, h2, h3, h4, h5, h6, h7, h8⟩
  exact ⟨h1, h2, h3, h4, h5, h6, h7, h8⟩

theorem stageBody_sameFanout (noWorkflow : stage ≠ .artifactWorkflow)
    (body : stageBody config outcome stage state store = (.ok merged, after)) :
    SameFanout state merged := by
  cases stage with
  | artifactWorkflow => exact absurd rfl noWorkflow
  | renderQuality =>
    cases renderQuality_rendered (renderQualityStage_ok body).2 <;>
      exact ⟨rfl, rfl, rfl, rfl, rfl, rfl, rfl, rfl⟩
  | complianceGate =>
    rcases complianceGate_ok (congrArg Prod.fst body) with ⟨passed, route, issues, rfl, _⟩
    exact ⟨rfl, rfl, rfl, rfl, rfl, rfl, rfl, rfl⟩
  | teacherApproval =>
    rw [teacherApproval_ok (congrArg Prod.fst body)]
    exact ⟨rfl, rfl, rfl, rfl, rfl, rfl, rfl, rfl⟩
  | exportFinalize =>
    cases body
    unfold TeachingPackState.exportFinalize
    split <;> exact ⟨rfl, rfl, rfl, rfl, rfl, rfl, rfl, rfl⟩
  | _ =>
    cases body
    exact ⟨rfl, rfl, rfl, rfl, rfl, rfl, rfl, rfl⟩

/-- A visit to the artifact workflow coordinates the fan-out or leaves it alone,
every other visit leaves it alone. -/
theorem Visited.coordinates (visited : Visited config outcome stage state store (visit, after)) :
    SameFanout state visit.after ∨
      stage = .artifactWorkflow ∧ SameFanout state.coordinated visit.after := by
  cases visited with
  | skipped | raised => exact .inl (.refl state)
  | @executed merged _ _ body =>
    by_cases isWorkflow : stage = .artifactWorkflow
    · subst isWorkflow
      rcases artifactWorkflow_ok (congrArg Prod.fst body) with ⟨_, rfl⟩ | ⟨_, rfl⟩
      · exact .inl (SameFanout.refl _).completed
      · exact .inr ⟨rfl, (SameFanout.refl _).completed⟩
    · left
      exact (stageBody_sameFanout isWorkflow body).completed

end Frames

/-! ## Workflow states -/

/-- A workflow state of a type in the generation with this revision. -/
structure OfRevision (runId : String) (revision : Nat) (branch : WorkflowState) : Prop where
  generation : branch.artifactGenerationId = generationIdText runId revision
  workflow : branch.workflowId = generationIdText runId revision ++ ":" ++ branch.artifactType

/-- What the channels of a run hold. -/
structure Recorded (state : TeachingPackState) : Prop where
  branches : ∀ branch ∈ state.artifactWorkflowStates.members,
    (∃ revision, OfRevision state.runId revision branch) ∧ branch.artifactId ≠ ""
  referenced : ∀ reference ∈ state.artifactReferences.members,
    ∃ branch ∈ state.artifactWorkflowStates.members,
      branch.artifactType = reference.artifactType

/-- The open branches generate types of the plan. -/
def PlannedSends (position : GraphPosition) : Prop :=
  ∀ sends, position = .branches sends → ∀ payload ∈ sends, payload.artifactType ∈ planTypes

section Recorded

variable {state : TeachingPackState} {payload : GenerateOneArtifactPayload}
  {ended : ArtifactOutcome}

theorem artifactType_ne_empty {artifactType : String} (planned : artifactType ∈ planTypes) :
    artifactType ≠ "" := by
  intro isEmpty
  subst isEmpty
  revert planned
  decide +kernel

variable {runId : String} {revision : Nat} {branch : WorkflowState}

section

variable (isOf : OfRevision runId revision branch)

include isOf

theorem OfRevision.workflowStateId_eq :
    workflowStateId branch = generationIdText runId revision ++ ":" ++ branch.artifactType :=
  workflowStateId_of_named isOf.workflow

theorem OfRevision.eq_of_id {other : Nat} {second : WorkflowState}
    (isOther : OfRevision runId other second)
    (sameId : workflowStateId branch = workflowStateId second) :
    revision = other ∧ branch.artifactType = second.artifactType := by
  rw [isOf.workflowStateId_eq, isOther.workflowStateId_eq] at sameId
  have sameRevision := generationIdText_of_document sameId
  subst sameRevision
  exact ⟨rfl, (String.append_right_inj _).mp sameId⟩

theorem OfRevision.revision_eq {other : Nat} (isOther : OfRevision runId other branch) :
    revision = other :=
  (isOf.eq_of_id isOther rfl).1

end

namespace Recorded

theorem initial (runId : String) (contract : Contract) :
    Recorded (TeachingPackState.initial runId contract) where
  branches := by
    intro branch mem
    cases mem
  referenced := by
    intro reference mem
    cases mem

theorem of_same {after : TeachingPackState} (recorded : Recorded state)
    (same : SameFanout state after) : Recorded after := by
  rcases recorded with ⟨branches, referenced⟩
  constructor
  · rw [same.artifactWorkflowStates, same.runId]
    exact branches
  · rw [same.artifactWorkflowStates, same.artifactReferences]
    exact referenced

theorem exists_merged (recorded : Recorded state) {new : List WorkflowState}
    (named : ∀ branch ∈ new, ∃ revision, OfRevision state.runId revision branch)
    {artifactType : String}
    (known : ∃ branch, (branch ∈ new ∨ branch ∈ state.artifactWorkflowStates.members) ∧
      branch.artifactType = artifactType) :
    ∃ branch ∈ (state.artifactWorkflowStates.merge new).members,
      branch.artifactType = artifactType := by
  rcases known with ⟨branch, mem, isType⟩
  rcases state.artifactWorkflowStates.exists_mem_merge new mem with
    ⟨other, merged, sameId, isNew | rfl⟩
  · have branchNamed : ∃ revision, OfRevision state.runId revision branch := by
      rcases mem with branchNew | stored
      · exact named branch branchNew
      · exact (recorded.branches branch stored).1
    rcases branchNamed with ⟨revision, isOf⟩
    rcases named other isNew with ⟨later, isOther⟩
    exact ⟨other, merged, (isOther.eq_of_id isOf sameId).2.trans isType⟩
  · exact ⟨other, merged, isType⟩

theorem coordinated (recorded : Recorded state) (named : Named state) :
    Recorded state.coordinated := by
  have sameReferences := state.coordinated_artifactReferences
  cases coordinated_cases state with
  | sameWave _ _ _ same | noWave _ _ same | nextWave _ _ _ _ _ _ same | lastWave _ _ _ _ same =>
    constructor
    · rw [same]
      exact recorded.branches
    · rw [same, sameReferences]
      exact recorded.referenced
  | blocked _ _ _ written =>
    rcases named.generationId state.nextGenerationRevision with ⟨revision, isRevision⟩
    have skipped : ∀ branch ∈ skippedDependents dependenciesOf state.currentId
        state.requestedTypes (failedTypes state.currentStates),
        OfRevision state.runId revision branch ∧ branch.artifactId ≠ "" := by
      intro branch isSkipped
      rcases mem_skippedDependents.mp isSkipped with
        ⟨artifactType, _, ⟨failed, isRequired, _⟩, rfl⟩
      refine ⟨⟨isRevision, congrArg (· ++ ":" ++ artifactType) isRevision⟩, ?_⟩
      exact artifactType_ne_empty (mem_planTypes_of_dependency isRequired)
    constructor
    · rw [written]
      intro branch mem
      rcases Channel.mem_merge.mp mem with isSkipped | ⟨stored, _⟩
      · have isOf := skipped branch isSkipped.mem
        exact ⟨⟨revision, isOf.1⟩, isOf.2⟩
      · exact recorded.branches branch stored
    · rw [written, sameReferences]
      intro reference mem
      rcases recorded.referenced reference mem with ⟨branch, stored, sameType⟩
      exact recorded.exists_merged (fun other isSkipped => ⟨revision, (skipped other isSkipped).1⟩)
        ⟨branch, .inr stored, sameType⟩

variable (ended) in
theorem ofRevision_generateOneArtifact {runId : String} {revision : Nat}
    (isRevision : payload.artifactGenerationId = generationIdText runId revision) :
    OfRevision runId revision (generateOneArtifact payload ended).2 := by
  rcases generateOneArtifact_state payload ended with
    ⟨isWorkflow, isGeneration, isType, _⟩
  constructor
  · rw [isGeneration, isRevision]
  · rw [isWorkflow, isType, isRevision]

theorem artifactId_generateOneArtifact (planned : payload.artifactType ≠ "") :
    (generateOneArtifact payload ended).2.artifactId ≠ "" := by
  unfold generateOneArtifact
  split
  · simpa using planned
  · split
    · simpa using planned
    · intro isEmpty
      simp only at isEmpty
      split at isEmpty
      · exact planned isEmpty
      · next notEmpty => exact notEmpty isEmpty

theorem writeArtifact (recorded : Recorded state) (planned : payload.artifactType ∈ planTypes)
    (isNamed : ∃ revision, payload.artifactGenerationId = generationIdText state.runId revision) :
    Recorded (state.writeArtifact payload ended) := by
  rcases isNamed with ⟨revision, isRevision⟩
  have isOf := ofRevision_generateOneArtifact ended isRevision
  have named : ∀ branch ∈ [(generateOneArtifact payload ended).2],
      ∃ revision, OfRevision state.runId revision branch := by
    intro branch isThis
    rw [mem_singleton.mp isThis]
    exact ⟨revision, isOf⟩
  constructor
  · intro branch mem
    rcases Channel.mem_merge_singleton.mp mem with rfl | ⟨stored, _⟩
    · exact ⟨⟨revision, isOf⟩, artifactId_generateOneArtifact (artifactType_ne_empty planned)⟩
    · exact recorded.branches branch stored
  · intro reference mem
    apply recorded.exists_merged named
    rcases Channel.mem_merge.mp mem with isLast | ⟨stored, _⟩
    · have written := (generateOneArtifact_reference (Option.mem_toList.mp isLast.mem)).2.2.1
      have isType := (generateOneArtifact_state payload ended).2.2.1
      exact ⟨_, .inl mem_cons_self, isType.trans written.symm⟩
    · rcases recorded.referenced reference stored with ⟨branch, earlier, sameType⟩
      exact ⟨branch, .inr earlier, sameType⟩

end Recorded

theorem plannedSends_nextPosition {config : GraphConfig} {stage : StageEnum} :
    PlannedSends (nextPosition config stage state) := by
  intro sends isNext payload mem
  rw [(branches_of_nextPosition isNext).1] at mem
  unfold routeAfterArtifactWorkflow at mem
  split at mem
  · cases mem
  · rcases mem_map.mp (mem_of_mem_take mem) with ⟨artifactType, inWave, rfl⟩
    exact mem_planTypes_of_wave (mem_waveAt.mp (mem_filter.mp inWave).1).1

end Recorded

theorem subset_of_isOpen {sends rest others : List GenerateOneArtifactPayload}
    {payload : GenerateOneArtifactPayload} (order : (payload :: rest).Perm sends)
    (isOpen : (if rest = [] then GraphPosition.stage .artifactWorkflow else .branches rest) =
      .branches others) : others ⊆ sends := by
  split at isOpen
  · cases isOpen
  · cases isOpen
    exact fun other mem => order.subset (mem_cons_of_mem _ mem)

/-- The ids and the channels of a run, between two steps. -/
structure KeepsRecord (run : GraphRun) : Prop where
  named : Named run.state
  namedSends : NamedSends run.state run.position
  recorded : Recorded run.state
  plannedSends : PlannedSends run.position

theorem KeepsRecord.start (runId : String) (contract : Contract) :
    KeepsRecord (.start runId contract) where
  named := by
    constructor
    · intro generationId isId
      cases isId
    · intro reference mem
      cases mem
  namedSends := nofun
  recorded := .initial runId contract
  plannedSends := nofun

theorem KeepsRecord.step {config : GraphConfig} {input : GraphInput} {run : GraphRun}
    {after : GraphRun × Option Visit} (keeps : KeepsRecord run)
    (stepped : GraphStep config input run after) : KeepsRecord after.1 := by
  cases stepped with
  | visits visited =>
    have named := keeps.named.visits visited
    refine ⟨named.1, named.2, ?_, ?_⟩
    · rcases visited.coordinates with same | ⟨_, same⟩
      · exact keeps.recorded.of_same same
      · exact (keeps.recorded.coordinated keeps.named).of_same same
    · rcases visited.next_eq with isNext | ⟨error, isRaised⟩
      · rw [isNext]
        exact plannedSends_nextPosition
      · rw [isRaised]
        exact nofun
  | @branchEnds state store sends rest payload taken order =>
    have payloadMem : payload ∈ sends := order.subset mem_cons_self
    have isNamed := keeps.namedSends sends rfl payload payloadMem
    have planned := keeps.plannedSends sends rfl payload payloadMem
    exact
      { named := keeps.named.writeArtifact isNamed
        namedSends := fun open_ isOpen other mem =>
          keeps.namedSends sends rfl other (subset_of_isOpen order isOpen mem)
        recorded := keeps.recorded.writeArtifact planned isNamed
        plannedSends := fun open_ isOpen other mem =>
          keeps.plannedSends sends rfl other (subset_of_isOpen order isOpen mem) }
  | noBranch => exact ⟨keeps.named, nofun, keeps.recorded, nofun⟩
  | rests => exact keeps

theorem keepsRecord_of_run {config : GraphConfig}
    {guard : Guard GraphRun GraphInput (Option Visit)} {run : GraphRun}
    {history : History GraphInput (Option Visit)}
    (reached : (graphMachine config).Run guard run history) : KeepsRecord run := by
  apply reached.invariant fun run _ => KeepsRecord run
  · rintro _ ⟨runId, contract, rfl⟩
    exact .start runId contract
  · intro run history input keeps _
    exact keeps.step (graphStep run input)

/-! ## What a run asks for -/

open OhMyClass.Contracts

def Contract.requestedTypes (contract : Contract) : List String :=
  if contract.artifactTypes ≠ [] then contract.artifactTypes
  else ["lesson", "worksheet", "quiz", "drill", "slide_deck"]

/-- The types are not set up yet, or those of the contract. -/
def SetUp (state : TeachingPackState) : Prop :=
  state.artifactTypes = [] ∨ state.artifactTypes = state.contract.requestedTypes

variable {state merged : TeachingPackState}

theorem SetUp.allRequestedTypes_eq (setUp : SetUp state) :
    state.allRequestedTypes = state.contract.requestedTypes := by
  unfold allRequestedTypes Contract.requestedTypes
  rcases setUp with notYet | isSetUp
  · rw [if_neg (not_not.mpr notYet)]
  · rw [isSetUp]
    unfold Contract.requestedTypes
    by_cases someTypes : state.contract.artifactTypes = []
    · simp
    · simp

/-- No stage changes the types of the contract, and only one sets them up. -/
structure SameRequest (state after : TeachingPackState) : Prop where
  contract : after.contract.artifactTypes = state.contract.artifactTypes
  artifactTypes : after.artifactTypes = state.artifactTypes ∨
    after.artifactTypes = state.contract.requestedTypes

theorem SameRequest.setUp (same : SameRequest state merged) (setUp : SetUp state) :
    SetUp merged := by
  have sameTypes : merged.contract.requestedTypes = state.contract.requestedTypes := by
    unfold Contract.requestedTypes
    rw [same.contract]
  unfold SetUp
  rw [sameTypes]
  rcases same.artifactTypes with unchanged | isSetUp
  · rw [unchanged]
    exact setUp
  · exact .inr isSetUp

theorem SameRequest.allRequestedTypes_eq (same : SameRequest state merged) (setUp : SetUp state) :
    merged.allRequestedTypes = state.allRequestedTypes := by
  rw [setUp.allRequestedTypes_eq, (same.setUp setUp).allRequestedTypes_eq]
  unfold Contract.requestedTypes
  rw [same.contract]

section Stages

variable {config : GraphConfig} {outcome : StageOutcome} {stage : StageEnum}
  {store after : BreakerStore} {visit : Visit}

theorem stageBody_sameRequest
    (body : stageBody config outcome stage state store = (.ok merged, after)) :
    SameRequest state merged := by
  cases stage with
  | setupContract =>
    cases body
    exact ⟨rfl, .inr rfl⟩
  | artifactWorkflow =>
    rcases artifactWorkflow_ok (congrArg Prod.fst body) with ⟨_, rfl⟩ | ⟨_, rfl⟩
    · exact ⟨rfl, .inl rfl⟩
    · exact ⟨rfl, .inl rfl⟩
  | renderQuality =>
    cases renderQuality_rendered (renderQualityStage_ok body).2 <;> exact ⟨rfl, .inl rfl⟩
  | complianceGate =>
    rcases complianceGate_ok (congrArg Prod.fst body) with ⟨passed, route, issues, rfl, _⟩
    exact ⟨rfl, .inl rfl⟩
  | teacherApproval =>
    rw [teacherApproval_ok (congrArg Prod.fst body)]
    exact ⟨rfl, .inl rfl⟩
  | exportFinalize =>
    cases body
    unfold TeachingPackState.exportFinalize
    split <;> exact ⟨rfl, .inl rfl⟩
  | _ =>
    cases body
    exact ⟨rfl, .inl rfl⟩

theorem Visited.sameRequest (visited : Visited config outcome stage state store (visit, after)) :
    SameRequest state visit.after := by
  cases visited with
  | skipped | raised => exact ⟨rfl, .inl rfl⟩
  | executed _ body =>
    have same := stageBody_sameRequest body
    exact ⟨same.contract, same.artifactTypes⟩

end Stages

/-! ## Requested and planned -/

/-- The types are requested and in the plan. -/
def Generable (state : TeachingPackState) (artifactType : String) : Prop :=
  artifactType ∈ state.allRequestedTypes ∧ artifactType ∈ planTypes

/-- The scope and the stored artifacts are of types that can be generated. -/
structure Requests (state : TeachingPackState) : Prop where
  setUp : SetUp state
  scope : ∀ artifactType ∈ state.artifactRegenerationScope, Generable state artifactType
  references : ∀ reference ∈ state.artifactReferences.members,
    Generable state reference.artifactType

/-- So are the open branches. -/
def RequestedSends (state : TeachingPackState) (position : GraphPosition) : Prop :=
  ∀ sends, position = .branches sends → ∀ payload ∈ sends, Generable state payload.artifactType

variable {references : List ArtifactReference} {gatePayload : GatePayload}

theorem artifactType_of_rejection {rejection : ScopedRejection}
    (isRejected : rejection ∈ scopedRejections references gatePayload) :
    ∃ reference ∈ references, reference.artifactType = rejection.artifactType := by
  unfold scopedRejections at isRejected
  split at isRejected
  · cases isRejected
  · split at isRejected
    · cases isRejected
    · rcases mem_filterMap.mp isRejected with ⟨raw, _, isFound⟩
      rcases Option.map_eq_some_iff.mp isFound with ⟨reference, found, rfl⟩
      exact ⟨reference, mem_reverse.mp (mem_of_find?_eq_some found), rfl⟩

variable {artifactType : String}

theorem mem_rejectedArtifactTypes :
    artifactType ∈ rejectedArtifactTypes references gatePayload ↔
      ∃ rejection ∈ scopedRejections references gatePayload,
        rejection.artifactType = artifactType := by
  unfold rejectedArtifactTypes
  have general (rejections : List ScopedRejection) (types : List String) :
      artifactType ∈ rejections.foldl (fun types rejection =>
          if rejection.artifactType ∈ types then types else types ++ [rejection.artifactType]) types ↔
        artifactType ∈ types ∨ ∃ rejection ∈ rejections, rejection.artifactType = artifactType := by
    induction rejections generalizing types with
    | nil => simp
    | cons first rest ih =>
      rw [List.foldl_cons, ih]
      split
      · next known =>
        constructor
        · rintro (mem | later)
          · exact .inl mem
          · rcases later with ⟨rejection, isRest, isType⟩
            exact .inr ⟨rejection, mem_cons_of_mem _ isRest, isType⟩
        · rintro (mem | ⟨rejection, mem, rfl⟩)
          · exact .inl mem
          · rcases mem_cons.mp mem with rfl | isRest
            · exact .inl known
            · exact .inr ⟨rejection, isRest, rfl⟩
      · simp only [mem_append, mem_singleton, exists_mem_cons_iff, or_assoc,
          eq_comm]
  simpa using general (scopedRejections references gatePayload) []

variable {requestedTypes : List String} {affected : List String}

theorem mem_addDependents
    (mem : artifactType ∈ addDependents dependenciesOf requestedTypes affected) :
    artifactType ∈ affected ∨ artifactType ∈ planTypes := by
  unfold addDependents at mem
  induction requestedTypes generalizing affected with
  | nil => exact .inl mem
  | cons first rest ih =>
    rw [List.foldl_cons] at mem
    split at mem
    · next adds =>
      rcases ih mem with isAffected | planned
      · rcases mem_append.mp isAffected with earlier | isFirst
        · exact .inl earlier
        · rcases TeachingPackState.dependsOnSome_iff.mp adds.2 with ⟨_, isRequired, _⟩
          rw [mem_singleton.mp isFirst]
          exact .inr (mem_planTypes_of_dependency isRequired)
      · exact .inr planned
    · exact ih mem

variable {seedTypes : List String} {rounds : Nat}

theorem mem_iterate_addDependents
    (mem : artifactType ∈ (addDependents dependenciesOf requestedTypes)^[rounds] seedTypes) :
    artifactType ∈ seedTypes ∨ artifactType ∈ planTypes := by
  induction rounds generalizing seedTypes with
  | zero => exact .inl mem
  | succ rounds ih =>
    rcases ih mem with isAffected | planned
    · exact mem_addDependents isAffected
    · exact .inr planned

theorem subset_addDependents :
    affected ⊆ addDependents dependenciesOf requestedTypes affected := by
  unfold addDependents
  induction requestedTypes generalizing affected with
  | nil => exact List.Subset.refl _
  | cons first rest ih =>
    rw [List.foldl_cons]
    split
    · exact List.Subset.trans (subset_append_left _ _) ih
    · exact ih

theorem subset_iterate_addDependents :
    seedTypes ⊆ (addDependents dependenciesOf requestedTypes)^[rounds] seedTypes := by
  induction rounds generalizing seedTypes with
  | zero => exact List.Subset.refl _
  | succ rounds ih =>
    exact List.Subset.trans subset_addDependents ih

namespace Requests

variable {artifactType : String}

section

variable (requests : Requests state)

include requests

theorem rejected (isRejected : artifactType ∈ state.rejectedGenerationTypes) :
    Generable state artifactType := by
  refine ⟨rejectedGenerationTypes_subset isRejected, ?_⟩
  unfold rejectedGenerationTypes at isRejected
  split at isRejected
  · cases isRejected
  · have isAffected := (mem_filter.mp isRejected).2
    rw [decide_eq_true_eq] at isAffected
    rcases mem_iterate_addDependents isAffected with isSeed | planned
    · rcases mem_rejectedArtifactTypes.mp isSeed with ⟨rejection, isRejection, rfl⟩
      rcases artifactType_of_rejection isRejection with ⟨reference, stored, sameType⟩
      exact sameType ▸ (requests.references reference stored).2
    · exact planned

theorem rejectedGenerationTypes_ne_nil (pending : state.pendingRejections ≠ []) :
    state.rejectedGenerationTypes ≠ [] := by
  rcases exists_mem_of_ne_nil _ pending with ⟨rejection, isRejection⟩
  have isSeed : rejection.artifactType ∈
      rejectedArtifactTypes state.artifactReferences.members state.gatePayload :=
    mem_rejectedArtifactTypes.mpr ⟨rejection, isRejection, rfl⟩
  rcases artifactType_of_rejection isRejection with ⟨reference, stored, sameType⟩
  have isRequested := (requests.references reference stored).1
  rw [sameType] at isRequested
  have mem : rejection.artifactType ∈ state.rejectedGenerationTypes := by
    unfold rejectedGenerationTypes
    split
    · next noTypes =>
      rw [noTypes] at isSeed
      cases isSeed
    · exact mem_filter.mpr
        ⟨isRequested, decide_eq_true (subset_iterate_addDependents isSeed)⟩
  exact ne_nil_of_mem mem

theorem inScope (isScoped : artifactType ∈ state.scopedGenerationTypes) :
    Generable state artifactType := by
  unfold scopedGenerationTypes at isScoped
  split at isScoped
  · exact requests.rejected isScoped
  · exact requests.scope artifactType isScoped

theorem requested (isRequested : artifactType ∈ state.requestedTypes) :
    artifactType ∈ state.allRequestedTypes := by
  unfold TeachingPackState.requestedTypes at isRequested
  split at isRequested
  · exact isRequested
  · exact (requests.inScope isRequested).1

end

theorem initial (runId : String) (contract : Contract) :
    Requests (TeachingPackState.initial runId contract) where
  setUp := .inl rfl
  scope := nofun
  references := nofun

section

variable (requests : Requests state)

include requests

theorem of_same {after : TeachingPackState} (sameRequest : SameRequest state after)
    (same : SameFanout state after) : Requests after where
  setUp := sameRequest.setUp requests.setUp
  scope := by
    unfold Generable
    rw [same.artifactRegenerationScope, sameRequest.allRequestedTypes_eq requests.setUp]
    exact requests.scope
  references := by
    unfold Generable
    rw [same.artifactReferences, sameRequest.allRequestedTypes_eq requests.setUp]
    exact requests.references

theorem coordinated : Requests state.coordinated where
  setUp := requests.setUp
  scope := by
    rw [state.coordinated_artifactRegenerationScope]
    exact fun _ => requests.inScope
  references := by
    rw [state.coordinated_artifactReferences]
    exact requests.references

theorem writeArtifact {payload : GenerateOneArtifactPayload}
    (generable : Generable state payload.artifactType) (outcome : ArtifactOutcome) :
    Requests (state.writeArtifact payload outcome) where
  setUp := requests.setUp
  scope := requests.scope
  references := by
    intro reference mem
    rcases Channel.mem_merge.mp mem with isLast | ⟨stored, _⟩
    · have isType := (generateOneArtifact_reference (Option.mem_toList.mp isLast.mem)).2.2.1
      rw [isType]
      exact generable
    · exact requests.references reference stored

theorem requestedSends {config : GraphConfig} {stage : StageEnum} :
    RequestedSends state (nextPosition config stage state) := by
  intro sends isNext payload mem
  rw [(branches_of_nextPosition isNext).1] at mem
  unfold routeAfterArtifactWorkflow at mem
  split at mem
  · cases mem
  · rcases mem_map.mp (mem_of_mem_take mem) with ⟨artifactType, inWave, rfl⟩
    have inWaveAt := mem_waveAt.mp (mem_filter.mp inWave).1
    exact ⟨requests.requested inWaveAt.2, mem_planTypes_of_wave inWaveAt.1⟩

end

end Requests

/-! ## Along a run of the graph -/

theorem Numbered.of_same {after : TeachingPackState} (numbered : Numbered state)
    (same : SameFanout state after) : Numbered after := by
  have sameRevision : after.generationRevision = state.generationRevision := by
    unfold generationRevision
    rw [same.artifactGenerationRevision]
  constructor
  · rw [same.artifactGenerationId, sameRevision, same.runId]
    exact numbered.current
  · rw [same.artifactWorkflowStates, sameRevision, same.runId]
    exact numbered.stored

theorem NumberedDocuments.of_same {after : TeachingPackState} (documents : NumberedDocuments state)
    (same : SameFanout state after) : NumberedDocuments after := by
  have sameRevision : after.generationRevision = state.generationRevision := by
    unfold generationRevision
    rw [same.artifactGenerationRevision]
  unfold NumberedDocuments
  rw [same.artifactReferences, sameRevision, same.runId]
  exact documents

theorem NumberedDocuments.writeArtifact (documents : NumberedDocuments state)
    (numbered : Numbered state) (incomplete : state.artifactFanoutComplete = false)
    {payload : GenerateOneArtifactPayload} (sameId : payload.artifactGenerationId = state.currentId)
    (outcome : ArtifactOutcome) : NumberedDocuments (state.writeArtifact payload outcome) := by
  have isCurrent : payload.artifactGenerationId =
      generationIdText state.runId state.generationRevision := by
    rw [sameId, numbered.currentId_eq,
      nextGenerationRevision_of_incomplete incomplete]
  intro reference mem
  rcases Channel.mem_merge.mp mem with isLast | ⟨stored, _⟩
  · rcases generateOneArtifact_reference (Option.mem_toList.mp isLast.mem) with
      ⟨isGeneration, isDocument, _⟩
    exact ⟨_, le_rfl, isGeneration.trans isCurrent, _, isCurrent ▸ isDocument⟩
  · exact documents reference stored

/-- Open branches belong to a generation that goes on. -/
def CurrentSends (state : TeachingPackState) (position : GraphPosition) : Prop :=
  ∀ sends, position = .branches sends → state.artifactFanoutComplete = false ∧
    ∀ payload ∈ sends, payload.artifactGenerationId = state.currentId

variable {config : GraphConfig} {stage : StageEnum}

theorem currentSends_nextPosition :
    CurrentSends state (nextPosition config stage state) := by
  intro sends isNext
  rcases branches_of_nextPosition isNext with ⟨rfl, someSends⟩
  have incomplete : state.artifactFanoutComplete = false := by
    rw [← Bool.not_eq_true]
    intro complete
    exact someSends (routeAfterArtifactWorkflow_of_complete complete)
  refine ⟨incomplete, fun payload mem => ?_⟩
  rw [artifactGenerationId_of_send mem, currentId,
    nextGenerationRevision_of_incomplete incomplete]

/-- What a run asks for and how it numbers it, between two steps. -/
structure KeepsRequest (run : GraphRun) : Prop where
  requests : Requests run.state
  requestedSends : RequestedSends run.state run.position
  numbered : Numbered run.state
  documents : NumberedDocuments run.state
  currentSends : CurrentSends run.state run.position

theorem KeepsRequest.start (runId : String) (contract : Contract) :
    KeepsRequest (.start runId contract) where
  requests := .initial runId contract
  requestedSends := nofun
  numbered := .initial runId contract
  documents := .initial runId contract
  currentSends := nofun

theorem KeepsRequest.visits {outcome : StageOutcome} {store after : BreakerStore}
    {position : GraphPosition} {visit : Visit} (keeps : KeepsRequest ⟨state, store, position⟩)
    (visited : Visited config outcome stage state store (visit, after)) :
    KeepsRequest ⟨visit.after, after, visit.next⟩ := by
  have request := visited.sameRequest
  have stateKept : Requests visit.after ∧ Numbered visit.after ∧ NumberedDocuments visit.after := by
    rcases visited.coordinates with same | ⟨isWorkflow, same⟩
    · exact ⟨keeps.requests.of_same request same, keeps.numbered.of_same same,
        keeps.documents.of_same same⟩
    · have request : SameRequest state.coordinated visit.after :=
        ⟨request.contract, request.artifactTypes⟩
      exact ⟨keeps.requests.coordinated.of_same request same,
        keeps.numbered.coordinated.of_same same, keeps.documents.coordinated.of_same same⟩
  rcases stateKept with ⟨requests, numbered, documents⟩
  rcases visited.next_eq with isNext | ⟨error, isRaised⟩
  · rw [isNext]
    exact ⟨requests, requests.requestedSends, numbered, documents, currentSends_nextPosition⟩
  · rw [isRaised]
    exact ⟨requests, nofun, numbered, documents, nofun⟩

variable {run : GraphRun}

theorem KeepsRequest.step {input : GraphInput} {after : GraphRun × Option Visit}
    (keeps : KeepsRequest run) (stepped : GraphStep config input run after) :
    KeepsRequest after.1 := by
  cases stepped with
  | visits visited => exact keeps.visits visited
  | @branchEnds state store sends rest payload taken order =>
    have payloadMem : payload ∈ sends := order.subset mem_cons_self
    rcases keeps.currentSends sends rfl with ⟨incomplete, sameId⟩
    have generable := keeps.requestedSends sends rfl payload payloadMem
    exact
      { requests := keeps.requests.writeArtifact generable input.branchEnd.outcome
        requestedSends := fun open_ isOpen other mem =>
          keeps.requestedSends sends rfl other (subset_of_isOpen order isOpen mem)
        numbered := keeps.numbered.writeArtifact incomplete (sameId payload payloadMem) _
        documents := keeps.documents.writeArtifact keeps.numbered incomplete
          (sameId payload payloadMem) _
        currentSends := fun open_ isOpen => ⟨incomplete, fun other mem =>
          (sameId other (subset_of_isOpen order isOpen mem)).trans
            (currentId_writeArtifact incomplete).symm⟩ }
  | noBranch => exact ⟨keeps.requests, nofun, keeps.numbered, keeps.documents, nofun⟩
  | rests => exact keeps

theorem keepsRequest_of_run {guard : Guard GraphRun GraphInput (Option Visit)}
    {history : History GraphInput (Option Visit)}
    (reached : (graphMachine config).Run guard run history) : KeepsRequest run := by
  apply reached.invariant fun run _ => KeepsRequest run
  · rintro _ ⟨runId, contract, rfl⟩
    exact .start runId contract
  · intro run history input keeps _
    exact keeps.step (graphStep run input)

/-! ## What a run serves -/

section

variable {runId : String} {contract : Contract} {config : GraphConfig} {run : GraphRun}

/-- Neither the run nor what was asked of it is exchanged. -/
structure SameTask (runId : String) (contract : Contract) (run : GraphRun) : Prop where
  runId : run.state.runId = runId
  types : run.state.contract.artifactTypes = contract.artifactTypes

theorem SameTask.step {input : GraphInput} {after : GraphRun × Option Visit}
    (same : SameTask runId contract run) (stepped : GraphStep config input run after) :
    SameTask runId contract after.1 := by
  cases stepped with
  | visits visited =>
    refine ⟨?_, visited.sameRequest.contract.trans same.types⟩
    rcases visited.coordinates with kept | ⟨_, kept⟩ <;> exact kept.runId.trans same.runId
  | branchEnds | noBranch | rests => exact ⟨same.runId, same.types⟩

/-- Only requested types with a place in the plan are generated, in the current
generation; what is stored was requested, has a workflow state beside it, and
every workflow state is that of its type in a numbered generation of the run. -/
structure ServesContract (runId : String) (contract : Contract) (run : GraphRun) : Prop where
  inFlight : ∀ sends, run.position = .branches sends → ∀ payload ∈ sends,
    payload.artifactType ∈ contract.requestedTypes ∧ payload.artifactType ∈ planTypes ∧
      payload.artifactGenerationId = run.state.currentId
  stored : ∀ reference ∈ run.state.artifactReferences.members,
    reference.artifactType ∈ contract.requestedTypes ∧
      ∃ branch ∈ run.state.artifactWorkflowStates.members,
        branch.artifactType = reference.artifactType
  numbered : ∀ branch ∈ run.state.artifactWorkflowStates.members,
    ∃ revision ≤ run.state.generationRevision, OfRevision runId revision branch

/-- However the stages and the branches of a run end. -/
theorem runs_serve_their_contract (config : GraphConfig) (runId : String) (contract : Contract)
    (inputs : List GraphInput) :
    ServesContract runId contract
      ((graphMachine config).drive (.start runId contract, []) inputs).1 := by
  have started : (graphMachine config).Run (fun _ _ _ => True) (.start runId contract) [] :=
    .start ⟨runId, contract, rfl⟩
  have admitted : (graphMachine config).Admits (fun _ _ _ => True) (.start runId contract, [])
      inputs := Machine.admits_all
  have run := started.drive inputs admitted
  have same := admitted.invariant (SameTask runId contract)
    (fun run _ input same _ => same.step (graphStep run input)) ⟨rfl, rfl⟩
  generalize (graphMachine config).drive (.start runId contract, []) inputs = here at run same ⊢
  have requests := keepsRequest_of_run run
  have records := (keepsRecord_of_run run).recorded
  have requested {artifactType : String} (generable : Generable here.1.state artifactType) :
      artifactType ∈ contract.requestedTypes := by
    have isRequested := requests.requests.setUp.allRequestedTypes_eq ▸ generable.1
    rwa [Contract.requestedTypes, same.types] at isRequested
  constructor
  · intro sends isOpen payload mem
    have generable := requests.requestedSends sends isOpen payload mem
    exact ⟨requested generable, generable.2, (requests.currentSends sends isOpen).2 payload mem⟩
  · exact fun reference mem =>
      ⟨requested (requests.requests.references reference mem), records.referenced reference mem⟩
  · intro branch mem
    rcases (records.branches branch mem).1 with ⟨_, isOf⟩
    rcases requests.numbered.stored branch mem with ⟨revision, bounded, isRevision⟩
    rw [same.runId] at isRevision
    exact ⟨revision, bounded, isRevision, by rw [isOf.workflow, ← isOf.generation, isRevision]⟩

end

end OhMyClass.TeachingPack
