import OhMyClass.TeachingPack.FanoutRounds
import OhMyClass.TeachingPack.Nodes

/-!
# The stage graph

A run visits one stage after another.  The routes are read from the state a
stage leaves, also from that of a stage it skips.
-/

namespace OhMyClass.TeachingPack

open OhMyClass.Healing OhMyClass.Keyed OhMyClass.Transition

/-- Where a run is: before a stage, before the open branches of a fan-out, at
the end, or where a stage raised an error. -/
inductive GraphPosition where
  | stage (stage : StageEnum)
  | branches (sends : List GenerateOneArtifactPayload)
  | finished
  | raised (error : StageError)
  deriving DecidableEq

def routeAfterTriage (state : TeachingPackState) : StageEnum :=
  if state.contract.mode = some "plan_unit" then .unitPlanning else .preplanningSearch

def routeAfterUnitApproval (state : TeachingPackState) : StageEnum :=
  if state.teacherApproved then .unitPrep else .unitPlanning

def routeAfterRenderQuality (state : TeachingPackState) : StageEnum :=
  match state.qualityRecoveryRoute with
  | some .planningBlueprint => .planningBlueprint
  | some .postBlueprintResearch => .postBlueprintResearch
  | some .artifactWorkflow => .artifactWorkflow
  | some .teacherApproval => .teacherApproval
  | none => .complianceGate
  | some .cleared => .artifactWorkflow

def routeAfterComplianceGate (state : TeachingPackState) : StageEnum :=
  if state.compliancePassed then .teacherApproval else .artifactWorkflow

def isScopedTeacherAction (gatePayload : GatePayload) : Bool :=
  gatePayload.action ∈ [some "approve_selected", some "reject_selected"]

def routeAfterTeacherApproval (state : TeachingPackState) : StageEnum :=
  if state.teacherApproved ∧ state.componentStrategyPlan ∧
      state.artifactReferences.members = [] then .artifactWorkflow
  else if state.teacherApproved then .exportFinalize
  else if isScopedTeacherAction state.gatePayload then .artifactWorkflow
  else if hasScopedSectionEdit state.gatePayload then .artifactWorkflow
  else if state.pendingRejections ≠ [] then .artifactWorkflow
  else .exportFinalize

theorem routeAfterTeacherApproval_cases (state : TeachingPackState) :
    routeAfterTeacherApproval state = .artifactWorkflow ∨
      routeAfterTeacherApproval state = .exportFinalize := by
  unfold routeAfterTeacherApproval
  repeat' split
  all_goals first | exact .inl rfl | exact .inr rfl

def stageAfter (stages : List StageEnum) (stage : StageEnum) : GraphPosition :=
  match stages[stages.idxOf stage + 1]? with
  | some next => .stage next
  | none => .finished

/-- The edges of `build_teaching_pack_graph`. -/
def nextPosition (config : GraphConfig) (stage : StageEnum) (state : TeachingPackState) :
    GraphPosition :=
  match stage with
  | .triage => .stage (routeAfterTriage state)
  | .unitPlanning => .stage .unitApproval
  | .unitApproval => .stage (routeAfterUnitApproval state)
  | .unitPrep => .finished
  | .teacherApproval => .stage (routeAfterTeacherApproval state)
  | .artifactWorkflow =>
    match routeAfterArtifactWorkflow config.parallelism state with
    | [] => .stage .renderQuality
    | sends => .branches sends
  | .renderQuality => .stage (routeAfterRenderQuality state)
  | .complianceGate => .stage (routeAfterComplianceGate state)
  | _ => stageAfter (teachingPackStages config.componentStrategistV1) stage

/-- What a run did at a stage. -/
structure Visit where
  stage : StageEnum
  executed : Bool
  before : TeachingPackState
  after : TeachingPackState
  next : GraphPosition

/-- The body of the export has written the files. -/
def Visit.Exports (visit : Visit) : Prop :=
  visit.stage = .exportFinalize ∧ visit.executed = true ∧ visit.before.canExport = true

/-- `stage_node`, with the edge that follows it. -/
def stageNode (config : GraphConfig) (outcome : StageOutcome) (stage : StageEnum)
    (state : TeachingPackState) (store : BreakerStore) : Visit × BreakerStore :=
  if stage ∈ state.completedStages ∧ canReenterStage state stage = false then
    (⟨stage, false, state, state, nextPosition config stage state⟩, store)
  else
    match stageBody config outcome stage state store with
    | (.ok merged, after) =>
      let settled := completeStage stage merged
      (⟨stage, true, state, settled, nextPosition config stage settled⟩, after)
    | (.error error, after) => (⟨stage, true, state, state, .raised error⟩, after)

structure GraphRun where
  state : TeachingPackState
  store : BreakerStore
  position : GraphPosition

/-- What a step meets: a stage its outcome, open branches the next end of one. -/
structure GraphInput where
  outcome : StageOutcome
  branchEnd : BranchEnd

namespace GraphRun

/-- The run before its first stage. -/
def start (runId : String) (contract : Contract) : GraphRun :=
  ⟨.initial runId contract, none, .stage .setupContract⟩

def step (config : GraphConfig) (run : GraphRun) (input : GraphInput) :
    GraphRun × Option Visit :=
  match run.position with
  | .stage stage =>
    let visited := stageNode config input.outcome stage run.state run.store
    (⟨visited.1.after, visited.2, visited.1.next⟩, some visited.1)
  | .branches sends =>
    match takeBranch sends input.branchEnd.index with
    | none => (⟨run.state, run.store, .stage .artifactWorkflow⟩, none)
    | some (payload, []) =>
      (⟨run.state.writeArtifact payload input.branchEnd.outcome, run.store,
        .stage .artifactWorkflow⟩, none)
    | some (payload, rest) =>
      (⟨run.state.writeArtifact payload input.branchEnd.outcome, run.store,
        .branches rest⟩, none)
  | .finished | .raised _ => (run, none)

end GraphRun

def graphMachine (config : GraphConfig) : Machine GraphRun GraphInput (Option Visit) where
  initial run := ∃ runId contract, run = .start runId contract
  step := GraphRun.step config

/-- The visits of a run, newest first. -/
def visits (history : History GraphInput (Option Visit)) : List Visit :=
  history.filterMap Prod.snd

@[simp]
theorem visits_nil : visits [] = [] :=
  rfl

@[simp]
theorem visits_cons (input : GraphInput) (answer : Option Visit)
    (history : History GraphInput (Option Visit)) :
    visits ((input, answer) :: history) = answer.toList ++ visits history := by
  cases answer <;> rfl

theorem visits_append (later earlier : History GraphInput (Option Visit)) :
    visits (later ++ earlier) = visits later ++ visits earlier :=
  List.filterMap_append

/-! ## What a step does -/

section Steps

variable {config : GraphConfig} {outcome : StageOutcome} {stage : StageEnum}
  {state : TeachingPackState} {store : BreakerStore}

/-- An edge leads to a stage or to the end; the artifact workflow may send
branches instead. -/
inductive Edge (config : GraphConfig) (stage : StageEnum) (state : TeachingPackState) :
    GraphPosition → Prop
  | toStage (next : StageEnum) : Edge config stage state (.stage next)
  | toEnd : Edge config stage state .finished
  | toBranches (isWorkflow : stage = .artifactWorkflow)
      (someSends : routeAfterArtifactWorkflow config.parallelism state ≠ []) :
      Edge config stage state (.branches (routeAfterArtifactWorkflow config.parallelism state))

theorem edge_nextPosition : Edge config stage state (nextPosition config stage state) := by
  have afterwards (stages : List StageEnum) : Edge config stage state (stageAfter stages stage) := by
    unfold stageAfter
    split
    · exact .toStage _
    · exact .toEnd
  cases stage with
  | artifactWorkflow =>
    unfold nextPosition
    simp only
    split
    · exact .toStage _
    · next someSends => exact .toBranches rfl someSends
  | triage | unitPlanning | unitApproval | renderQuality | complianceGate | teacherApproval =>
    exact .toStage _
  | unitPrep => exact .toEnd
  | setupContract | preplanningSearch | planningBlueprint | provisionalComponentStrategy
  | postBlueprintResearch | finalizeComponentStrategy | exportFinalize => exact afterwards _

theorem branches_of_nextPosition {sends : List GenerateOneArtifactPayload}
    (isNext : nextPosition config stage state = .branches sends) :
    sends = routeAfterArtifactWorkflow config.parallelism state ∧ sends ≠ [] := by
  have edge : Edge config stage state (nextPosition config stage state) := edge_nextPosition
  rw [isNext] at edge
  cases edge with
  | toBranches _ someSends => exact ⟨rfl, someSends⟩

theorem nextPosition_ne_raised {error : StageError} :
    nextPosition config stage state ≠ .raised error := by
  intro isRaised
  have edge : Edge config stage state (nextPosition config stage state) := edge_nextPosition
  rw [isRaised] at edge
  cases edge

/-- The three ways a stage is left. -/
inductive Visited (config : GraphConfig) (outcome : StageOutcome) (stage : StageEnum)
    (state : TeachingPackState) (store : BreakerStore) : Visit × BreakerStore → Prop
  | skipped (completed : stage ∈ state.completedStages)
      (closed : canReenterStage state stage = false) :
      Visited config outcome stage state store
        (⟨stage, false, state, state, nextPosition config stage state⟩, store)
  | executed {merged : TeachingPackState} {after : BreakerStore}
      (enters : stage ∈ state.completedStages → canReenterStage state stage = true)
      (body : stageBody config outcome stage state store = (.ok merged, after)) :
      Visited config outcome stage state store
        (⟨stage, true, state, completeStage stage merged,
          nextPosition config stage (completeStage stage merged)⟩, after)
  | raised {error : StageError} {after : BreakerStore}
      (enters : stage ∈ state.completedStages → canReenterStage state stage = true)
      (body : stageBody config outcome stage state store = (.error error, after)) :
      Visited config outcome stage state store (⟨stage, true, state, state, .raised error⟩, after)

theorem stageNode_visited :
    Visited config outcome stage state store (stageNode config outcome stage state store) := by
  unfold stageNode
  split
  · next skips => exact .skipped skips.1 skips.2
  · next enters =>
    have open_ : stage ∈ state.completedStages → canReenterStage state stage = true := by
      simpa using enters
    rcases body : stageBody config outcome stage state store with ⟨answer, after⟩
    cases answer with
    | ok merged => exact .executed open_ body
    | error error => exact .raised open_ body

theorem stageNode_of_ok {merged : TeachingPackState} {after : BreakerStore}
    (enters : stage ∈ state.completedStages → canReenterStage state stage = true)
    (body : stageBody config outcome stage state store = (.ok merged, after)) :
    stageNode config outcome stage state store =
      (⟨stage, true, state, completeStage stage merged,
        nextPosition config stage (completeStage stage merged)⟩, after) := by
  have notSkipped : ¬ (stage ∈ state.completedStages ∧ canReenterStage state stage = false) := by
    simpa using enters
  simp only [stageNode, if_neg notSkipped, body]

/-! ### What a visit leaves alone -/

namespace Visited

variable {visit : Visit} {after : BreakerStore}

section

variable (visited : Visited config outcome stage state store (visit, after))

include visited

theorem stage_eq :
    visit.stage = stage := by
  cases visited <;> rfl

theorem before_eq :
    visit.before = state := by
  cases visited <;> rfl

theorem next_eq :
    visit.next = nextPosition config stage visit.after ∨ ∃ error, visit.next = .raised error := by
  cases visited with
  | skipped | executed => exact .inl rfl
  | raised => exact .inr ⟨_, rfl⟩

theorem artifactReferences_eq :
    visit.after.artifactReferences = state.artifactReferences := by
  cases visited with
  | skipped | raised => rfl
  | executed _ body => exact (stageBody_frame body).artifactReferences

theorem gatePayload_eq (noUnit : stage ≠ .unitApproval) (noTeacher : stage ≠ .teacherApproval) :
    visit.after.gatePayload = state.gatePayload := by
  cases visited with
  | skipped | raised => rfl
  | executed _ body => exact (stageBody_frame body).gatePayload noUnit noTeacher

theorem componentStrategyPlan_eq (noStrategy : stage ≠ .finalizeComponentStrategy) :
    visit.after.componentStrategyPlan = state.componentStrategyPlan := by
  cases visited with
  | skipped | raised => rfl
  | executed _ body => exact (stageBody_frame body).componentStrategyPlan noStrategy

theorem fanout_eq (noWorkflow : stage ≠ .artifactWorkflow) :
    visit.after.artifactGenerationId = state.artifactGenerationId ∧
      visit.after.artifactFanoutComplete = state.artifactFanoutComplete := by
  cases visited with
  | skipped | raised => exact ⟨rfl, rfl⟩
  | executed _ body => exact (stageBody_frame body).fanout noWorkflow

theorem failCount_eq (noRender : stage ≠ .renderQuality) :
    visit.after.failCount = state.failCount := by
  cases visited with
  | skipped | raised => rfl
  | executed _ body => exact (stageBody_frame body).failCount noRender

theorem pendingRejections_eq (noUnit : stage ≠ .unitApproval)
    (noTeacher : stage ≠ .teacherApproval) :
    visit.after.pendingRejections = state.pendingRejections := by
  unfold TeachingPackState.pendingRejections
  rw [visited.artifactReferences_eq, visited.gatePayload_eq noUnit noTeacher]

theorem qualityRecoveryRoute_eq (noRoute : stage ∉
      [StageEnum.planningBlueprint, .renderQuality, .complianceGate, .exportFinalize]) :
    visit.after.qualityRecoveryRoute = state.qualityRecoveryRoute := by
  cases visited with
  | skipped | raised => rfl
  | executed _ body => exact (stageBody_frame body).route noRoute

theorem mem_completedStages {completed : StageEnum}
    (isCompleted : completed ∈ visit.after.completedStages) (other : completed ≠ stage) :
    completed ∈ state.completedStages := by
  cases visited with
  | skipped | raised => exact isCompleted
  | executed _ body =>
    have frame := stageBody_frame body
    simp only [completeStage] at isCompleted
    rw [frame.completedStages] at isCompleted
    split at isCompleted
    · exact isCompleted
    · rcases List.mem_append.mp isCompleted with earlier | isThis
      · exact earlier
      · exact absurd (List.mem_singleton.mp isThis) other

theorem completedStages_subset :
    state.completedStages ⊆ visit.after.completedStages := by
  cases visited with
  | skipped | raised => exact List.Subset.refl _
  | executed _ body =>
    simp only [completeStage, (stageBody_frame body).completedStages]
    split
    · exact List.Subset.refl _
    · exact List.subset_append_left _ _

theorem executed_of_enters
    (enters : stage ∈ state.completedStages → canReenterStage state stage = true) :
    visit.executed = true := by
  cases visited with
  | skipped completed closed => simp [enters completed] at closed
  | executed | raised => rfl

end

end Visited

/-- What a step of the graph does: it visits a stage, ends a branch, or rests. -/
inductive GraphStep (config : GraphConfig) (input : GraphInput) :
    GraphRun → GraphRun × Option Visit → Prop
  | visits {state : TeachingPackState} {store : BreakerStore} {stage : StageEnum} {visit : Visit}
      {after : BreakerStore}
      (visited : Visited config input.outcome stage state store (visit, after)) :
      GraphStep config input ⟨state, store, .stage stage⟩
        (⟨visit.after, after, visit.next⟩, some visit)
  | branchEnds {state : TeachingPackState} {store : BreakerStore}
      {sends rest : List GenerateOneArtifactPayload} {payload : GenerateOneArtifactPayload}
      (taken : takeBranch sends input.branchEnd.index = some (payload, rest))
      (order : (payload :: rest).Perm sends) :
      GraphStep config input ⟨state, store, .branches sends⟩
        (⟨state.writeArtifact payload input.branchEnd.outcome, store,
          if rest = [] then .stage .artifactWorkflow else .branches rest⟩, none)
  | noBranch {state : TeachingPackState} {store : BreakerStore} :
      GraphStep config input ⟨state, store, .branches []⟩
        (⟨state, store, .stage .artifactWorkflow⟩, none)
  | rests {run : GraphRun} (ended : run.position = .finished ∨ ∃ error, run.position = .raised error) :
      GraphStep config input run (run, none)

theorem graphStep (run : GraphRun) (input : GraphInput) :
    GraphStep config input run (run.step config input) := by
  rcases run with ⟨state, store, position⟩
  cases position with
  | stage stage => exact .visits stageNode_visited
  | branches sends =>
    by_cases someOpen : sends = []
    · subst someOpen
      exact .noBranch
    · rcases takeBranch_of_ne_nil someOpen input.branchEnd.index with
        ⟨payload, rest, taken, order⟩
      have stepped : GraphStep config input ⟨state, store, .branches sends⟩ _ :=
        .branchEnds taken order
      cases rest with
      | nil => simpa [GraphRun.step, taken] using stepped
      | cons next others => simpa [GraphRun.step, taken] using stepped
  | finished => exact .rests (.inl rfl)
  | raised error => exact .rests (.inr ⟨error, rfl⟩)

end Steps

/-- Three healing attempts and none of the features. -/
def defaultGraph : GraphConfig :=
  ⟨5, false, false, true, ⟨3, false, 3600, ""⟩⟩

/-- Checks that find nothing. -/
def passingChecks : QualityChecks where
  coherenceIssues := []
  layer1Issues := []
  strategyIssues := []
  report := fun _ => ⟨true, []⟩
  judgePassed := true
  judgeIssues := []
  middlewareWarnings := false

/-- Every artifact passes every check, and a response answers the gates. -/
def passingInput (response : GatePayload) : GraphInput :=
  ⟨⟨none, false, passingChecks, ⟨0, true⟩, [], response, false⟩, ⟨0, .passed none⟩⟩

/-- The injected gate finds the doctype of every artifact missing. -/
def failingAtGate (access : StoreAccess) : GraphInput :=
  ⟨⟨none, false,
    { passingChecks with
      report := fun _ => ⟨false, [⟨.missingDoctype, "lesson", "doctype missing"⟩]⟩ },
    access, [], .empty, false⟩, ⟨0, .passed none⟩⟩

def rejectLesson : GatePayload :=
  ⟨none, some "scoped", some [⟨"lesson-1", "too long"⟩], none, false⟩

def lessonRun : GraphRun :=
  .start "run" ⟨none, ["lesson"]⟩

theorem run_start {config : GraphConfig} {guard : Guard GraphRun GraphInput (Option Visit)}
    (runId : String) (contract : Contract) :
    (graphMachine config).Run guard (.start runId contract) [] :=
  .start ⟨runId, contract, rfl⟩

end OhMyClass.TeachingPack
