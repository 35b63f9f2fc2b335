import OhMyClass.TeachingPack.FanoutRuns
import OhMyClass.TeachingPack.Graph

/-!
# The fan-out in the graph

What holds of every run of the fan-out holds of the graph between the first
visit of the artifact workflow in a cycle and the visit of render quality that
follows it: there the graph does step by step what the fan-out does.
-/

namespace OhMyClass.TeachingPack

open OhMyClass.Healing OhMyClass.Transition

/-- Where a run of the fan-out is in the graph. -/
def FanoutRun.inGraph (run : FanoutRun) (store : BreakerStore) : GraphRun :=
  match run.position with
  | .coordinating => ⟨run.state, store, .stage .artifactWorkflow⟩
  | .generating sends => ⟨run.state, store, .branches sends⟩
  | .finished => ⟨completeStage .artifactWorkflow run.state, store, .stage .renderQuality⟩

/-- What the fan-out does not write. -/
structure SameOutsideFanout (state after : TeachingPackState) : Prop where
  runId : after.runId = state.runId
  contract : after.contract = state.contract
  completedStages : after.completedStages = state.completedStages
  qualityScores : after.qualityScores = state.qualityScores
  qualityRecoveryRoute : after.qualityRecoveryRoute = state.qualityRecoveryRoute
  gatePayload : after.gatePayload = state.gatePayload

section Steps

variable {config : GraphConfig} {input : GraphInput} {generationId : String} {sent : List String}
  {run : FanoutRun} {store : BreakerStore}
  {after : FanoutRun × List GenerateOneArtifactPayload}

theorem Stepped.sameOutside {parallelism : Nat} {branchEnd : BranchEnd}
    (stepped : Stepped parallelism generationId sent branchEnd run after) :
    SameOutsideFanout run.state after.1.state := by
  cases stepped <;> exact ⟨rfl, rfl, rfl, rfl, rfl, rfl⟩

variable {state : TeachingPackState}

theorem completeStage_of_incomplete (incomplete : state.artifactFanoutComplete = false) :
    completeStage .artifactWorkflow state = state := by
  unfold completeStage
  rw [if_pos ⟨rfl, incomplete⟩]

/-- The visit of the artifact workflow that coordinates the fan-out. -/
def coordinatingVisit (config : GraphConfig) (state : TeachingPackState) : Visit :=
  let settled := completeStage .artifactWorkflow state.coordinated
  ⟨.artifactWorkflow, true, state, settled, nextPosition config .artifactWorkflow settled⟩

/-- What the graph visits where the fan-out steps. -/
def FanoutRun.visit (config : GraphConfig) (run : FanoutRun) : Option Visit :=
  match run.position with
  | .coordinating => some (coordinatingVisit config run.state)
  | _ => none

/-- The artifact workflow may be entered, and it is the fan-out that it runs. -/
structure FanoutRun.Enters (run : FanoutRun) : Prop where
  generates : run.state.contract.mode ≠ some "vocabulary_batch"
  enters : run.position = .coordinating → .artifactWorkflow ∈ run.state.completedStages →
    canReenterStage run.state .artifactWorkflow = true

theorem stageNode_artifactWorkflow {outcome : StageOutcome}
    (enters : FanoutRun.Enters ⟨state, .coordinating⟩) :
    stageNode config outcome .artifactWorkflow state store =
      (coordinatingVisit config state, store) := by
  apply stageNode_of_ok (enters.enters rfl)
  simp only [stageBody, TeachingPackState.artifactWorkflow, if_neg enters.generates]

theorem nextPosition_of_complete (complete : state.artifactFanoutComplete = true) :
    nextPosition config .artifactWorkflow state = .stage .renderQuality := by
  unfold nextPosition
  simp only [routeAfterArtifactWorkflow_of_complete complete]

theorem nextPosition_of_sends {sends : List GenerateOneArtifactPayload}
    (areSends : routeAfterArtifactWorkflow config.parallelism state = sends)
    (someSends : sends ≠ []) :
    nextPosition config .artifactWorkflow state = .branches sends := by
  unfold nextPosition
  simp only [areSends]

theorem FanoutRun.stage_of_visit {visit : Visit} (isVisit : visit ∈ (run.visit config).toList) :
    visit.stage = .artifactWorkflow := by
  unfold FanoutRun.visit at isVisit
  split at isVisit
  · rw [List.mem_singleton.mp isVisit]
    rfl
  · cases isVisit

theorem Stepped.inGraph
    (stepped : Stepped config.parallelism generationId sent input.branchEnd run after)
    (goesOn : run.position ≠ .finished) (enters : run.Enters) :
    (run.inGraph store).step config input = (after.1.inGraph store, run.visit config) := by
  cases stepped with
  | @completes state complete =>
    have isNext : nextPosition config .artifactWorkflow
        (completeStage .artifactWorkflow state.coordinated) = .stage .renderQuality :=
      nextPosition_of_complete complete
    simp only [FanoutRun.inGraph, GraphRun.step, stageNode_artifactWorkflow enters,
      FanoutRun.visit, coordinatingVisit, isNext]
  | @sends state sends incomplete _ areSends someSends =>
    simp only [FanoutRun.inGraph, GraphRun.step, stageNode_artifactWorkflow enters,
      FanoutRun.visit, coordinatingVisit, completeStage_of_incomplete incomplete,
      nextPosition_of_sends areSends someSends]
  | @branchEnds state sends rest payload _ _ taken =>
    simp only [FanoutRun.inGraph, GraphRun.step, taken, FanoutRun.visit]
    cases rest with
    | nil => rfl
    | cons next others => rfl
  | rests => exact absurd rfl goesOn

theorem Stepped.enters
    (stepped : Stepped config.parallelism generationId sent input.branchEnd run after)
    (enters : run.Enters) : after.1.Enters where
  generates := by
    rw [stepped.sameOutside.contract]
    exact enters.generates
  enters := by
    intro isCoordinating _
    cases stepped with
    | completes | rests => cases isCoordinating
    | sends => cases isCoordinating
    | @branchEnds state _ _ payload incomplete =>
      have stillIncomplete :
          (state.writeArtifact payload input.branchEnd.outcome).artifactFanoutComplete = false :=
        incomplete
      simp [canReenterStage, stillIncomplete]

end Steps

/-! ## Whole generations -/

variable {state : TeachingPackState}

theorem SameOutsideFanout.trans {between after : TeachingPackState}
    (first : SameOutsideFanout state between) (second : SameOutsideFanout between after) :
    SameOutsideFanout state after where
  runId := second.runId.trans first.runId
  contract := second.contract.trans first.contract
  completedStages := second.completedStages.trans first.completedStages
  qualityScores := second.qualityScores.trans first.qualityScores
  qualityRecoveryRoute := second.qualityRecoveryRoute.trans first.qualityRecoveryRoute
  gatePayload := second.gatePayload.trans first.gatePayload

/-- What the graph has done after some steps of a generation. -/
structure GeneratedSince (config : GraphConfig) (guard : Guard GraphRun GraphInput (Option Visit))
    (start : FanoutRun) (store : BreakerStore) (history : History GraphInput (Option Visit))
    (steps : ℕ) (here : FanoutRun) (later : History GraphInput (Option Visit)) : Prop where
  reached : (graphMachine config).Run guard (here.inGraph store) (later ++ history)
  enters : here.Enters
  outside : SameOutsideFanout start.state here.state
  onlyWorkflow : ∀ visit ∈ visits later, visit.stage = .artifactWorkflow
  coordinates : 0 < steps → coordinatingVisit config start.state ∈ visits later

variable {config : GraphConfig} {guard : Guard GraphRun GraphInput (Option Visit)}
  {store : BreakerStore} {history : History GraphInput (Option Visit)}

theorem generatedSince {start : FanoutRun} (atLeastOne : 1 ≤ config.parallelism)
    (starts : start.Starts) (enters : start.Enters)
    (reached : (graphMachine config).Run guard (start.inGraph store) history)
    (inputs : ℕ → GraphInput) (allowed : ∀ n run history, guard run history (inputs n)) (n : ℕ)
    (goesOn : ∀ m < n, ((fanoutMachine config.parallelism).trajectory start
      (fun step => (inputs step).branchEnd) m).1.position ≠ .finished) :
    ∃ later, GeneratedSince config guard start store history n
      ((fanoutMachine config.parallelism).trajectory start
        (fun step => (inputs step).branchEnd) n).1 later := by
  induction n with
  | zero =>
    refine ⟨[], reached, enters, ⟨rfl, rfl, rfl, rfl, rfl, rfl⟩, ?_, ?_⟩
    · simp
    · simp
  | succ n ih =>
    rcases ih fun m isEarlier => goesOn m (by omega) with ⟨later, since⟩
    have standing := standing_trajectory atLeastOne starts (fun step => (inputs step).branchEnd) n
    have stepped := standing.stepped atLeastOne (inputs n).branchEnd
    have advanced := since.reached.next (inputs n) (allowed n _ _)
    simp only [Machine.advance, graphMachine] at advanced
    rw [stepped.inGraph (goesOn n (by omega)) since.enters] at advanced
    refine ⟨_ :: later, advanced, stepped.enters since.enters,
      since.outside.trans stepped.sameOutside, ?_, fun _ => ?_⟩
    · intro visit mem
      rw [visits_cons] at mem
      rcases List.mem_append.mp mem with isNew | isEarlier
      · exact FanoutRun.stage_of_visit isNew
      · exact since.onlyWorkflow visit isEarlier
    · rw [visits_cons]
      cases n with
      | zero =>
        have isVisit : start.visit config = some (coordinatingVisit config start.state) := by
          simp [FanoutRun.visit, starts.coordinating]
        have isFirst : coordinatingVisit config start.state ∈ (start.visit config).toList := by
          simp [isVisit]
        exact List.mem_append_left _ isFirst
      | succ m => exact List.mem_append_right _ (since.coordinates (Nat.succ_pos m))

/-- A generation that is finished in the graph. -/
structure Generated (config : GraphConfig) (guard : Guard GraphRun GraphInput (Option Visit))
    (state : TeachingPackState) (store : BreakerStore) (history : History GraphInput (Option Visit))
    (generated : TeachingPackState) (later : History GraphInput (Option Visit)) : Prop where
  reached : (graphMachine config).Run guard
    ⟨completeStage .artifactWorkflow generated, store, .stage .renderQuality⟩ (later ++ history)
  numbered : Numbered generated
  complete : generated.artifactFanoutComplete = true
  outside : SameOutsideFanout state generated
  onlyWorkflow : ∀ visit ∈ visits later, visit.stage = .artifactWorkflow
  coordinates : coordinatingVisit config state ∈ visits later

theorem exists_generated (atLeastOne : 1 ≤ config.parallelism)
    (starts : FanoutRun.Starts ⟨state, .coordinating⟩)
    (enters : FanoutRun.Enters ⟨state, .coordinating⟩) (numbered : Numbered state)
    (reached : (graphMachine config).Run guard ⟨state, store, .stage .artifactWorkflow⟩ history)
    (inputs : ℕ → GraphInput) (allowed : ∀ n run history, guard run history (inputs n)) :
    ∃ generated later, Generated config guard state store history generated later := by
  have ends := finishes atLeastOne starts fun step => (inputs step).branchEnd
  have isFinished := Nat.find_spec ends
  rcases generatedSince atLeastOne starts enters reached inputs allowed (Nat.find ends)
    fun m isEarlier => Nat.find_min ends isEarlier with ⟨later, since⟩
  have standing := standing_trajectory atLeastOne starts
    (fun step => (inputs step).branchEnd) (Nat.find ends)
  have someSteps : 0 < Nat.find ends := by
    rw [Nat.pos_iff_ne_zero]
    intro noSteps
    rw [noSteps] at isFinished
    cases isFinished
  have inGraph := since.reached
  unfold FanoutRun.inGraph at inGraph
  rw [isFinished] at inGraph
  exact ⟨_, later,
    { reached := inGraph
      numbered := numbered.trajectory atLeastOne starts _ _
      complete := standing.complete isFinished
      outside := since.outside
      onlyWorkflow := since.onlyWorkflow
      coordinates := since.coordinates someSteps }⟩

end OhMyClass.TeachingPack
