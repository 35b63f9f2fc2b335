import OhMyClass.TeachingPack.GraphFanout

/-!
# Regeneration between two teachers

A failure that is counted brings the run closer to the teacher.  Failures that
are not counted do not, and neither does a compliance gate that is entered
again after it found violations.
-/

namespace OhMyClass.TeachingPack

open List OhMyClass.Healing OhMyClass.Transition Visit TeachingPackState

/-- The artifact workflow begins a generation. -/
def Visit.startsCycle (visit : Visit) : Bool :=
  visit.stage = .artifactWorkflow && visit.executed &&
    visit.after.artifactGenerationId ≠ visit.before.artifactGenerationId

def Visit.asksTeacher (visit : Visit) : Bool :=
  visit.stage = .teacherApproval && visit.executed

/-- Render quality sends the run anywhere but on to compliance. -/
def Visit.failsQuality (visit : Visit) : Bool :=
  match visit.next with
  | .stage target => visit.stage = .renderQuality && visit.executed && target ≠ .complianceGate
  | _ => false

/-- The generations begun after the teacher was last asked. -/
def cyclesSinceTeacher : List Visit → Nat
  | [] => 0
  | visit :: earlier =>
    if visit.asksTeacher then 0
    else cyclesSinceTeacher earlier + if visit.startsCycle then 1 else 0

/-- After so many failures each one goes to the teacher as an escalation. -/
def EscalatesAfter (failures : Nat) : List Visit → Prop
  | [] => True
  | visit :: earlier =>
    (visit.failsQuality = true → failures ≤ earlier.countP Visit.failsQuality →
      visit.next = .stage .teacherApproval ∧ visit.after.escalate = true) ∧
      EscalatesAfter failures earlier

structure BoundedRegeneration (maxHealingAttempts : Nat) (visits : List Visit) : Prop where
  cycles : cyclesSinceTeacher visits ≤ min maxHealingAttempts 3 + 2
  escalates : EscalatesAfter (min maxHealingAttempts 3) visits

/-- A failure that healing does not count. -/
def failsUncounted (config : GraphConfig) (state : TeachingPackState) (outcome : StageOutcome) :
    Bool :=
  match qualityOutcome config.qualityGateInjected outcome.checks state with
  | .failed _ => true
  | .failedAtGate _ _ => !config.healing.forceEscalate && config.healing.maxHealingAttempts = 0
  | _ => false

/-- Every failure is counted, and a gate that found violations is not entered
again while a rejection is pending. -/
def countsFailures (config : GraphConfig) : Guard GraphRun GraphInput (Option Visit) :=
  fun run _ input =>
    (run.position = .stage .renderQuality →
      (.renderQuality ∈ run.state.completedStages →
        canReenterStage run.state .renderQuality = true) →
      failsUncounted config run.state input.outcome = false) ∧
    (run.position = .stage .complianceGate → .complianceGate ∈ run.state.completedStages →
      run.state.compliancePassed = true ∨ run.state.pendingRejections = [])

instance {config : GraphConfig} (run : GraphRun) (history : History GraphInput (Option Visit))
    (input : GraphInput) : Decidable (countsFailures config run history input) :=
  inferInstanceAs (Decidable (_ ∧ _))

/-- Research is never asked for, planning only right before it, and compliance
is entered without a route. -/
structure RoutesKept (state : TeachingPackState) (position : GraphPosition) : Prop where
  noResearch : state.qualityRecoveryRoute ≠ some .postBlueprintResearch
  planning : state.qualityRecoveryRoute = some .planningBlueprint →
    position = .stage .planningBlueprint
  unset : position = .stage .complianceGate → state.qualityRecoveryRoute = none

section Routes

variable {config : GraphConfig} {outcome : StageOutcome} {stage : StageEnum}
  {state : TeachingPackState} {store after : BreakerStore} {visit : Visit}

theorem route_of_complianceGate (isNext : nextPosition config stage state = .stage .complianceGate) :
    stage = .renderQuality ∧ state.qualityRecoveryRoute = none := by
  cases stage with
  | renderQuality =>
    simp only [nextPosition, routeAfterRenderQuality, GraphPosition.stage.injEq] at isNext
    split at isNext
    all_goals first | contradiction | skip
    next isNone => exact ⟨rfl, isNone⟩
  | teacherApproval =>
    simp only [nextPosition, GraphPosition.stage.injEq] at isNext
    rcases routeAfterTeacherApproval_cases state with goesBack | exports
    · simp [goesBack] at isNext
    · simp [exports] at isNext
  | triage | unitPlanning | unitApproval | unitPrep | artifactWorkflow | complianceGate =>
    simp only [nextPosition, routeAfterTriage, routeAfterUnitApproval, routeAfterComplianceGate]
      at isNext
    try split at isNext
    all_goals simp at isNext
  | setupContract | preplanningSearch | planningBlueprint | provisionalComponentStrategy
  | postBlueprintResearch | finalizeComponentStrategy | exportFinalize =>
    exfalso
    simp only [nextPosition] at isNext
    generalize config.componentStrategistV1 = componentStrategistV1 at isNext
    revert componentStrategistV1
    decide

theorem renderQuality_counted (counted : failsUncounted config state outcome = false)
    {merged : TeachingPackState}
    (body : state.renderQualityStage config outcome store = (.ok merged, after)) :
    (merged.qualityRecoveryRoute = none ∧ merged.failCount = state.failCount) ∨
      (merged.failCount = state.failCount + 1 ∧
        (min config.healing.maxHealingAttempts 3 ≤ state.failCount →
          merged.qualityRecoveryRoute = some .teacherApproval) ∧
        ((merged.qualityRecoveryRoute = some .teacherApproval ∧ merged.escalate = true) ∨
          merged.qualityRecoveryRoute = some .planningBlueprint ∨
          merged.qualityRecoveryRoute = some .artifactWorkflow)) := by
  cases renderQuality_rendered (renderQualityStage_ok body).2 with
  | passes => exact .inl ⟨rfl, rfl⟩
  | fails isFailed => simp [failsUncounted, isFailed] at counted
  | @heals issues classes atGate update _ healing =>
    have counts : config.healing.forceEscalate = true ∨
        1 ≤ config.healing.maxHealingAttempts := by
      simp only [failsUncounted, atGate, Bool.and_eq_false_iff, Bool.not_eq_false',
        decide_eq_false_iff_not] at counted
      exact counted.imp_right Nat.one_le_iff_ne_zero.mpr
    rcases healAtGate_spec healing with ⟨routes, counted⟩
    rcases counted counts with ⟨isCounted, atEnd⟩
    have sameCount : (update.apply (state.failQuality issues update.qualityRecoveryRoute)).failCount
        = state.failCount + 1 := by
      simp [HealingUpdate.apply, isCounted]
    refine .inr ⟨sameCount, fun above => ?_, ?_⟩
    · rcases routes with ⟨_, isTeacher⟩ | ⟨stays, _⟩
      · exact congrArg some isTeacher
      · simp [atEnd above] at stays
    · rcases routes with ⟨escalates, isTeacher⟩ | ⟨_, isPlanning | isArtifacts⟩
      · exact .inl ⟨congrArg some isTeacher, by simp [HealingUpdate.apply, escalates]⟩
      · exact .inr (.inl (congrArg some isPlanning))
      · exact .inr (.inr (congrArg some isArtifacts))

theorem exportFinalize_route (state : TeachingPackState) :
    state.exportFinalize.qualityRecoveryRoute = some .cleared ∨
      state.exportFinalize.qualityRecoveryRoute = state.qualityRecoveryRoute := by
  unfold TeachingPackState.exportFinalize
  split
  · exact .inl rfl
  · exact .inr rfl

/-- The route a visit leaves is the one before it, unless the visit is one that
sets it; then it is not research, and planning only on the way there. -/
theorem RoutesKept.route_after (kept : RoutesKept state (.stage stage))
    (counted : stage = .renderQuality →
      (.renderQuality ∈ state.completedStages → canReenterStage state .renderQuality = true) →
      failsUncounted config state outcome = false)
    (visited : Visited config outcome stage state store (visit, after)) :
    visit.after.qualityRecoveryRoute ≠ some .postBlueprintResearch ∧
      (visit.after.qualityRecoveryRoute = some .planningBlueprint →
        visit.next = .stage .planningBlueprint) := by
  have elsewhere (other : stage ≠ .planningBlueprint) :
      state.qualityRecoveryRoute ≠ some .planningBlueprint := by
    intro isPlanning
    exact other (GraphPosition.stage.inj (kept.planning isPlanning))
  have same (other : stage ≠ .planningBlueprint)
      (unchanged : visit.after.qualityRecoveryRoute = state.qualityRecoveryRoute) :
      visit.after.qualityRecoveryRoute ≠ some .postBlueprintResearch ∧
        (visit.after.qualityRecoveryRoute = some .planningBlueprint →
          visit.next = .stage .planningBlueprint) := by
    rw [unchanged]
    exact ⟨kept.noResearch, fun isPlanning => absurd isPlanning (elsewhere other)⟩
  by_cases noRoute : stage ∉
      [StageEnum.planningBlueprint, .renderQuality, .complianceGate, .exportFinalize]
  · have other : stage ≠ .planningBlueprint := by
      rintro rfl
      exact noRoute (by decide)
    exact same other (visited.qualityRecoveryRoute_eq noRoute)
  · cases visited with
    | raised _ body =>
      apply same _ rfl
      rintro rfl
      cases body
    | skipped completed closed =>
      by_cases isPlanning : stage = .planningBlueprint
      · subst isPlanning
        simp only [canReenterStage, decide_eq_false_iff_not] at closed
        exact ⟨kept.noResearch, fun isRoute => absurd isRoute closed⟩
      · exact same isPlanning rfl
    | @executed merged _ enters body =>
      simp only [mem_cons, not_mem_nil, or_false, not_not] at noRoute
      rcases noRoute with rfl | rfl | rfl | rfl
      · cases body
        simp [completeStage, TeachingPackState.planningBlueprint]
      · rcases renderQuality_counted (counted rfl enters) body with
          ⟨isNone, _⟩ | ⟨_, _, ⟨isTeacher, _⟩ | isPlanning | isArtifacts⟩
        · simp [completeStage, isNone]
        · simp [completeStage, isTeacher]
        · simp [completeStage, isPlanning, nextPosition, routeAfterRenderQuality]
        · simp [completeStage, isArtifacts]
      · rcases complianceGate_ok (congrArg Prod.fst body) with ⟨passed, route, issues, rfl, isRoute⟩
        cases passed with
        | true => exact same (by decide) isRoute
        | false =>
          simp only [Bool.false_eq_true, if_false] at isRoute
          simp [completeStage, isRoute]
      · cases body
        rcases exportFinalize_route state with isCleared | unchanged
        · simp [completeStage, isCleared]
        · exact same (by decide) unchanged

theorem RoutesKept.visits (kept : RoutesKept state (.stage stage))
    (counted : stage = .renderQuality →
      (.renderQuality ∈ state.completedStages → canReenterStage state .renderQuality = true) →
      failsUncounted config state outcome = false)
    (visited : Visited config outcome stage state store (visit, after)) :
    RoutesKept visit.after visit.next where
  noResearch := (kept.route_after counted visited).1
  planning := (kept.route_after counted visited).2
  unset := by
    intro isNext
    rcases visited.next_eq with isEdge | ⟨error, isRaised⟩
    · rw [isEdge] at isNext
      exact (route_of_complianceGate isNext).2
    · rw [isRaised] at isNext
      cases isNext

end Routes

/-! ## What is left to spend -/

def beforeArtifacts : List StageEnum :=
  [.setupContract, .triage, .preplanningSearch, .planningBlueprint,
    .provisionalComponentStrategy, .postBlueprintResearch, .finalizeComponentStrategy]

/-- A cycle that may begin before the next failure, check or teacher. -/
def credit (state : TeachingPackState) : GraphPosition → Nat
  | .stage .artifactWorkflow =>
    if state.artifactGenerationId = none ∨ state.needsNewGenerationCycle = true then 1 else 0
  | .stage stage => if stage ∈ beforeArtifacts then 1 else 0
  | _ => 0

/-- The first cycle, one for each failure of the ladder and one for the
compliance gate. -/
def budget (config : GraphConfig) (state : TeachingPackState) : Nat :=
  1 + min state.failCount (min config.healing.maxHealingAttempts 3) +
    if .complianceGate ∈ state.completedStages then 1 else 0

/-- What holds of a run and its visits. -/
structure Budgeted (config : GraphConfig) (run : GraphRun) (earlier : List Visit) : Prop where
  routes : RoutesKept run.state run.position
  notEmpty : run.state.artifactGenerationId ≠ some ""
  ungenerated : run.state.artifactGenerationId = none → cyclesSinceTeacher earlier = 0
  incomplete : ∀ sends, run.position = .branches sends → run.state.artifactFanoutComplete = false
  spent : cyclesSinceTeacher earlier + credit run.state run.position ≤ budget config run.state
  counted : run.state.failCount = earlier.countP Visit.failsQuality
  escalates : EscalatesAfter (min config.healing.maxHealingAttempts 3) earlier

section Budget

variable {config : GraphConfig} {outcome : StageOutcome} {stage : StageEnum}
  {state : TeachingPackState} {store after : BreakerStore} {visit : Visit} {earlier : List Visit}

theorem credit_le_one (state : TeachingPackState) (position : GraphPosition) :
    credit state position ≤ 1 := by
  unfold credit
  split
  · split <;> simp
  · split <;> simp
  · simp

theorem credit_of_before (isBefore : stage ∈ beforeArtifacts) :
    credit state (.stage stage) = 1 := by
  cases stage <;> first | rfl | exact absurd isBefore (by decide)

theorem one_le_budget (config : GraphConfig) (state : TeachingPackState) :
    1 ≤ budget config state := by
  unfold budget
  omega

theorem cyclesSinceTeacher_cons :
    cyclesSinceTeacher (visit :: earlier) =
      if visit.asksTeacher then 0
      else cyclesSinceTeacher earlier + if visit.startsCycle then 1 else 0 :=
  rfl

theorem cyclesSinceTeacher_of_teacher (asks : visit.asksTeacher = true) :
    cyclesSinceTeacher (visit :: earlier) = 0 :=
  if_pos asks

theorem cyclesSinceTeacher_cons_le :
    cyclesSinceTeacher (visit :: earlier) ≤ cyclesSinceTeacher earlier + 1 := by
  rw [cyclesSinceTeacher_cons]
  split
  · exact Nat.zero_le _
  · split <;> omega

theorem cyclesSinceTeacher_cons_le_of_same
    (same : visit.after.artifactGenerationId = visit.before.artifactGenerationId) :
    cyclesSinceTeacher (visit :: earlier) ≤ cyclesSinceTeacher earlier := by
  have noStart : visit.startsCycle = false := by simp [startsCycle, same]
  rw [cyclesSinceTeacher_cons]
  split
  · exact Nat.zero_le _
  · simp [noStart]

theorem Visited.cycles_le (visited : Visited config outcome stage state store (visit, after))
    (noWorkflow : stage ≠ .artifactWorkflow) :
    cyclesSinceTeacher (visit :: earlier) ≤ cyclesSinceTeacher earlier := by
  apply cyclesSinceTeacher_cons_le_of_same
  rw [visited.before_eq]
  exact (visited.fanout_eq noWorkflow).1

theorem spent_of_calm {cycles : Nat}
    (noRoute : state.qualityRecoveryRoute ≠ some .artifactWorkflow)
    (noPending : state.pendingRejections = [])
    (ungenerated : state.artifactGenerationId = none → cycles = 0)
    (spent : cycles ≤ budget config state) :
    cycles + credit state (.stage .artifactWorkflow) ≤ budget config state := by
  have noTypes : state.rejectedGenerationTypes = [] := by
    unfold rejectedGenerationTypes rejectedArtifactTypes
    unfold pendingRejections at noPending
    rw [noPending]
    rfl
  have noCycle : state.needsNewGenerationCycle = false := by
    simp [needsNewGenerationCycle, noTypes, noRoute]
  by_cases noGeneration : state.artifactGenerationId = none
  · rw [ungenerated noGeneration, Nat.zero_add]
    exact (credit_le_one _ _).trans (one_le_budget _ _)
  · simpa [credit, noGeneration, noCycle] using spent

theorem checked_le (visited : Visited config outcome stage state store (visit, after)) :
    (if StageEnum.complianceGate ∈ state.completedStages then 1 else 0) ≤
      if StageEnum.complianceGate ∈ visit.after.completedStages then 1 else 0 := by
  split
  · next isCompleted => rw [if_pos (visited.completedStages_subset isCompleted)]
  · exact Nat.zero_le _

theorem budget_le (moreFailures : state.failCount ≤ visit.after.failCount)
    (visited : Visited config outcome stage state store (visit, after)) :
    budget config state ≤ budget config visit.after := by
  have checked := checked_le visited
  unfold budget
  omega

theorem budget_lt (isCounted : visit.after.failCount = state.failCount + 1)
    (onLadder : state.failCount < min config.healing.maxHealingAttempts 3)
    (visited : Visited config outcome stage state store (visit, after)) :
    budget config state < budget config visit.after := by
  have checked := checked_le visited
  unfold budget
  omega

/-- How a visit of render quality is left. -/
inductive RenderVisit (config : GraphConfig) (state : TeachingPackState) (visit : Visit) : Prop
  | skipped (sameState : visit.after = state)
      (isNext : visit.next = .stage (routeAfterRenderQuality state))
      (fails : visit.failsQuality = false)
      (noRoute : state.qualityRecoveryRoute ≠ some .artifactWorkflow)
      (noPending : state.pendingRejections = [])
  | raised (sameState : visit.after = state) (error : StageError)
      (isNext : visit.next = .raised error) (fails : visit.failsQuality = false)
  | passes (isNext : visit.next = .stage .complianceGate) (fails : visit.failsQuality = false)
      (sameCount : visit.after.failCount = state.failCount)
  | fails (target : StageEnum) (isNext : visit.next = .stage target)
      (fails : visit.failsQuality = true)
      (counted : visit.after.failCount = state.failCount + 1)
      (isTarget : target = .teacherApproval ∧ visit.after.escalate = true ∨
        state.failCount < min config.healing.maxHealingAttempts 3)

theorem renderVisit
    (counted : (.renderQuality ∈ state.completedStages →
      canReenterStage state .renderQuality = true) → failsUncounted config state outcome = false)
    (visited : Visited config outcome .renderQuality state store (visit, after)) :
    RenderVisit config state visit := by
  cases visited with
  | skipped completed closed =>
    simp only [canReenterStage, Bool.or_eq_false_iff, decide_eq_false_iff_not, not_not] at closed
    exact .skipped rfl rfl (by simp [failsQuality, nextPosition]) closed.1 closed.2
  | raised => exact .raised rfl _ rfl rfl
  | @executed merged _ enters body =>
    have toTarget (target : StageEnum) (other : target ≠ .complianceGate)
        (isTarget : routeAfterRenderQuality merged = target)
        (isCounted : merged.failCount = state.failCount + 1)
        (onward : target = .teacherApproval ∧ merged.escalate = true ∨
          state.failCount < min config.healing.maxHealingAttempts 3) : RenderVisit config state
          ⟨.renderQuality, true, state, completeStage .renderQuality merged,
            nextPosition config .renderQuality (completeStage .renderQuality merged)⟩ := by
      have leavesTo : routeAfterRenderQuality (completeStage .renderQuality merged) = target :=
        isTarget
      refine .fails target (congrArg GraphPosition.stage leavesTo) ?_ isCounted onward
      simp [failsQuality, nextPosition, leavesTo, other]
    rcases renderQuality_counted (counted enters) body with
      ⟨isNone, sameCount⟩ | ⟨isCounted, atEnd, routes⟩
    · have leavesTo : routeAfterRenderQuality (completeStage .renderQuality merged) =
          .complianceGate := by
        simp [routeAfterRenderQuality, completeStage, isNone]
      exact .passes (congrArg GraphPosition.stage leavesTo)
        (by simp [failsQuality, nextPosition, leavesTo]) sameCount
    · have onLadder (noTeacher : merged.qualityRecoveryRoute ≠ some .teacherApproval) :
          state.failCount < min config.healing.maxHealingAttempts 3 :=
        Nat.lt_of_not_le fun above => noTeacher (atEnd above)
      rcases routes with ⟨isTeacher, escalates⟩ | isPlanning | isArtifacts
      · exact toTarget .teacherApproval (by decide) (by simp [routeAfterRenderQuality, isTeacher])
          isCounted (.inl ⟨rfl, escalates⟩)
      · exact toTarget .planningBlueprint (by decide)
          (by simp [routeAfterRenderQuality, isPlanning]) isCounted
          (.inr (onLadder (by simp [isPlanning])))
      · exact toTarget .artifactWorkflow (by decide)
          (by simp [routeAfterRenderQuality, isArtifacts]) isCounted
          (.inr (onLadder (by simp [isArtifacts])))

/-! ### Stage by stage -/

/-- What is spent before a visit is within the budget after it. -/
structure Affordable (config : GraphConfig) (visit : Visit) (earlier : List Visit) : Prop where
  spent : cyclesSinceTeacher (visit :: earlier) + credit visit.after visit.next ≤
    budget config visit.after
  counted : visit.after.failCount = (visit :: earlier).countP Visit.failsQuality
  escalates : EscalatesAfter (min config.healing.maxHealingAttempts 3) (visit :: earlier)

theorem failsQuality_eq_false (other : visit.stage ≠ .renderQuality) :
    visit.failsQuality = false := by
  unfold failsQuality
  split
  · simp [other]
  · rfl

theorem Affordable.of_other
    (budgeted : Budgeted config ⟨state, store, .stage stage⟩ earlier)
    (noRender : stage ≠ .renderQuality)
    (visited : Visited config outcome stage state store (visit, after))
    (spent : cyclesSinceTeacher (visit :: earlier) + credit visit.after visit.next ≤
      budget config visit.after) : Affordable config visit earlier := by
  have noFailure : visit.failsQuality = false :=
    failsQuality_eq_false (visited.stage_eq ▸ noRender)
  refine ⟨spent, ?_, fun fails => ?_, budgeted.escalates⟩
  · rw [visited.failCount_eq noRender, countP_cons_of_neg (by simp [noFailure])]
    exact budgeted.counted
  · simp [noFailure] at fails

theorem affordable_beforeArtifacts (isBefore : stage ∈ beforeArtifacts)
    (budgeted : Budgeted config ⟨state, store, .stage stage⟩ earlier)
    (visited : Visited config outcome stage state store (visit, after)) :
    Affordable config visit earlier := by
  have noWorkflow : stage ≠ .artifactWorkflow := by
    rintro rfl
    exact absurd isBefore (by decide)
  have noRender : stage ≠ .renderQuality := by
    rintro rfl
    exact absurd isBefore (by decide)
  apply Affordable.of_other budgeted noRender visited
  have spent := budgeted.spent
  have isCredit : credit state (.stage stage) = 1 := credit_of_before isBefore
  have cycles : cyclesSinceTeacher (visit :: earlier) ≤ cyclesSinceTeacher earlier :=
    visited.cycles_le noWorkflow
  have more : budget config state ≤ budget config visit.after :=
    budget_le (visited.failCount_eq noRender).ge visited
  have atMost : credit visit.after visit.next ≤ 1 := credit_le_one _ _
  simp only at spent
  omega

theorem nextPosition_artifactWorkflow (state : TeachingPackState) :
    credit state (nextPosition config .artifactWorkflow state) = 0 := by
  simp only [nextPosition]
  split
  · rfl
  · rfl

theorem artifactGenerationId_of_no_cycle (generated : state.artifactGenerationId ≠ none)
    (notEmpty : state.artifactGenerationId ≠ some "")
    (noCycle : state.needsNewGenerationCycle = false)
    (visited : Visited config outcome .artifactWorkflow state store (visit, after)) :
    visit.after.artifactGenerationId = visit.before.artifactGenerationId := by
  cases visited with
  | skipped | raised => rfl
  | executed _ body =>
    rcases artifactWorkflow_ok (congrArg Prod.fst body) with ⟨_, rfl⟩ | ⟨_, rfl⟩
    · rfl
    · rcases Option.ne_none_iff_exists'.mp generated with ⟨generationId, isId⟩
      have isCurrent : state.currentId = generationId := by
        unfold currentId nextGenerationRevision
        rw [noCycle]
        exact generationId_of_current isId (by simpa [isId] using notEmpty)
      calc
        (completeStage .artifactWorkflow state.coordinated).artifactGenerationId =
            some state.currentId := state.coordinated_artifactGenerationId
        _ = state.artifactGenerationId := by rw [isCurrent, isId]

theorem affordable_artifactWorkflow
    (budgeted : Budgeted config ⟨state, store, .stage .artifactWorkflow⟩ earlier)
    (visited : Visited config outcome .artifactWorkflow state store (visit, after)) :
    Affordable config visit earlier := by
  apply Affordable.of_other budgeted (by decide) visited
  have spent : cyclesSinceTeacher earlier + credit state (.stage .artifactWorkflow) ≤
    budget config state := budgeted.spent
  have more : budget config state ≤ budget config visit.after :=
    budget_le (visited.failCount_eq (by decide)).ge visited
  have noCredit : credit visit.after visit.next = 0 := by
    rcases visited.next_eq with isNext | ⟨error, isRaised⟩
    · rw [isNext]
      exact nextPosition_artifactWorkflow _
    · rw [isRaised]
      rfl
  by_cases same : visit.after.artifactGenerationId = visit.before.artifactGenerationId
  · have cycles : cyclesSinceTeacher (visit :: earlier) ≤ cyclesSinceTeacher earlier :=
      cyclesSinceTeacher_cons_le_of_same same
    omega
  · have cycles : cyclesSinceTeacher (visit :: earlier) ≤ cyclesSinceTeacher earlier + 1 :=
      cyclesSinceTeacher_cons_le
    have mayBegin : credit state (.stage .artifactWorkflow) = 1 := by
      by_contra noBegin
      simp only [credit, ite_eq_left_iff, zero_ne_one, imp_false, not_not, not_or,
        Bool.not_eq_true] at noBegin
      exact same (artifactGenerationId_of_no_cycle noBegin.1 budgeted.notEmpty noBegin.2 visited)
    omega

theorem affordable_teacherApproval
    (budgeted : Budgeted config ⟨state, store, .stage .teacherApproval⟩ earlier)
    (visited : Visited config outcome .teacherApproval state store (visit, after)) :
    Affordable config visit earlier := by
  apply Affordable.of_other budgeted (by decide) visited
  cases visited with
  | executed | raised =>
    rw [cyclesSinceTeacher_of_teacher rfl, Nat.zero_add]
    exact (credit_le_one _ _).trans (one_le_budget _ _)
  | skipped completed closed =>
    have cycles := budgeted.spent
    simp only [canReenterStage, Bool.or_eq_false_iff, decide_eq_false_iff_not, not_not] at closed
    simp only [nextPosition]
    rcases routeAfterTeacherApproval_cases state with goesBack | exports
    · rw [goesBack]
      exact spent_of_calm closed.1 closed.2 budgeted.ungenerated cycles
    · rw [exports]
      exact cycles

theorem affordable_complianceGate
    (budgeted : Budgeted config ⟨state, store, .stage .complianceGate⟩ earlier)
    (settled : .complianceGate ∈ state.completedStages →
      state.compliancePassed = true ∨ state.pendingRejections = [])
    (visited : Visited config outcome .complianceGate state store (visit, after)) :
    Affordable config visit earlier := by
  apply Affordable.of_other budgeted (by decide) visited
  have spent : cyclesSinceTeacher earlier ≤ budget config state := budgeted.spent
  have unset : state.qualityRecoveryRoute = none := budgeted.routes.unset rfl
  have cycles : cyclesSinceTeacher (visit :: earlier) ≤ cyclesSinceTeacher earlier :=
    visited.cycles_le (by decide)
  cases visited with
  | skipped completed =>
    simp only [nextPosition, routeAfterComplianceGate]
    split
    · exact cycles.trans spent
    · next notPassed =>
      have noPending := (settled completed).resolve_left notPassed
      refine spent_of_calm (by simp [unset]) noPending (fun none => ?_) (cycles.trans spent)
      exact Nat.eq_zero_of_le_zero (cycles.trans (budgeted.ungenerated none).le)
  | raised => exact cycles.trans spent
  | @executed merged _ enters body =>
    have first : .complianceGate ∉ state.completedStages := by
      intro completed
      exact absurd (enters completed) (by simp [canReenterStage])
    have frame := stageBody_frame body
    have grows : budget config (completeStage .complianceGate merged) = budget config state + 1 := by
      simp [budget, completeStage, frame.failCount (by decide), first]
    have atMost := credit_le_one (completeStage .complianceGate merged)
      (nextPosition config .complianceGate (completeStage .complianceGate merged))
    simp only
    omega

theorem affordable_renderQuality
    (budgeted : Budgeted config ⟨state, store, .stage .renderQuality⟩ earlier)
    (counted : (.renderQuality ∈ state.completedStages →
      canReenterStage state .renderQuality = true) → failsUncounted config state outcome = false)
    (visited : Visited config outcome .renderQuality state store (visit, after)) :
    Affordable config visit earlier := by
  have spent : cyclesSinceTeacher earlier ≤ budget config state := budgeted.spent
  have isCounted : state.failCount = earlier.countP failsQuality := budgeted.counted
  have cycles : cyclesSinceTeacher (visit :: earlier) ≤ cyclesSinceTeacher earlier :=
    visited.cycles_le (by decide)
  have withoutFailure (noFailure : visit.failsQuality = false)
      (sameCount : visit.after.failCount = state.failCount)
      (afforded : cyclesSinceTeacher (visit :: earlier) + credit visit.after visit.next ≤
        budget config visit.after) : Affordable config visit earlier := by
    refine ⟨afforded, ?_, fun fails => ?_, budgeted.escalates⟩
    · rw [sameCount, countP_cons_of_neg (by simp [noFailure])]
      exact isCounted
    · simp [noFailure] at fails
  cases renderVisit counted visited with
  | skipped sameState isNext noFailure noRoute noPending =>
    apply withoutFailure noFailure (congrArg _ sameState)
    rw [isNext, sameState]
    have afforded := cycles.trans spent
    unfold routeAfterRenderQuality
    split
    · next isPlanning => cases budgeted.routes.planning isPlanning
    · next isResearch => exact absurd isResearch budgeted.routes.noResearch
    · next isArtifacts => exact absurd isArtifacts noRoute
    · exact afforded
    · exact afforded
    · refine spent_of_calm noRoute noPending (fun none => ?_) afforded
      exact Nat.eq_zero_of_le_zero (cycles.trans (budgeted.ungenerated none).le)
  | raised sameState error isNext noFailure =>
    apply withoutFailure noFailure (congrArg _ sameState)
    rw [isNext, sameState]
    exact cycles.trans spent
  | passes isNext noFailure sameCount =>
    apply withoutFailure noFailure sameCount
    rw [isNext]
    exact (cycles.trans spent).trans (budget_le sameCount.ge visited)
  | fails target isNext isFailure counts isTarget =>
    constructor
    · rcases isTarget with ⟨rfl, _⟩ | onLadder
      · rw [isNext]
        exact (cycles.trans spent).trans (budget_le (by omega) visited)
      · have grows := budget_lt counts onLadder visited
        have atMost := credit_le_one visit.after visit.next
        omega
    · rw [counts, countP_cons_of_pos isFailure, isCounted]
    · refine ⟨fun _ atEnd => ?_, budgeted.escalates⟩
      rcases isTarget with ⟨rfl, escalates⟩ | onLadder
      · exact ⟨isNext, escalates⟩
      · omega

theorem affordable_aside
    (isAside : stage ∈ [StageEnum.unitPlanning, .unitApproval, .unitPrep, .exportFinalize])
    (budgeted : Budgeted config ⟨state, store, .stage stage⟩ earlier)
    (visited : Visited config outcome stage state store (visit, after)) :
    Affordable config visit earlier := by
  have noWorkflow : stage ≠ .artifactWorkflow := by
    rintro rfl
    exact absurd isAside (by decide)
  have noRender : stage ≠ .renderQuality := by
    rintro rfl
    exact absurd isAside (by decide)
  have noCredit (state : TeachingPackState) : credit state (nextPosition config stage state) = 0 := by
    simp only [mem_cons, not_mem_nil, or_false] at isAside
    rcases isAside with rfl | rfl | rfl | rfl
    · rfl
    · simp only [nextPosition, routeAfterUnitApproval]
      split
      · rfl
      · rfl
    · rfl
    · simp only [nextPosition]
      cases config.componentStrategistV1 with
      | false => rfl
      | true => rfl
  apply Affordable.of_other budgeted noRender visited
  have spent : cyclesSinceTeacher earlier + credit state (.stage stage) ≤ budget config state :=
    budgeted.spent
  have cycles : cyclesSinceTeacher (visit :: earlier) ≤ cyclesSinceTeacher earlier :=
    visited.cycles_le noWorkflow
  have more : budget config state ≤ budget config visit.after :=
    budget_le (visited.failCount_eq noRender).ge visited
  have nothing : credit visit.after visit.next = 0 := by
    rcases visited.next_eq with isNext | ⟨error, isRaised⟩
    · rw [isNext]
      exact noCredit _
    · rw [isRaised]
      rfl
  omega

theorem affordable {history : History GraphInput (Option Visit)} {input : GraphInput}
    (budgeted : Budgeted config ⟨state, store, .stage stage⟩ earlier)
    (allowed : countsFailures config ⟨state, store, .stage stage⟩ history input)
    (visited : Visited config input.outcome stage state store (visit, after)) :
    Affordable config visit earlier := by
  cases stage with
  | setupContract | triage | preplanningSearch | planningBlueprint
  | provisionalComponentStrategy | postBlueprintResearch | finalizeComponentStrategy =>
    exact affordable_beforeArtifacts (by decide) budgeted visited
  | unitPlanning | unitApproval | unitPrep | exportFinalize =>
    exact affordable_aside (by decide) budgeted visited
  | artifactWorkflow => exact affordable_artifactWorkflow budgeted visited
  | renderQuality => exact affordable_renderQuality budgeted (allowed.1 rfl) visited
  | complianceGate => exact affordable_complianceGate budgeted (allowed.2 rfl) visited
  | teacherApproval => exact affordable_teacherApproval budgeted visited

end Budget

/-! ## Whole runs -/

section Runs

variable {config : GraphConfig} {run : GraphRun} {earlier : List Visit}

theorem Budgeted.start (runId : String) (contract : Contract) :
    Budgeted config (.start runId contract) [] := by
  constructor
  · constructor
    · intro isResearch
      cases isResearch
    · intro isPlanning
      cases isPlanning
    · intro _
      rfl
  · intro isEmpty
    cases isEmpty
  · intro _
    rfl
  · intro sends isBranches
    cases isBranches
  · exact one_le_budget _ _
  · rfl
  · trivial

variable {stage : StageEnum} {state : TeachingPackState} {store after : BreakerStore}
  {visit : Visit}

theorem Budgeted.generation {outcome : StageOutcome}
    (budgeted : Budgeted config ⟨state, store, .stage stage⟩ earlier)
    (visited : Visited config outcome stage state store (visit, after)) :
    visit.after.artifactGenerationId ≠ some "" ∧
      (visit.after.artifactGenerationId = none → cyclesSinceTeacher (visit :: earlier) = 0) := by
  by_cases same : visit.after.artifactGenerationId = visit.before.artifactGenerationId
  · have cycles : cyclesSinceTeacher (visit :: earlier) ≤ cyclesSinceTeacher earlier :=
      cyclesSinceTeacher_cons_le_of_same same
    rw [same, visited.before_eq]
    exact ⟨budgeted.notEmpty, fun none =>
      Nat.eq_zero_of_le_zero (cycles.trans (budgeted.ungenerated none).le)⟩
  · have isWorkflow : stage = .artifactWorkflow := by
      by_contra noWorkflow
      rw [visited.before_eq] at same
      exact same (visited.fanout_eq noWorkflow).1
    subst isWorkflow
    cases visited with
    | skipped | raised => exact absurd rfl same
    | executed _ body =>
      rcases artifactWorkflow_ok (congrArg Prod.fst body) with ⟨_, rfl⟩ | ⟨_, rfl⟩
      · exact absurd rfl same
      · have isId : (completeStage .artifactWorkflow state.coordinated).artifactGenerationId =
            some state.currentId := state.coordinated_artifactGenerationId
        simp only [isId, ne_eq, Option.some.injEq, reduceCtorEq, false_implies, and_true]
        exact generationId_ne_empty _

variable {history : History GraphInput (Option Visit)} {input : GraphInput}

theorem Budgeted.visits (budgeted : Budgeted config ⟨state, store, .stage stage⟩ earlier)
    (allowed : countsFailures config ⟨state, store, .stage stage⟩ history input)
    (visited : Visited config input.outcome stage state store (visit, after)) :
    Budgeted config ⟨visit.after, after, visit.next⟩ (visit :: earlier) := by
  have paid := affordable budgeted allowed visited
  have generation := budgeted.generation visited
  exact
    { routes := budgeted.routes.visits (fun isRender => allowed.1 (congrArg _ isRender)) visited
      notEmpty := generation.1
      ungenerated := generation.2
      incomplete := by
        intro sends isBranches
        rcases visited.next_eq with isNext | ⟨error, isRaised⟩
        · rcases branches_of_nextPosition (isNext.symm.trans isBranches) with ⟨areSends, some⟩
          by_contra complete
          rw [Bool.not_eq_false] at complete
          rw [routeAfterArtifactWorkflow, if_pos complete] at areSends
          exact some areSends
        · rw [isRaised] at isBranches
          cases isBranches
      spent := paid.spent
      counted := paid.counted
      escalates := paid.escalates }

theorem Budgeted.branches {next : TeachingPackState} {sends : List GenerateOneArtifactPayload}
    {position : GraphPosition} (budgeted : Budgeted config ⟨state, store, .branches sends⟩ earlier)
    (sameRoute : next.qualityRecoveryRoute = state.qualityRecoveryRoute)
    (sameGeneration : next.artifactGenerationId = state.artifactGenerationId)
    (sameFanout : next.artifactFanoutComplete = state.artifactFanoutComplete)
    (sameCount : next.failCount = state.failCount)
    (sameStages : next.completedStages = state.completedStages)
    (isPosition : position = .stage .artifactWorkflow ∨ ∃ rest, position = .branches rest) :
    Budgeted config ⟨next, store, position⟩ earlier := by
  have incomplete : state.artifactFanoutComplete = false := budgeted.incomplete sends rfl
  have spent : cyclesSinceTeacher earlier ≤ budget config state := budgeted.spent
  have sameBudget : budget config next = budget config state := by
    simp only [budget, sameCount, sameStages]
  have noPlanning : state.qualityRecoveryRoute ≠ some .planningBlueprint := by
    intro isPlanning
    cases budgeted.routes.planning isPlanning
  constructor
  · constructor
    · rw [sameRoute]
      exact budgeted.routes.noResearch
    · intro isPlanning
      exact absurd (sameRoute ▸ isPlanning) noPlanning
    · rintro rfl
      rcases isPosition with isWorkflow | ⟨rest, isRest⟩
      · cases isWorkflow
      · cases isRest
  · rw [sameGeneration]
    exact budgeted.notEmpty
  · rw [sameGeneration]
    exact budgeted.ungenerated
  · intro _ _
    exact sameFanout.trans incomplete
  · rw [sameBudget]
    rcases isPosition with rfl | ⟨rest, rfl⟩
    · by_cases noGeneration : next.artifactGenerationId = none
      · rw [budgeted.ungenerated (sameGeneration ▸ noGeneration), Nat.zero_add]
        exact (credit_le_one _ _).trans (one_le_budget _ _)
      · have noCycle : next.needsNewGenerationCycle = false := by
          simp [needsNewGenerationCycle, sameFanout, incomplete]
        simpa [credit, noGeneration, noCycle] using spent
    · exact spent
  · rw [sameCount]
    exact budgeted.counted
  · exact budgeted.escalates

theorem Budgeted.step (budgeted : Budgeted config run earlier)
    (allowed : countsFailures config run history input) {result : GraphRun × Option Visit}
    (stepped : GraphStep config input run result) :
    Budgeted config result.1 (result.2.toList ++ earlier) := by
  cases stepped with
  | visits visited => exact budgeted.visits allowed visited
  | branchEnds taken order =>
    refine budgeted.branches rfl rfl rfl rfl rfl ?_
    split
    · exact .inl rfl
    · exact .inr ⟨_, rfl⟩
  | noBranch => exact budgeted.branches rfl rfl rfl rfl rfl (.inl rfl)
  | rests => exact budgeted

end Runs

/-- In every run whose failures are all counted, the cycles between two
teachers are bounded by the attempts, and then the teacher is asked. -/
theorem regeneration_bounded {config : GraphConfig} {run : GraphRun}
    {history : History GraphInput (Option Visit)}
    (reached : (graphMachine config).Run (countsFailures config) run history) :
    BoundedRegeneration config.healing.maxHealingAttempts (visits history) := by
  have budgeted : Budgeted config run (visits history) := by
    apply reached.invariant fun run history => Budgeted config run (visits history)
    · rintro _ ⟨runId, contract, rfl⟩
      exact .start runId contract
    · intro run history input budgeted allowed
      simp only [Machine.advance, graphMachine, visits_cons]
      exact budgeted.step allowed (graphStep run input)
  refine ⟨?_, budgeted.escalates⟩
  have spent := budgeted.spent
  have atMost : budget config run.state ≤ min config.healing.maxHealingAttempts 3 + 2 := by
    unfold budget
    split <;> omega
  omega

/-- The gate fails the lesson until the teacher is asked. -/
theorem regeneration_bounded_at_gate :
    BoundedRegeneration 3
      (visits ((graphMachine defaultGraph).drive (lessonRun, [])
        (List.replicate 20 (failingAtGate ⟨0, true⟩))).2) := by
  have reached : (graphMachine defaultGraph).Run (countsFailures defaultGraph) lessonRun [] :=
    run_start "run" _
  have admitted : (graphMachine defaultGraph).Admits (countsFailures defaultGraph)
      (lessonRun, []) (List.replicate 20 (failingAtGate ⟨0, true⟩)) := by
    decide +kernel
  exact regeneration_bounded (reached.drive _ admitted)

/-! ## A failure that is not counted -/

/-- The lesson shows an answer to the students, whatever is generated. -/
def leakingInput : GraphInput :=
  ⟨⟨none, false,
    { passingChecks with
      coherenceIssues := ["pack.coherence:student_projection_leakage:lesson-1"] },
    ⟨0, true⟩, [], .empty, false⟩, ⟨0, .passed none⟩⟩

/-- The input of every step is the leaking one. -/
def leaks : Guard GraphRun GraphInput (Option Visit) :=
  fun _ _ input => input = leakingInput

/-- The artifact workflow is about to begin a generation, and render quality
will check it. -/
structure Regenerates (state : TeachingPackState) : Prop where
  starts : FanoutRun.Starts ⟨state, .coordinating⟩
  enters : FanoutRun.Enters ⟨state, .coordinating⟩
  numbered : Numbered state
  changes : state.artifactGenerationId ≠ some state.currentId
  rerenders : .renderQuality ∈ state.completedStages →
    state.qualityRecoveryRoute = some .artifactWorkflow
  readable : state.qualityScores ≠ .null

section Leaking

variable {config : GraphConfig} {state : TeachingPackState} {store : BreakerStore}

theorem cyclesSinceTeacher_append {later earlier : List Visit}
    (noTeacher : ∀ visit ∈ later, visit.asksTeacher = false) :
    cyclesSinceTeacher (later ++ earlier) =
      cyclesSinceTeacher earlier + later.countP startsCycle := by
  induction later with
  | nil => rfl
  | cons visit rest ih =>
    have noAsk := noTeacher visit mem_cons_self
    rw [cons_append, cyclesSinceTeacher_cons, if_neg (by simp [noAsk]),
      ih fun other mem => noTeacher other (mem_cons_of_mem _ mem), countP_cons]
    omega

def TeachingPackState.leaked (state : TeachingPackState) : TeachingPackState :=
  completeStage .renderQuality
    (state.failQuality leakingInput.outcome.checks.coherenceIssues .artifactWorkflow)

theorem step_leakingInput (readable : state.qualityScores ≠ .null)
    (rerenders : .renderQuality ∈ state.completedStages →
      canReenterStage state .renderQuality = true) :
    GraphRun.step config ⟨state, store, .stage .renderQuality⟩ leakingInput =
      (⟨state.leaked, store, .stage .artifactWorkflow⟩,
        some ⟨.renderQuality, true, state, state.leaked, .stage .artifactWorkflow⟩) := by
  have isFailed : qualityOutcome config.qualityGateInjected leakingInput.outcome.checks state =
      .failed leakingInput.outcome.checks.coherenceIssues := by
    exact if_pos (cons_ne_nil _ _)
  have isRoute : recoveryRouteOf leakingInput.outcome.checks.coherenceIssues =
      .artifactWorkflow := by
    decide +kernel
  have body : stageBody config leakingInput.outcome .renderQuality state store =
      (.ok (state.failQuality leakingInput.outcome.checks.coherenceIssues .artifactWorkflow),
        store) := by
    simp only [stageBody, renderQualityStage, if_neg readable, renderQuality,
      isFailed, isRoute]
    rfl
  simp only [GraphRun.step, stageNode_of_ok rerenders body]
  rfl

theorem Regenerates.leaked {generated : TeachingPackState} (regenerates : Regenerates state)
    (numbered : Numbered generated) (complete : generated.artifactFanoutComplete = true)
    (outside : SameOutsideFanout state generated) :
    Regenerates (completeStage .artifactWorkflow generated).leaked := by
  have again : Numbered (completeStage .artifactWorkflow generated).leaked :=
    ⟨numbered.current, numbered.stored⟩
  have isNew :
      (completeStage .artifactWorkflow generated).leaked.needsNewGenerationCycle = true := by
    simp [needsNewGenerationCycle, TeachingPackState.leaked, completeStage,
      failQuality, complete]
  exact
    { starts := again.starts isNew
      enters :=
        { generates := by
            intro isBatch
            exact regenerates.enters.generates (outside.contract ▸ isBatch)
          enters := fun _ _ => by
            simp [canReenterStage, TeachingPackState.leaked, completeStage,
              failQuality] }
      numbered := again
      changes := again.changes isNew
      rerenders := fun _ => rfl
      readable := by rintro ⟨⟩ }

theorem Regenerates.again {history : History GraphInput (Option Visit)}
    (atLeastOne : 1 ≤ config.parallelism) (regenerates : Regenerates state)
    (reached : (graphMachine config).Run leaks ⟨state, store, .stage .artifactWorkflow⟩ history) :
    ∃ after later, Regenerates after ∧
      (graphMachine config).Run leaks ⟨after, store, .stage .artifactWorkflow⟩ later ∧
      cyclesSinceTeacher (visits history) + 1 ≤ cyclesSinceTeacher (visits later) := by
  rcases exists_generated atLeastOne regenerates.starts regenerates.enters regenerates.numbered
    reached (fun _ => leakingInput) (fun _ _ _ => rfl) with ⟨generated, later, since⟩
  have sameStages : .renderQuality ∈ (completeStage .artifactWorkflow generated).completedStages →
      .renderQuality ∈ state.completedStages := by
    simp [completeStage, since.complete, since.outside.completedStages]
  have rerenders (completed : .renderQuality ∈
      (completeStage .artifactWorkflow generated).completedStages) :
      canReenterStage (completeStage .artifactWorkflow generated) .renderQuality = true := by
    have isRoute : generated.qualityRecoveryRoute = some .artifactWorkflow :=
      since.outside.qualityRecoveryRoute.trans (regenerates.rerenders (sameStages completed))
    simp [canReenterStage, completeStage, isRoute]
  have readable : (completeStage .artifactWorkflow generated).qualityScores ≠ .null := by
    change generated.qualityScores ≠ .null
    rw [since.outside.qualityScores]
    exact regenerates.readable
  have advanced := since.reached.next leakingInput rfl
  simp only [Machine.advance, graphMachine, step_leakingInput readable rerenders] at advanced
  refine ⟨_, _, regenerates.leaked since.numbered since.complete since.outside, advanced, ?_⟩
  have noTeacher : ∀ visit ∈ visits later, visit.asksTeacher = false := by
    intro visit mem
    simp [asksTeacher, since.onlyWorkflow visit mem]
  have starts : (coordinatingVisit config state).startsCycle = true := by
    have isId : (coordinatingVisit config state).after.artifactGenerationId =
        some state.currentId := state.coordinated_artifactGenerationId
    simp only [startsCycle, isId]
    simp [coordinatingVisit, regenerates.changes.symm]
  have oneCycle : 0 < (visits later).countP startsCycle :=
    countP_pos_iff.mpr ⟨_, since.coordinates, starts⟩
  rw [visits_cons, Option.toList_some, singleton_append, cyclesSinceTeacher_cons,
    if_neg (by simp [asksTeacher]), visits_append, cyclesSinceTeacher_append noTeacher]
  omega

end Leaking

theorem regenerates_lessonRun :
    Regenerates ((graphMachine defaultGraph).drive (lessonRun, [])
      (List.replicate 5 leakingInput)).1.state where
  starts :=
    { coordinating := rfl
      isNew := .inr ⟨rfl, rfl⟩
      fresh := nofun }
  enters :=
    { generates := nofun
      enters := fun _ completed => absurd completed (by decide +kernel) }
  numbered :=
    { current := nofun
      stored := nofun }
  changes := nofun
  rerenders := fun completed => absurd completed (by decide +kernel)
  readable := nofun

theorem regenerates_forever (cycles : ℕ) :
    ∃ state store history, Regenerates state ∧
      (graphMachine defaultGraph).Run leaks ⟨state, store, .stage .artifactWorkflow⟩ history ∧
      cycles ≤ cyclesSinceTeacher (visits history) := by
  induction cycles with
  | zero =>
    have started : (graphMachine defaultGraph).Run leaks lessonRun [] := run_start "run" _
    have reached := started.drive (List.replicate 5 leakingInput)
      (Machine.admits_of_forall (· = leakingInput) fun _ => eq_of_mem_replicate)
    exact ⟨_, none, _, regenerates_lessonRun, reached, Nat.zero_le _⟩
  | succ cycles ih =>
    rcases ih with ⟨state, store, history, regenerates, reached, atLeast⟩
    rcases regenerates.again (by decide) reached with ⟨after, later, again, reaches, oneMore⟩
    exact ⟨after, store, later, again, reaches, by omega⟩

/-- A pack whose lesson leaks answers is generated without end, and the
teacher is never asked. -/
theorem regeneration_unbounded :
    ¬ ∃ bound, ∀ run history,
      (graphMachine defaultGraph).Run (fun _ _ input => input = leakingInput) run history →
        cyclesSinceTeacher (visits history) ≤ bound := by
  rintro ⟨bound, bounded⟩
  rcases regenerates_forever (bound + 1) with ⟨state, store, history, _, reached, atLeast⟩
  have atMost := bounded _ history reached
  omega

end OhMyClass.TeachingPack
