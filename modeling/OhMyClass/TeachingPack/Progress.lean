import OhMyClass.TeachingPack.Graph

/-!
# Progress of the recovery routes

A recovery route is only of use if the stage it leads to runs, and if the
stage that chose it runs before choosing it again.  Skipped stages still route,
so that a run may go around without either.
-/

namespace OhMyClass.TeachingPack

open List OhMyClass.Healing OhMyClass.Keyed OhMyClass.Transition TeachingPackState

def backEdges : List (StageEnum × StageEnum) :=
  [(.renderQuality, .planningBlueprint), (.renderQuality, .postBlueprintResearch),
    (.renderQuality, .artifactWorkflow), (.complianceGate, .artifactWorkflow),
    (.teacherApproval, .artifactWorkflow), (.unitApproval, .unitPlanning)]

/-- The edge a visit takes, if it leads back. -/
def Visit.backEdge (visit : Visit) : Option (StageEnum × StageEnum) :=
  match visit.next with
  | .stage target =>
    if (visit.stage, target) ∈ backEdges then some (visit.stage, target) else none
  | _ => none

/-- An edge is only taken again once the stage that chose it has run again. -/
def DecidesAgain : List Visit → Prop
  | [] => True
  | visit :: earlier =>
    (∀ edge ∈ visit.backEdge, (∃ first ∈ earlier, first.backEdge = some edge) →
      ∃ decider ∈ visit :: earlier.takeWhile (fun other => other.backEdge ≠ some edge),
        decider.stage = edge.1 ∧ decider.executed = true) ∧
      DecidesAgain earlier

/-- The visit after an edge that leads back is to its target and runs it, and
the stage that chose the edge runs before it is taken again. -/
structure MakesProgress (visits : List Visit) : Prop where
  targetRuns : visits.IsChain fun second first =>
    ∀ edge ∈ first.backEdge, second.stage = edge.2 ∧ second.executed = true
  decidesAgain : DecidesAgain visits

theorem decidesAgain_of_executed {visits : List Visit}
    (executed : ∀ visit ∈ visits, visit.backEdge ≠ none → visit.executed = true) :
    DecidesAgain visits := by
  induction visits with
  | nil => trivial
  | cons visit earlier ih =>
    rw [forall_mem_cons] at executed
    refine ⟨fun edge isEdge _ => ⟨visit, mem_cons_self, ?_, ?_⟩, ih executed.2⟩
    · unfold Visit.backEdge at isEdge
      split at isEdge
      · split at isEdge
        · cases isEdge
          rfl
        · cases isEdge
      · cases isEdge
    · exact executed.1 (by simp [Option.mem_def.mp isEdge])

/-! ## Rejections that stay -/

/-- The generation and the documents of a run have the ids of its revisions. -/
structure Named (state : TeachingPackState) : Prop where
  generation : ∀ generationId ∈ state.artifactGenerationId,
    ∃ revision, generationId = generationIdText state.runId revision
  documents : ∀ reference ∈ state.artifactReferences.members, ∃ revision,
    reference.documentId =
      generationIdText state.runId revision ++ ":" ++ reference.artifactId

/-- The open branches have the id of a revision, too. -/
def NamedSends (state : TeachingPackState) (position : GraphPosition) : Prop :=
  ∀ sends, position = .branches sends → ∀ payload ∈ sends,
    ∃ revision, payload.artifactGenerationId = generationIdText state.runId revision

section Rejections

variable {state : TeachingPackState} {payload : GenerateOneArtifactPayload}
  {ended : ArtifactOutcome}

theorem Named.generationId (named : Named state) (revision : Nat) :
    ∃ other, state.generationId revision = generationIdText state.runId other := by
  unfold TeachingPackState.generationId
  split
  · exact ⟨revision, rfl⟩
  · exact ⟨revision, rfl⟩
  · next existing _ isExisting =>
    split
    · exact named.generation existing isExisting
    · exact ⟨revision, rfl⟩

theorem Named.coordinated (named : Named state) : Named state.coordinated := by
  constructor
  · intro generationId isId
    rw [coordinated_artifactGenerationId] at isId
    cases isId
    exact named.generationId _
  · intro reference mem
    rw [coordinated_artifactReferences] at mem
    exact named.documents reference mem

theorem Named.writeArtifact (named : Named state)
    (isNamed : ∃ revision, payload.artifactGenerationId = generationIdText state.runId revision) :
    Named (state.writeArtifact payload ended) := by
  rcases isNamed with ⟨revision, isRevision⟩
  refine ⟨named.generation, fun reference mem => ?_⟩
  rcases Channel.mem_merge.mp mem with isLast | ⟨stored, _⟩
  · have isDocument := (generateOneArtifact_reference (Option.mem_toList.mp isLast.mem)).2.1
    exact ⟨revision, isRevision ▸ isDocument⟩
  · exact named.documents reference stored

theorem Named.artifactId_writeArtifact (named : Named state)
    (isNamed : ∃ revision, payload.artifactGenerationId = generationIdText state.runId revision)
    {reference : ArtifactReference} (stored : reference ∈ state.artifactReferences.members) :
    ∃ other ∈ (state.writeArtifact payload ended).artifactReferences.members,
      other.artifactId = reference.artifactId := by
  rcases state.artifactReferences.exists_mem_merge
    (generateOneArtifact payload ended).1.toList (.inr stored) with
    ⟨other, mem, sameDocument, isNew | rfl⟩
  · rcases (named.writeArtifact isNamed).documents other mem with ⟨revision, isDocument⟩
    rcases named.documents reference stored with ⟨earlier, wasDocument⟩
    have texts := isDocument.symm.trans (sameDocument.trans wasDocument)
    have sameRevision := generationIdText_of_document texts
    rw [sameRevision] at texts
    exact ⟨other, mem, (String.append_right_inj _).mp texts⟩
  · exact ⟨other, mem, rfl⟩

theorem pendingRejections_ne_nil_iff :
    state.pendingRejections ≠ [] ↔
      (state.gatePayload.rejectionType = some "scoped" ∨
          state.gatePayload.action = some "reject_selected") ∧
        ∃ rejection ∈ state.gatePayload.artifactRejections.getD [],
          ∃ reference ∈ state.artifactReferences.members,
            reference.artifactId = rejection.artifactId := by
  have found (artifactId : String) :
      (∃ reference, artifactById state.artifactReferences.members artifactId = some reference) ↔
        ∃ reference ∈ state.artifactReferences.members, reference.artifactId = artifactId := by
    unfold artifactById
    rw [← Option.isSome_iff_exists]
    simp
  unfold pendingRejections scopedRejections
  split
  · next notScoped =>
    simp only [ne_eq, not_true_eq_false, false_iff, not_and]
    rintro (isScoped | isAction)
    · exact absurd isScoped notScoped.1
    · exact absurd isAction notScoped.2
  · next isScoped =>
    rw [← or_iff_not_and_not] at isScoped
    rw [and_iff_right isScoped]
    cases state.gatePayload.artifactRejections with
    | none => simp
    | some rejections =>
      simp only [Option.getD_some, ← found, ne_eq, filterMap_eq_nil_iff, not_forall,
        Option.map_eq_none_iff, Option.ne_none_iff_exists', exists_prop]

theorem pendingRejections_writeArtifact (named : Named state)
    (isNamed : ∃ revision, payload.artifactGenerationId = generationIdText state.runId revision)
    (pending : state.pendingRejections ≠ []) :
    (state.writeArtifact payload ended).pendingRejections ≠ [] := by
  rcases pendingRejections_ne_nil_iff.mp pending with
    ⟨isScoped, rejection, mem, reference, stored, sameId⟩
  have kept : ∃ other ∈ (state.writeArtifact payload ended).artifactReferences.members,
      other.artifactId = reference.artifactId := named.artifactId_writeArtifact isNamed stored
  rcases kept with ⟨other, otherStored, otherId⟩
  exact pendingRejections_ne_nil_iff.mpr
    ⟨isScoped, rejection, mem, other, otherStored, otherId.trans sameId⟩

theorem artifactGenerationId_of_send {parallelism : Nat}
    (isSend : payload ∈ routeAfterArtifactWorkflow parallelism state) :
    payload.artifactGenerationId = state.generationId state.generationRevision := by
  unfold routeAfterArtifactWorkflow at isSend
  split at isSend
  · cases isSend
  · rcases mem_map.mp (mem_of_mem_take isSend) with ⟨artifactType, _, rfl⟩
    rfl

theorem Named.namedSends (named : Named state) {config : GraphConfig} {stage : StageEnum} :
    NamedSends state (nextPosition config stage state) := by
  intro sends isNext payload mem
  rw [(branches_of_nextPosition isNext).1] at mem
  rw [artifactGenerationId_of_send mem]
  exact named.generationId _

theorem Named.visits {config : GraphConfig} {outcome : StageOutcome} {stage : StageEnum}
    {store after : BreakerStore} {visit : Visit} (named : Named state)
    (visited : Visited config outcome stage state store (visit, after)) :
    Named visit.after ∧ NamedSends visit.after visit.next := by
  cases visited with
  | skipped => exact ⟨named, named.namedSends⟩
  | raised => exact ⟨named, nofun⟩
  | @executed merged _ _ body =>
    have frame := stageBody_frame body
    have stillNamed : Named merged := by
      by_cases isWorkflow : stage = .artifactWorkflow
      · subst isWorkflow
        rcases artifactWorkflow_ok (congrArg Prod.fst body) with ⟨_, rfl⟩ | ⟨_, rfl⟩
        · exact named
        · exact named.coordinated
      · constructor
        · rw [(frame.fanout isWorkflow).1, frame.runId]
          exact named.generation
        · rw [frame.artifactReferences, frame.runId]
          exact named.documents
    have completed : Named (completeStage stage merged) :=
      ⟨stillNamed.generation, stillNamed.documents⟩
    exact ⟨completed, completed.namedSends⟩

end Rejections

theorem nextPosition_of_defaultOrder {config : GraphConfig} {state : TeachingPackState}
    {stage target : StageEnum} (defaultOrder : config.componentStrategistV1 = false)
    (inOrder : (stage, target) ∈
      [(StageEnum.setupContract, StageEnum.triage), (.preplanningSearch, .planningBlueprint),
        (.planningBlueprint, .postBlueprintResearch), (.postBlueprintResearch, .artifactWorkflow)]) :
    nextPosition config stage state = .stage target := by
  simp only [mem_cons, not_mem_nil, or_false, Prod.mk.injEq] at inOrder
  rcases inOrder with ⟨rfl, rfl⟩ | ⟨rfl, rfl⟩ | ⟨rfl, rfl⟩ | ⟨rfl, rfl⟩ <;>
    simp only [nextPosition, defaultOrder] <;> rfl

/-- Artifacts are asked for, by the recovery route or by a rejection. -/
def WantsArtifacts (state : TeachingPackState) : Prop :=
  state.qualityRecoveryRoute = some .artifactWorkflow ∨ state.pendingRejections ≠ []

/-- The teacher is asked again only after a rejection. -/
def TeacherWaits (state : TeachingPackState) : Prop :=
  .teacherApproval ∈ state.completedStages → state.pendingRejections ≠ []

/-- What holds before a stage, in the default order of the stages. -/
def Ready (state : TeachingPackState) : GraphPosition → Prop
  | .stage .setupContract | .stage .triage =>
    .planningBlueprint ∉ state.completedStages ∧ .teacherApproval ∉ state.completedStages ∧
      .unitApproval ∉ state.completedStages
  | .stage .preplanningSearch =>
    .planningBlueprint ∉ state.completedStages ∧ .teacherApproval ∉ state.completedStages
  | .stage .unitPlanning | .stage .unitApproval => .unitApproval ∉ state.completedStages
  | .stage .planningBlueprint =>
    TeacherWaits state ∧ (.planningBlueprint ∈ state.completedStages →
      state.qualityRecoveryRoute = some .planningBlueprint)
  | .stage .postBlueprintResearch | .stage .artifactWorkflow | .stage .renderQuality
  | .branches _ => TeacherWaits state ∧ WantsArtifacts state
  | .stage .complianceGate | .stage .teacherApproval => TeacherWaits state
  | .stage .provisionalComponentStrategy | .stage .finalizeComponentStrategy => False
  | .stage .unitPrep | .stage .exportFinalize | .finished | .raised _ => True

/-- A response that is not an approval and asks for something, without naming a
stored artifact. -/
def asksInVain (state : TeachingPackState) (outcome : StageOutcome) : Bool :=
  let payload := state.teacherPayload outcome.response outcome.fastLane
  normalizedTeacherAction (state.teacherAction outcome.response outcome.fastLane) ≠ "approve" &&
    (isScopedTeacherAction payload || hasScopedSectionEdit payload) &&
    scopedRejections state.artifactReferences.members payload = []

/-- A check outside the injected gate asks for research. -/
def asksForResearch (config : GraphConfig) (state : TeachingPackState) (outcome : StageOutcome) :
    Bool :=
  match qualityOutcome config.qualityGateInjected outcome.checks state with
  | .failed issues => recoveryRouteOf issues = .postBlueprintResearch
  | _ => false

/-- Research is only asked for while a rejection is pending, a gate that found
violations is not entered again, teachers name what they reject, and a unit
plan is approved. -/
def recovers (config : GraphConfig) : Guard GraphRun GraphInput (Option Visit) :=
  fun run _ input =>
    (run.position = .stage .renderQuality →
      asksForResearch config run.state input.outcome = true → run.state.pendingRejections ≠ []) ∧
    (run.position = .stage .complianceGate →
      .complianceGate ∈ run.state.completedStages → run.state.compliancePassed = true) ∧
    (run.position = .stage .teacherApproval → asksInVain run.state input.outcome = false) ∧
    (run.position = .stage .unitApproval →
      stringField input.outcome.response.action "reject" = "approve")

instance {config : GraphConfig} (run : GraphRun) (history : History GraphInput (Option Visit))
    (input : GraphInput) : Decidable (recovers config run history input) :=
  inferInstanceAs (Decidable (_ ∧ _))

/-- A visit after which a run goes on: it has run if it leads back, and then
its target will run. -/
structure GoesOn (visit : Visit) : Prop where
  decides : visit.backEdge ≠ none → visit.executed = true
  ready : Ready visit.after visit.next
  target : ∀ edge ∈ visit.backEdge, visit.next = .stage edge.2 ∧
    (edge.2 ∈ visit.after.completedStages → canReenterStage visit.after edge.2 = true)

/-! ## Stage by stage -/

section Stages

variable {config : GraphConfig} {outcome : StageOutcome} {stage : StageEnum}
  {state : TeachingPackState} {store after : BreakerStore} {visit : Visit}

theorem backEdge_eq_none (plain : stage ∉ backEdges.map Prod.fst) (isStage : visit.stage = stage) :
    visit.backEdge = none := by
  unfold Visit.backEdge
  split
  · next target _ =>
    rw [isStage]
    exact if_neg fun isBack => plain (mem_map.mpr ⟨(stage, target), isBack, rfl⟩)
  · rfl

theorem GoesOn.of_plain (noBack : visit.backEdge = none) (ready : Ready visit.after visit.next) :
    GoesOn visit where
  decides := fun isBack => absurd noBack isBack
  ready := ready
  target := by simp [noBack]

section

variable (visited : Visited config outcome stage state store (visit, after))

include visited

theorem Visited.ready (forNext : Ready visit.after (nextPosition config stage visit.after)) :
    Ready visit.after visit.next := by
  rcases visited.next_eq with isNext | ⟨error, isRaised⟩
  · rw [isNext]
    exact forNext
  · rw [isRaised]
    trivial

theorem Visited.teacherWaits (waits : TeacherWaits state) (noUnit : stage ≠ .unitApproval)
    (noTeacher : stage ≠ .teacherApproval) : TeacherWaits visit.after := by
  intro asked
  rw [visited.pendingRejections_eq noUnit noTeacher]
  exact waits (visited.mem_completedStages asked noTeacher.symm)

theorem Visited.wantsArtifacts (wants : WantsArtifacts state) (noUnit : stage ≠ .unitApproval)
    (noTeacher : stage ≠ .teacherApproval) (noRoute : stage ∉
      [StageEnum.planningBlueprint, .renderQuality, .complianceGate, .exportFinalize]) :
    WantsArtifacts visit.after := by
  unfold WantsArtifacts
  rw [visited.qualityRecoveryRoute_eq noRoute, visited.pendingRejections_eq noUnit noTeacher]
  exact wants

end

theorem goesOn_setupContract (defaultOrder : config.componentStrategistV1 = false)
    (ready : Ready state (.stage .setupContract))
    (visited : Visited config outcome .setupContract state store (visit, after)) :
    GoesOn visit := by
  have isNext : nextPosition config .setupContract visit.after = .stage .triage :=
    nextPosition_of_defaultOrder defaultOrder (by decide)
  refine .of_plain (backEdge_eq_none (by decide) visited.stage_eq) (visited.ready ?_)
  rw [isNext]
  exact
    ⟨fun planned => ready.1 (visited.mem_completedStages planned (by decide)),
      fun asked => ready.2.1 (visited.mem_completedStages asked (by decide)),
      fun approved => ready.2.2 (visited.mem_completedStages approved (by decide))⟩

theorem goesOn_triage (ready : Ready state (.stage .triage))
    (visited : Visited config outcome .triage state store (visit, after)) : GoesOn visit := by
  refine .of_plain (backEdge_eq_none (by decide) visited.stage_eq) (visited.ready ?_)
  simp only [nextPosition, routeAfterTriage]
  split
  · exact fun approved => ready.2.2 (visited.mem_completedStages approved (by decide))
  · exact
      ⟨fun planned => ready.1 (visited.mem_completedStages planned (by decide)),
        fun asked => ready.2.1 (visited.mem_completedStages asked (by decide))⟩

theorem goesOn_unitPlanning (ready : Ready state (.stage .unitPlanning))
    (visited : Visited config outcome .unitPlanning state store (visit, after)) :
    GoesOn visit := by
  refine .of_plain (backEdge_eq_none (by decide) visited.stage_eq) (visited.ready ?_)
  exact fun approved => ready (visited.mem_completedStages approved (by decide))

theorem goesOn_unitApproval (ready : Ready state (.stage .unitApproval))
    (approves : stringField outcome.response.action "reject" = "approve")
    (visited : Visited config outcome .unitApproval state store (visit, after)) :
    GoesOn visit := by
  have isNext : visit.next = .stage .unitPrep := by
    cases visited with
    | skipped completed => exact absurd completed ready
    | executed _ body =>
      cases body
      simp [nextPosition, routeAfterUnitApproval, completeStage, TeachingPackState.unitApproval,
        approves]
    | raised _ body => cases body
  refine .of_plain ?_ ?_
  · simp only [Visit.backEdge, isNext, visited.stage_eq]
    decide
  · rw [isNext]
    trivial

theorem goesOn_unitPrep (visited : Visited config outcome .unitPrep state store (visit, after)) :
    GoesOn visit :=
  .of_plain (backEdge_eq_none (by decide) visited.stage_eq) (visited.ready trivial)

section

variable (defaultOrder : config.componentStrategistV1 = false)

include defaultOrder

theorem goesOn_preplanningSearch (ready : Ready state (.stage .preplanningSearch))
    (visited : Visited config outcome .preplanningSearch state store (visit, after)) :
    GoesOn visit := by
  have isNext : nextPosition config .preplanningSearch visit.after = .stage .planningBlueprint :=
    nextPosition_of_defaultOrder defaultOrder (by decide)
  refine .of_plain (backEdge_eq_none (by decide) visited.stage_eq) (visited.ready ?_)
  rw [isNext]
  constructor
  · intro asked
    exact absurd (visited.mem_completedStages asked (by decide)) ready.2
  · intro planned
    exact absurd (visited.mem_completedStages planned (by decide)) ready.1

theorem goesOn_planningBlueprint (ready : Ready state (.stage .planningBlueprint))
    (visited : Visited config outcome .planningBlueprint state store (visit, after)) :
    GoesOn visit := by
  have isNext : nextPosition config .planningBlueprint visit.after =
      .stage .postBlueprintResearch :=
    nextPosition_of_defaultOrder defaultOrder (by decide)
  have executes : visit.executed = true := by
    apply visited.executed_of_enters
    intro completed
    simp [canReenterStage, ready.2 completed]
  refine .of_plain (backEdge_eq_none (by decide) visited.stage_eq) (visited.ready ?_)
  rw [isNext]
  refine ⟨visited.teacherWaits ready.1 (by decide) (by decide), .inl ?_⟩
  cases visited with
  | skipped => cases executes
  | executed _ body =>
    cases body
    rfl
  | raised _ body => cases body

theorem goesOn_postBlueprintResearch (ready : Ready state (.stage .postBlueprintResearch))
    (visited : Visited config outcome .postBlueprintResearch state store (visit, after)) :
    GoesOn visit := by
  have isNext : nextPosition config .postBlueprintResearch visit.after =
      .stage .artifactWorkflow :=
    nextPosition_of_defaultOrder defaultOrder (by decide)
  refine .of_plain (backEdge_eq_none (by decide) visited.stage_eq) (visited.ready ?_)
  rw [isNext]
  exact ⟨visited.teacherWaits ready.1 (by decide) (by decide),
    visited.wantsArtifacts ready.2 (by decide) (by decide) (by decide)⟩

end

theorem goesOn_artifactWorkflow (ready : Ready state (.stage .artifactWorkflow))
    (visited : Visited config outcome .artifactWorkflow state store (visit, after)) :
    GoesOn visit := by
  have waits := visited.teacherWaits ready.1 (by decide) (by decide)
  have wants := visited.wantsArtifacts ready.2 (by decide) (by decide) (by decide)
  refine .of_plain (backEdge_eq_none (by decide) visited.stage_eq) (visited.ready ?_)
  simp only [nextPosition]
  split
  · exact ⟨waits, wants⟩
  · exact ⟨waits, wants⟩

theorem GoesOn.of_raised {error : StageError} (isRaised : visit.next = .raised error) :
    GoesOn visit := by
  refine .of_plain ?_ ?_
  · simp only [Visit.backEdge, isRaised]
  · rw [isRaised]
    trivial

theorem GoesOn.of_executed (target : StageEnum) (executes : visit.executed = true)
    (isNext : visit.next = .stage target) (ready : Ready visit.after (.stage target))
    (enters : (visit.stage, target) ∈ backEdges → canReenterStage visit.after target = true) :
    GoesOn visit where
  decides := fun _ => executes
  ready := isNext ▸ ready
  target := by
    intro edge isEdge
    simp only [Visit.backEdge, isNext] at isEdge
    split at isEdge
    · next isBack =>
      cases isEdge
      exact ⟨isNext, fun _ => enters isBack⟩
    · cases isEdge

theorem GoesOn.of_forward (stage target : StageEnum) (forward : (stage, target) ∉ backEdges)
    (isStage : visit.stage = stage) (executes : visit.executed = true)
    (isNext : visit.next = .stage target) (ready : Ready visit.after (.stage target)) :
    GoesOn visit :=
  .of_executed target executes isNext ready fun isBack => absurd (isStage ▸ isBack) forward

theorem renderQuality_routes
    (research : asksForResearch config state outcome = true → state.pendingRejections ≠ [])
    {merged : TeachingPackState}
    (body : state.renderQualityStage config outcome store = (.ok merged, after)) :
    merged.qualityRecoveryRoute = none ∨
      merged.qualityRecoveryRoute = some .teacherApproval ∨
      merged.qualityRecoveryRoute = some .planningBlueprint ∨
      merged.qualityRecoveryRoute = some .artifactWorkflow ∨
      (merged.qualityRecoveryRoute = some .postBlueprintResearch ∧
        state.pendingRejections ≠ []) := by
  cases renderQuality_rendered (renderQualityStage_ok body).2 with
  | passes => exact .inl rfl
  | @fails issues isFailed =>
    simp only [asksForResearch, isFailed, decide_eq_true_eq] at research
    simp only [failQuality, Option.some.injEq, reduceCtorEq, false_or]
    rcases recoveryRouteOf_cases issues with isResearch | isPlanning | isArtifacts
    · exact .inr (.inr (.inr ⟨isResearch, research isResearch⟩))
    · exact .inr (.inl isPlanning)
    · exact .inr (.inr (.inl isArtifacts))
  | heals _ healing =>
    simp only [HealingUpdate.apply, Option.some.injEq, reduceCtorEq, false_or]
    rcases (healAtGate_spec healing).1 with ⟨_, isTeacher⟩ | ⟨_, isPlanning | isArtifacts⟩
    · exact .inl isTeacher
    · exact .inr (.inl isPlanning)
    · exact .inr (.inr (.inl isArtifacts))

theorem goesOn_renderQuality (ready : Ready state (.stage .renderQuality))
    (research : asksForResearch config state outcome = true → state.pendingRejections ≠ [])
    (visited : Visited config outcome .renderQuality state store (visit, after)) :
    GoesOn visit := by
  have waits := visited.teacherWaits ready.1 (by decide) (by decide)
  have samePending := visited.pendingRejections_eq (by decide) (by decide)
  have executes : visit.executed = true := by
    apply visited.executed_of_enters
    intro _
    simpa [canReenterStage, WantsArtifacts] using ready.2
  cases visited with
  | skipped => cases executes
  | raised => exact .of_raised rfl
  | @executed merged _ enters body =>
    rcases renderQuality_routes research body with
      isNone | isTeacher | isPlanning | isArtifacts | ⟨isResearch, pending⟩
    · refine .of_forward .renderQuality .complianceGate (by decide) rfl rfl ?_ waits
      simp [nextPosition, routeAfterRenderQuality, completeStage, isNone]
    · refine .of_forward .renderQuality .teacherApproval (by decide) rfl rfl ?_ waits
      simp [nextPosition, routeAfterRenderQuality, completeStage, isTeacher]
    · refine .of_executed .planningBlueprint rfl ?_ ⟨waits, fun _ => isPlanning⟩ ?_
      · simp [nextPosition, routeAfterRenderQuality, completeStage, isPlanning]
      · simp [canReenterStage, completeStage, isPlanning]
    · refine .of_executed .artifactWorkflow rfl ?_ ⟨waits, .inl isArtifacts⟩ ?_
      · simp [nextPosition, routeAfterRenderQuality, completeStage, isArtifacts]
      · simp [canReenterStage, completeStage, isArtifacts]
    · have stillPending := samePending ▸ pending
      refine .of_executed .postBlueprintResearch rfl ?_
        ⟨waits, .inr stillPending⟩ ?_
      · simp [nextPosition, routeAfterRenderQuality, completeStage, isResearch]
      · simp [canReenterStage, completeStage, isResearch]

theorem goesOn_complianceGate (ready : Ready state (.stage .complianceGate))
    (passedBefore : .complianceGate ∈ state.completedStages → state.compliancePassed = true)
    (visited : Visited config outcome .complianceGate state store (visit, after)) :
    GoesOn visit := by
  have waits := visited.teacherWaits ready (by decide) (by decide)
  cases visited with
  | skipped completed =>
    have isNext : nextPosition config .complianceGate state = .stage .teacherApproval := by
      simp [nextPosition, routeAfterComplianceGate, passedBefore completed]
    refine .of_plain ?_ ?_
    · simp only [Visit.backEdge, isNext]
      decide
    · simp only [isNext]
      exact waits
  | raised => exact .of_raised rfl
  | executed _ body =>
    rcases complianceGate_ok (congrArg Prod.fst body) with ⟨passed, route, issues, rfl, isRoute⟩
    cases passed with
    | true =>
      refine .of_forward .complianceGate .teacherApproval (by decide) rfl rfl ?_ waits
      simp [nextPosition, routeAfterComplianceGate, completeStage]
    | false =>
      simp only [Bool.false_eq_true, if_false] at isRoute
      refine .of_executed .artifactWorkflow rfl ?_ ⟨waits, .inl isRoute⟩ ?_
      · simp [nextPosition, routeAfterComplianceGate, completeStage]
      · simp [canReenterStage, completeStage, isRoute]

theorem pending_of_goesBack {answered : TeachingPackState}
    (isAnswer : answered = { state with
      gatePayload := state.teacherPayload outcome.response outcome.fastLane
      teacherApproved := normalizedTeacherAction
        (state.teacherAction outcome.response outcome.fastLane) = "approve" })
    (noPlan : state.componentStrategyPlan = false) (names : asksInVain state outcome = false)
    (goesBack : routeAfterTeacherApproval answered = .artifactWorkflow) :
    answered.pendingRejections ≠ [] := by
  subst isAnswer
  intro nothing
  simp only [pendingRejections] at nothing
  unfold routeAfterTeacherApproval at goesBack
  simp only [noPlan, pendingRejections, nothing, decide_eq_true_eq] at goesBack
  unfold asksInVain at names
  simp only [nothing, decide_true, Bool.and_true] at names
  split at goesBack
  · next planned => exact absurd planned.2.1 (by simp)
  · split at goesBack
    · cases goesBack
    · next notApproved =>
      simp only [notApproved, ne_eq, not_false_eq_true, decide_true, Bool.true_and,
        Bool.or_eq_false_iff] at names
      simp [names.1, names.2] at goesBack

theorem goesOn_teacherApproval (noPlan : state.componentStrategyPlan = false)
    (ready : Ready state (.stage .teacherApproval)) (names : asksInVain state outcome = false)
    (visited : Visited config outcome .teacherApproval state store (visit, after)) :
    GoesOn visit := by
  have executes : visit.executed = true := by
    apply visited.executed_of_enters
    intro completed
    simp [canReenterStage, ready completed]
  cases visited with
  | skipped => cases executes
  | raised => exact .of_raised rfl
  | @executed merged _ _ body =>
    have isAnswer := teacherApproval_ok (congrArg Prod.fst body)
    rcases routeAfterTeacherApproval_cases merged with goesBack | exports
    · have pending := pending_of_goesBack isAnswer noPlan names goesBack
      refine .of_executed .artifactWorkflow rfl (congrArg GraphPosition.stage goesBack)
        ⟨fun _ => pending, .inr pending⟩ fun _ => ?_
      have stillPending : (completeStage .teacherApproval merged).pendingRejections ≠ [] := pending
      simp [canReenterStage, stillPending]
    · exact .of_forward .teacherApproval .exportFinalize (by decide) rfl rfl
        (congrArg GraphPosition.stage exports) trivial

theorem goesOn_exportFinalize (defaultOrder : config.componentStrategistV1 = false)
    (visited : Visited config outcome .exportFinalize state store (visit, after)) :
    GoesOn visit := by
  have isNext : nextPosition config .exportFinalize visit.after = .finished := by
    simp only [nextPosition, defaultOrder]
    rfl
  refine .of_plain (backEdge_eq_none (by decide) visited.stage_eq) (visited.ready ?_)
  rw [isNext]
  trivial

theorem goesOn {history : History GraphInput (Option Visit)} {input : GraphInput}
    (defaultOrder : config.componentStrategistV1 = false)
    (noPlan : state.componentStrategyPlan = false) (ready : Ready state (.stage stage))
    (allowed : recovers config ⟨state, store, .stage stage⟩ history input)
    (visited : Visited config input.outcome stage state store (visit, after)) : GoesOn visit := by
  cases stage with
  | setupContract => exact goesOn_setupContract defaultOrder ready visited
  | triage => exact goesOn_triage ready visited
  | unitPlanning => exact goesOn_unitPlanning ready visited
  | unitApproval => exact goesOn_unitApproval ready (allowed.2.2.2 rfl) visited
  | unitPrep => exact goesOn_unitPrep visited
  | preplanningSearch => exact goesOn_preplanningSearch defaultOrder ready visited
  | planningBlueprint => exact goesOn_planningBlueprint defaultOrder ready visited
  | provisionalComponentStrategy | finalizeComponentStrategy => exact ready.elim
  | postBlueprintResearch => exact goesOn_postBlueprintResearch defaultOrder ready visited
  | artifactWorkflow => exact goesOn_artifactWorkflow ready visited
  | renderQuality => exact goesOn_renderQuality ready (allowed.1 rfl) visited
  | complianceGate => exact goesOn_complianceGate ready (allowed.2.1 rfl) visited
  | teacherApproval => exact goesOn_teacherApproval noPlan ready (allowed.2.2.1 rfl) visited
  | exportFinalize => exact goesOn_exportFinalize defaultOrder visited

end Stages

/-! ## Whole runs -/

/-- What holds of a run and its visits. -/
structure Progressing (run : GraphRun) (earlier : List Visit) : Prop where
  named : Named run.state
  namedSends : NamedSends run.state run.position
  noPlan : run.state.componentStrategyPlan = false
  ready : Ready run.state run.position
  decides : ∀ visit ∈ earlier, visit.backEdge ≠ none → visit.executed = true
  targetRuns : earlier.IsChain fun second first =>
    ∀ edge ∈ first.backEdge, second.stage = edge.2 ∧ second.executed = true
  target : ∀ newest ∈ earlier.head?, ∀ edge ∈ newest.backEdge, run.position = .stage edge.2 ∧
    (edge.2 ∈ run.state.completedStages → canReenterStage run.state edge.2 = true)

section Runs

variable {config : GraphConfig} {run : GraphRun} {earlier : List Visit}

theorem Progressing.start (runId : String) (contract : Contract) :
    Progressing (.start runId contract) [] := by
  constructor
  · exact ⟨(fun _ isId => by cases isId), (fun _ mem => by cases mem)⟩
  · intro sends isNext
    cases isNext
  · rfl
  · simp [GraphRun.start, Ready, TeachingPackState.initial]
  · intro visit mem
    cases mem
  · exact .nil
  · intro newest isNewest
    cases isNewest

theorem Progressing.visits {outcome : StageOutcome} {stage : StageEnum}
    {state : TeachingPackState} {store after : BreakerStore} {visit : Visit}
    (progressing : Progressing ⟨state, store, .stage stage⟩ earlier) (goesOn : GoesOn visit)
    (visited : Visited config outcome stage state store (visit, after)) :
    Progressing ⟨visit.after, after, visit.next⟩ (visit :: earlier) := by
  have named := progressing.named.visits visited
  exact
    { named := named.1
      namedSends := named.2
      noPlan := by
        have noStrategy : stage ≠ .finalizeComponentStrategy := by
          rintro rfl
          exact progressing.ready
        exact (visited.componentStrategyPlan_eq noStrategy).trans progressing.noPlan
      ready := goesOn.ready
      decides := forall_mem_cons.mpr ⟨goesOn.decides, progressing.decides⟩
      targetRuns := by
        cases earlier with
        | nil => exact .singleton _
        | cons newest older =>
          refine .cons_cons (fun edge isEdge => ?_) progressing.targetRuns
          rcases progressing.target newest rfl edge isEdge with ⟨isPosition, enters⟩
          cases isPosition
          exact ⟨visited.stage_eq, visited.executed_of_enters enters⟩
      target := by
        intro newest isNewest
        cases isNewest
        exact goesOn.target }

theorem Progressing.branches {state next : TeachingPackState} {store : BreakerStore}
    {sends : List GenerateOneArtifactPayload} {position : GraphPosition}
    (progressing : Progressing ⟨state, store, .branches sends⟩ earlier)
    (named : Named next) (namedSends : NamedSends next position)
    (noPlan : next.componentStrategyPlan = false) (ready : Ready next position) :
    Progressing ⟨next, store, position⟩ earlier where
  named := named
  namedSends := namedSends
  noPlan := noPlan
  ready := ready
  decides := progressing.decides
  targetRuns := progressing.targetRuns
  target := by
    intro newest isNewest edge isEdge
    cases (progressing.target newest isNewest edge isEdge).1

theorem Progressing.step {history : History GraphInput (Option Visit)} {input : GraphInput}
    (progressing : Progressing run earlier) (defaultOrder : config.componentStrategistV1 = false)
    (allowed : recovers config run history input) {result : GraphRun × Option Visit}
    (stepped : GraphStep config input run result) :
    Progressing result.1 (result.2.toList ++ earlier) := by
  cases stepped with
  | visits visited =>
    have onward := goesOn defaultOrder progressing.noPlan progressing.ready allowed visited
    exact progressing.visits onward visited
  | @branchEnds state store sends rest payload taken order =>
    have sendsNamed := progressing.namedSends sends rfl
    have isNamed := sendsNamed payload (order.subset mem_cons_self)
    have ready : TeacherWaits state ∧ WantsArtifacts state := progressing.ready
    have stillPending (pending : state.pendingRejections ≠ []) :
        (state.writeArtifact payload input.branchEnd.outcome).pendingRejections ≠ [] :=
      pendingRejections_writeArtifact progressing.named isNamed pending
    have stillReady : TeacherWaits (state.writeArtifact payload input.branchEnd.outcome) ∧
        WantsArtifacts (state.writeArtifact payload input.branchEnd.outcome) :=
      ⟨fun asked => stillPending (ready.1 asked), ready.2.imp_right stillPending⟩
    refine progressing.branches (progressing.named.writeArtifact isNamed) ?_ progressing.noPlan ?_
    · intro open_ isOpen other mem
      split at isOpen
      · cases isOpen
      · cases isOpen
        exact sendsNamed other (order.subset (mem_cons_of_mem _ mem))
    · split
      · exact stillReady
      · exact stillReady
  | noBranch =>
    exact progressing.branches progressing.named (fun _ isNext => by cases isNext)
      progressing.noPlan progressing.ready
  | rests => exact progressing

end Runs

/-- In every run of the default order that meets the guard, each edge that
leads back is followed by a run of its target, and chosen anew each time. -/
theorem recovery_routes_progress {config : GraphConfig}
    (defaultOrder : config.componentStrategistV1 = false) {run : GraphRun}
    {history : History GraphInput (Option Visit)}
    (reached : (graphMachine config).Run (recovers config) run history) :
    MakesProgress (visits history) := by
  have progressing : Progressing run (visits history) := by
    apply reached.invariant fun run history => Progressing run (visits history)
    · rintro _ ⟨runId, contract, rfl⟩
      exact .start runId contract
    · intro run history input progressing allowed
      simp only [Machine.advance, graphMachine, visits_cons]
      exact progressing.step defaultOrder allowed (graphStep run input)
  exact ⟨progressing.targetRuns, decidesAgain_of_executed progressing.decides⟩

/-- A lesson that is rejected once and generated again. -/
theorem rejected_lesson_progresses :
    MakesProgress (visits ((graphMachine defaultGraph).drive (lessonRun, [])
      (List.replicate 17 (passingInput rejectLesson))).2) :=
  recovery_routes_progress rfl
    ((run_start _ _).drive (List.replicate 17 (passingInput rejectLesson)) (by decide +kernel))

/-- The run of a unit. -/
def unitRun : GraphRun :=
  .start "run" ⟨some "plan_unit", ["lesson"]⟩

/-- A unit plan that is not approved is not planned again. -/
theorem rejected_unit_skipped :
    (graphMachine defaultGraph).Run (fun _ _ _ => True)
        ((graphMachine defaultGraph).drive (unitRun, [])
          (List.replicate 5 (passingInput .empty))).1
        ((graphMachine defaultGraph).drive (unitRun, [])
          (List.replicate 5 (passingInput .empty))).2 ∧
      ¬ MakesProgress (visits ((graphMachine defaultGraph).drive (unitRun, [])
        (List.replicate 5 (passingInput .empty))).2) := by
  constructor
  · exact (run_start _ _).drive _
      Machine.admits_all
  · intro progress
    have runs := progress.targetRuns
    revert runs
    decide +kernel

end OhMyClass.TeachingPack
