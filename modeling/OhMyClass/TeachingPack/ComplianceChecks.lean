import OhMyClass.TeachingPack.Graph

/-!
# What the compliance gate has checked

The gate runs once in a run.  As long as nothing is generated after it has
passed, what is offered and exported is what it checked.
-/

namespace OhMyClass.TeachingPack

open OhMyClass.Healing OhMyClass.Keyed OhMyClass.Transition

/-- The newest execution of the compliance gate. -/
def lastCheck (visits : List Visit) : Option Visit :=
  visits.find? fun visit => visit.stage = .complianceGate && visit.executed

/-- A visit that opens the content gate, or exports, while compliance has
passed. -/
def Visit.RestsOnCheck (visit : Visit) : Prop :=
  visit.before.compliancePassed = true ∧
    (visit.stage = .teacherApproval ∧ visit.executed = true ∨ visit.Exports)

/-- Every visit that rests on the check finds the references it was made of. -/
def OnlyChecked : List Visit → Prop
  | [] => True
  | visit :: earlier =>
    (visit.RestsOnCheck →
      (lastCheck earlier).map (fun check => check.before.artifactReferences.members) =
        some visit.before.artifactReferences.members) ∧
      OnlyChecked earlier

instance : DecidablePred Visit.Exports :=
  fun visit => inferInstanceAs (Decidable (visit.stage = .exportFinalize ∧ _))

instance : DecidablePred Visit.RestsOnCheck :=
  fun visit => inferInstanceAs (Decidable (visit.before.compliancePassed = true ∧ _))

instance decidableOnlyChecked : DecidablePred OnlyChecked
  | [] => .isTrue trivial
  | visit :: earlier =>
    @instDecidableAnd _ _ (inferInstanceAs (Decidable (visit.RestsOnCheck → _)))
      (decidableOnlyChecked earlier)

/-- The artifact a step stores, if an open branch ends with one. -/
def GraphRun.stores (run : GraphRun) (input : GraphInput) : Option ArtifactReference :=
  match run.position with
  | .branches sends =>
    (takeBranch sends input.branchEnd.index).bind fun taken =>
      (generateOneArtifact taken.1 input.branchEnd.outcome).1
  | _ => none

/-- Nothing is generated while compliance has passed. -/
def generatesUnpassed : Guard GraphRun GraphInput (Option Visit) :=
  fun run _ input => run.state.compliancePassed = true → run.stores input = none

instance (run : GraphRun) (history : History GraphInput (Option Visit)) (input : GraphInput) :
    Decidable (generatesUnpassed run history input) :=
  inferInstanceAs (Decidable (_ → _))

/-- The references are those of the last check while compliance has passed. -/
structure ChecksStand (state : TeachingPackState) (earlier : List Visit) : Prop where
  onlyChecked : OnlyChecked earlier
  current : state.compliancePassed = true →
    (lastCheck earlier).map (fun check => check.before.artifactReferences.members) =
      some state.artifactReferences.members

section Visits

variable {config : GraphConfig} {outcome : StageOutcome} {stage : StageEnum}
  {state : TeachingPackState} {store after : BreakerStore} {visit : Visit} {earlier : List Visit}

theorem lastCheck_cons_of_check (isGate : visit.stage = .complianceGate)
    (executes : visit.executed = true) : lastCheck (visit :: earlier) = some visit := by
  simp [lastCheck, isGate, executes]

theorem lastCheck_cons_of_not (noCheck : visit.stage = .complianceGate → visit.executed = false) :
    lastCheck (visit :: earlier) = lastCheck earlier := by
  unfold lastCheck
  rw [List.find?_cons_of_neg]
  simpa using noCheck

theorem Visited.compliancePassed_eq
    (visited : Visited config outcome stage state store (visit, after))
    (noCheck : ¬ (stage = .complianceGate ∧ visit.executed = true)) :
    visit.after.compliancePassed = state.compliancePassed := by
  cases visited with
  | skipped | raised => rfl
  | executed _ body =>
    exact (stageBody_frame body).compliancePassed fun isGate => noCheck ⟨isGate, rfl⟩

theorem ChecksStand.visits (stands : ChecksStand state earlier)
    (visited : Visited config outcome stage state store (visit, after)) :
    ChecksStand visit.after (visit :: earlier) := by
  constructor
  · refine ⟨fun rests => ?_, stands.onlyChecked⟩
    rw [visited.before_eq]
    exact stands.current (visited.before_eq ▸ rests.1)
  · intro passed
    rw [visited.artifactReferences_eq]
    by_cases isCheck : stage = .complianceGate ∧ visit.executed = true
    · rw [lastCheck_cons_of_check (visited.stage_eq.trans isCheck.1) isCheck.2, Option.map_some,
        visited.before_eq]
    · have noCheck : visit.stage = .complianceGate → visit.executed = false := by
        intro isGate
        rw [visited.stage_eq] at isGate
        exact Bool.eq_false_iff.mpr fun executes => isCheck ⟨isGate, executes⟩
      rw [lastCheck_cons_of_not noCheck]
      exact stands.current (visited.compliancePassed_eq isCheck ▸ passed)

end Visits

/-- In every run that generates nothing while compliance has passed, whatever
is offered or exported on its strength has been checked. -/
theorem only_checked_content {config : GraphConfig} {run : GraphRun}
    {history : History GraphInput (Option Visit)}
    (reached : (graphMachine config).Run generatesUnpassed run history) :
    OnlyChecked (visits history) := by
  have stands : ChecksStand run.state (visits history) := by
    apply reached.invariant fun run history => ChecksStand run.state (visits history)
    · rintro _ ⟨runId, contract, rfl⟩
      exact ⟨trivial, nofun⟩
    · intro run history input stands allowed
      have stepped : GraphStep config input run _ := graphStep run input
      simp only [Machine.advance, graphMachine, visits_cons]
      generalize run.step config input = result at stepped ⊢
      cases stepped with
      | visits visited => exact stands.visits visited
      | branchEnds taken order =>
        refine ⟨stands.onlyChecked, fun passed => ?_⟩
        have storesNothing := allowed passed
        simp only [GraphRun.stores, taken, Option.bind_some] at storesNothing
        rw [TeachingPackState.writeArtifact_of_none storesNothing]
        exact stands.current passed
      | noBranch => exact stands
      | rests => exact stands
  exact stands.onlyChecked

/-- A run to its first content gate. -/
theorem only_checked_content_lesson :
    OnlyChecked (visits ((graphMachine defaultGraph).drive (lessonRun, [])
      (List.replicate 11 (passingInput rejectLesson))).2) :=
  only_checked_content
    ((run_start _ _).drive (List.replicate 11 (passingInput rejectLesson)) (by decide +kernel))

/-- The lesson the teacher rejects is generated again, and offered on the
strength of the check of the first one. -/
theorem regenerated_lesson_unchecked :
    (graphMachine defaultGraph).Run (fun _ _ _ => True)
        ((graphMachine defaultGraph).drive (lessonRun, [])
          (List.replicate 17 (passingInput rejectLesson))).1
        ((graphMachine defaultGraph).drive (lessonRun, [])
          (List.replicate 17 (passingInput rejectLesson))).2 ∧
      ¬ OnlyChecked (visits ((graphMachine defaultGraph).drive (lessonRun, [])
        (List.replicate 17 (passingInput rejectLesson))).2) :=
  ⟨(run_start _ _).drive _ Machine.admits_all,
    by decide +kernel⟩

end OhMyClass.TeachingPack
