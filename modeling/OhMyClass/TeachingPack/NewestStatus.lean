import OhMyClass.TeachingPack.Requests
import OhMyClass.TeachingPack.Regeneration

/-!
# The newest generation of each artifact

The statuses for the teacher are read from the last workflow state and the last
reference of each type, last in the order of the texts of their ids.  The
newest workflow state is that of the highest revision.
-/

namespace OhMyClass.TeachingPack

open List OhMyClass.Keyed OhMyClass.Transition TeachingPackState

namespace TeachingPackState

/-- The workflow state of a type with the highest revision. -/
structure Newest (state : TeachingPackState) (artifactType : String) (newest : WorkflowState) :
    Prop where
  stored : newest ∈ state.artifactWorkflowStates.members
  isType : newest.artifactType = artifactType
  highest : ∃ revision, OfRevision state.runId revision newest ∧
    ∀ other ∈ state.artifactWorkflowStates.members, other.artifactType = artifactType →
      ∀ earlier, OfRevision state.runId earlier other → earlier ≤ revision

/-- The workflow state of a type whose id is the last text. -/
structure LastState (state : TeachingPackState) (artifactType : String) (last : WorkflowState) :
    Prop where
  stored : last ∈ state.artifactWorkflowStates.members
  isType : last.artifactType = artifactType
  greatest : ∀ other ∈ state.artifactWorkflowStates.members, other.artifactType = artifactType →
    workflowStateId other ≤ workflowStateId last

/-- The reference of a type whose document id is the last text. -/
structure LastReference (state : TeachingPackState) (artifactType : String)
    (last : ArtifactReference) : Prop where
  stored : last ∈ state.artifactReferences.members
  isType : last.artifactType = artifactType
  greatest : ∀ other ∈ state.artifactReferences.members, other.artifactType = artifactType →
    other.documentId ≤ last.documentId

end TeachingPackState

variable {state : TeachingPackState} {artifactType : String}

theorem le_of_sameType {first second : String} {type other : String} (sameType : type = other) :
    toLex (type, first) ≤ toLex (other, second) ↔ first ≤ second := by
  rw [Prod.Lex.toLex_le_toLex]
  simp [sameType]

theorem workflowOfType_eq_some_iff {last : WorkflowState} :
    workflowOfType state artifactType = some last ↔ state.LastState artifactType last := by
  have placed (first second : WorkflowState)
      (same : workflowStateSortKey first = workflowStateSortKey second) :
      workflowStateId first = workflowStateId second :=
    congrArg (fun key => (ofLex key).2) same
  unfold workflowOfType
  rw [state.artifactWorkflowStates.reverse_find?_eq_some_iff placed]
  simp only [decide_eq_true_eq]
  constructor
  · rintro ⟨stored, isType, greatest⟩
    exact ⟨stored, isType, fun other mem otherType =>
      (le_of_sameType (otherType.trans isType.symm)).mp (greatest other mem otherType)⟩
  · rintro ⟨stored, isType, greatest⟩
    exact ⟨stored, isType, fun other mem otherType =>
      (le_of_sameType (otherType.trans isType.symm)).mpr (greatest other mem otherType)⟩

theorem artifactOfType_eq_some_iff {last : ArtifactReference} :
    artifactOfType state artifactType = some last ↔ state.LastReference artifactType last := by
  have placed (first second : ArtifactReference)
      (same : referenceSortKey first = referenceSortKey second) :
      first.documentId = second.documentId :=
    congrArg (fun key => (ofLex key).2) same
  unfold artifactOfType
  rw [state.artifactReferences.reverse_find?_eq_some_iff placed]
  simp only [decide_eq_true_eq]
  constructor
  · rintro ⟨stored, isType, greatest⟩
    exact ⟨stored, isType, fun other mem otherType =>
      (le_of_sameType (otherType.trans isType.symm)).mp (greatest other mem otherType)⟩
  · rintro ⟨stored, isType, greatest⟩
    exact ⟨stored, isType, fun other mem otherType =>
      (le_of_sameType (otherType.trans isType.symm)).mpr (greatest other mem otherType)⟩

theorem workflowOfType_eq_none_iff :
    workflowOfType state artifactType = none ↔
      ∀ branch ∈ state.artifactWorkflowStates.members, branch.artifactType ≠ artifactType := by
  simp [workflowOfType]

theorem artifactOfType_eq_none_iff :
    artifactOfType state artifactType = none ↔
      ∀ reference ∈ state.artifactReferences.members, reference.artifactType ≠ artifactType := by
  simp [artifactOfType]

def WorkflowStatus.forTeacher : WorkflowStatus → TeacherArtifactStatus
  | .passed => .passed
  | .failed => .failed
  | .skipped => .skippedDueDependency
  | .escalated => .escalated

structure ArtifactStatusItem.Tells (item : ArtifactStatusItem) (branch : WorkflowState) : Prop where
  status : item.status = branch.status.forTeacher
  artifactId : item.artifactId = branch.artifactId
  summary : branch.status = .failed → item.summary = safeFailureSummary branch

/-- Every item tells the newest workflow state of its type, and nothing is
unavailable exactly if all newest states have passed. -/
structure ReportsNewest (state : TeachingPackState) : Prop where
  each : ∀ item ∈ artifactStatusesForTeacher state, ∀ newest,
    state.Newest item.artifactType newest → item.Tells newest
  available : unavailableRequiredArtifactStatuses state = [] ↔
    ∀ artifactType ∈ requestedArtifactTypes state, ∃ newest,
      state.Newest artifactType newest ∧ newest.status = .passed

/-- The last workflow state of a type says what the newest one says, and the
last reference, or else that state, has its artifact. -/
structure LastTells (state : TeachingPackState) (artifactType : String)
    (last newest : WorkflowState) : Prop where
  status : last.status = newest.status
  summary : newest.status = .failed → safeFailureSummary last = safeFailureSummary newest
  ofReference : ∀ reference, state.LastReference artifactType reference →
    reference.artifactId ≠ "" → reference.artifactId = newest.artifactId
  ofState : (∀ reference, state.LastReference artifactType reference →
    reference.artifactId = "") → last.artifactId = newest.artifactId

section Items

variable {artifact : Option ArtifactReference} {last newest : WorkflowState}

theorem status_statusItem :
    (statusItem artifactType artifact (some last)).status = last.status.forTeacher := by
  unfold statusItem
  cases isStatus : last.status <;> simp [isStatus, WorkflowStatus.forTeacher]

theorem artifactId_statusItem {workflow : Option WorkflowState} :
    (statusItem artifactType artifact workflow).artifactId =
      statusArtifactId artifactType artifact workflow := by
  unfold statusItem
  cases workflow with
  | none => cases artifact <;> rfl
  | some workflow => cases isStatus : workflow.status <;> simp [isStatus]

theorem summary_statusItem (isFailed : last.status = .failed) :
    (statusItem artifactType artifact (some last)).summary = safeFailureSummary last := by
  unfold statusItem
  simp [isFailed]

theorem statusArtifactId_eq_iff (artifactType : String) (artifact : Option ArtifactReference)
    (named : last.artifactId ≠ "") (artifactId : String) :
    statusArtifactId artifactType artifact (some last) = artifactId ↔
      (∀ reference, artifact = some reference → reference.artifactId ≠ "" →
          reference.artifactId = artifactId) ∧
        ((∀ reference, artifact = some reference → reference.artifactId = "") →
          last.artifactId = artifactId) := by
  unfold statusArtifactId
  cases artifact with
  | none => simp [named]
  | some reference =>
    by_cases unnamed : reference.artifactId = ""
    · simp [unnamed, named]
    · simp [unnamed]

theorem tells_statusItem_iff (named : last.artifactId ≠ "") :
    (statusItem artifactType (artifactOfType state artifactType) (some last)).Tells newest ↔
      LastTells state artifactType last newest := by
  have sameStatus : last.status.forTeacher = newest.status.forTeacher ↔
      last.status = newest.status := by
    cases last.status <;> cases newest.status <;> simp [WorkflowStatus.forTeacher]
  have shown := statusArtifactId_eq_iff artifactType (artifactOfType state artifactType) named
    newest.artifactId
  simp only [artifactOfType_eq_some_iff] at shown
  constructor
  · rintro ⟨status, artifactId, summary⟩
    rw [status_statusItem, sameStatus] at status
    rw [artifactId_statusItem] at artifactId
    refine ⟨status, fun isFailed => ?_, (shown.mp artifactId).1, (shown.mp artifactId).2⟩
    rw [← summary isFailed, summary_statusItem (status.trans isFailed)]
  · rintro ⟨status, summary, ofReference, ofState⟩
    refine ⟨?_, ?_, fun isFailed => ?_⟩
    · rw [status_statusItem, status]
    · rw [artifactId_statusItem]
      exact shown.mpr ⟨ofReference, ofState⟩
    · rw [summary_statusItem (status.trans isFailed), summary isFailed]

end Items

section Newest

variable {newest : WorkflowState}

theorem Recorded.exists_newest (recorded : Recorded state)
    (known : ∃ branch ∈ state.artifactWorkflowStates.members,
      branch.artifactType = artifactType) :
    ∃ newest, state.Newest artifactType newest := by
  have numbered (branch : WorkflowState) : ∃ revision,
      branch ∈ state.artifactWorkflowStates.members →
        OfRevision state.runId revision branch := by
    by_cases stored : branch ∈ state.artifactWorkflowStates.members
    · rcases (recorded.branches branch stored).1 with ⟨revision, isOf⟩
      exact ⟨revision, fun _ => isOf⟩
    · exact ⟨0, fun member => absurd member stored⟩
  choose revisionOf isOf using numbered
  let ofType := (state.artifactWorkflowStates.members.filter fun branch =>
    branch.artifactType = artifactType).toFinset
  have someOfType : ofType.Nonempty := by
    rcases known with ⟨branch, stored, isType⟩
    exact ⟨branch, by simp [ofType, stored, isType]⟩
  rcases Finset.exists_max_image ofType revisionOf someOfType with ⟨newest, member, greatest⟩
  simp only [ofType, mem_toFinset, mem_filter, decide_eq_true_eq] at member greatest
  refine ⟨newest, member.1, member.2, revisionOf newest, isOf newest member.1, ?_⟩
  intro other stored isType earlier isEarlier
  rw [isEarlier.revision_eq (isOf other stored)]
  exact greatest other ⟨stored, isType⟩

end Newest

/-! ## The report -/

theorem Recorded.exists_last (recorded : Recorded state) {newest : WorkflowState}
    (isNewest : state.Newest artifactType newest) :
    ∃ last, workflowOfType state artifactType = some last ∧ last.artifactId ≠ "" := by
  cases found : workflowOfType state artifactType with
  | none =>
    exact absurd isNewest.isType
      (workflowOfType_eq_none_iff.mp found newest isNewest.stored)
  | some last =>
    have isLast := workflowOfType_eq_some_iff.mp found
    exact ⟨last, rfl, (recorded.branches last isLast.stored).2⟩

theorem Recorded.not_passed_of_none (recorded : Recorded state)
    (unknown : workflowOfType state artifactType = none) :
    (statusItem artifactType (artifactOfType state artifactType)
      (workflowOfType state artifactType)).status ≠ .passed := by
  have noReference : artifactOfType state artifactType = none := by
    rw [artifactOfType_eq_none_iff]
    intro reference mem isType
    rcases recorded.referenced reference mem with ⟨branch, stored, sameType⟩
    exact workflowOfType_eq_none_iff.mp unknown branch stored (sameType.trans isType)
  rw [(statusItem_regenerating_iff).mpr ⟨noReference, unknown⟩]
  exact nofun

theorem Recorded.unavailable_eq_nil_iff (recorded : Recorded state)
    (each : ∀ item ∈ artifactStatusesForTeacher state, ∀ newest,
      state.Newest item.artifactType newest → item.Tells newest) :
    unavailableRequiredArtifactStatuses state = [] ↔
      ∀ artifactType ∈ requestedArtifactTypes state, ∃ newest,
        state.Newest artifactType newest ∧ newest.status = .passed := by
  have tells {artifactType : String} (isRequested : artifactType ∈ requestedArtifactTypes state)
      {newest : WorkflowState} (isNewest : state.Newest artifactType newest) :=
    each _ (mem_map_of_mem isRequested) newest (statusItem_artifactType.symm ▸ isNewest)
  unfold unavailableRequiredArtifactStatuses artifactStatusesForTeacher
  simp only [filter_eq_nil_iff, forall_mem_map, decide_eq_true_eq, not_not]
  constructor
  · intro passed artifactType isRequested
    cases found : workflowOfType state artifactType with
    | none => exact absurd (passed artifactType isRequested) (recorded.not_passed_of_none found)
    | some last =>
      have isLast := workflowOfType_eq_some_iff.mp found
      rcases recorded.exists_newest ⟨last, isLast.stored, isLast.isType⟩ with ⟨newest, isNewest⟩
      have told := (tells isRequested isNewest).status
      rw [passed artifactType isRequested] at told
      refine ⟨newest, isNewest, ?_⟩
      cases isStatus : newest.status <;> simp [isStatus, WorkflowStatus.forTeacher] at told
      rfl
  · intro newestPassed artifactType isRequested
    rcases newestPassed artifactType isRequested with ⟨newest, isNewest, isPassed⟩
    rw [(tells isRequested isNewest).status, isPassed]
    rfl

/-- The newest generations are told exactly if what is stored last of each
requested type tells the same. -/
theorem Recorded.tellsNewest_iff (recorded : Recorded state) :
    ReportsNewest state ↔
      ∀ artifactType ∈ requestedArtifactTypes state, ∀ newest last,
        state.Newest artifactType newest → state.LastState artifactType last →
        LastTells state artifactType last newest := by
  constructor
  · rintro ⟨each, _⟩ artifactType isRequested newest last isNewest isLast
    have told := each _ (mem_map_of_mem isRequested) newest
      (statusItem_artifactType.symm ▸ isNewest)
    rw [workflowOfType_eq_some_iff.mpr isLast] at told
    exact (tells_statusItem_iff (recorded.branches last isLast.stored).2).mp told
  · intro lastTells
    have each : ∀ item ∈ artifactStatusesForTeacher state, ∀ newest,
        state.Newest item.artifactType newest → item.Tells newest := by
      intro item isReported newest isNewest
      rcases mem_map.mp isReported with ⟨artifactType, isRequested, rfl⟩
      rw [statusItem_artifactType] at isNewest
      rcases recorded.exists_last isNewest with ⟨last, found, named⟩
      rw [found]
      exact (tells_statusItem_iff named).mpr
        (lastTells artifactType isRequested newest last isNewest
          (workflowOfType_eq_some_iff.mp found))
    exact ⟨each, recorded.unavailable_eq_nil_iff each⟩

theorem generationIdText_lt_ninth {runId : String} {revision : Nat} (other : revision ≠ 9)
    (artifactType : String) :
    generationIdText runId revision ++ ":" ++ artifactType <
      generationIdText runId 9 ++ ":" ++ artifactType := by
  have digits : Nat.toDigits 10 revision ++ ':' :: artifactType.toList <
      Nat.toDigits 10 9 ++ ':' :: artifactType.toList := by
    have isDigit (c : Char) (mem : c ∈ Nat.toDigits 10 revision) : c ≤ '9' ∧ c < ':' := by
      have inRange := Text.isDigit_of_mem_toDigits mem
      simp only [Char.isDigit, Bool.and_eq_true, decide_eq_true_eq] at inRange
      exact ⟨inRange.2, lt_of_le_of_lt inRange.2 (by decide)⟩
    have different : Nat.toDigits 10 revision ≠ ['9'] :=
      fun same => other (Text.toDigits_injective same)
    have isNine : Nat.toDigits 10 9 = ['9'] := rfl
    rw [isNine]
    cases isText : Nat.toDigits 10 revision with
    | nil => exact absurd isText Nat.toDigits_ne_nil
    | cons first rest =>
      rw [isText] at isDigit different
      simp only [cons_append, nil_append, cons_lt_cons_iff]
      rcases lt_or_eq_of_le (isDigit first mem_cons_self).1 with below | rfl
      · exact .inl below
      · refine .inr ⟨rfl, ?_⟩
        cases rest with
        | nil => exact absurd rfl different
        | cons second later =>
          have below := (isDigit second (mem_cons_of_mem _ mem_cons_self)).2
          exact cons_lt_cons_iff.mpr (.inl below)
  rw [String.lt_iff_toList_lt]
  simp only [generationIdText, String.toList_append, String.toList_ofList, append_assoc]
  exact append_left_lt (append_left_lt digits)

/-- Once the ninth generation of a type is stored, it is the one the teacher
is told, whatever is generated later. -/
theorem Recorded.ninth_isLast (recorded : Recorded state) {ninth : WorkflowState}
    (stored : ninth ∈ state.artifactWorkflowStates.members)
    (isType : ninth.artifactType = artifactType) (isNinth : OfRevision state.runId 9 ninth) :
    state.LastState artifactType ninth := by
  refine ⟨stored, isType, fun other mem otherType => ?_⟩
  rcases (recorded.branches other mem).1 with ⟨revision, isOf⟩
  rw [isOf.workflowStateId_eq, isNinth.workflowStateId_eq, otherType, isType]
  by_cases same : revision = 9
  · rw [same]
  · exact (generationIdText_lt_ninth same artifactType).le

/-- A generation whose lesson fails, where every other one leaks answers. -/
def failingLesson : GraphInput :=
  { leakingInput with branchEnd := ⟨0, .failed "timed out"⟩ }

/-- The lesson is generated nine times, and its tenth generation fails. -/
def tenLessons : List GraphInput :=
  List.replicate 42 leakingInput ++ [failingLesson]

/-- What the teacher is told of a state is read from this part of it. -/
def TeachingPackState.told (state : TeachingPackState) :
    String × List String × List (String × String × WorkflowStatus) :=
  (state.runId, state.artifactTypes, state.artifactWorkflowStates.members.map fun branch =>
    (branch.artifactType, branch.artifactGenerationId, branch.status))

/-- What is stored after nine lessons that passed and one that failed. -/
def nineAndOne : List (String × String × WorkflowStatus) :=
  ("lesson", "run:artifact:10", .failed) ::
    (List.range 9).map fun n => ("lesson", generationIdText "run" (n + 1), .passed)

theorem revision_le_of_nineAndOne {revision : Nat} {artifactType : String}
    {status : WorkflowStatus}
    (stored : (artifactType, generationIdText "run" revision, status) ∈ nineAndOne) :
    revision ≤ 10 := by
  have isTenth : "run:artifact:10" = generationIdText "run" 10 := by decide +kernel
  rcases mem_cons.mp stored with isLast | isEarlier
  · simp only [Prod.mk.injEq, isTenth] at isLast
    exact (generationIdText_injective "run" isLast.2.1).le
  · rcases mem_map.mp isEarlier with ⟨n, inRange, isEntry⟩
    simp only [Prod.mk.injEq] at isEntry
    rw [← generationIdText_injective "run" isEntry.2.1]
    have below := mem_range.mp inRange
    omega

/-- After nine lessons that passed, the teacher is not told that the tenth one
has failed. -/
theorem not_reportsNewest_of_nineAndOne {config : GraphConfig}
    {guard : Guard GraphRun GraphInput (Option Visit)} {run : GraphRun}
    {history : History GraphInput (Option Visit)}
    (reached : (graphMachine config).Run guard run history)
    (isTold : run.state.told = ("run", ["lesson"], nineAndOne)) : ¬ ReportsNewest run.state := by
  have recorded := (keepsRecord_of_run reached).recorded
  simp only [told, Prod.mk.injEq] at isTold
  rcases isTold with ⟨isRun, types, branches⟩
  have revisionOf {branch : WorkflowState}
      (stored : branch ∈ run.state.artifactWorkflowStates.members) {revision : ℕ}
      (isRevision : branch.artifactGenerationId = generationIdText "run" revision) :
      OfRevision run.state.runId revision branch := by
    rcases (recorded.branches branch stored).1 with ⟨other, isOf⟩
    have same : other = revision := by
      apply generationIdText_injective "run"
      rw [← isRevision, isOf.generation, isRun]
    exact same ▸ isOf
  have entries (entry : String × String × WorkflowStatus) :
      (∃ branch ∈ run.state.artifactWorkflowStates.members,
        (branch.artifactType, branch.artifactGenerationId, branch.status) = entry) ↔
      entry ∈ nineAndOne := by
    rw [← branches, mem_map]
  rcases (entries ("lesson", generationIdText "run" 10, .failed)).mpr (by decide +kernel) with
    ⟨tenth, tenthStored, isTenth⟩
  rcases (entries ("lesson", generationIdText "run" 9, .passed)).mpr (by decide +kernel) with
    ⟨ninth, ninthStored, isNinth⟩
  simp only [Prod.mk.injEq] at isTenth isNinth
  have isLast : run.state.LastState "lesson" ninth :=
    recorded.ninth_isLast ninthStored isNinth.1 (revisionOf ninthStored isNinth.2.1)
  have isNewest : run.state.Newest "lesson" tenth := by
    refine ⟨tenthStored, isTenth.1, 10, revisionOf tenthStored isTenth.2.1, ?_⟩
    intro other stored _ earlier isEarlier
    have isEntry := (entries _).mp ⟨other, stored, rfl⟩
    rw [isEarlier.generation, isRun] at isEntry
    exact revision_le_of_nineAndOne isEntry
  have isRequested : "lesson" ∈ requestedArtifactTypes run.state := by
    simp [requestedArtifactTypes, types]
  intro reports
  have same := (recorded.tellsNewest_iff.mp reports "lesson" isRequested tenth ninth isNewest
    isLast).status
  rw [isTenth.2.2, isNinth.2.2] at same
  cases same

end OhMyClass.TeachingPack
