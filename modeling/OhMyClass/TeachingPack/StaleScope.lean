import OhMyClass.TeachingPack.Requests

/-!
# Artifacts left in limbo

A complete fan-out has settled every requested type, unless the lesson failed
and an answer key was requested: the key depends on the lesson only through
the quiz, and what depends on a skipped type is not skipped.
-/

namespace OhMyClass.TeachingPack

open OhMyClass.Contracts OhMyClass.Keyed OhMyClass.Transition TeachingPackState

/-- A type depends on another, directly or through further types. -/
def DependsOn : String → String → Prop :=
  Relation.TransGen fun artifactType dependency => dependency ∈ dependenciesOf artifactType

/-- Every requested type has a status, what depends on a failed type is
skipped, and the teacher is told of no requested artifact that it is still
regenerating. -/
structure NothingInLimbo (requested : List String) (state : TeachingPackState) : Prop where
  hasStatus : ∀ artifactType ∈ requested, ∃ branch ∈ generationStates state,
    branch.artifactType = artifactType ∧
      branch.status ∈ [WorkflowStatus.passed, .failed, .skipped]
  skipsDependents : ∀ artifactType ∈ requested, ∀ dependency ∈ requested,
    DependsOn artifactType dependency →
    (∃ branch ∈ generationStates state,
      branch.artifactType = dependency ∧ branch.status = .failed) →
    ∃ branch ∈ generationStates state,
      branch.artifactType = artifactType ∧ branch.status = .skipped
  notRegenerating : ∀ item ∈ artifactStatusesForTeacher state, item.artifactType ∈ requested →
    item.status ≠ .regenerating

structure LessonFailedUnderKey (requested : List String) (state : TeachingPackState) : Prop where
  lesson : "lesson" ∈ requested
  answerKey : "answer_key" ∈ requested
  failed : "lesson" ∈ failedTypes state.currentStates

section DefaultPlan

variable {artifactType dependency : String}

theorem DependsOn.direct (depends : DependsOn artifactType dependency) :
    dependency ∈ dependenciesOf artifactType ∨
      artifactType = "answer_key" ∧ dependency = "lesson" := by
  induction depends with
  | single isRequired => exact .inl isRequired
  | tail _ isRequired ih =>
    rcases ih with middleRequired | ⟨_, rfl⟩
    · have twoSteps : ∀ first ∈ planTypes, ∀ second ∈ dependenciesOf first,
          ∀ third ∈ dependenciesOf second,
            third ∈ dependenciesOf first ∨ first = "answer_key" ∧ third = "lesson" := by
        decide +kernel
      exact twoSteps _ (mem_planTypes_of_dependency middleRequired) _ middleRequired _ isRequired
    · cases isRequired

theorem answerKey_dependsOn_lesson : DependsOn "answer_key" "lesson" :=
  .tail (.single (b := "quiz") (by decide +kernel)) (by decide +kernel)

theorem required_of_later {dependent : String} {earlier index : Nat}
    (inEarlier : dependency ∈ defaultDependencyPlan.wave earlier)
    (isRequired : dependency ∈ dependenciesOf dependent)
    (inWave : artifactType ∈ defaultDependencyPlan.wave index) (isLater : earlier < index) :
    dependency ∈ dependenciesOf artifactType ∨
      artifactType = "answer_key" ∧ dependency = "lesson" := by
  have inside : index < 3 := by
    by_contra beyond
    rw [wave_of_ge (by omega)] at inWave
    cases inWave
  have each : ∀ dependent ∈ planTypes, ∀ dependency ∈ dependenciesOf dependent,
      ∀ earlier < 3, dependency ∈ defaultDependencyPlan.wave earlier →
        ∀ index < 3, earlier < index → ∀ artifactType ∈ defaultDependencyPlan.wave index,
          dependency ∈ dependenciesOf artifactType ∨
            artifactType = "answer_key" ∧ dependency = "lesson" := by
    decide +kernel
  exact each dependent (mem_planTypes_of_dependency isRequired) dependency isRequired earlier
    (by omega) inEarlier index inside isLater artifactType inWave

end DefaultPlan

/-! ## What is left in limbo -/

section Completion

variable {generationId : String} {requested sent : List String} {state : TeachingPackState}

theorem Rounds.failed_in_current (rounds : Rounds generationId requested sent [] state)
    {failed dependent : String} (isFailed : failed ∈ failedTypes state.currentStates)
    (mem : dependent ∈ requested) (isDependency : failed ∈ dependenciesOf dependent) :
    failed ∈ defaultDependencyPlan.wave state.currentWaveIndex := by
  rcases mem_failedTypes.mp isFailed with ⟨branch, stored, rfl, _⟩
  rcases rounds.inWaves _ (rounds.branches branch stored).2.1 with ⟨index, isWave, inWave⟩
  rcases Nat.lt_or_eq_of_le isWave with isEarlier | rfl
  · exact absurd isDependency
      (rounds.harmless index isEarlier _ isFailed inWave dependent mem)
  · exact inWave

theorem failed_requested (rounds : Rounds generationId requested sent [] state)
    (sentRequested : sent ⊆ requested) {failed : String}
    (isFailed : failed ∈ failedTypes state.currentStates) : failed ∈ requested := by
  rcases mem_failedTypes.mp isFailed with ⟨branch, stored, rfl, _⟩
  exact sentRequested (rounds.branches branch stored).2.1

theorem Completion.completed_or_requires (completion : Completion requested state)
    (rounds : Rounds generationId requested sent [] state) (sentRequested : sent ⊆ requested)
    (planned : requested ⊆ planTypes) (noKey : ¬ LessonFailedUnderKey requested state)
    {artifactType : String} (mem : artifactType ∈ requested) :
    artifactType ∈ completedTypes state.currentStates ∨
      ∃ dependency ∈ dependenciesOf artifactType,
        dependency ∈ failedTypes state.currentStates := by
  cases completion with
  | finished completed => exact .inl (completed artifactType mem (planned mem))
  | @blocked failed dependent isFailed isDependent isDependency finished =>
    rcases mem_planTypes_iff.mp (planned mem) with ⟨index, inWave⟩
    rcases Nat.lt_trichotomy index state.currentWaveIndex with before | rfl | after
    · exact .inl (rounds.earlier index before (mem_waveAt.mpr ⟨inWave, mem⟩))
    · exact .inl (finished (mem_waveAt.mpr ⟨inWave, mem⟩))
    · right
      have inCurrent := rounds.failed_in_current isFailed isDependent isDependency
      rcases required_of_later inCurrent isDependency inWave after with isRequired | ⟨rfl, rfl⟩
      · exact ⟨failed, isRequired, isFailed⟩
      · exact absurd ⟨failed_requested rounds sentRequested isFailed, mem, isFailed⟩ noKey

theorem quiz_not_failed (rounds : Rounds generationId requested sent [] state)
    (sentRequested : sent ⊆ requested) (lessonFailed : "lesson" ∈ failedTypes state.currentStates) :
    "quiz" ∉ failedTypes state.currentStates := by
  intro quizFailed
  have quizRequested := failed_requested rounds sentRequested quizFailed
  have inCurrent := rounds.failed_in_current lessonFailed quizRequested (by decide +kernel)
  rcases mem_failedTypes.mp quizFailed with ⟨branch, stored, isQuiz, _⟩
  rcases rounds.inWaves _ (rounds.branches branch stored).2.1 with ⟨index, isWave, inWave⟩
  rw [isQuiz] at inWave
  have isFirst := waves_apart _ 0 _ inCurrent (by decide +kernel)
  have isSecond := waves_apart _ 1 _ inWave (by decide +kernel)
  omega

theorem nothingInLimbo_coordinated_iff (rounds : Rounds generationId requested sent [] state)
    (sentRequested : sent ⊆ requested) (planned : requested ⊆ planTypes)
    (completion : Completion requested state) :
    NothingInLimbo requested state.coordinated ↔ ¬ LessonFailedUnderKey requested state := by
  constructor
  · intro settled underKey
    rcases mem_failedTypes.mp underKey.failed with ⟨lesson, isStored, isLesson, lessonFailed⟩
    have noDependencies : dependenciesOf "lesson" = [] := by decide +kernel
    have kept := completion.keeps rounds isStored (by simp [isLesson, noDependencies])
    rcases settled.skipsDependents "answer_key" underKey.answerKey "lesson" underKey.lesson
      answerKey_dependsOn_lesson ⟨lesson, kept, isLesson, lessonFailed⟩ with
      ⟨branch, mem, isKey, isSkipped⟩
    rcases completion.skipped_requires rounds mem isSkipped with
      ⟨dependency, isRequired, isFailed⟩
    have onlyQuiz : dependenciesOf "answer_key" = ["quiz"] := by decide +kernel
    rw [isKey, onlyQuiz, List.mem_singleton] at isRequired
    rw [isRequired] at isFailed
    exact quiz_not_failed rounds sentRequested underKey.failed isFailed
  · intro noKey
    have hasStatus : ∀ artifactType ∈ requested, ∃ branch ∈ generationStates state.coordinated,
        branch.artifactType = artifactType ∧
          branch.status ∈ [WorkflowStatus.passed, .failed, .skipped] := by
      intro artifactType mem
      rcases completion.completed_or_requires rounds sentRequested planned noKey mem with
        isCompleted | ⟨dependency, isRequired, isFailed⟩
      · exact completion.hasStatus rounds isCompleted
      · rcases completion.skipped mem isRequired isFailed with ⟨branch, isMember, isType, status⟩
        exact ⟨branch, isMember, isType, by simp [status]⟩
    exact
      { hasStatus := hasStatus
        skipsDependents := by
          rintro artifactType mem dependency isRequested depends
            ⟨branch, isMember, isType, hasFailed⟩
          have isFailed := completion.failed_before isMember hasFailed
          rw [isType] at isFailed
          rcases depends.direct with isRequired | ⟨rfl, rfl⟩
          · exact completion.skipped mem isRequired isFailed
          · exact absurd ⟨isRequested, mem, isFailed⟩ noKey
        notRegenerating := by
          intro item isReported isRequested
          rcases hasStatus _ isRequested with ⟨branch, isMember, isType, _⟩
          have stored := (mem_generationStates_coordinated.mp isMember).1
          exact status_ne_regenerating stored isReported isType.symm }

end Completion

/-- The step that completes the fan-out leaves nothing in limbo if and only if
no lesson failed that a requested answer key waits for. -/
theorem nothing_in_limbo_iff {parallelism : Nat} (atLeastOne : 1 ≤ parallelism) {start : FanoutRun}
    (starts : start.Starts) (settled : start.state.Settled)
    (planned : start.state.requestedTypes ⊆ planTypes) (inputs : ℕ → BranchEnd) (n : ℕ)
    (isCoordinating :
      ((fanoutMachine parallelism).trajectory start inputs n).1.position = .coordinating)
    (completes :
      ((fanoutMachine parallelism).trajectory start inputs (n + 1)).1.position = .finished) :
    NothingInLimbo start.state.requestedTypes
        ((fanoutMachine parallelism).trajectory start inputs (n + 1)).1.state ↔
      ¬ LessonFailedUnderKey start.state.requestedTypes
        ((fanoutMachine parallelism).trajectory start inputs n).1.state := by
  have cycle := Cycle.trajectory atLeastOne starts settled inputs n
  have stepped := (standing_trajectory atLeastOne starts inputs n).stepped atLeastOne (inputs n)
  change (FanoutRun.step parallelism _ (inputs n)).1.position = .finished at completes
  change NothingInLimbo _ (FanoutRun.step parallelism _ (inputs n)).1.state ↔ _
  generalize FanoutRun.step parallelism _ (inputs n) = after at stepped completes ⊢
  generalize ((fanoutMachine parallelism).trajectory start inputs n).1 = run at *
  cases stepped with
  | completes complete rounds =>
    rw [cycle.isRequested] at rounds
    exact nothingInLimbo_coordinated_iff rounds cycle.sentRequested planned
      (completion_of_complete rounds cycle.isRequested (cycle.someWave (by simp)) complete)
  | sends => cases completes
  | branchEnds => cases isCoordinating
  | rests => cases isCoordinating

def failingRun (artifactTypes : List String) (n : ℕ) : FanoutRun :=
  ((fanoutMachine 4).trajectory (firstGeneration artifactTypes)
    (fun _ => ⟨0, .failed "timed out"⟩) n).1

theorem failed_lesson_skips_quiz :
    NothingInLimbo (firstGeneration ["lesson", "quiz"]).state.requestedTypes
        (failingRun ["lesson", "quiz"] 3).state ↔
      ¬ LessonFailedUnderKey (firstGeneration ["lesson", "quiz"]).state.requestedTypes
        (failingRun ["lesson", "quiz"] 2).state :=
  nothing_in_limbo_iff (by decide) (starts_initial "run" _) (settled_firstGeneration _)
    (by decide +kernel) _ 2 (by decide +kernel) (by decide +kernel)

/-- After a failed lesson the answer key is reported as still regenerating. -/
theorem failed_lesson_leaves_answer_key :
    (firstGeneration ["lesson", "quiz", "answer_key"]).Starts ∧
      (firstGeneration ["lesson", "quiz", "answer_key"]).state.Settled ∧
      (failingRun ["lesson", "quiz", "answer_key"] 2).position = .coordinating ∧
      (failingRun ["lesson", "quiz", "answer_key"] 3).position = .finished ∧
      ¬ NothingInLimbo ["lesson", "quiz", "answer_key"]
        (failingRun ["lesson", "quiz", "answer_key"] 3).state := by
  refine ⟨starts_initial "run" _, settled_firstGeneration _, by decide +kernel,
    by decide +kernel, fun settled => ?_⟩
  have reported : ∃ item ∈
      artifactStatusesForTeacher (failingRun ["lesson", "quiz", "answer_key"] 3).state,
      item.artifactType = "answer_key" ∧ item.status = .regenerating := by
    decide +kernel
  rcases reported with ⟨item, isReported, isKey, isRegenerating⟩
  exact settled.notRegenerating item isReported (by simp [isKey]) isRegenerating

/-! ## The scope of a rejection -/

/-- A cycle sends only these types, all of them unless it skips one whose
dependency failed, and keeps the documents of the others. -/
structure GeneratesExactly (types : List String) (before : TeachingPackState)
    (sent : List String) (after : TeachingPackState) : Prop where
  onlyThese : sent ⊆ types
  allOfThem : (∀ branch ∈ generationStates after, branch.status ≠ .skipped) → types ⊆ sent
  othersKept : ∀ reference : ArtifactReference, reference.artifactType ∉ types →
    (reference ∈ after.artifactReferences.members ↔
      reference ∈ before.artifactReferences.members)

/-- Whatever becomes of its branches, the next cycle generates what is rejected. -/
def RegeneratesRejected (parallelism : Nat) (state : TeachingPackState) : Prop :=
  ∀ inputs n,
    ((fanoutMachine parallelism).trajectory ⟨state, .coordinating⟩ inputs n).1.position =
      .finished →
    GeneratesExactly state.rejectedGenerationTypes state
      (sentTypes ((fanoutMachine parallelism).trajectory ⟨state, .coordinating⟩ inputs n).2)
      ((fanoutMachine parallelism).trajectory ⟨state, .coordinating⟩ inputs n).1.state

section Cycles

variable {parallelism : Nat} {start : FanoutRun} {generationId : String}
  {requested sent : List String} {run : FanoutRun} {branchEnd : BranchEnd}
  {after : FanoutRun × List GenerateOneArtifactPayload}

/-- A cycle that is over was completed by the coordinator. -/
def Ended (generationId : String) (requested sent : List String) (run : FanoutRun) : Prop :=
  run.position = .finished → ∃ before : TeachingPackState,
    run.state = before.coordinated ∧ Rounds generationId requested sent [] before ∧
      Completion requested before

theorem Ended.step (ended : Ended generationId requested sent run) (cycle : Cycle requested sent run)
    (stepped : Stepped parallelism generationId sent branchEnd run after) :
    Ended generationId requested (after.2.map GenerateOneArtifactPayload.artifactType ++ sent)
      after.1 := by
  cases stepped with
  | @completes state complete rounds =>
    intro _
    rw [cycle.isRequested] at rounds
    exact ⟨state, rfl, rounds,
      completion_of_complete rounds cycle.isRequested (cycle.someWave (by simp)) complete⟩
  | sends => exact nofun
  | branchEnds =>
    intro isFinished
    split at isFinished
    · cases isFinished
    · cases isFinished
  | rests => exact ended

theorem ended_trajectory (atLeastOne : 1 ≤ parallelism) (starts : start.Starts)
    (settled : start.state.Settled) (inputs : ℕ → BranchEnd) (n : ℕ) :
    Ended start.state.currentId start.state.requestedTypes
      (sentTypes ((fanoutMachine parallelism).trajectory start inputs n).2)
      ((fanoutMachine parallelism).trajectory start inputs n).1 := by
  induction n with
  | zero =>
    intro isFinished
    change start.position = .finished at isFinished
    rw [starts.coordinating] at isFinished
    cases isFinished
  | succ n ih =>
    exact ih.step (Cycle.trajectory atLeastOne starts settled inputs n)
      ((standing_trajectory atLeastOne starts inputs n).stepped atLeastOne (inputs n))

variable {before : TeachingPackState}

theorem Completion.all_sent (completion : Completion requested before)
    (rounds : Rounds generationId requested sent [] before)
    (noneSkipped : ∀ branch ∈ generationStates before.coordinated, branch.status ≠ .skipped)
    (planned : requested ⊆ planTypes) : requested ⊆ sent := by
  intro artifactType mem
  cases completion with
  | finished completed =>
    rcases mem_completedTypes.mp (completed artifactType mem (planned mem)) with
      ⟨branch, stored, rfl, _⟩
    exact (rounds.branches branch stored).2.1
  | blocked isFailed isDependent isDependency finished written =>
    rcases Completion.skipped (.blocked isFailed isDependent isDependency finished written)
      isDependent isDependency isFailed with ⟨branch, stored, _, isSkipped⟩
    exact absurd isSkipped (noneSkipped branch stored)

/-! ## Branches that pass -/

def OnlyKeyFails (generationId : String) (state : TeachingPackState) : Prop :=
  ∀ branch ∈ state.artifactWorkflowStates.members, branch.artifactGenerationId = generationId →
    branch.status = .failed → branch.artifactType = "answer_key"

variable {payload : GenerateOneArtifactPayload} {generatedId : Option String}

theorem key_of_failed
    (isFailed : (generateOneArtifact payload (.passed generatedId)).2.status = .failed) :
    payload.artifactType = "answer_key" := by
  unfold generateOneArtifact at isFailed
  simp only at isFailed
  split at isFailed
  · next noQuiz => exact noQuiz.1
  · cases isFailed

variable {state : TeachingPackState}

theorem OnlyKeyFails.coordinated (onlyKey : OnlyKeyFails generationId state) :
    OnlyKeyFails generationId state.coordinated := by
  cases coordinated_cases state with
  | sameWave _ _ _ same | noWave _ _ same | nextWave _ _ _ _ _ _ same | lastWave _ _ _ _ same =>
    unfold OnlyKeyFails
    rw [same]
    exact onlyKey
  | blocked _ _ _ written =>
    intro branch mem isCurrent isFailed
    rw [written] at mem
    rcases Channel.mem_merge.mp mem with isSkipped | ⟨stored, _⟩
    · rcases mem_skippedDependents.mp isSkipped.mem with ⟨_, _, _, rfl⟩
      cases isFailed
    · exact onlyKey branch stored isCurrent isFailed

theorem OnlyKeyFails.step (onlyKey : OnlyKeyFails generationId run.state)
    (passes : branchEnd.outcome = .passed generatedId)
    (stepped : Stepped parallelism generationId sent branchEnd run after) :
    OnlyKeyFails generationId after.1.state := by
  cases stepped with
  | completes | sends => exact onlyKey.coordinated
  | rests => exact onlyKey
  | branchEnds =>
    intro branch mem isCurrent isFailed
    rcases Channel.mem_merge_singleton.mp mem with rfl | ⟨stored, _⟩
    · rw [passes] at isFailed ⊢
      rw [(generateOneArtifact_state _ _).2.2.1]
      exact key_of_failed isFailed
    · exact onlyKey branch stored isCurrent isFailed

theorem onlyKeyFails_trajectory (atLeastOne : 1 ≤ parallelism) (starts : start.Starts) (n : ℕ) :
    OnlyKeyFails start.state.currentId
      ((fanoutMachine parallelism).trajectory start passing n).1.state := by
  induction n with
  | zero =>
    intro branch mem isCurrent
    exact absurd isCurrent (starts.fresh branch mem)
  | succ n ih =>
    exact ih.step rfl
      ((standing_trajectory atLeastOne starts passing n).stepped atLeastOne (passing n))

theorem answerKey_not_required (artifactType : String) :
    "answer_key" ∉ dependenciesOf artifactType := by
  intro isRequired
  have none : ∀ planned ∈ planTypes, "answer_key" ∉ dependenciesOf planned := by decide +kernel
  exact none artifactType (mem_planTypes_of_dependency isRequired) isRequired

theorem Completion.keeps_failed (completion : Completion requested before)
    (rounds : Rounds generationId requested sent [] before) (sentRequested : sent ⊆ requested)
    {branch : WorkflowState} (mem : branch ∈ before.currentStates) :
    branch ∈ generationStates before.coordinated := by
  refine completion.keeps rounds mem fun dependency isRequired isFailed => ?_
  have isSent := (rounds.branches branch mem).2.1
  rcases rounds.inWaves _ isSent with ⟨index, isWave, inWave⟩
  rcases dependency_in_earlier_wave inWave isRequired with ⟨earlier, isEarlier, inEarlier⟩
  exact rounds.harmless earlier (by omega) dependency isFailed inEarlier _ (sentRequested isSent)
    isRequired

theorem Completion.none_skipped (completion : Completion requested before)
    (rounds : Rounds generationId requested sent [] before) (sentRequested : sent ⊆ requested)
    (onlyKey : OnlyKeyFails generationId before.coordinated) :
    ∀ branch ∈ generationStates before.coordinated, branch.status ≠ .skipped := by
  intro branch mem isSkipped
  rcases completion.skipped_requires rounds mem isSkipped with
    ⟨dependency, isRequired, isFailed⟩
  rcases mem_failedTypes.mp isFailed with ⟨failed, stored, rfl, hasFailed⟩
  have kept := completion.keeps_failed rounds sentRequested stored
  rcases mem_generationStates_coordinated.mp kept with ⟨isMember, isCurrent⟩
  have isKey := onlyKey failed isMember (isCurrent.trans rounds.isCurrent) hasFailed
  rw [isKey] at isRequired
  exact answerKey_not_required _ isRequired

/-- References of types the cycle does not ask for are as they were. -/
def OthersKept (requested : List String) (before state : TeachingPackState) : Prop :=
  ∀ reference : ArtifactReference, reference.artifactType ∉ requested →
    (reference ∈ state.artifactReferences.members ↔
      reference ∈ before.artifactReferences.members)

theorem OthersKept.writeArtifact (kept : OthersKept requested before state)
    (fresh : FreshDocuments before) (isRequested : payload.artifactType ∈ requested)
    (sameId : payload.artifactGenerationId = before.currentId) (outcome : ArtifactOutcome) :
    OthersKept requested before (state.writeArtifact payload outcome) := by
  intro reference notRequested
  rw [← kept reference notRequested]
  have written {other : ArtifactReference}
      (isNew : other ∈ (generateOneArtifact payload outcome).1.toList) :=
    generateOneArtifact_reference (Option.mem_toList.mp isNew)
  constructor
  · intro mem
    rcases Channel.mem_merge.mp mem with isLast | ⟨stored, _⟩
    · have isType := (written isLast.mem).2.2.1
      exact absurd (isType ▸ isRequested) notRequested
    · exact stored
  · intro stored
    refine Channel.mem_merge.mpr (.inr ⟨stored, fun other isNew sameDocument => ?_⟩)
    have isDocument := (written isNew).2.1
    rw [sameDocument, sameId] at isDocument
    exact (fresh reference ((kept reference notRequested).mp stored)).2 _ isDocument

theorem othersKept_trajectory (atLeastOne : 1 ≤ parallelism) (starts : start.Starts)
    (settled : start.state.Settled) (fresh : FreshDocuments start.state) (inputs : ℕ → BranchEnd)
    (n : ℕ) :
    OthersKept start.state.requestedTypes start.state
      ((fanoutMachine parallelism).trajectory start inputs n).1.state := by
  induction n with
  | zero => exact fun _ _ => Iff.rfl
  | succ n ih =>
    have standing := standing_trajectory atLeastOne starts inputs n
    have cycle := Cycle.trajectory atLeastOne starts settled inputs n
    have stepped := standing.stepped atLeastOne (inputs n)
    change OthersKept _ _ (FanoutRun.step parallelism _ (inputs n)).1.state
    generalize FanoutRun.step parallelism _ (inputs n) = after at stepped ⊢
    generalize ((fanoutMachine parallelism).trajectory start inputs n).1 = run at *
    cases stepped with
    | completes | sends =>
      unfold OthersKept
      rw [coordinated_artifactReferences]
      exact ih
    | rests => exact ih
    | @branchEnds state sends rest payload incomplete someIndex taken order sameId rounds =>
      have payloadMem : payload ∈ sends := order.subset List.mem_cons_self
      have isSent : payload.artifactType ∈
          sentTypes ((fanoutMachine parallelism).trajectory start inputs n).2 := by
        cases standing with
        | generating _ _ _ _ pending => exact pending.pendingSent (List.mem_map_of_mem payloadMem)
      exact ih.writeArtifact fresh (cycle.sentRequested isSent) (sameId payload payloadMem) _

theorem regenerates_requested (atLeastOne : 1 ≤ parallelism) (starts : start.Starts)
    (settled : start.state.Settled) (fresh : FreshDocuments start.state)
    (planned : start.state.requestedTypes ⊆ planTypes) (inputs : ℕ → BranchEnd) (n : ℕ)
    (isFinished : ((fanoutMachine parallelism).trajectory start inputs n).1.position = .finished) :
    GeneratesExactly start.state.requestedTypes start.state
      (sentTypes ((fanoutMachine parallelism).trajectory start inputs n).2)
      ((fanoutMachine parallelism).trajectory start inputs n).1.state where
  onlyThese := (Cycle.trajectory atLeastOne starts settled inputs n).sentRequested
  allOfThem := by
    rcases ended_trajectory atLeastOne starts settled inputs n isFinished with
      ⟨before, isBefore, rounds, completion⟩
    rw [isBefore]
    exact fun noneSkipped => completion.all_sent rounds noneSkipped planned
  othersKept := othersKept_trajectory atLeastOne starts settled fresh inputs n

theorem exists_all_sent (atLeastOne : 1 ≤ parallelism) (starts : start.Starts)
    (settled : start.state.Settled) (planned : start.state.requestedTypes ⊆ planTypes) :
    ∃ n, ((fanoutMachine parallelism).trajectory start passing n).1.position = .finished ∧
      (∀ branch ∈ generationStates ((fanoutMachine parallelism).trajectory start passing n).1.state,
        branch.status ≠ .skipped) ∧
      start.state.requestedTypes ⊆
        sentTypes ((fanoutMachine parallelism).trajectory start passing n).2 := by
  rcases finishes atLeastOne starts passing with ⟨n, isFinished⟩
  rcases ended_trajectory atLeastOne starts settled passing n isFinished with
    ⟨before, isBefore, rounds, completion⟩
  have sentRequested := (Cycle.trajectory atLeastOne starts settled passing n).sentRequested
  have onlyKey := onlyKeyFails_trajectory atLeastOne starts n
  rw [isBefore] at onlyKey
  have noneSkipped := completion.none_skipped rounds sentRequested onlyKey
  refine ⟨n, isFinished, ?_, completion.all_sent rounds noneSkipped planned⟩
  rw [isBefore]
  exact noneSkipped

theorem GeneratesExactly.congr {types others : List String} {result : TeachingPackState}
    (exactly : GeneratesExactly types before sent result)
    (same : ∀ artifactType, artifactType ∈ types ↔ artifactType ∈ others) :
    GeneratesExactly others before sent result where
  onlyThese artifactType member := (same artifactType).mp (exactly.onlyThese member)
  allOfThem noneSkipped artifactType member :=
    exactly.allOfThem noneSkipped ((same artifactType).mpr member)
  othersKept reference notOther :=
    exactly.othersKept reference fun member => notOther ((same _).mp member)

end Cycles

/-! ## The recorded scope -/

/-- No scope is recorded, or it has the types that are rejected now. -/
def FreshScope (state : TeachingPackState) : Prop :=
  state.artifactRegenerationScope = [] ∨ ∀ artifactType,
    artifactType ∈ state.artifactRegenerationScope ↔
      artifactType ∈ state.rejectedGenerationTypes

section Scope

variable {parallelism : Nat} {state : TeachingPackState}

theorem requestedTypes_of_rejection (rejected : state.rejectedGenerationTypes ≠ []) :
    state.requestedTypes = state.scopedGenerationTypes ∧ state.scopedGenerationTypes ≠ [] := by
  have someScope : state.scopedGenerationTypes ≠ [] := by
    unfold scopedGenerationTypes
    split
    · exact rejected
    · next someScope => exact someScope
  refine ⟨?_, someScope⟩
  unfold TeachingPackState.requestedTypes
  split
  · next noScope => exact absurd noScope someScope
  · rfl

theorem regeneratesRejected_iff (atLeastOne : 1 ≤ parallelism) (requests : Requests state)
    (numbered : Numbered state) (documents : NumberedDocuments state)
    (complete : state.artifactFanoutComplete = true) (pending : state.pendingRejections ≠ []) :
    RegeneratesRejected parallelism state ↔ FreshScope state := by
  have rejected := requests.rejectedGenerationTypes_ne_nil pending
  have isNew : state.needsNewGenerationCycle = true := by
    simp [needsNewGenerationCycle, complete, rejected]
  rcases requestedTypes_of_rejection rejected with ⟨isScope, someScope⟩
  have starts := numbered.starts isNew
  have settled : state.Settled := .inl someScope
  have planned : state.requestedTypes ⊆ planTypes := by
    rw [isScope]
    exact fun _ isScoped => (requests.inScope isScoped).2
  have exactly (inputs : ℕ → BranchEnd) (n : ℕ) :=
    regenerates_requested atLeastOne starts settled (documents.fresh numbered isNew) planned
      inputs n
  constructor
  · intro regenerates
    rcases exists_all_sent atLeastOne starts settled planned with
      ⟨n, isFinished, noneSkipped, allSent⟩
    have asked := regenerates passing n isFinished
    cases recorded : state.artifactRegenerationScope with
    | nil => exact .inl recorded
    | cons first rest =>
      right
      have isRecorded : state.requestedTypes = state.artifactRegenerationScope := by
        rw [isScope, scopedGenerationTypes, recorded]
      rw [isRecorded] at allSent
      intro artifactType
      refine ⟨fun mem => asked.onlyThese (allSent mem), fun mem => ?_⟩
      have isSent := (exactly passing n isFinished).onlyThese
        (asked.allOfThem noneSkipped mem)
      rwa [isRecorded] at isSent
  · intro fresh inputs n isFinished
    apply (exactly inputs n isFinished).congr
    intro artifactType
    rw [isScope, scopedGenerationTypes]
    rcases fresh with noScope | sameTypes
    · rw [noScope]
    · split
      · rfl
      · exact sameTypes artifactType

end Scope

/-- After a response that rejects stored artifacts, the next cycle generates
them and what depends on them exactly if the recorded scope, if any, names the
same types. -/
theorem rejection_regenerated_iff {config : GraphConfig} (atLeastOne : 1 ≤ config.parallelism)
    {guard : Guard GraphRun GraphInput (Option Visit)} {run : GraphRun}
    {history : History GraphInput (Option Visit)}
    (reached : (graphMachine config).Run guard run history)
    (complete : run.state.artifactFanoutComplete = true)
    (pending : run.state.pendingRejections ≠ []) :
    RegeneratesRejected config.parallelism run.state ↔ FreshScope run.state := by
  have keeps := keepsRequest_of_run reached
  exact regeneratesRejected_iff atLeastOne keeps.requests keeps.numbered keeps.documents complete
    pending

def rejectQuiz : GatePayload :=
  ⟨some "reject_selected", none, some [⟨"quiz-1", "too hard"⟩], none, false⟩

def rejectLessonOnly : GatePayload :=
  ⟨some "reject_selected", none, some [⟨"lesson-1", "too long"⟩], none, false⟩

def lessonAndQuizRun : GraphRun :=
  .start "run" ⟨none, ["lesson", "quiz"]⟩

/-- The pack is generated and the teacher rejects the quiz. -/
def quizRejected : List GraphInput :=
  List.replicate 13 (passingInput rejectQuiz)

/-- The quiz is generated again, and the teacher rejects the lesson. -/
def lessonRejected : List GraphInput :=
  quizRejected ++ List.replicate 5 (passingInput rejectQuiz) ++ [passingInput rejectLessonOnly]

theorem run_lessonAndQuizRun (inputs : List GraphInput) :
    (graphMachine defaultGraph).Run (fun _ _ _ => True)
      ((graphMachine defaultGraph).drive (lessonAndQuizRun, []) inputs).1
      ((graphMachine defaultGraph).drive (lessonAndQuizRun, []) inputs).2 :=
  (run_start _ _).drive inputs Machine.admits_all

theorem rejected_quiz_regenerated :
    RegeneratesRejected defaultGraph.parallelism
        ((graphMachine defaultGraph).drive (lessonAndQuizRun, []) quizRejected).1.state ↔
      FreshScope ((graphMachine defaultGraph).drive (lessonAndQuizRun, []) quizRejected).1.state :=
  rejection_regenerated_iff (by decide) (run_lessonAndQuizRun quizRejected) (by decide +kernel)
    (by decide +kernel)

/-- What a rejection asks for is read from this part of the state. -/
def TeachingPackState.rejection (state : TeachingPackState) :
    Bool × List String × List String × Bool :=
  (state.artifactFanoutComplete, state.artifactRegenerationScope, state.rejectedGenerationTypes,
    decide (state.pendingRejections = []))

/-- The scope of the rejected quiz hides that of the rejected lesson. -/
theorem rejected_lesson_not_regenerated :
    ¬ RegeneratesRejected defaultGraph.parallelism
      ((graphMachine defaultGraph).drive (lessonAndQuizRun, []) lessonRejected).1.state := by
  have keeps := keepsRequest_of_run (run_lessonAndQuizRun lessonRejected)
  have rejection : TeachingPackState.rejection
      ((graphMachine defaultGraph).drive (lessonAndQuizRun, []) lessonRejected).1.state =
      (true, ["quiz"], ["lesson", "quiz"], false) := by decide +kernel
  simp only [TeachingPackState.rejection, Prod.mk.injEq, decide_eq_false_iff_not] at rejection
  rcases rejection with ⟨complete, scope, rejected, pending⟩
  rw [regeneratesRejected_iff (by decide) keeps.requests keeps.numbered keeps.documents complete pending,
    FreshScope, scope]
  rintro (noScope | sameTypes)
  · cases noScope
  · have quizOnly := (sameTypes "lesson").mpr List.mem_cons_self
    simp at quizOnly

end OhMyClass.TeachingPack
