import OhMyClass.Quality.Judge

/-!
# Majorities of the configured judges

When a judged pass is one of two thirds of the configured judges, and when
what the deterministic gates name is told among the critical issues.
-/

namespace OhMyClass.Quality

open OhMyClass.Contracts AdaptiveJudge

section Judging

variable {adaptive : AdaptiveJudge} {issues : List String} {approved : Bool}
  {result : JudgeResult}

/-- A code is told by a returned output, is an issue by itself, or tells that
the approval is missing. -/
def Listed (outputs : List JudgeOutput) (issues : List String) (approved : Bool)
    (code : String) : Prop :=
  (∃ output ∈ outputs, code ∈ output.criticalIssues) ∨ code ∈ issues ∨
    approved = false ∧ code = "teacher_gate_not_approved"

section

variable (someJudge : 1 ≤ adaptive.numJudges)

include someJudge

theorem rawOutputs_of_goesOn (goesOn : adaptive.GoesOn) :
    ∃ available, adaptive.rawOutputs = .ok (adaptive.returned, available) := by
  unfold rawOutputs
  by_cases noOutputs : adaptive.returned = []
  · rcases callLlmJudges_of_none someJudge noOutputs with ⟨error, isError⟩
    have isDeterministic := goesOn.resolve_left (not_not_intro noOutputs)
    rw [isError, isDeterministic, noOutputs]
    exact ⟨false, rfl⟩
  · rw [callLlmJudges_of_parsed noOutputs]
    exact ⟨true, rfl⟩

theorem rawOutputs_of_not_goesOn (stops : ¬ adaptive.GoesOn) :
    ∃ error, adaptive.rawOutputs = .error error := by
  rcases not_or.mp stops with ⟨noOutputs, notDeterministic⟩
  rcases callLlmJudges_of_none someJudge (not_not.mp noOutputs) with ⟨error, isError⟩
  unfold rawOutputs
  rw [isError]
  cases isStrategy : adaptive.unavailableStrategy with
  | failClosed => exact ⟨_, rfl⟩
  | useDeterministicOnly => exact absurd isStrategy notDeterministic

theorem judge_of_goesOn (goesOn : adaptive.GoesOn) {aggregated : JudgeOutput}
    (isAggregate : aggregate adaptive.returned adaptive.passThreshold = .ok aggregated) :
    ∃ available, adaptive.judge issues approved =
      (do
        let (finalOutput, wasBlocked, violations) ←
          (enforceHardBlocks aggregated issues approved).mapError .validationError
        return ⟨finalOutput, wasBlocked, violations, available⟩) := by
  rcases rawOutputs_of_goesOn someJudge goesOn with ⟨available, isRaw⟩
  refine ⟨available, ?_⟩
  unfold judge
  rw [isRaw]
  simp only [bind, Except.bind, isAggregate]

theorem judge_isOk_iff :
    (∃ result, adaptive.judge issues approved = .ok result) ↔
      adaptive.GoesOn ∧
        SummaryFits (firstSummary adaptive.returned) (hardBlockViolations issues approved) := by
  rcases aggregate_ok adaptive.returned adaptive.passThreshold with
    ⟨aggregated, isAggregate, _, _, summary⟩
  rw [← summary, ← enforceHardBlocks_isOk_iff]
  by_cases goesOn : adaptive.GoesOn
  · rcases judge_of_goesOn someJudge goesOn isAggregate with ⟨available, isJudge⟩
    rw [isJudge, and_iff_right goesOn]
    cases enforceHardBlocks aggregated issues approved with
    | ok enforced => exact iff_of_true ⟨_, rfl⟩ ⟨_, rfl⟩
    | error error => exact iff_of_false nofun nofun
  · rcases rawOutputs_of_not_goesOn someJudge goesOn with ⟨error, isError⟩
    unfold judge
    rw [isError]
    exact iff_of_false nofun fun both => goesOn both.1

theorem judge_spec (judged : adaptive.judge issues approved = .ok result) :
    (result.judgeOutput.passed = true ↔
      hardBlockViolations issues approved = [] ∧
        Wins adaptive.passThreshold adaptive.returned) ∧
    ∀ code ∈ complianceHardBlockCodes,
      code ∈ result.judgeOutput.criticalIssues ↔
        Listed adaptive.returned issues approved code := by
  rcases aggregate_ok adaptive.returned adaptive.passThreshold with
    ⟨aggregated, isAggregate, wins, critical, _⟩
  have goesOn := ((judge_isOk_iff someJudge).mp ⟨result, judged⟩).1
  rcases judge_of_goesOn someJudge goesOn isAggregate with ⟨available, isJudge⟩
  rw [isJudge] at judged
  cases isEnforced : enforceHardBlocks aggregated issues approved with
  | error error =>
    rw [isEnforced] at judged
    cases judged
  | ok enforced =>
    rw [isEnforced] at judged
    cases judged
    rcases enforceHardBlocks_cases isEnforced with
      ⟨noViolations, same⟩ | ⟨someViolation, notPassed, violations⟩
    · constructor
      · rw [same, wins, and_iff_right noViolations]
      · intro code isCode
        have notViolation : code ∈ hardBlockViolations issues approved ↔
            code ∈ issues ∨ approved = false ∧ code = "teacher_gate_not_approved" :=
          code_mem_hardBlockViolations isCode
        rw [noViolations] at notViolation
        rw [same, critical code isCode, Listed, ← notViolation]
        simp
    · constructor
      · rw [notPassed]
        exact iff_of_false Bool.false_ne_true fun both => someViolation both.1
      · intro code isCode
        rw [violations, mem_appendNew, critical code isCode, code_mem_hardBlockViolations isCode,
          Listed]

end

end Judging

/-! ## Sound judging -/

/-- A real majority of the configured judges, with a mean score and no
critical issue. -/
structure RealMajority (adaptive : AdaptiveJudge) : Prop where
  twoThirds : 2 * adaptive.numJudges ≤ 3 * passCount adaptive.returned
  meanReaches : adaptive.passThreshold ≤ meanScore adaptive.returned
  noCritical : ∀ output ∈ adaptive.returned, output.criticalIssues = []

/-- A judge run returns once an output was parsed, it passes only what a real
majority passes and no issue blocks, and it tells each code that is named. -/
structure SoundJudging (adaptive : AdaptiveJudge) (issues : List String) (approved : Bool) :
    Prop where
  returns : adaptive.returned ≠ [] → ∃ result, adaptive.judge issues approved = .ok result
  majority : ∀ result, adaptive.judge issues approved = .ok result →
    result.judgeOutput.passed = true → RealMajority adaptive ∧
      ∀ issue ∈ issues, ∀ code ∈ complianceHardBlockCodes, ¬ Names issue code
  blocks : ∀ result, adaptive.judge issues approved = .ok result →
    ∀ issue ∈ issues, ∀ code ∈ complianceHardBlockCodes, Names issue code →
      result.judgeOutput.passed = false ∧ code ∈ result.judgeOutput.criticalIssues

/-- The summary has room, what wins has two thirds of the configured judges,
and each code that is named is listed. -/
structure Judgeable (adaptive : AdaptiveJudge) (issues : List String) (approved : Bool) :
    Prop where
  fits : adaptive.returned ≠ [] →
    SummaryFits (firstSummary adaptive.returned) (hardBlockViolations issues approved)
  counted : hardBlockViolations issues approved = [] →
    Wins adaptive.passThreshold adaptive.returned →
    2 * adaptive.numJudges ≤ 3 * passCount adaptive.returned
  listed : adaptive.GoesOn →
    SummaryFits (firstSummary adaptive.returned) (hardBlockViolations issues approved) →
    ∀ issue ∈ issues, ∀ code ∈ complianceHardBlockCodes, Names issue code →
      Listed adaptive.returned issues approved code

/-- Of two or more judges an only output is no two thirds, so what has two
thirds has won a vote. -/
theorem vote_of_wins {numJudges : Nat} {passThreshold : ℚ} {outputs : List JudgeOutput}
    (judges : 2 ≤ numJudges) (wins : Wins passThreshold outputs)
    (counted : 2 * numJudges ≤ 3 * passCount outputs) :
    passThreshold ≤ meanScore outputs ∧ ∀ output ∈ outputs, output.criticalIssues = [] := by
  match outputs with
  | [] => exact wins.elim
  | [output] =>
    have atMost : passCount [output] ≤ 1 := List.countP_le_length
    omega
  | first :: second :: rest =>
    rcases wins with ⟨_, meanReaches, noCritical⟩
    refine ⟨meanReaches, fun output mem => ?_⟩
    rw [List.eq_nil_iff_forall_not_mem]
    intro issue isCritical
    have inUnion : issue ∈ unionIssues (first :: second :: rest) :=
      mem_appendNew.mpr (.inr (List.mem_flatMap.mpr ⟨output, mem, isCritical⟩))
    rw [noCritical] at inUnion
    cases inUnion

section Exactness

variable {adaptive : AdaptiveJudge} {issues : List String} {approved : Bool}

theorem SoundJudging.judgeable (sound : SoundJudging adaptive issues approved)
    (someJudge : 1 ≤ adaptive.numJudges) : Judgeable adaptive issues approved where
  fits some := ((judge_isOk_iff someJudge).mp (sound.returns some)).2
  counted noViolations wins := by
    have goesOn : adaptive.GoesOn := by
      left
      intro noOutputs
      rw [noOutputs] at wins
      exact wins
    rcases (judge_isOk_iff someJudge).mpr ⟨goesOn, .inl noViolations⟩ with ⟨result, judged⟩
    have passed := (judge_spec someJudge judged).1.mpr ⟨noViolations, wins⟩
    exact (sound.majority result judged passed).1.twoThirds
  listed goesOn room issue isIssue code isCode named := by
    rcases (judge_isOk_iff someJudge).mpr ⟨goesOn, room⟩ with ⟨result, judged⟩
    exact ((judge_spec someJudge judged).2 code isCode).mp
      (sound.blocks result judged issue isIssue code isCode named).2

/-- A final output that passes is that of a real majority, and no issue names
a code, as a named code would be listed. -/
theorem Judgeable.majority (judgeable : Judgeable adaptive issues approved)
    (judges : 2 ≤ adaptive.numJudges) {result : JudgeResult}
    (judged : adaptive.judge issues approved = .ok result)
    (passed : result.judgeOutput.passed = true) :
    RealMajority adaptive ∧
      ∀ issue ∈ issues, ∀ code ∈ complianceHardBlockCodes, ¬ Names issue code := by
  have someJudge : 1 ≤ adaptive.numJudges := by omega
  rcases (judge_spec someJudge judged).1.mp passed with ⟨noViolations, wins⟩
  have counted := judgeable.counted noViolations wins
  rcases vote_of_wins judges wins counted with ⟨meanReaches, noCritical⟩
  refine ⟨⟨counted, meanReaches, noCritical⟩, ?_⟩
  intro issue isIssue code isCode named
  rcases (judge_isOk_iff someJudge).mp ⟨result, judged⟩ with ⟨goesOn, room⟩
  rcases judgeable.listed goesOn room issue isIssue code isCode named with
    ⟨output, mem, isCritical⟩ | isViolation
  · rw [noCritical output mem] at isCritical
    cases isCritical
  · have violated := (code_mem_hardBlockViolations isCode).mpr isViolation
    rw [noViolations] at violated
    cases violated

theorem Judgeable.sound (judgeable : Judgeable adaptive issues approved)
    (judges : 2 ≤ adaptive.numJudges) : SoundJudging adaptive issues approved := by
  have someJudge : 1 ≤ adaptive.numJudges := by omega
  constructor
  · intro some
    exact (judge_isOk_iff someJudge).mpr ⟨.inl some, judgeable.fits some⟩
  · intro result judged passed
    exact judgeable.majority judges judged passed
  · intro result judged issue isIssue code isCode named
    constructor
    · rw [Bool.eq_false_iff]
      intro passed
      exact (judgeable.majority judges judged passed).2 issue isIssue code isCode named
    · rcases (judge_isOk_iff someJudge).mp ⟨result, judged⟩ with ⟨goesOn, room⟩
      exact ((judge_spec someJudge judged).2 code isCode).mpr
        (judgeable.listed goesOn room issue isIssue code isCode named)

end Exactness

/-- A judge that passes what it reads. -/
def passingOutput : JudgeOutput where
  overallScore := 9
  layerScores := []
  criticalIssues := []
  passed := true
  rationale := "clear"
  teacherFacingSummary := "Ready."
  scoreInRange := by constructor <;> norm_num
  someRationale := by decide
  summaryLength := by decide +kernel

/-- The first of three judges passes, the calls of the others fail. -/
def oneOfThree : AdaptiveJudge where
  llmTransport call := if call = 0 then .judged passingOutput else .raised "timed out"
  numJudges := 3
  passThreshold := 7
  unavailableStrategy := .failClosed

end OhMyClass.Quality
