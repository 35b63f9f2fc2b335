import OhMyClass.Contracts.JudgeOutput
import OhMyClass.TeachingPack.ArtifactStatus

/-!
# Judged artifacts

What deterministic gates enforce, and the judge they are enforced on.
-/

namespace OhMyClass.Quality

open List

/-!
## Hard blocks

Violations that deterministic gates find, and the override that they force on
the output of a judge.
-/

section

open OhMyClass.Contracts
open OhMyClass.TeachingPack (strip lowerChar)

def complianceHardBlockCodes : List String :=
  ["schema_invalid", "missing_doctype", "external_assets", "external_asset",
    "native_radio_inputs", "unmanaged_js_runtime", "missing_brand_string", "contrast_below_aa",
    "missing_alt_text", "broken_heading_order", "missing_form_label", "missing_lang",
    "missing_long_description", "answer_key_leakage", "pii_leakage", "teacher_gate_not_approved"]

/-- `text.strip().lower().replace(" ", "_")`. -/
def underscored (text : List Char) : List Char :=
  ((strip text).flatMap lowerChar).map fun c => if c = ' ' then '_' else c

/-- Only what follows the last colon is compared with the codes. -/
def normalizeIssue (issue : String) : String :=
  .ofList (strip (((underscored issue.toList).splitOn ':').getLast?.getD []))

def hardBlockViolations (deterministicIssues : List String) (teacherApproved : Bool) :
    List String :=
  (deterministicIssues.filter fun issue => normalizeIssue issue ∈ complianceHardBlockCodes) ++
    if teacherApproved then [] else ["teacher_gate_not_approved"]

theorem normalizeIssue_code {code : String} (isCode : code ∈ complianceHardBlockCodes) :
    normalizeIssue code = code := by
  have each : ∀ code ∈ complianceHardBlockCodes, normalizeIssue code = code := by decide +kernel
  exact each code isCode

/-- A code is among the violations exactly if it is an issue by itself, or
tells that the teacher has not approved. -/
theorem code_mem_hardBlockViolations {issues : List String} {approved : Bool} {code : String}
    (isCode : code ∈ complianceHardBlockCodes) :
    code ∈ hardBlockViolations issues approved ↔
      code ∈ issues ∨ approved = false ∧ code = "teacher_gate_not_approved" := by
  simp only [hardBlockViolations, mem_append, mem_filter, decide_eq_true_eq,
    normalizeIssue_code isCode, isCode, and_true]
  cases approved <;> simp

/-- An issue names a code where one of its segments reads as the code. -/
def Names (issue code : String) : Prop :=
  ∃ segment ∈ issue.toList.splitOn ':', String.ofList (underscored segment) = code
  deriving Decidable

/-- The issue that a run reports for an artifact without a valid schema. -/
example : Names "artifacts[0]: schema_invalid: title" "schema_invalid" ∧
    hardBlockViolations ["artifacts[0]: schema_invalid: title"] true = [] := by
  decide +kernel

/-- The items that are not there yet are added at the end, one by one. -/
def appendNew (existing items : List String) : List String :=
  items.foldl (fun seen item => if item ∈ seen then seen else seen ++ [item]) existing

@[simp]
theorem appendNew_nil (existing : List String) : appendNew existing [] = existing := rfl

theorem appendNew_cons (existing items : List String) (item : String) :
    appendNew existing (item :: items) =
      appendNew (if item ∈ existing then existing else existing ++ [item]) items := rfl

@[simp]
theorem mem_appendNew {existing items : List String} {item : String} :
    item ∈ appendNew existing items ↔ item ∈ existing ∨ item ∈ items := by
  induction items generalizing existing with
  | nil => simp
  | cons first rest ih =>
    rw [appendNew_cons, ih]
    split
    · next known =>
      rw [mem_cons]
      constructor
      · rintro (old | new)
        · exact .inl old
        · exact .inr (.inr new)
      · rintro (old | rfl | new)
        · exact .inl old
        · exact .inl known
        · exact .inr new
    · rw [mem_append, mem_singleton, mem_cons, or_assoc]

def overrideRationale (violations : List String) : String :=
  "\n[Deterministic override: " ++ ", ".intercalate violations ++ " forced fail]"

def overrideSummary (violations : List String) : String :=
  " Deterministic checks found blocking issues: " ++ ", ".intercalate violations ++ "."

def enforceHardBlocks (judgeOutput : JudgeOutput) (deterministicIssues : List String)
    (teacherApproved : Bool) : Except ValidationError (JudgeOutput × Bool × List String) :=
  match hardBlockViolations deterministicIssues teacherApproved with
  | [] => .ok (judgeOutput, false, [])
  | violations@(_ :: _) => do
    let overridden ← JudgeOutput.make judgeOutput.overallScore judgeOutput.layerScores
      (appendNew judgeOutput.criticalIssues violations) false
      (judgeOutput.rationale ++ overrideRationale violations)
      (judgeOutput.teacherFacingSummary ++ overrideSummary violations)
    return (overridden, true, violations)

/-- The summary has room for the list of the violations. -/
def SummaryFits (summary : String) (violations : List String) : Prop :=
  violations = [] ∨ summary.length + (overrideSummary violations).length ≤ 500
  deriving Decidable

section Enforce

variable {output : JudgeOutput} {issues : List String} {approved : Bool}
  {result : JudgeOutput × Bool × List String}

theorem enforceHardBlocks_isOk_iff :
    (∃ result, enforceHardBlocks output issues approved = .ok result) ↔
      SummaryFits output.teacherFacingSummary (hardBlockViolations issues approved) := by
  unfold enforceHardBlocks SummaryFits
  split
  · next noViolations => simp [noViolations]
  · next violations first rest isViolations =>
    have someRationale : 1 ≤ (output.rationale ++ overrideRationale (first :: rest)).length := by
      rw [String.length_append]
      exact le_add_right output.someRationale
    have length : SummaryLength (output.teacherFacingSummary ++ overrideSummary (first :: rest)) ↔
        output.teacherFacingSummary.length + (overrideSummary (first :: rest)).length ≤ 500 := by
      rw [SummaryLength, String.length_append, and_iff_right]
      exact le_add_right output.summaryLength.1
    rw [isViolations, ← length]
    by_cases fits : SummaryLength (output.teacherFacingSummary ++ overrideSummary (first :: rest))
    · rw [JudgeOutput.make_ok output.scoreInRange someRationale fits]
      exact iff_of_true ⟨_, rfl⟩ (.inr fits)
    · rw [JudgeOutput.make_error output.scoreInRange someRationale fits]
      exact iff_of_false nofun (by simpa using fits)

theorem enforceHardBlocks_cases (enforced : enforceHardBlocks output issues approved = .ok result) :
    (hardBlockViolations issues approved = [] ∧ result.1 = output) ∨
    (hardBlockViolations issues approved ≠ [] ∧ result.1.passed = false ∧
      result.1.criticalIssues =
        appendNew output.criticalIssues (hardBlockViolations issues approved)) := by
  unfold enforceHardBlocks at enforced
  split at enforced
  · next noViolations =>
    cases enforced
    exact .inl ⟨noViolations, rfl⟩
  · next violations first rest isViolations =>
    simp only [bind, Except.bind, pure, Except.pure] at enforced
    split at enforced
    · cases enforced
    · next overridden made =>
      cases enforced
      unfold JudgeOutput.make at made
      split at made
      · cases made
        exact .inr ⟨by simp [isViolations], rfl, by rw [isViolations]⟩
      · cases made

end Enforce

end

/-!
## The adaptive judge

Several judge calls may each fail.  What they return is aggregated by a vote,
and the deterministic gates are enforced on the outcome.
-/

section

open OhMyClass.Contracts

/-! ## The vote -/

inductive JudgeError where
  | valueError (message : String)
  | validationError (error : ValidationError)
  | judgeUnavailable (message : String)

/-- The scores of a layer in all outputs. -/
def layerValues (judgeOutputs : List JudgeOutput) (layerName : String) : List LayerScore :=
  (judgeOutputs.flatMap JudgeOutput.layerScores).filter fun layer => layer.layer = layerName

/-- The mean score of a layer under the weight that was read last. -/
def averageLayer (judgeOutputs : List JudgeOutput) (layerName : String) :
    Except ValidationError (Option LayerScore) :=
  match (layerValues judgeOutputs layerName).getLast? with
  | none => .ok none
  | some last => some <$> LayerScore.make layerName
      (mean ((layerValues judgeOutputs layerName).map LayerScore.score)) last.weight []

def layerNames : List String := ["format_compliance", "content_quality", "presentation"]

def passCount (judgeOutputs : List JudgeOutput) : Nat :=
  judgeOutputs.countP JudgeOutput.passed

def meanScore (judgeOutputs : List JudgeOutput) : ℚ :=
  mean (judgeOutputs.map JudgeOutput.overallScore)

def unionIssues (judgeOutputs : List JudgeOutput) : List String :=
  appendNew [] (judgeOutputs.flatMap JudgeOutput.criticalIssues)

/-- Two thirds of the outputs pass, with a mean score and no critical issue. -/
def MajorityPass (passThreshold : ℚ) (judgeOutputs : List JudgeOutput) : Prop :=
  2 * judgeOutputs.length ≤ 3 * passCount judgeOutputs ∧
    passThreshold ≤ meanScore judgeOutputs ∧ unionIssues judgeOutputs = []
  deriving Decidable

def majorityVote (judgeOutputs : List JudgeOutput) (passThreshold : ℚ) :
    Except JudgeError JudgeOutput :=
  match judgeOutputs with
  | first :: _ :: _ => Except.mapError .validationError do
      let layerScores ← layerNames.mapM (averageLayer judgeOutputs)
      JudgeOutput.make (meanScore judgeOutputs) (layerScores.filterMap id)
        (unionIssues judgeOutputs) (MajorityPass passThreshold judgeOutputs) first.rationale
        first.teacherFacingSummary
  | _ => .error (.valueError "Majority vote requires at least 2 judge outputs")

theorem averageLayer_isOk (judgeOutputs : List JudgeOutput) (layerName : String) :
    ∃ average, averageLayer judgeOutputs layerName = .ok average := by
  unfold averageLayer
  split
  · exact ⟨none, rfl⟩
  · next last isLast =>
    have inRange : InScoreRange (mean ((layerValues judgeOutputs layerName).map LayerScore.score)) := by
      apply mean_inRange (by norm_num)
      exact forall_mem_map.mpr fun layer _ => layer.scoreInRange
    unfold LayerScore.make
    rw [dif_pos inRange, dif_pos last.weightInRange]
    exact ⟨_, rfl⟩

theorem meanScore_inScoreRange (judgeOutputs : List JudgeOutput) :
    InScoreRange (meanScore judgeOutputs) := by
  apply mean_inRange (by norm_num)
  exact forall_mem_map.mpr fun output _ => output.scoreInRange

theorem mapM_isOk {α β ε : Type} {f : α → Except ε β} (total : ∀ item, ∃ result, f item = .ok result)
    (items : List α) : ∃ results, items.mapM f = .ok results := by
  induction items with
  | nil => exact ⟨[], rfl⟩
  | cons first rest ih =>
    rcases total first with ⟨result, isResult⟩
    rcases ih with ⟨results, areResults⟩
    exact ⟨result :: results, by simp [mapM_cons, isResult, areResults, bind, Except.bind,
      pure, Except.pure]⟩

theorem majorityVote_ok (first second : JudgeOutput) (rest : List JudgeOutput)
    (passThreshold : ℚ) :
    ∃ vote, majorityVote (first :: second :: rest) passThreshold = .ok vote ∧
      vote.passed = decide (MajorityPass passThreshold (first :: second :: rest)) ∧
      vote.criticalIssues = unionIssues (first :: second :: rest) ∧
      vote.teacherFacingSummary = first.teacherFacingSummary := by
  rcases mapM_isOk (averageLayer_isOk (first :: second :: rest)) layerNames with
    ⟨layers, areLayers⟩
  unfold majorityVote
  simp only [areLayers, bind, Except.bind, JudgeOutput.make_ok (meanScore_inScoreRange _)
    first.someRationale first.summaryLength]
  exact ⟨_, rfl, rfl, rfl, rfl⟩

/-- What becomes of one judge call. -/
inductive JudgeReply where
  | judged (output : JudgeOutput)
  | unparsable (error : String)
  | raised (error : String)

def JudgeReply.result : JudgeReply → Except String JudgeOutput
  | judged output => .ok output
  | unparsable error => .error error
  | raised error => .error error

/-- One call of the loop: an output is collected, an error is remembered. -/
def collectReply (collected : List JudgeOutput × Option String) (reply : JudgeReply) :
    List JudgeOutput × Option String :=
  match reply.result with
  | .ok output => (collected.1 ++ [output], collected.2)
  | .error error => (collected.1, some error)

def callLlmJudges (numJudges : Nat) (llmTransport : Nat → JudgeReply) :
    Except String (List JudgeOutput) :=
  match ((List.range numJudges).map llmTransport).foldl collectReply ([], none) with
  | ([], some lastError) => .error lastError
  | (outputs, _) => .ok outputs

/-- The outputs that the calls returned, in order. -/
def parsedOutputs (numJudges : Nat) (llmTransport : Nat → JudgeReply) : List JudgeOutput :=
  ((List.range numJudges).map llmTransport).filterMap fun reply => reply.result.toOption

theorem foldl_collectReply (replies : List JudgeReply)
    (collected : List JudgeOutput × Option String) :
    (replies.foldl collectReply collected).1 =
        collected.1 ++ replies.filterMap (fun reply => reply.result.toOption) ∧
      (replies ≠ [] → replies.filterMap (fun reply => reply.result.toOption) = [] →
        (replies.foldl collectReply collected).2 ≠ none) := by
  induction replies generalizing collected with
  | nil => simp
  | cons reply rest ih =>
    rw [List.foldl_cons]
    rcases ih (collectReply collected reply) with ⟨outputs, lastError⟩
    cases isResult : reply.result with
    | ok output =>
      constructor
      · rw [outputs]
        simp [collectReply, isResult, Except.toOption]
      · intro _ noOutputs
        simp [isResult, Except.toOption] at noOutputs
    | error error =>
      constructor
      · rw [outputs]
        simp [collectReply, isResult, Except.toOption]
      · intro _ noOutputs
        cases rest with
        | nil => simp [collectReply, isResult]
        | cons next later =>
          apply lastError (cons_ne_nil next later)
          simpa [isResult, Except.toOption] using noOutputs

theorem callLlmJudges_of_parsed {numJudges : Nat} {llmTransport : Nat → JudgeReply}
    (some : parsedOutputs numJudges llmTransport ≠ []) :
    callLlmJudges numJudges llmTransport = .ok (parsedOutputs numJudges llmTransport) := by
  have outputs := (foldl_collectReply ((List.range numJudges).map llmTransport) ([], none)).1
  unfold callLlmJudges
  split
  · next noOutputs =>
    rw [noOutputs] at outputs
    exact absurd outputs.symm some
  · next collected =>
    rw [collected] at outputs
    exact congrArg Except.ok outputs

theorem callLlmJudges_of_none {numJudges : Nat} {llmTransport : Nat → JudgeReply}
    (someJudge : 1 ≤ numJudges) (none : parsedOutputs numJudges llmTransport = []) :
    ∃ error, callLlmJudges numJudges llmTransport = .error error := by
  have spec := foldl_collectReply ((List.range numJudges).map llmTransport) ([], .none)
  have someReply : (List.range numJudges).map llmTransport ≠ [] := by
    simpa using Nat.one_le_iff_ne_zero.mp someJudge
  rcases Option.ne_none_iff_exists'.mp (spec.2 someReply none) with ⟨error, isError⟩
  have collected : ((List.range numJudges).map llmTransport).foldl collectReply ([], .none) =
      ([], some error) := Prod.ext (spec.1.trans none) isError
  refine ⟨error, ?_⟩
  unfold callLlmJudges
  rw [collected]

/-! ## Judging -/

inductive UnavailableStrategy where
  | failClosed
  | useDeterministicOnly

structure AdaptiveJudge where
  llmTransport : Nat → JudgeReply
  numJudges : Nat
  passThreshold : ℚ
  unavailableStrategy : UnavailableStrategy

structure JudgeResult where
  judgeOutput : JudgeOutput
  deterministicBlocked : Bool
  hardBlockViolations : List String
  llmAvailable : Bool

/-- The output of a judge that was not reached. -/
def unavailableOutput : JudgeOutput where
  overallScore := 0
  layerScores := []
  criticalIssues := ["llm_judge_unavailable"]
  passed := false
  rationale := "LLM judge produced no outputs; failing closed."
  teacherFacingSummary := "The automated reviewer was unavailable, so this artifact needs " ++
    "review before approval."
  scoreInRange := ⟨le_refl 0, by norm_num⟩
  someRationale := by decide
  summaryLength := by decide +kernel

def aggregate (rawOutputs : List JudgeOutput) (passThreshold : ℚ) :
    Except JudgeError JudgeOutput :=
  match rawOutputs with
  | [] => .ok unavailableOutput
  | [output] => .ok output
  | outputs => majorityVote outputs passThreshold

namespace AdaptiveJudge

variable (self : AdaptiveJudge)

/-- The outputs to aggregate, and whether a judge was reached. -/
def rawOutputs : Except JudgeError (List JudgeOutput × Bool) :=
  match callLlmJudges self.numJudges self.llmTransport with
  | .ok outputs => .ok (outputs, true)
  | .error exc =>
    match self.unavailableStrategy with
    | .failClosed => .error (.judgeUnavailable ("LLM judge unavailable: " ++ exc))
    | .useDeterministicOnly => .ok ([], false)

def judge (deterministicIssues : List String) (teacherApproved : Bool) :
    Except JudgeError JudgeResult := do
  let (outputs, llmAvailable) ← self.rawOutputs
  let aggregated ← aggregate outputs self.passThreshold
  let (finalOutput, wasBlocked, violations) ←
    (enforceHardBlocks aggregated deterministicIssues teacherApproved).mapError .validationError
  return ⟨finalOutput, wasBlocked, violations, llmAvailable⟩

/-- What the configured calls returned. -/
abbrev returned : List JudgeOutput := parsedOutputs self.numJudges self.llmTransport

/-- There are outputs to go on with, be it none. -/
def GoesOn : Prop := self.returned ≠ [] ∨ self.unavailableStrategy = .useDeterministicOnly

end AdaptiveJudge

/-- The summary that the aggregated output has. -/
def firstSummary (outputs : List JudgeOutput) : String :=
  (outputs.head?.getD unavailableOutput).teacherFacingSummary

/-- An only output decides alone, several ones by their vote. -/
def Wins (passThreshold : ℚ) : List JudgeOutput → Prop
  | [] => False
  | [output] => output.passed = true
  | outputs => MajorityPass passThreshold outputs

theorem aggregate_ok (outputs : List JudgeOutput) (passThreshold : ℚ) :
    ∃ aggregated, aggregate outputs passThreshold = .ok aggregated ∧
      (aggregated.passed = true ↔ Wins passThreshold outputs) ∧
      (∀ code ∈ complianceHardBlockCodes,
        code ∈ aggregated.criticalIssues ↔ ∃ output ∈ outputs, code ∈ output.criticalIssues) ∧
      aggregated.teacherFacingSummary = firstSummary outputs := by
  match outputs with
  | [] =>
    have noCode : ∀ code ∈ complianceHardBlockCodes, code ∉ unavailableOutput.criticalIssues := by
      decide +kernel
    refine ⟨unavailableOutput, rfl, by simp [Wins, unavailableOutput], ?_, rfl⟩
    intro code isCode
    simp [noCode code isCode]
  | [output] => exact ⟨output, rfl, Iff.rfl, by simp, rfl⟩
  | first :: second :: rest =>
    rcases majorityVote_ok first second rest passThreshold with
      ⟨vote, isVote, passed, criticalIssues, summary⟩
    refine ⟨vote, isVote, by simp [passed, Wins], ?_, summary⟩
    intro code _
    rw [criticalIssues, unionIssues]
    simp

end

end OhMyClass.Quality
