import Mathlib.Algebra.Order.BigOperators.Group.List
import Mathlib.Tactic.Linarith

/-!
# Judge outputs

The scored output of a quality judge.  A value of the contract carries the
ranges that its validation checks, and every constructor call validates.
-/

namespace OhMyClass.Contracts

/-- A score of the contract lies between zero and ten. -/
abbrev InScoreRange (score : ℚ) : Prop := 0 ≤ score ∧ score ≤ 10

structure LayerScore where
  layer : String
  score : ℚ
  weight : ℚ
  issues : List String
  scoreInRange : InScoreRange score
  weightInRange : 0 ≤ weight ∧ weight ≤ 1

/-- The summary is shown at the approval gate, so its length is limited. -/
abbrev SummaryLength (summary : String) : Prop := 1 ≤ summary.length ∧ summary.length ≤ 500

structure JudgeOutput where
  overallScore : ℚ
  layerScores : List LayerScore
  criticalIssues : List String
  passed : Bool
  rationale : String
  teacherFacingSummary : String
  scoreInRange : InScoreRange overallScore
  someRationale : 1 ≤ rationale.length
  summaryLength : SummaryLength teacherFacingSummary

/-- What a constructor call raises, by the fields that are out of range. -/
structure ValidationError where
  fields : List String

def LayerScore.make (layer : String) (score weight : ℚ) (issues : List String) :
    Except ValidationError LayerScore :=
  if scoreInRange : InScoreRange score then
    if weightInRange : 0 ≤ weight ∧ weight ≤ 1 then
      .ok { layer, score, weight, issues, scoreInRange, weightInRange }
    else .error ⟨["weight"]⟩
  else .error ⟨"score" :: if 0 ≤ weight ∧ weight ≤ 1 then [] else ["weight"]⟩

/-- The fields of a judge output that are out of range. -/
def judgeOutputErrors (overallScore : ℚ) (rationale teacherFacingSummary : String) :
    List String :=
  (if InScoreRange overallScore then [] else ["overall_score"]) ++
  (if 1 ≤ rationale.length then [] else ["rationale"]) ++
  (if SummaryLength teacherFacingSummary then [] else ["teacher_facing_summary"])

theorem inRange_of_noErrors {overallScore : ℚ} {rationale teacherFacingSummary : String}
    (noErrors : judgeOutputErrors overallScore rationale teacherFacingSummary = []) :
    InScoreRange overallScore ∧ 1 ≤ rationale.length ∧ SummaryLength teacherFacingSummary := by
  simp only [judgeOutputErrors, List.append_eq_nil_iff, ite_eq_left_iff, reduceCtorEq,
    imp_false, not_not] at noErrors
  exact ⟨noErrors.1.1, noErrors.1.2, noErrors.2⟩

theorem noErrors_of_inRange {overallScore : ℚ} {rationale teacherFacingSummary : String}
    (scoreInRange : InScoreRange overallScore) (someRationale : 1 ≤ rationale.length) :
    judgeOutputErrors overallScore rationale teacherFacingSummary =
      if SummaryLength teacherFacingSummary then [] else ["teacher_facing_summary"] := by
  simp [judgeOutputErrors, scoreInRange, someRationale]

def JudgeOutput.make (overallScore : ℚ) (layerScores : List LayerScore)
    (criticalIssues : List String) (passed : Bool) (rationale teacherFacingSummary : String) :
    Except ValidationError JudgeOutput :=
  if noErrors : judgeOutputErrors overallScore rationale teacherFacingSummary = [] then
    .ok {
      overallScore, layerScores, criticalIssues, passed, rationale, teacherFacingSummary
      scoreInRange := (inRange_of_noErrors noErrors).1
      someRationale := (inRange_of_noErrors noErrors).2.1
      summaryLength := (inRange_of_noErrors noErrors).2.2 }
  else .error ⟨judgeOutputErrors overallScore rationale teacherFacingSummary⟩

section Make

variable {overallScore : ℚ} {layerScores : List LayerScore} {criticalIssues : List String}
  {passed : Bool} {rationale teacherFacingSummary : String}

theorem JudgeOutput.make_ok (scoreInRange : InScoreRange overallScore)
    (someRationale : 1 ≤ rationale.length) (summaryLength : SummaryLength teacherFacingSummary) :
    JudgeOutput.make overallScore layerScores criticalIssues passed rationale
        teacherFacingSummary =
      .ok { overallScore, layerScores, criticalIssues, passed, rationale, teacherFacingSummary,
            scoreInRange, someRationale, summaryLength } := by
  unfold JudgeOutput.make
  rw [dif_pos]
  rw [noErrors_of_inRange scoreInRange someRationale, if_pos summaryLength]

theorem JudgeOutput.make_error (scoreInRange : InScoreRange overallScore)
    (someRationale : 1 ≤ rationale.length) (tooLong : ¬ SummaryLength teacherFacingSummary) :
    JudgeOutput.make overallScore layerScores criticalIssues passed rationale
        teacherFacingSummary = .error ⟨["teacher_facing_summary"]⟩ := by
  unfold JudgeOutput.make
  rw [dif_neg] <;> rw [noErrors_of_inRange scoreInRange someRationale, if_neg tooLong]
  exact nofun

end Make

/-! ## Means -/

def mean (scores : List ℚ) : ℚ := scores.sum / scores.length

theorem mean_inRange {scores : List ℚ} {most : ℚ} (nonneg : 0 ≤ most)
    (inRange : ∀ score ∈ scores, 0 ≤ score ∧ score ≤ most) :
    0 ≤ mean scores ∧ mean scores ≤ most := by
  have atMost := scores.sum_le_card_nsmul most fun score mem => (inRange score mem).2
  rw [nsmul_eq_mul, mul_comm] at atMost
  constructor
  · exact div_nonneg (List.sum_nonneg fun score mem => (inRange score mem).1) (Nat.cast_nonneg _)
  · exact div_le_of_le_mul₀ (Nat.cast_nonneg _) nonneg atMost

end OhMyClass.Contracts
