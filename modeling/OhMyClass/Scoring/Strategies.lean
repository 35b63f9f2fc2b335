import Mathlib.Algebra.Order.Field.Basic
import Mathlib.Algebra.Order.Field.Rat
import Mathlib.Data.NNRat.Defs
import Mathlib.Tactic.IntervalCases
import Mathlib.Tactic.Linarith
import Mathlib.Tactic.Positivity

/-!
# Scoring strategies

Partial credit, weighted rubrics and the true/false scale.  A quotient by zero
is not a number, and neither is what is computed from it.
-/

namespace OhMyClass.Scoring

structure ScoringConfig where
  pointsTotal : Option ℚ≥0
  penaltyPerWrong : Option ℚ≥0

/-- `question.scoring?.pointsTotal ?? 1.0`. -/
def pointsTotal (scoring : Option ScoringConfig) : ℚ :=
  ((scoring.bind ScoringConfig.pointsTotal).getD 1).1

/-- `question.scoring?.penaltyPerWrong ?? 0`. -/
def penaltyPerWrong (scoring : Option ScoringConfig) : ℚ :=
  ((scoring.bind ScoringConfig.penaltyPerWrong).getD 0).1

theorem pointsTotal_nonneg (scoring : Option ScoringConfig) : 0 ≤ pointsTotal scoring :=
  Subtype.property _

theorem penaltyPerWrong_nonneg (scoring : Option ScoringConfig) : 0 ≤ penaltyPerWrong scoring :=
  Subtype.property _

structure BreakdownItem where
  itemId : String
  correct : Bool

/-- A score; the points may be no number. -/
structure ScoreResult where
  points : Option ℚ
  maxPoints : ℚ
  correctCount : Option Nat := none
  totalItems : Option Nat := none
  breakdown : Option (List BreakdownItem) := none
  feedback : Option String := none

/-- The points are a number of the range. -/
def ScoreResult.InRange (result : ScoreResult) : Prop :=
  ∃ points, result.points = some points ∧ 0 ≤ points ∧ points ≤ result.maxPoints

/-! ## Partial credit -/

structure MCOption where
  id : String
  isCorrect : Bool

structure MultipleChoiceMultiple where
  options : List MCOption
  scoring : Option ScoringConfig

namespace MultipleChoiceMultiple

variable (question : MultipleChoiceMultiple) (selectedIds : List String)

def correctIds : List String :=
  (question.options.filter MCOption.isCorrect).map MCOption.id

def correctSelected : List String :=
  selectedIds.filter fun id => id ∈ question.correctIds

def wrongSelected : List String :=
  selectedIds.filter fun id => id ∉ question.correctIds

/-- The points before they are cut off at zero. -/
def raw : ℚ :=
  (question.correctSelected selectedIds).length / question.correctIds.length *
      pointsTotal question.scoring -
    (question.wrongSelected selectedIds).length * penaltyPerWrong question.scoring

/-- Without a correct option zero is divided by zero. -/
def partialCredit : ScoreResult where
  points := if question.correctIds.length = 0 then none else some (max 0 (question.raw selectedIds))
  maxPoints := pointsTotal question.scoring
  correctCount := some (question.correctSelected selectedIds).length
  totalItems := some question.correctIds.length
  breakdown := some <| question.options.map fun option =>
    ⟨option.id, if option.id ∈ question.correctIds then decide (option.id ∈ selectedIds)
      else !decide (option.id ∈ selectedIds)⟩

end MultipleChoiceMultiple

/-! ## Rubrics -/

structure RubricCriterion where
  name : String
  weight : ℚ
  levels : Option (List ℚ)

structure RubricQuestion where
  criteria : List RubricCriterion
  scoring : Option ScoringConfig

def maxLevelScore (criterion : RubricCriterion) : ℚ :=
  match criterion.levels with
  | some (first :: rest) => rest.foldl max first
  | _ => 1

/-- The criterion scores of a response, by the names of the criteria. -/
abbrev CriterionScores := String → Option ℚ

def weightedScore (criteria : List RubricCriterion) (criterionScores : CriterionScores) : ℚ :=
  criteria.foldl (fun sum criterion =>
    let raw := (criterionScores criterion.name).getD 0
    let most := maxLevelScore criterion
    sum + (if 0 < most then raw / most else 0) * criterion.weight) 0

def rubricScoring (question : RubricQuestion) (criterionScores : CriterionScores) : ScoreResult :=
  let maxPoints := pointsTotal question.scoring
  let totalWeight := question.criteria.foldl (fun sum criterion => sum + criterion.weight) 0
  if totalWeight = 0 then
    { points := some 0
      maxPoints
      feedback := some "Rubric has no criteria with weight" }
  else
    { points := some <| min maxPoints <| max 0 <|
        weightedScore question.criteria criterionScores / totalWeight * maxPoints
      maxPoints
      breakdown := some <| question.criteria.map fun criterion =>
        ⟨criterion.name, maxLevelScore criterion ≤ (criterionScores criterion.name).getD 0⟩ }

/-! ## Four statements -/

structure TFItem where
  id : String
  isTrue : Bool

/-- The points for each number of right answers. -/
def moetScale : List ℚ :=
  [0, 1 / 10, 1 / 4, 1 / 2, 1]

structure TrueFalse4Item where
  items : List TFItem
  items_length : items.length = 4

/-- The score of the four items; an answer may be missing. -/
def vietnameseTF2025 (question : TrueFalse4Item) (answers : Nat → Option Bool) : ScoreResult :=
  let correct (entry : TFItem × Nat) : Bool := some entry.1.isTrue = answers entry.2
  let correctCount := question.items.zipIdx.countP correct
  { points := moetScale[correctCount]?
    maxPoints := 1
    correctCount := some correctCount
    totalItems := some question.items.length
    breakdown := some <| question.items.zipIdx.map fun entry => ⟨entry.1.id, correct entry⟩ }

/-! ## Scores in range -/

def ScoreResult.CountsWithin (result : ScoreResult) : Prop :=
  ∀ count ∈ result.correctCount, ∀ total ∈ result.totalItems, count ≤ total

theorem rubricScoring_inRange (question : RubricQuestion) (criterionScores : CriterionScores) :
    (rubricScoring question criterionScores).InRange := by
  have nonneg := pointsTotal_nonneg question.scoring
  unfold rubricScoring
  dsimp only
  split
  · exact ⟨0, rfl, le_refl 0, nonneg⟩
  · exact ⟨_, rfl, le_min nonneg (le_max_left _ _), min_le_left _ _⟩

theorem vietnameseTF2025_inRange (question : TrueFalse4Item) (answers : Nat → Option Bool) :
    (vietnameseTF2025 question answers).InRange ∧
      (vietnameseTF2025 question answers).CountsWithin := by
  have within (correct : TFItem × Nat → Bool) :
      question.items.zipIdx.countP correct ≤ question.items.length :=
    List.countP_le_length.trans_eq List.length_zipIdx
  have scale : ∀ count ≤ 4, ∃ points, moetScale[count]? = some points ∧ 0 ≤ points ∧ points ≤ 1 := by
    intro count few
    interval_cases count <;> exact ⟨_, rfl, by norm_num⟩
  refine ⟨scale _ ((within _).trans_eq question.items_length), ?_⟩
  rintro _ ⟨⟩ _ ⟨⟩
  exact within _

namespace MultipleChoiceMultiple

variable {question : MultipleChoiceMultiple} {selectedIds : List String}

/-- The selected ids are the correct ones. -/
def SelectsCorrect (question : MultipleChoiceMultiple) (selectedIds : List String) : Prop :=
  ∀ id, id ∈ selectedIds ↔ id ∈ question.correctIds

/-- Selections of correct options, counted with their repetitions, are right
answers. -/
structure CountsRight (question : MultipleChoiceMultiple) (selectedIds : List String) : Prop where
  someCorrect : 0 < question.correctIds.length
  within : (question.correctSelected selectedIds).length ≤ question.correctIds.length
  worthless : 0 < penaltyPerWrong question.scoring → pointsTotal question.scoring = 0 →
    question.SelectsCorrect selectedIds
  exact : 0 < penaltyPerWrong question.scoring → 0 < pointsTotal question.scoring →
    ((question.correctSelected selectedIds).length = question.correctIds.length ∧
        question.wrongSelected selectedIds = [] ↔ question.SelectsCorrect selectedIds)

/-- Scores are in range, full marks mean the right answer, and one more option
moves the points its way. -/
structure ScoresWell (question : MultipleChoiceMultiple) (selectedIds : List String) : Prop where
  inRange : (question.partialCredit selectedIds).InRange
  fullMarks : 0 < penaltyPerWrong question.scoring →
    ((question.partialCredit selectedIds).points = some (pointsTotal question.scoring) ↔
      question.SelectsCorrect selectedIds)
  counts : (question.partialCredit selectedIds).CountsWithin
  oneMore : ∀ id more, more.Perm (id :: selectedIds) →
    ∀ points ∈ (question.partialCredit selectedIds).points,
      ∀ morePoints ∈ (question.partialCredit more).points,
        (id ∈ question.correctIds → points ≤ morePoints) ∧
          (id ∉ question.correctIds → morePoints ≤ points)
  rubric : ∀ rubric criterionScores, (rubricScoring rubric criterionScores).InRange
  trueFalse : ∀ items answers, (vietnameseTF2025 items answers).InRange ∧
    (vietnameseTF2025 items answers).CountsWithin

theorem points_eq_some_iff {points : ℚ} :
    (question.partialCredit selectedIds).points = some points ↔
      question.correctIds.length ≠ 0 ∧
        max 0 (question.raw selectedIds) = points := by
  unfold partialCredit
  dsimp only
  split
  · next none => simp [none]
  · next nonzero => simp [nonzero]

theorem length_selected_of_perm {id : String} {more : List String}
    (isMore : more.Perm (id :: selectedIds)) :
    (question.correctSelected more).length = (question.correctSelected selectedIds).length +
        (if id ∈ question.correctIds then 1 else 0) ∧
      (question.wrongSelected more).length = (question.wrongSelected selectedIds).length +
        (if id ∈ question.correctIds then 0 else 1) := by
  unfold correctSelected wrongSelected
  rw [(isMore.filter _).length_eq, (isMore.filter _).length_eq, List.filter_cons, List.filter_cons]
  by_cases correct : id ∈ question.correctIds <;> simp [correct]

theorem oneMore {id : String} {more : List String} (isMore : more.Perm (id :: selectedIds))
    {points morePoints : ℚ} (isPoints : points ∈ (question.partialCredit selectedIds).points)
    (isMorePoints : morePoints ∈ (question.partialCredit more).points) :
    (id ∈ question.correctIds → points ≤ morePoints) ∧
      (id ∉ question.correctIds → morePoints ≤ points) := by
  obtain ⟨_, rfl⟩ := points_eq_some_iff.mp isPoints
  obtain ⟨_, rfl⟩ := points_eq_some_iff.mp isMorePoints
  obtain ⟨correct, wrong⟩ := @length_selected_of_perm question _ _ _ isMore
  have most := pointsTotal_nonneg question.scoring
  have penalty := penaltyPerWrong_nonneg question.scoring
  unfold raw
  constructor
  · intro isCorrect
    simp only [correct, wrong, if_pos isCorrect, Nat.add_zero]
    gcongr
    exact Nat.le_add_right _ 1
  · intro isWrong
    simp only [correct, wrong, if_neg isWrong, Nat.add_zero]
    gcongr
    exact Nat.le_add_right _ 1

theorem points_bounds (someCorrect : 0 < question.correctIds.length)
    (within : (question.correctSelected selectedIds).length ≤ question.correctIds.length) :
    max 0 (question.raw selectedIds) ≤ pointsTotal question.scoring ∧
      (0 < penaltyPerWrong question.scoring →
        (max 0 (question.raw selectedIds) = pointsTotal question.scoring ↔
          pointsTotal question.scoring = 0 ∨
            (question.correctSelected selectedIds).length = question.correctIds.length ∧
              question.wrongSelected selectedIds = [])) := by
  unfold raw
  have most_nonneg := pointsTotal_nonneg question.scoring
  have penalty_nonneg := penaltyPerWrong_nonneg question.scoring
  rw [← List.length_eq_zero_iff]
  generalize (question.correctSelected selectedIds).length = correct at *
  generalize (question.wrongSelected selectedIds).length = wrong at *
  generalize question.correctIds.length = total at *
  generalize pointsTotal question.scoring = most at *
  generalize penaltyPerWrong question.scoring = penalty at *
  have positive : (0 : ℚ) < total := Nat.cast_pos.mpr someCorrect
  have share : (correct / total : ℚ) ≤ 1 := (div_le_one positive).mpr (Nat.cast_le.mpr within)
  have credit : correct / total * most ≤ most := mul_le_of_le_one_left most_nonneg share
  have loss : 0 ≤ wrong * penalty := by positivity
  refine ⟨max_le most_nonneg (by linarith), fun isPenalty => ?_⟩
  constructor
  · intro full
    rcases eq_or_ne most 0 with isZero | notZero
    · exact .inl isZero
    have reached : correct / total * most - wrong * penalty = most := by
      rcases max_choice 0 (correct / total * most - wrong * penalty) with isZero | isRaw
      · exact absurd (full.symm.trans isZero) notZero
      · exact isRaw.symm.trans full
    have noLoss : wrong * penalty = 0 := by linarith
    have all : correct / total * most = most := by linarith
    rw [mul_eq_right₀ notZero, div_eq_one_iff_eq positive.ne', Nat.cast_inj] at all
    exact .inr ⟨all, Nat.cast_eq_zero.mp ((mul_eq_zero.mp noLoss).resolve_right isPenalty.ne')⟩
  · rintro (rfl | ⟨rfl, rfl⟩)
    · simpa using loss
    · rw [div_self positive.ne']
      simpa using most_nonneg

/-- Partial credit scores well exactly if selections count as right answers. -/
theorem scoresWell_iff (question : MultipleChoiceMultiple) (selectedIds : List String) :
    question.ScoresWell selectedIds ↔ question.CountsRight selectedIds := by
  have full (someCorrect : 0 < question.correctIds.length)
      (within : (question.correctSelected selectedIds).length ≤ question.correctIds.length)
      (isPenalty : 0 < penaltyPerWrong question.scoring) :
      (question.partialCredit selectedIds).points = some (pointsTotal question.scoring) ↔
        pointsTotal question.scoring = 0 ∨
          (question.correctSelected selectedIds).length = question.correctIds.length ∧
            question.wrongSelected selectedIds = [] := by
    rw [points_eq_some_iff, (points_bounds someCorrect within).2 isPenalty]
    exact and_iff_right someCorrect.ne'
  constructor
  · intro well
    obtain ⟨points, isPoints, _⟩ := well.inRange
    have someCorrect := Nat.pos_of_ne_zero (points_eq_some_iff.mp isPoints).1
    have within := well.counts _ rfl _ rfl
    have marks isPenalty := (full someCorrect within isPenalty).symm.trans (well.fullMarks isPenalty)
    refine ⟨someCorrect, within, fun isPenalty isZero => (marks isPenalty).mp (.inl isZero), ?_⟩
    intro isPenalty isPositive
    rw [← marks isPenalty, or_iff_right isPositive.ne']
  · intro right
    refine ⟨?_, fun isPenalty => ?_, ?_, fun _ _ isMore _ isPoints _ => oneMore isMore isPoints,
      rubricScoring_inRange, vietnameseTF2025_inRange⟩
    · exact ⟨_, points_eq_some_iff.mpr ⟨right.someCorrect.ne', rfl⟩, le_max_left _ _,
        (points_bounds right.someCorrect right.within).1⟩
    · rw [full right.someCorrect right.within isPenalty]
      rcases eq_or_ne (pointsTotal question.scoring) 0 with isZero | notZero
      · exact iff_of_true (.inl isZero) (right.worthless isPenalty isZero)
      · rw [or_iff_right notZero]
        exact right.exact isPenalty ((pointsTotal_nonneg _).lt_of_ne' notZero)
    · rintro _ ⟨⟩ _ ⟨⟩
      exact right.within

/-- The one correct option selected twice counts as two right answers. -/
theorem selected_twice : ¬ ∀ question selectedIds, ScoresWell question selectedIds := by
  intro well
  have counts := (well ⟨[⟨"a", true⟩], none⟩ ["a", "a"]).counts 2 (by decide) 1 (by decide)
  exact absurd counts (by decide)

end MultipleChoiceMultiple

end OhMyClass.Scoring
