import Mathlib.Data.List.AList
import Mathlib.Data.Prod.Lex
import Mathlib.Data.String.Basic
import Mathlib.Tactic.FieldSimp
import Mathlib.Tactic.Linarith
import Mathlib.Tactic.Positivity
import Mathlib.Tactic.Ring
import OhMyClass.Raising.Core
import OhMyClass.Sorting.Core

/-!
# Knowledge tracing

The mastery of a student in a knowledge component, traced through the attempts
in the order of their timestamps.  Every observation is a Bayesian update
followed by a chance to learn; on the odds of mastery it is an affine map.
-/

namespace OhMyClass.Outcomes.KnowledgeTracing

open List Raising Sorting

/-! ## Source definitions -/

/-- A `datetime`: naive ones have no order with aware ones. -/
@[ext]
structure Timestamp where
  aware : Bool
  instant : Int
  deriving DecidableEq

structure StudentAttempt where
  studentPseudonym : String
  kcIds : List String
  correct : Bool
  alignmentVerified : Bool
  timestamp : Timestamp
  deriving DecidableEq

structure StudentKCState where
  studentPseudonym : String
  kcId : String
  mastery : ℚ
  params : List (String × ℚ)

structure KTUpdate where
  state : StudentKCState
  confidence : String

/-- Naive and aware timestamps in one `sorted`. -/
inductive TypeError where
  | compared

/-- A student and a knowledge component. -/
abbrev Pair := String × String

def minSufficientAttempts : Nat := 3
def prior : ℚ := 35 / 100
def learn : ℚ := 28 / 100
def guess : ℚ := 20 / 100
def slip : ℚ := 20 / 100

def posteriorAfterObservation (priorMastery : ℚ) (correct : Bool) : ℚ :=
  let evidence := if correct then priorMastery * (1 - slip) else priorMastery * slip
  let total :=
    if correct then evidence + (1 - priorMastery) * guess
    else evidence + (1 - priorMastery) * (1 - guess)
  let observed := if total ≠ 0 then evidence / total else priorMastery
  observed + (1 - observed) * learn

/-- The same kind of timestamp on all attempts. -/
def Comparable (attempts : List StudentAttempt) : Prop :=
  ∀ first ∈ attempts, ∀ second ∈ attempts, first.timestamp.aware = second.timestamp.aware
  deriving Decidable

def byTimestamp (attempts : List StudentAttempt) : List StudentAttempt :=
  sortBy (·.timestamp.instant) attempts

/-- `sorted(attempts, key=lambda row: row.timestamp)`. -/
def sortedByTimestamp (attempts : List StudentAttempt) : Except TypeError (List StudentAttempt) :=
  if Comparable attempts then .ok (byTimestamp attempts) else .error .compared

/-- The mastery after attempts in their order. -/
def traced (attempts : List StudentAttempt) : ℚ :=
  attempts.foldl (fun mastery attempt => posteriorAfterObservation mastery attempt.correct) prior

def bayesianMastery (attempts : List StudentAttempt) : Except TypeError ℚ := do
  let sorted ← sortedByTimestamp attempts
  return max 0 (min 1 (traced sorted))

def updateOne (student kcId : String) (attempts : List StudentAttempt) :
    Except TypeError KTUpdate := do
  let mastery ← bayesianMastery attempts
  let aligned := attempts.all (·.alignmentVerified)
  return {
    state := {
      studentPseudonym := student
      kcId := kcId
      mastery := mastery
      params := [("prior", prior), ("learn", learn), ("slip", slip), ("guess", guess),
        ("attempts", attempts.length), ("local_bayesian_ema_used", 1),
        ("alignment_verified", if aligned then 1 else 0)] }
    confidence := if minSufficientAttempts ≤ attempts.length ∧ aligned then "high" else "low" }

abbrev Grouped := AList fun _ : Pair => List StudentAttempt

/-- `grouped.setdefault(pair, []).append(attempt)`. -/
def addRow (grouped : Grouped) (pair : Pair) (attempt : StudentAttempt) : Grouped :=
  grouped.insert pair ((grouped.lookup pair).getD [] ++ [attempt])

def addAttempt (grouped : Grouped) (attempt : StudentAttempt) : Grouped :=
  attempt.kcIds.foldl
    (fun grouped kcId => addRow grouped (attempt.studentPseudonym, kcId) attempt) grouped

def groupedBy (attempts : List StudentAttempt) : Grouped :=
  attempts.foldl addAttempt ∅

/-- `updated_at` and the random `state_id` of the states are left out. -/
def updateKnowledgeTracing (attempts : List StudentAttempt) : Except TypeError (List KTUpdate) :=
  (sortBy (fun entry => toLex entry.1) (groupedBy attempts).entries).mapM fun entry =>
    updateOne entry.1.1 entry.1.2 entry.2

/-- The attempt names the component for its student. -/
def Names (pair : Pair) (attempt : StudentAttempt) : Prop :=
  attempt.studentPseudonym = pair.1 ∧ pair.2 ∈ attempt.kcIds
  deriving Decidable

/-- How often the attempt names the component for its student. -/
def timesNamed (pair : Pair) (attempt : StudentAttempt) : Nat :=
  if attempt.studentPseudonym = pair.1 then attempt.kcIds.count pair.2 else 0

def rowsOf (attempts : List StudentAttempt) (pair : Pair) : List StudentAttempt :=
  attempts.flatMap fun attempt => List.replicate (timesNamed pair attempt) attempt

/-- The groups hold these rows, and no group is empty. -/
def Holds (grouped : Grouped) (rows : Pair → List StudentAttempt) : Prop :=
  ∀ pair, grouped.lookup pair = if rows pair = [] then none else some (rows pair)

variable {attempts : List StudentAttempt} {attempt : StudentAttempt} {pair : Pair}

theorem timesNamed_pos_iff : 0 < timesNamed pair attempt ↔ Names pair attempt := by
  unfold timesNamed Names
  split
  · next same => rw [count_pos_iff, and_iff_right same]
  · next different => exact iff_of_false (Nat.lt_irrefl 0) fun names => different names.1

theorem mem_rowsOf : attempt ∈ rowsOf attempts pair ↔ attempt ∈ attempts ∧ Names pair attempt := by
  rw [rowsOf, mem_flatMap]
  constructor
  · rintro ⟨named, mem, isNamed⟩
    obtain ⟨positive, rfl⟩ := mem_replicate.mp isNamed
    exact ⟨mem, timesNamed_pos_iff.mp (Nat.pos_of_ne_zero positive)⟩
  · rintro ⟨mem, names⟩
    exact ⟨attempt, mem,
      mem_replicate.mpr ⟨(timesNamed_pos_iff.mpr names).ne', rfl⟩⟩

section

variable {grouped : Grouped} {rows : Pair → List StudentAttempt} (holds : Holds grouped rows)

include holds

theorem Holds.addRow (named : Pair) (attempt : StudentAttempt) :
    Holds (addRow grouped named attempt) fun pair =>
      if pair = named then rows pair ++ [attempt] else rows pair := by
  intro pair
  by_cases same : pair = named
  · subst same
    have stored : (grouped.lookup pair).getD [] = rows pair := by
      rw [holds pair]
      split
      · next isNil => exact isNil.symm
      · rfl
    rw [KnowledgeTracing.addRow, stored]
    simp
  · rw [KnowledgeTracing.addRow, AList.lookup_insert_ne same]
    simp only [if_neg same, holds pair]

theorem Holds.addAttempt (attempt : StudentAttempt) :
    Holds (addAttempt grouped attempt) fun pair =>
      rows pair ++ List.replicate (timesNamed pair attempt) attempt := by
  have general (kcIds : List String) (grouped : Grouped) (rows : Pair → List StudentAttempt)
      (holds : Holds grouped rows) :
      Holds
        (kcIds.foldl (fun grouped kcId =>
          KnowledgeTracing.addRow grouped (attempt.studentPseudonym, kcId) attempt) grouped)
        fun pair => rows pair ++
          List.replicate (if attempt.studentPseudonym = pair.1 then kcIds.count pair.2 else 0)
            attempt := by
    induction kcIds generalizing grouped rows with
    | nil => simpa using holds
    | cons kcId kcIds ih =>
      have after := ih _ _ (holds.addRow (attempt.studentPseudonym, kcId) attempt)
      rw [List.foldl_cons]
      convert after using 2 with pair
      rcases pair with ⟨student, named⟩
      by_cases sameStudent : attempt.studentPseudonym = student
      · by_cases sameId : kcId = named
        · subst sameStudent sameId
          simp only [if_true, count_cons_self, append_assoc]
          rfl
        · have different : ¬ (student, named) = (attempt.studentPseudonym, kcId) :=
            fun same => sameId (Prod.mk.inj same).2.symm
          simp only [if_pos sameStudent, if_neg different, count_cons_of_ne sameId]
      · have different : ¬ (student, named) = (attempt.studentPseudonym, kcId) :=
          fun same => sameStudent (Prod.mk.inj same).1.symm
        simp only [if_neg sameStudent, if_neg different]
  exact general attempt.kcIds grouped rows holds

end

theorem holds_groupedBy (attempts : List StudentAttempt) :
    Holds (groupedBy attempts) (rowsOf attempts) := by
  have general (grouped : Grouped) (rows : Pair → List StudentAttempt)
      (holds : Holds grouped rows) :
      Holds (attempts.foldl addAttempt grouped) fun pair => rows pair ++ rowsOf attempts pair := by
    induction attempts generalizing grouped rows with
    | nil => simpa [rowsOf] using holds
    | cons attempt rest ih =>
      have := ih _ _ (holds.addAttempt attempt)
      simpa only [List.foldl_cons, rowsOf, flatMap_cons, append_assoc] using this
  exact general ∅ (fun _ => []) fun pair => AList.lookup_empty pair

/-- The update of the pair has this mastery and this number of attempts. -/
def Traces (attempts : List StudentAttempt) (pair : Pair) (mastery : ℚ) (count : Nat) : Prop :=
  ∃ updates, updateKnowledgeTracing attempts = .ok updates ∧ ∃ update ∈ updates,
    (update.state.studentPseudonym, update.state.kcId) = pair ∧
      update.state.mastery = mastery ∧
      update.state.params.lookup "attempts" = some (count : ℚ)

/-- The mastery of a pair by its rows. -/
def masteryOf (rows : List StudentAttempt) : ℚ :=
  max 0 (min 1 (traced (byTimestamp rows)))

variable {kcId : String}

theorem updateOne_eq_ok {student : String} {rows : List StudentAttempt} {update : KTUpdate}
    (updated : updateOne student kcId rows = .ok update) :
    Comparable rows ∧ (update.state.studentPseudonym, update.state.kcId) = (student, kcId) ∧
      update.state.mastery = masteryOf rows ∧
      update.state.params.lookup "attempts" = some (rows.length : ℚ) := by
  obtain ⟨mastery, isMastery, isUpdate⟩ := bind_eq_ok.mp updated
  obtain ⟨sorted, isSorted, ret⟩ := bind_eq_ok.mp isMastery
  rw [sortedByTimestamp] at isSorted
  split at isSorted
  · next comparable =>
    cases isSorted
    cases ret
    cases isUpdate
    exact ⟨comparable, rfl, rfl, rfl⟩
  · cases isSorted

theorem exists_updateOne {student : String} {rows : List StudentAttempt}
    (comparable : Comparable rows) : ∃ update, updateOne student kcId rows = .ok update := by
  rw [updateOne, bayesianMastery, sortedByTimestamp, if_pos comparable]
  exact ⟨_, rfl⟩

theorem mem_entries_groupedBy {entry : Sigma fun _ : Pair => List StudentAttempt} :
    entry ∈ (groupedBy attempts).entries ↔
      rowsOf attempts entry.1 ≠ [] ∧ entry.2 = rowsOf attempts entry.1 := by
  rcases entry with ⟨pair, rows⟩
  have lookup := holds_groupedBy attempts pair
  rw [← AList.mem_lookup_iff, Option.mem_def, lookup]
  split
  · next isNil => exact iff_of_false nofun fun both => both.1 isNil
  · next notNil =>
    rw [Option.some.injEq, and_iff_right notNil]
    exact eq_comm

variable {mastery : ℚ}

/-- Every pair with rows is traced by them, if all rows of every pair can be
compared. -/
theorem traces_iff {count : Nat} :
    Traces attempts pair mastery count ↔
      (∀ pair, Comparable (rowsOf attempts pair)) ∧ rowsOf attempts pair ≠ [] ∧
        mastery = masteryOf (rowsOf attempts pair) ∧ count = (rowsOf attempts pair).length := by
  have entry_iff (other : Pair) : ⟨other, rowsOf attempts other⟩ ∈
      sortBy (fun entry => toLex entry.1) (groupedBy attempts).entries ↔
        rowsOf attempts other ≠ [] := by
    rw [mem_sortBy, mem_entries_groupedBy, and_iff_left rfl]
  constructor
  · rintro ⟨updates, updated, update, isUpdate, isPair, isMastery, isCount⟩
    have each := exists_mapM_iff.mp ⟨updates, updated⟩
    obtain ⟨⟨named, rows⟩, entryMem, isOne⟩ := (mem_mapM_iff updated).mp isUpdate
    obtain ⟨notNil, isRows⟩ := mem_entries_groupedBy.mp (mem_sortBy.mp entryMem)
    obtain ⟨-, samePair, sameMastery, sameCount⟩ := updateOne_eq_ok isOne
    obtain rfl : named = pair := samePair.symm.trans isPair
    obtain rfl : rows = rowsOf attempts named := isRows
    refine ⟨fun other => ?_, notNil, isMastery.symm.trans sameMastery, ?_⟩
    · by_cases isNil : rowsOf attempts other = []
      · rw [isNil]
        exact fun _ no => absurd no not_mem_nil
      · obtain ⟨otherUpdate, isOther⟩ := each _ ((entry_iff other).mpr isNil)
        exact (updateOne_eq_ok isOther).1
    · rw [isCount, Option.some.injEq] at sameCount
      exact_mod_cast sameCount
  · rintro ⟨comparable, notNil, rfl, rfl⟩
    obtain ⟨updates, updated⟩ : ∃ updates, updateKnowledgeTracing attempts = .ok updates :=
      exists_mapM_iff.mpr fun entry entryMem => by
        rw [(mem_entries_groupedBy.mp (mem_sortBy.mp entryMem)).2]
        exact exists_updateOne (comparable entry.1)
    obtain ⟨update, isUpdate⟩ := exists_updateOne (comparable pair)
    refine ⟨updates, updated, update, ?_, (updateOne_eq_ok isUpdate).2⟩
    exact (mem_mapM_iff updated).mpr ⟨_, (entry_iff pair).mpr notNil, isUpdate⟩

/-! ## Odds of mastery -/

/-- A mastery that is not certain. -/
def Possible (mastery : ℚ) : Prop :=
  0 ≤ mastery ∧ mastery < 1

def odds (mastery : ℚ) : ℚ :=
  mastery / (1 - mastery)

/-- An observation on the odds: a right answer makes them four times as high, a
wrong one as low, before the chance to learn. -/
def observe (chances : ℚ) (correct : Bool) : ℚ :=
  ((if correct then 4 * chances else chances / 4) + 7 / 25) / (18 / 25)

theorem odds_part {part rest : ℚ} (nonnegative : 0 ≤ part) (positive : 0 < rest) :
    Possible (part / (part + rest)) ∧ odds (part / (part + rest)) = part / rest := by
  have whole : 0 < part + rest := by linarith
  have others : 1 - part / (part + rest) = rest / (part + rest) := by
    rw [eq_div_iff whole.ne', sub_mul, div_mul_cancel₀ _ whole.ne']
    ring
  refine ⟨⟨by positivity, ?_⟩, ?_⟩
  · rw [div_lt_one whole]
    linarith
  · rw [odds, others, div_div_div_cancel_right₀ whole.ne']

theorem odds_learned {observed : ℚ} (possible : Possible observed) :
    Possible (observed + (1 - observed) * learn) ∧
      odds (observed + (1 - observed) * learn) = (odds observed + 7 / 25) / (18 / 25) := by
  obtain ⟨nonnegative, below⟩ := possible
  have left : 1 - (observed + (1 - observed) * (28 / 100)) = (1 - observed) * (18 / 25) := by ring
  have positive : 0 < 1 - observed := by linarith
  unfold learn
  refine ⟨⟨by positivity, by linarith⟩, ?_⟩
  rw [odds, odds, left, ← div_div, add_div, mul_div_cancel_left₀ _ positive.ne']
  norm_num

theorem odds_posterior (possible : Possible mastery) (correct : Bool) :
    Possible (posteriorAfterObservation mastery correct) ∧
      odds (posteriorAfterObservation mastery correct) = observe (odds mastery) correct := by
  obtain ⟨nonnegative, below⟩ := possible
  cases correct with
  | true =>
    have part : 0 ≤ mastery * (1 - slip) := by unfold slip; linarith
    have rest : 0 < (1 - mastery) * guess := by unfold guess; linarith
    obtain ⟨observedPossible, observedOdds⟩ := odds_part part rest
    have quadruple : mastery * (1 - slip) / ((1 - mastery) * guess) = 4 * odds mastery := by
      unfold slip guess odds
      field_simp
      ring
    obtain ⟨learnedPossible, learnedOdds⟩ := odds_learned observedPossible
    simp only [posteriorAfterObservation, if_true, ne_eq, (add_pos_of_nonneg_of_pos part rest).ne',
      not_false_eq_true, observe]
    rw [← quadruple, ← observedOdds]
    exact ⟨learnedPossible, learnedOdds⟩
  | false =>
    have part : 0 ≤ mastery * slip := by unfold slip; linarith
    have rest : 0 < (1 - mastery) * (1 - guess) := by unfold guess; linarith
    obtain ⟨observedPossible, observedOdds⟩ := odds_part part rest
    have quarter : mastery * slip / ((1 - mastery) * (1 - guess)) = odds mastery / 4 := by
      unfold slip guess odds
      field_simp
      ring
    obtain ⟨learnedPossible, learnedOdds⟩ := odds_learned observedPossible
    simp only [posteriorAfterObservation, Bool.false_eq_true, if_false, ne_eq,
      (add_pos_of_nonneg_of_pos part rest).ne', not_false_eq_true, if_true, observe]
    rw [← quarter, ← observedOdds]
    exact ⟨learnedPossible, learnedOdds⟩

theorem prior_possible : Possible prior := by
  unfold prior Possible
  norm_num

/-- The odds after attempts in their order. -/
def tracedOdds (chances : ℚ) (attempts : List StudentAttempt) : ℚ :=
  attempts.foldl (fun chances attempt => observe chances attempt.correct) chances

theorem odds_foldl (possible : Possible mastery) (attempts : List StudentAttempt) :
    let traced := attempts.foldl
      (fun mastery attempt => posteriorAfterObservation mastery attempt.correct) mastery
    Possible traced ∧ odds traced = tracedOdds (odds mastery) attempts := by
  induction attempts generalizing mastery with
  | nil => exact ⟨possible, rfl⟩
  | cons attempt rest ih =>
    obtain ⟨stepPossible, stepOdds⟩ := odds_posterior possible attempt.correct
    have rested := ih stepPossible
    rwa [stepOdds] at rested

theorem masteryOf_possible (rows : List StudentAttempt) :
    Possible (masteryOf rows) ∧
      odds (masteryOf rows) = tracedOdds (odds prior) (byTimestamp rows) := by
  obtain ⟨possible, isOdds⟩ : Possible (traced (byTimestamp rows)) ∧
      odds (traced (byTimestamp rows)) = tracedOdds (odds prior) (byTimestamp rows) :=
    odds_foldl prior_possible (byTimestamp rows)
  have unclamped : masteryOf rows = traced (byTimestamp rows) := by
    rw [masteryOf, min_eq_right possible.2.le, max_eq_right possible.1]
  rw [unclamped]
  exact ⟨possible, isOdds⟩

theorem le_iff_odds_le {first second : ℚ} (firstPossible : Possible first)
    (secondPossible : Possible second) : first ≤ second ↔ odds first ≤ odds second := by
  have firstRest : 0 < 1 - first := by linarith [firstPossible.2]
  have secondRest : 0 < 1 - second := by linarith [secondPossible.2]
  rw [odds, odds, div_le_div_iff₀ firstRest secondRest]
  constructor <;> intro le <;> linarith

theorem masteryOf_le_iff {rows others : List StudentAttempt} :
    masteryOf rows ≤ masteryOf others ↔
      tracedOdds (odds prior) (byTimestamp rows) ≤ tracedOdds (odds prior) (byTimestamp others) := by
  obtain ⟨rowsPossible, rowsOdds⟩ := masteryOf_possible rows
  obtain ⟨othersPossible, othersOdds⟩ := masteryOf_possible others
  rw [le_iff_odds_le rowsPossible othersPossible, rowsOdds, othersOdds]

theorem odds_nonneg (possible : Possible mastery) : 0 ≤ odds mastery :=
  div_nonneg possible.1 (by linarith [possible.2])

variable {chances : ℚ}

theorem observe_le {others : ℚ} (le : chances ≤ others) (nonnegative : 0 ≤ chances)
    {correct better : Bool} (noWorse : correct = true → better = true) :
    observe chances correct ≤ observe others better := by
  cases correct with
  | true =>
    rw [noWorse rfl]
    simp only [observe, if_true]
    linarith
  | false =>
    cases better with
    | true =>
      simp only [observe, if_true, Bool.false_eq_true, if_false]
      linarith
    | false =>
      simp only [observe, Bool.false_eq_true, if_false]
      linarith

theorem le_observe_correct (nonnegative : 0 ≤ chances) :
    chances ≤ observe chances true := by
  simp only [observe, if_true]
  linarith

theorem observe_nonneg (nonnegative : 0 ≤ chances) (correct : Bool) :
    0 ≤ observe chances correct := by
  unfold observe
  split
  · positivity
  · positivity

/-- The second attempts are the first ones, at the same times and answered no
worse, with more right ones among them. -/
abbrev Betters : List StudentAttempt → List StudentAttempt → Prop :=
  Improves (·.timestamp.instant) (fun first second => first.correct = true → second.correct = true)
    (·.correct = true)

theorem tracedOdds_le {rows others : List StudentAttempt} (betters : Betters rows others)
    {better : ℚ} (le : chances ≤ better) (nonnegative : 0 ≤ chances) :
    tracedOdds chances rows ≤ tracedOdds better others := by
  induction betters generalizing chances better with
  | nil => exact le
  | cons _ noWorse _ ih =>
    exact ih (observe_le le nonnegative noWorse) (observe_nonneg nonnegative _)
  | @extra gained _ _ isCorrect _ ih =>
    have raised : chances ≤ observe better gained.correct := by
      rw [isCorrect]
      exact le.trans (le_observe_correct (nonnegative.trans le))
    exact ih raised nonnegative

theorem masteryOf_le {rows others : List StudentAttempt} (betters : Betters rows others) :
    masteryOf rows ≤ masteryOf others :=
  masteryOf_le_iff.mpr (tracedOdds_le betters.sortBy le_rfl (odds_nonneg prior_possible))

theorem observe_injective {others : ℚ} {correct : Bool}
    (same : observe chances correct = observe others correct) : chances = others := by
  unfold observe at same
  split at same
  · linarith
  · linarith

theorem observe_swap (chances : ℚ) :
    observe (observe chances true) false < observe (observe chances false) true := by
  simp only [observe, if_true, Bool.false_eq_true, if_false]
  linarith

theorem tracedOdds_append (chances : ℚ) (before after : List StudentAttempt) :
    tracedOdds chances (before ++ after) = tracedOdds (tracedOdds chances before) after :=
  foldl_append

theorem tracedOdds_injective {others : ℚ} (rows : List StudentAttempt)
    (same : tracedOdds chances rows = tracedOdds others rows) : chances = others := by
  induction rows generalizing chances others with
  | nil => exact same
  | cons attempt rest ih => exact observe_injective (ih same)

theorem tracedOdds_swap {left right : StudentAttempt} (different : left.correct ≠ right.correct)
    (chances : ℚ) (before after : List StudentAttempt) :
    tracedOdds chances (before ++ left :: right :: after) ≠
      tracedOdds chances (before ++ right :: left :: after) := by
  intro same
  rw [tracedOdds_append, tracedOdds_append] at same
  have swapped : observe (observe (tracedOdds chances before) left.correct) right.correct =
      observe (observe (tracedOdds chances before) right.correct) left.correct :=
    tracedOdds_injective after same
  have swap := observe_swap (tracedOdds chances before)
  cases isLeft : left.correct with
  | true =>
    rw [isLeft, Bool.eq_false_iff.mpr fun isRight => different (isLeft.trans isRight.symm)]
      at swapped
    exact absurd swapped swap.ne
  | false =>
    have isRight : right.correct = true := by
      rw [isLeft] at different
      exact Bool.eq_true_of_not_eq_false different.symm
    rw [isLeft, isRight] at swapped
    exact absurd swapped swap.ne'

theorem masteryOf_perm {rows others : List StudentAttempt}
    (agree : ∀ first ∈ rows, ∀ second ∈ rows,
      first.timestamp.instant = second.timestamp.instant → first.correct = second.correct)
    (permutation : others.Perm rows) : masteryOf others = masteryOf rows := by
  have answers : (byTimestamp others).map (·.correct) = (byTimestamp rows).map (·.correct) :=
    map_sortBy_perm agree permutation
  have byAnswers (attempts : List StudentAttempt) :
      traced attempts = (attempts.map (·.correct)).foldl posteriorAfterObservation prior := by
    rw [foldl_map]
    rfl
  rw [masteryOf, masteryOf, byAnswers, byAnswers, answers]

theorem rowsOf_append (before after : List StudentAttempt) (pair : Pair) :
    rowsOf (before ++ after) pair = rowsOf before pair ++ rowsOf after pair :=
  flatMap_append

theorem rowsOf_perm {others : List StudentAttempt} (permutation : others.Perm attempts)
    (pair : Pair) : (rowsOf others pair).Perm (rowsOf attempts pair) :=
  permutation.flatMap_right _

theorem timesNamed_eq_zero (notNamed : ¬ Names pair attempt) : timesNamed pair attempt = 0 :=
  Nat.eq_zero_of_not_pos fun positive => notNamed (timesNamed_pos_iff.mp positive)

theorem rowsOf_filter_names (attempts : List StudentAttempt) (pair : Pair) :
    rowsOf (attempts.filter (Names pair)) pair = rowsOf attempts pair := by
  induction attempts with
  | nil => rfl
  | cons attempt rest ih =>
    rw [filter_cons]
    split
    · simp only [rowsOf, flatMap_cons] at ih ⊢
      rw [ih]
    · next notNamed =>
      rw [ih, rowsOf, rowsOf, flatMap_cons,
        timesNamed_eq_zero (by simpa using notNamed)]
      rfl

theorem rowsOf_eq_filter (once : ∀ attempt ∈ attempts, timesNamed pair attempt ≤ 1) :
    rowsOf attempts pair = attempts.filter (Names pair) := by
  induction attempts with
  | nil => rfl
  | cons attempt rest ih =>
    rw [forall_mem_cons] at once
    have rested := ih once.2
    rw [rowsOf] at rested ⊢
    rw [flatMap_cons, rested, filter_cons]
    split
    · next names =>
      have positive := timesNamed_pos_iff.mpr (of_decide_eq_true names)
      rw [Nat.le_antisymm once.1 positive]
      rfl
    · next notNamed =>
      rw [timesNamed_eq_zero (by simpa using notNamed)]
      rfl

theorem length_rowsOf (attempts : List StudentAttempt) (pair : Pair) :
    (attempts.filter (Names pair)).length ≤ (rowsOf attempts pair).length ∧
      ((rowsOf attempts pair).length = (attempts.filter (Names pair)).length →
        ∀ attempt ∈ attempts, timesNamed pair attempt ≤ 1) := by
  induction attempts with
  | nil => exact ⟨Nat.le_refl 0, fun _ _ no => absurd no not_mem_nil⟩
  | cons attempt rest ih =>
    rw [rowsOf] at ih ⊢
    rw [flatMap_cons, length_append, length_replicate, filter_cons,
      forall_mem_cons]
    split
    · next names =>
      have positive := timesNamed_pos_iff.mpr (of_decide_eq_true names)
      rw [length_cons]
      exact ⟨by omega, fun same => ⟨by omega, ih.2 (by omega)⟩⟩
    · next notNamed =>
      exact ⟨by omega, fun same => ⟨by omega, ih.2 (by omega)⟩⟩

/-! ## Tracing that can be relied on -/

/-- Two attempts of one student name a common component. -/
def SharesComponent (first second : StudentAttempt) : Prop :=
  first.studentPseudonym = second.studentPseudonym ∧
    ∃ kcId ∈ first.kcIds, kcId ∈ second.kcIds

/-- No attempt names a component twice, and the attempts of one student at one
component have timestamps of one kind and, where those tie, agree. -/
structure Consistent (attempts : List StudentAttempt) : Prop where
  namedOnce : ∀ attempt ∈ attempts, attempt.kcIds.Nodup
  comparable : ∀ first ∈ attempts, ∀ second ∈ attempts, SharesComponent first second →
    first.timestamp.aware = second.timestamp.aware
  tiesAgree : ∀ first ∈ attempts, ∀ second ∈ attempts, SharesComponent first second →
    first.timestamp = second.timestamp → first.correct = second.correct

/-- Tracing is bounded, monotone and independent of the order of the attempts,
and every attempt is one observation of each component it names. -/
structure TracesWell (attempts : List StudentAttempt) : Prop where
  bounded : ∀ pair mastery count, Traces attempts pair mastery count → 0 ≤ mastery ∧ mastery ≤ 1
  replacing : ∀ before attempt after better, attempts = before ++ attempt :: after →
    attempt.correct = false → better.correct = true →
    better.studentPseudonym = attempt.studentPseudonym → better.kcIds = attempt.kcIds →
    better.timestamp = attempt.timestamp →
    ∀ pair mastery count raised other, Traces attempts pair mastery count →
      Traces (before ++ better :: after) pair raised other → mastery ≤ raised
  appending : ∀ attempt, attempt.correct = true →
    ∀ pair mastery count raised other, Traces attempts pair mastery count →
      Traces (attempts ++ [attempt]) pair raised other → mastery ≤ raised
  anyOrder : ∀ others, others.Perm attempts → ∀ pair mastery count,
    Traces others pair mastery count ↔ Traces attempts pair mastery count
  otherPairs : ∀ pair mastery count,
    Traces (attempts.filter (Names pair)) pair mastery count ↔ Traces attempts pair mastery count
  oneObservation : ∀ pair, (∃ attempt ∈ attempts, Names pair attempt) →
    ∃ mastery, Traces attempts pair mastery (attempts.filter (Names pair)).length

theorem sharesComponent_of_names {first second : StudentAttempt} (firstNames : Names pair first)
    (secondNames : Names pair second) : SharesComponent first second :=
  ⟨firstNames.1.trans secondNames.1.symm, pair.2, firstNames.2, secondNames.2⟩

theorem rowsOf_ne_nil_iff : rowsOf attempts pair ≠ [] ↔ ∃ attempt ∈ attempts, Names pair attempt := by
  constructor
  · intro notNil
    obtain ⟨attempt, mem⟩ := exists_mem_of_ne_nil _ notNil
    exact ⟨attempt, mem_rowsOf.mp mem⟩
  · rintro ⟨attempt, named⟩
    exact ne_nil_of_mem (mem_rowsOf.mpr named)

theorem comparable_of_perm {rows others : List StudentAttempt} (comparable : Comparable rows)
    (permutation : others.Perm rows) : Comparable others :=
  fun first firstMem second secondMem =>
    comparable first (permutation.mem_iff.mp firstMem) second (permutation.mem_iff.mp secondMem)

section Monotone

theorem betters_refl (rows : List StudentAttempt) : Betters rows rows :=
  .refl (fun _ correct => correct) rows

theorem betters_replaced {before after : List StudentAttempt} {better : StudentAttempt}
    (isCorrect : better.correct = true)
    (sameStudent : better.studentPseudonym = attempt.studentPseudonym)
    (sameIds : better.kcIds = attempt.kcIds) (sameTime : better.timestamp = attempt.timestamp)
    (pair : Pair) :
    Betters (rowsOf (before ++ attempt :: after) pair) (rowsOf (before ++ better :: after) pair) := by
  have sameTimes : timesNamed pair better = timesNamed pair attempt := by
    rw [timesNamed, timesNamed, sameStudent, sameIds]
  have copies (count : Nat) :
      Betters (List.replicate count attempt) (List.replicate count better) := by
    induction count with
    | zero => exact .nil
    | succ count ih => exact .cons (by rw [sameTime]) (fun _ => isCorrect) ih
  rw [rowsOf_append, rowsOf_append]
  refine (betters_refl _).append ?_
  rw [rowsOf, rowsOf, flatMap_cons, flatMap_cons, sameTimes]
  exact (copies _).append (betters_refl _)

theorem betters_appended (isCorrect : attempt.correct = true) (pair : Pair) :
    Betters (rowsOf attempts pair) (rowsOf (attempts ++ [attempt]) pair) := by
  have gained : Betters [] (rowsOf [attempt] pair) := by
    apply Improves.of_gains
    intro row mem
    rw [mem_singleton.mp (mem_rowsOf.mp mem).1]
    exact isCorrect
  have appended := (betters_refl (rowsOf attempts pair)).append gained
  rwa [append_nil, ← rowsOf_append] at appended

end Monotone

section

variable (consistent : Consistent attempts)

include consistent

theorem Consistent.comparable_rowsOf (pair : Pair) :
    Comparable (rowsOf attempts pair) := by
  intro first firstMem second secondMem
  obtain ⟨firstIn, firstNames⟩ := mem_rowsOf.mp firstMem
  obtain ⟨secondIn, secondNames⟩ := mem_rowsOf.mp secondMem
  exact consistent.comparable first firstIn second secondIn
    (sharesComponent_of_names firstNames secondNames)

theorem Consistent.agree_rowsOf (pair : Pair) :
    ∀ first ∈ rowsOf attempts pair, ∀ second ∈ rowsOf attempts pair,
      first.timestamp.instant = second.timestamp.instant → first.correct = second.correct := by
  intro first firstMem second secondMem sameInstant
  have sameKind := consistent.comparable_rowsOf pair first firstMem second secondMem
  obtain ⟨firstIn, firstNames⟩ := mem_rowsOf.mp firstMem
  obtain ⟨secondIn, secondNames⟩ := mem_rowsOf.mp secondMem
  exact consistent.tiesAgree first firstIn second secondIn
    (sharesComponent_of_names firstNames secondNames) (Timestamp.ext sameKind sameInstant)

theorem Consistent.timesNamed_le (pair : Pair) :
    ∀ attempt ∈ attempts, timesNamed pair attempt ≤ 1 := by
  intro attempt mem
  unfold timesNamed
  split
  · exact nodup_iff_count_le_one.mp (consistent.namedOnce attempt mem) _
  · exact Nat.zero_le 1

theorem TracesWell.of_consistent : TracesWell attempts where
  bounded pair mastery count traces := by
    obtain ⟨-, -, rfl, -⟩ := traces_iff.mp traces
    have possible := (masteryOf_possible (rowsOf attempts pair)).1
    exact ⟨possible.1, possible.2.le⟩
  replacing before attempt after better split _ isCorrect sameStudent sameIds sameTime pair _ _ _ _
      traces raised := by
    subst split
    obtain ⟨-, -, rfl, -⟩ := traces_iff.mp traces
    obtain ⟨-, -, rfl, -⟩ := traces_iff.mp raised
    exact masteryOf_le (betters_replaced isCorrect sameStudent sameIds sameTime pair)
  appending attempt isCorrect pair _ _ _ _ traces raised := by
    obtain ⟨-, -, rfl, -⟩ := traces_iff.mp traces
    obtain ⟨-, -, rfl, -⟩ := traces_iff.mp raised
    exact masteryOf_le (betters_appended isCorrect pair)
  anyOrder others permutation pair mastery count := by
    have rows := rowsOf_perm permutation pair
    have comparable (pair : Pair) : Comparable (rowsOf others pair) :=
      comparable_of_perm (consistent.comparable_rowsOf pair) (rowsOf_perm permutation pair)
    rw [traces_iff, traces_iff, masteryOf_perm (consistent.agree_rowsOf pair) rows,
      and_iff_right comparable, and_iff_right consistent.comparable_rowsOf, ne_eq, ne_eq,
      ← length_eq_zero_iff, ← length_eq_zero_iff, rows.length_eq]
  otherPairs pair mastery count := by
    have comparable (other : Pair) :
        Comparable (rowsOf (attempts.filter (Names pair)) other) := by
      intro first firstMem second secondMem
      have inRows {row : StudentAttempt} (mem : row ∈ rowsOf (attempts.filter (Names pair)) other) :
          row ∈ rowsOf attempts other := by
        obtain ⟨filtered, names⟩ := mem_rowsOf.mp mem
        exact mem_rowsOf.mpr ⟨mem_of_mem_filter filtered, names⟩
      exact consistent.comparable_rowsOf other first (inRows firstMem) second (inRows secondMem)
    rw [traces_iff, traces_iff, rowsOf_filter_names, and_iff_right comparable,
      and_iff_right consistent.comparable_rowsOf]
  oneObservation pair named := by
    refine ⟨_, traces_iff.mpr ⟨consistent.comparable_rowsOf, rowsOf_ne_nil_iff.mpr named, rfl, ?_⟩⟩
    rw [rowsOf_eq_filter (consistent.timesNamed_le pair)]

end

theorem names_of_mem_kcIds (mem : kcId ∈ attempt.kcIds) :
    Names (attempt.studentPseudonym, kcId) attempt :=
  ⟨rfl, mem⟩

theorem TracesWell.comparable_rowsOf (well : TracesWell attempts) (named : attempt ∈ attempts)
    (names : Names pair attempt) : Comparable (rowsOf attempts pair) := by
  obtain ⟨mastery, traces⟩ := well.oneObservation pair ⟨attempt, named, names⟩
  exact (traces_iff.mp traces).1 pair

theorem TracesWell.timesNamed_le (well : TracesWell attempts) (pair : Pair) :
    ∀ attempt ∈ attempts, timesNamed pair attempt ≤ 1 := by
  intro attempt mem
  by_cases names : Names pair attempt
  · obtain ⟨mastery, traces⟩ := well.oneObservation pair ⟨attempt, mem, names⟩
    obtain ⟨-, -, -, count⟩ := traces_iff.mp traces
    exact (length_rowsOf attempts pair).2 count.symm attempt mem
  · rw [timesNamed_eq_zero names]
    exact Nat.zero_le 1

theorem TracesWell.agree_rowsOf (well : TracesWell attempts) (pair : Pair) :
    ∀ first ∈ rowsOf attempts pair, ∀ second ∈ rowsOf attempts pair,
      first.timestamp.instant = second.timestamp.instant → first.correct = second.correct := by
  intro first firstMem second secondMem sameInstant
  by_contra different
  obtain ⟨before, left, right, after, split, sameTime, leftRight⟩ :=
    exists_neighbours (·.timestamp.instant)
      (pairwise_sortBy (·.timestamp.instant) (rowsOf attempts pair))
      (mem_sortBy.mpr firstMem) (mem_sortBy.mpr secondMem) sameInstant different
  have once := well.timesNamed_le pair
  have isFilter := rowsOf_eq_filter once
  -- The rows in any order, with the other attempts after them, are an order of the attempts.
  have reordered {rows : List StudentAttempt} (permutation : rows.Perm (rowsOf attempts pair)) :
      masteryOf rows = masteryOf (rowsOf attempts pair) := by
    let others := rows ++ attempts.filter fun attempt => ¬ Names pair attempt
    have isOrder : others.Perm attempts := by
      refine (permutation.append_right _).trans ?_
      rw [isFilter]
      simpa using filter_append_perm (fun attempt => decide (Names pair attempt)) attempts
    have rowsOfOthers : rowsOf others pair = rows := by
      have onceOthers : ∀ attempt ∈ others, timesNamed pair attempt ≤ 1 :=
        fun attempt mem => once attempt (isOrder.mem_iff.mp mem)
      have allNamed : rows.filter (Names pair) = rows :=
        filter_eq_self.mpr fun row mem =>
          decide_eq_true (mem_rowsOf.mp (permutation.mem_iff.mp mem)).2
      rw [rowsOf_eq_filter onceOthers, filter_append, allNamed]
      simp
    obtain ⟨firstIn, firstNames⟩ := mem_rowsOf.mp firstMem
    obtain ⟨mastery, traces⟩ := well.oneObservation pair ⟨first, firstIn, firstNames⟩
    have isMastery := (traces_iff.mp traces).2.2.1
    have otherMastery := (traces_iff.mp ((well.anyOrder others isOrder pair _ _).mpr traces)).2.2.1
    rw [rowsOfOthers] at otherMastery
    exact otherMastery.symm.trans isMastery
  have ascending := pairwise_sortBy (·.timestamp.instant) (rowsOf attempts pair)
  have permutation := sortBy_perm (·.timestamp.instant) (rowsOf attempts pair)
  rw [split] at ascending permutation
  have swappedAscending :=
    pairwise_swap (fun row : StudentAttempt => row.timestamp.instant) sameTime ascending
  have swapped : masteryOf (before ++ left :: right :: after) =
      masteryOf (before ++ right :: left :: after) :=
    (reordered permutation).trans
      (reordered (((List.Perm.swap left right after).append_left before).trans permutation)).symm
  have sameOdds := congrArg odds swapped
  rw [(masteryOf_possible _).2, (masteryOf_possible _).2, byTimestamp, byTimestamp,
    sortBy_of_pairwise ascending, sortBy_of_pairwise swappedAscending] at sameOdds
  exact tracedOdds_swap leftRight _ _ _ sameOdds

/-- Tracing can be relied on exactly for consistent attempts. -/
theorem tracesWell_iff_consistent (attempts : List StudentAttempt) :
    TracesWell attempts ↔ Consistent attempts := by
  refine ⟨fun well => ?_, TracesWell.of_consistent⟩
  have inRows {first second : StudentAttempt} (firstMem : first ∈ attempts)
      (secondMem : second ∈ attempts) (shares : SharesComponent first second) :
      ∃ pair, first ∈ rowsOf attempts pair ∧ second ∈ rowsOf attempts pair := by
    obtain ⟨sameStudent, kcId, inFirst, inSecond⟩ := shares
    exact ⟨(first.studentPseudonym, kcId),
      mem_rowsOf.mpr ⟨firstMem, names_of_mem_kcIds inFirst⟩,
      mem_rowsOf.mpr ⟨secondMem, sameStudent.symm, inSecond⟩⟩
  refine ⟨fun attempt mem => ?_, ?_, ?_⟩
  · rw [nodup_iff_count_le_one]
    intro kcId
    have once := well.timesNamed_le (attempt.studentPseudonym, kcId) attempt mem
    rwa [timesNamed, if_pos rfl] at once
  · intro first firstMem second secondMem shares
    obtain ⟨pair, firstRow, secondRow⟩ := inRows firstMem secondMem shares
    exact well.comparable_rowsOf firstMem (mem_rowsOf.mp firstRow).2 first firstRow second secondRow
  · intro first firstMem second secondMem shares sameTime
    obtain ⟨pair, firstRow, secondRow⟩ := inRows firstMem secondMem shares
    exact well.agree_rowsOf pair first firstRow second secondRow
      (congrArg Timestamp.instant sameTime)

/-- An answer at a given time. -/
def answer (kcIds : List String) (correct : Bool) (instant : Int) : StudentAttempt where
  studentPseudonym := "student-a"
  kcIds := kcIds
  correct := correct
  alignmentVerified := true
  timestamp := ⟨true, instant⟩

/-- A right and a wrong answer of one time depend on their order, and an answer
that names its component twice counts twice. -/
theorem tied_answers_not_tracesWell :
    ¬ TracesWell [answer ["KC-FRACTION"] true 0, answer ["KC-FRACTION"] false 0] ∧
      ¬ TracesWell [answer ["KC-FRACTION", "KC-FRACTION"] true 0] := by
  constructor
  · intro well
    have agree := well.agree_rowsOf ("student-a", "KC-FRACTION")
      (answer ["KC-FRACTION"] true 0) (by decide) (answer ["KC-FRACTION"] false 0) (by decide) rfl
    exact absurd agree (by decide)
  · intro well
    have once := well.timesNamed_le ("student-a", "KC-FRACTION")
      (answer ["KC-FRACTION", "KC-FRACTION"] true 0) mem_cons_self
    exact absurd once (by decide)

end OhMyClass.Outcomes.KnowledgeTracing
