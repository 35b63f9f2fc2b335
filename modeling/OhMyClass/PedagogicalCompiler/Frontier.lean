import Mathlib.Tactic.NormNum
import OhMyClass.Pareto.Core
import OhMyClass.PedagogicalCompiler.SemanticIr
import OhMyClass.Python.Text

/-!
# Optimized programs

The optimizer of candidate programs, and its decisions on the Pareto frontier.
-/

namespace OhMyClass.PedagogicalCompiler

open List

/-!
## The optimizer of programs

Candidates in the order of their ids are cut to the number the policy admits,
filtered by cost and hard constraints, compared by their metrics, and ranked.
-/

section

open Sorting

structure ConstraintResult where
  constraintId : String
  passed : Bool

structure ObjectiveMetric where
  name : String
  value : {value : ℚ // 0 ≤ value ∧ value ≤ 1}

structure CandidateProgram where
  candidateId : String
  constraintResults : List ConstraintResult
  metrics : List ObjectiveMetric
  generationCostUnits : ℕ := 0

def CandidateProgram.feasible (candidate : CandidateProgram) : Bool :=
  candidate.constraintResults.all ConstraintResult.passed

structure OptimizationPolicy where
  policyVersion : String
  seed : ℤ := 0
  metricWeights : List (String × ℚ) := []
  lexicographicPriority : List String := []
  maxCandidates : {count : ℕ // 1 ≤ count ∧ count ≤ 256} := ⟨16, by decide⟩
  maxCostUnits : {units : ℕ // 1 ≤ units} := ⟨100, by decide⟩

structure InfeasibilityExplanation where
  failedConstraintIds : List String
  minimalConflicts : List String
  safeOptions : List String

/-- A decision without its hash. -/
structure DecisionBase where
  decisionId : String
  policyVersion : String
  selectedCandidateId : Option String
  alternativeCandidateIds : List String
  frontier : List String
  infeasibility : Option InfeasibilityExplanation

structure SelectionDecision extends DecisionBase where
  decisionHash : String

/-- `_metric_map`, with nothing for a missing metric; of two metrics with one
name the last counts. -/
def metricValue (candidate : CandidateProgram) (name : String) : ℚ :=
  ((candidate.metrics.reverse.map fun metric => (metric.name, metric.value.1)).lookup name).getD 0

def metricNames (candidate : CandidateProgram) : List String :=
  candidate.metrics.map ObjectiveMetric.name

def dominates (left right : CandidateProgram) : Bool :=
  let names := metricNames left ++ metricNames right
  (names.all fun name => decide (metricValue right name ≤ metricValue left name)) &&
    names.any fun name => decide (metricValue right name < metricValue left name)

/-- `_rank_key`; the sum does not depend on the order of the weights. -/
def rankKey (policy : OptimizationPolicy) (candidate : CandidateProgram) : List ℚ :=
  policy.lexicographicPriority.map (metricValue candidate) ++
    [(policy.metricWeights.map fun weight => metricValue candidate weight.1 * weight.2).sum,
      -(candidate.generationCostUnits : ℚ)]

/-- The candidates a policy looks at: the first ones by id. -/
def considered (policy : OptimizationPolicy) (candidates : List CandidateProgram) :
    List CandidateProgram :=
  (sortBy CandidateProgram.candidateId candidates).take policy.maxCandidates.1

/-- `bounded`. -/
def affordable (policy : OptimizationPolicy) (candidates : List CandidateProgram) :
    List CandidateProgram :=
  (considered policy candidates).filter fun candidate =>
    decide (candidate.generationCostUnits ≤ policy.maxCostUnits.1)

def paretoFrontier (feasible : List CandidateProgram) : List CandidateProgram :=
  feasible.filter fun candidate => !feasible.any fun other =>
    decide (other.candidateId ≠ candidate.candidateId) && dominates other candidate

/-- `str` of a tuple of texts. -/
def tupleText (library : Library) (texts : List String) : String :=
  let quoted := texts.map fun text => String.ofList (Python.reprString library.printable text)
  match quoted with
  | [only] => "(" ++ only ++ ",)"
  | _ => "(" ++ ", ".intercalate quoted ++ ")"

section Decision

variable (library : Library) (canonicalJson : DecisionBase → String)

def decided (base : DecisionBase) : SelectionDecision :=
  { base with decisionHash := stableHash library "optimizer-decision" (canonicalJson base) }

/-- The decision where no affordable candidate is feasible. -/
def infeasibleDecision (policy : OptimizationPolicy) (bounded : List CandidateProgram) :
    DecisionBase :=
  let failed := sortBy id ((bounded.flatMap fun candidate =>
    (candidate.constraintResults.filter fun result => !result.passed).map
      ConstraintResult.constraintId).dedup)
  { decisionId := stableId library "optimizer-decision"
      [policy.policyVersion, toString policy.seed, tupleText library failed]
    policyVersion := policy.policyVersion
    selectedCandidateId := none
    alternativeCandidateIds := []
    frontier := []
    infeasibility := some
      { failedConstraintIds := failed
        minimalConflicts := failed
        safeOptions := ["increase duration", "reduce artifact scope",
          "request teacher clarification"] } }

/-- The frontier from the best rank down; the id decides between equal ranks. -/
def ranked (policy : OptimizationPolicy) (feasible : List CandidateProgram) :
    List CandidateProgram :=
  sortByDesc (fun candidate => toLex (rankKey policy candidate, candidate.candidateId))
    (paretoFrontier feasible)

def selectedDecision (policy : OptimizationPolicy) (feasible : List CandidateProgram)
    (selected : CandidateProgram) (rest : List CandidateProgram) : DecisionBase where
  decisionId := stableId library "optimizer-decision"
    [policy.policyVersion, toString policy.seed, selected.candidateId]
  policyVersion := policy.policyVersion
  selectedCandidateId := some selected.candidateId
  alternativeCandidateIds := (rest.take 3).map CandidateProgram.candidateId
  frontier := sortBy id ((paretoFrontier feasible).map CandidateProgram.candidateId)
  infeasibility := none

/-- `optimize_programs`; `ranked[0]` of an empty frontier would raise. -/
def optimizePrograms (policy : OptimizationPolicy) (candidates : List CandidateProgram) :
    Option SelectionDecision :=
  let bounded := affordable policy candidates
  let feasible := bounded.filter CandidateProgram.feasible
  if feasible.isEmpty then
    some (decided library canonicalJson (infeasibleDecision library policy bounded))
  else
    match ranked policy feasible with
    | [] => none
    | selected :: rest =>
      some (decided library canonicalJson
        (selectedDecision library policy feasible selected rest))

end Decision

end

/-!
## Decisions on the Pareto frontier

Dominance is the strict order of the metrics.  Among the candidates a policy
considers the decision is exact; a candidate past their number is not looked
at, however good it is.
-/

section

open Pareto Sorting

variable {candidate : CandidateProgram}

theorem metricValue_of_not_mem {name : String} (missing : name ∉ metricNames candidate) :
    metricValue candidate name = 0 := by
  unfold metricValue
  rw [lookup_eq_none_iff.mpr]
  · rfl
  · intro entry mem
    rcases mem_map.mp mem with ⟨metric, metricMem, rfl⟩
    have named := mem_map_of_mem (f := ObjectiveMetric.name) (mem_reverse.mp metricMem)
    simp only [bne_iff_ne, ne_eq]
    rintro rfl
    exact missing named

theorem dominates_iff {left right : CandidateProgram} :
    dominates left right = true ↔ metricValue right < metricValue left := by
  have outside {name : String} (unknown : name ∉ metricNames left ++ metricNames right) :
      metricValue right name = metricValue left name := by
    rw [mem_append, not_or] at unknown
    rw [metricValue_of_not_mem unknown.1, metricValue_of_not_mem unknown.2]
  simp only [dominates, Bool.and_eq_true, all_eq_true, any_eq_true, decide_eq_true_eq,
    Pi.lt_def]
  constructor
  · rintro ⟨atLeast, name, _, greater⟩
    refine ⟨fun other => ?_, name, greater⟩
    by_cases known : other ∈ metricNames left ++ metricNames right
    · exact atLeast other known
    · exact (outside known).le
  · rintro ⟨atLeast, name, greater⟩
    refine ⟨fun other _ => atLeast other, name, ?_, greater⟩
    by_contra unknown
    exact greater.ne (outside unknown)

variable {policy : OptimizationPolicy} {candidates : List CandidateProgram}

/-- No two candidates share an id. -/
abbrev DistinctCandidates (candidates : List CandidateProgram) : Prop :=
  (candidates.map CandidateProgram.candidateId).Nodup

theorem identifies_of_distinct (distinct : DistinctCandidates candidates) :
    Identifies CandidateProgram.candidateId candidates :=
  fun _ firstMem _ secondMem same => inj_on_of_nodup_map distinct firstMem secondMem same

/-- A candidate within the cost bound that fails no constraint. -/
structure Eligible (policy : OptimizationPolicy) (candidate : CandidateProgram) : Prop where
  affordable : candidate.generationCostUnits ≤ policy.maxCostUnits.1
  feasible : candidate.feasible = true

def eligibleCandidates (policy : OptimizationPolicy) (candidates : List CandidateProgram) :
    List CandidateProgram :=
  (affordable policy candidates).filter CandidateProgram.feasible

theorem mem_eligibleCandidates :
    candidate ∈ eligibleCandidates policy candidates ↔
      candidate ∈ considered policy candidates ∧ Eligible policy candidate := by
  simp only [eligibleCandidates, affordable, mem_filter, decide_eq_true_eq, and_assoc]
  exact and_congr_right fun _ => ⟨fun both => ⟨both.1, both.2⟩, fun both => ⟨both.1, both.2⟩⟩

theorem mem_of_mem_considered (mem : candidate ∈ considered policy candidates) :
    candidate ∈ candidates :=
  mem_sortBy.mp (mem_of_mem_take mem)

theorem mem_paretoFrontier_iff {feasible : List CandidateProgram}
    (identifies : Identifies CandidateProgram.candidateId feasible) :
    candidate ∈ paretoFrontier feasible ↔ OnFrontier metricValue feasible candidate := by
  simp only [paretoFrontier, mem_filter, Bool.not_eq_true', any_eq_false, Bool.and_eq_true,
    decide_eq_true_eq, dominates_iff, not_and]
  constructor
  · rintro ⟨mem, undominated⟩
    refine ⟨mem, fun other otherMem exceeds => ?_⟩
    apply undominated other otherMem _ exceeds
    intro same
    rw [identifies other otherMem candidate mem same] at exceeds
    exact exceeds.false
  · intro onFrontier
    exact ⟨onFrontier.mem, fun other otherMem _ => onFrontier.undominated other otherMem⟩

/-! ## What is decided -/

variable {library : Library} {canonicalJson : DecisionBase → String}

/-- The selection among the candidates that are considered is exact. -/
structure Exact (policy : OptimizationPolicy) (candidates : List CandidateProgram)
    (decision : SelectionDecision) : Prop where
  selects_iff : decision.selectedCandidateId ≠ none ↔
    ∃ candidate ∈ considered policy candidates, Eligible policy candidate
  infeasible_iff : decision.infeasibility ≠ none ↔
    ¬ ∃ candidate ∈ considered policy candidates, Eligible policy candidate
  frontier : ∀ id, id ∈ decision.frontier ↔
    ∃ candidate ∈ considered policy candidates, Eligible policy candidate ∧
      candidate.candidateId = id ∧ ∀ other ∈ considered policy candidates, Eligible policy other →
        dominates other candidate = false
  covered : ∀ candidate ∈ considered policy candidates, Eligible policy candidate →
    candidate.candidateId ∈ decision.frontier ∨
      ∃ best ∈ considered policy candidates, Eligible policy best ∧
        best.candidateId ∈ decision.frontier ∧ dominates best candidate = true
  selected : ∀ id, decision.selectedCandidateId = some id →
    ∃ candidate ∈ considered policy candidates, Eligible policy candidate ∧
      candidate.candidateId = id ∧ id ∈ decision.frontier ∧
        ∀ other ∈ considered policy candidates, Eligible policy other →
          other.candidateId ∈ decision.frontier → rankKey policy other ≤ rankKey policy candidate

theorem identifies_eligible (policy : OptimizationPolicy)
    (distinct : DistinctCandidates candidates) :
    Identifies CandidateProgram.candidateId (eligibleCandidates policy candidates) := by
  intro first firstMem second secondMem same
  exact identifies_of_distinct distinct first
    (mem_of_mem_considered (mem_eligibleCandidates.mp firstMem).1) second
    (mem_of_mem_considered (mem_eligibleCandidates.mp secondMem).1) same

theorem optimizePrograms_of_no_eligible (none_eligible : eligibleCandidates policy candidates = []) :
    optimizePrograms library canonicalJson policy candidates =
      some (decided library canonicalJson
        (infeasibleDecision library policy (affordable policy candidates))) := by
  unfold eligibleCandidates at none_eligible
  simp only [optimizePrograms, none_eligible, isEmpty_nil, if_true]

/-- The rank of a candidate with its id. -/
def rank (policy : OptimizationPolicy) (candidate : CandidateProgram) : List ℚ ×ₗ String :=
  toLex (rankKey policy candidate, candidate.candidateId)

theorem mem_ranked (policy : OptimizationPolicy) {feasible : List CandidateProgram} :
    candidate ∈ ranked policy feasible ↔ candidate ∈ paretoFrontier feasible :=
  (sortByDesc_perm _ _).mem_iff

theorem exists_ranked (distinct : DistinctCandidates candidates)
    (some_eligible : eligibleCandidates policy candidates ≠ []) :
    ∃ selected rest, ranked policy (eligibleCandidates policy candidates) = selected :: rest ∧
      ∀ other ∈ paretoFrontier (eligibleCandidates policy candidates),
        rankKey policy other ≤ rankKey policy selected := by
  rcases exists_mem_of_ne_nil _ some_eligible with ⟨candidate, mem⟩
  rcases exists_onFrontier_ge metricValue mem with ⟨best, onFrontier, _⟩
  have nonempty := (mem_ranked policy).mpr
    ((mem_paretoFrontier_iff (identifies_eligible policy distinct)).mpr onFrontier)
  have descending := pairwise_sortByDesc (rank policy)
    (paretoFrontier (eligibleCandidates policy candidates))
  change (ranked policy (eligibleCandidates policy candidates)).Pairwise _ at descending
  cases order : ranked policy (eligibleCandidates policy candidates) with
  | nil =>
    rw [order] at nonempty
    cases nonempty
  | cons selected rest =>
    refine ⟨selected, rest, rfl, fun other otherMem => ?_⟩
    rw [← mem_ranked policy, order] at otherMem
    rw [order, pairwise_cons] at descending
    rcases mem_cons.mp otherMem with rfl | later
    · exact le_rfl
    · rcases Prod.Lex.le_iff.mp (descending.1 other later) with less | ⟨same, _⟩
      · exact le_of_lt less
      · exact le_of_eq same

variable {selected : CandidateProgram} {rest : List CandidateProgram}

theorem optimizePrograms_of_ranked (some_eligible : eligibleCandidates policy candidates ≠ [])
    (order : ranked policy (eligibleCandidates policy candidates) = selected :: rest) :
    optimizePrograms library canonicalJson policy candidates =
      some (decided library canonicalJson (selectedDecision library policy
        (eligibleCandidates policy candidates) selected rest)) := by
  have nonempty : (eligibleCandidates policy candidates).isEmpty = false :=
    isEmpty_eq_false_iff.mpr some_eligible
  unfold eligibleCandidates at nonempty order ⊢
  simp only [optimizePrograms, nonempty, Bool.false_eq_true, if_false, order]

theorem eligibleCandidates_eq_nil_iff :
    eligibleCandidates policy candidates = [] ↔
      ¬ ∃ candidate ∈ considered policy candidates, Eligible policy candidate := by
  rw [eq_nil_iff_forall_not_mem, not_exists]
  exact forall_congr' fun candidate => not_congr mem_eligibleCandidates

theorem exact_of_no_eligible (none_eligible : eligibleCandidates policy candidates = []) :
    Exact policy candidates (decided library canonicalJson
      (infeasibleDecision library policy (affordable policy candidates))) := by
  have missing := eligibleCandidates_eq_nil_iff.mp none_eligible
  constructor
  · exact ⟨fun selects => absurd rfl selects, fun found => absurd found missing⟩
  · exact ⟨fun _ => missing, fun _ => Option.some_ne_none _⟩
  · exact fun id => ⟨fun mem => absurd mem not_mem_nil,
      fun ⟨candidate, mem, eligible, _⟩ => absurd ⟨candidate, mem, eligible⟩ missing⟩
  · exact fun candidate mem eligible => absurd ⟨candidate, mem, eligible⟩ missing
  · exact fun id selects => absurd selects (Option.some_ne_none id).symm

theorem mem_frontier_selectedDecision (distinct : DistinctCandidates candidates) {id : String} :
    id ∈ (selectedDecision library policy (eligibleCandidates policy candidates) selected
        rest).frontier ↔
      ∃ candidate, OnFrontier metricValue (eligibleCandidates policy candidates) candidate ∧
        candidate.candidateId = id := by
  simp only [selectedDecision, mem_sortBy, mem_map,
    mem_paretoFrontier_iff (identifies_eligible policy distinct)]

theorem exact_of_ranked (distinct : DistinctCandidates candidates)
    (some_eligible : eligibleCandidates policy candidates ≠ [])
    (order : ranked policy (eligibleCandidates policy candidates) = selected :: rest)
    (best : ∀ other ∈ paretoFrontier (eligibleCandidates policy candidates),
      rankKey policy other ≤ rankKey policy selected) :
    Exact policy candidates (decided library canonicalJson (selectedDecision library policy
      (eligibleCandidates policy candidates) selected rest)) := by
  have found : ∃ candidate ∈ considered policy candidates, Eligible policy candidate :=
    Classical.not_not.mp (mt eligibleCandidates_eq_nil_iff.mpr some_eligible)
  have identifies := identifies_eligible policy distinct
  have selectedMem : OnFrontier metricValue (eligibleCandidates policy candidates) selected := by
    rw [← mem_paretoFrontier_iff identifies, ← mem_ranked policy, order]
    exact .head _
  constructor
  · exact ⟨fun _ => found, fun _ => Option.some_ne_none _⟩
  · exact ⟨fun infeasible => absurd rfl infeasible, fun missing => absurd found missing⟩
  · intro id
    refine (mem_frontier_selectedDecision distinct).trans ⟨?_, ?_⟩
    · rintro ⟨candidate, onFrontier, rfl⟩
      rcases mem_eligibleCandidates.mp onFrontier.mem with ⟨mem, eligible⟩
      refine ⟨candidate, mem, eligible, rfl, fun other otherMem otherEligible => ?_⟩
      rw [Bool.eq_false_iff, ne_eq, dominates_iff]
      exact onFrontier.undominated other
        (mem_eligibleCandidates.mpr ⟨otherMem, otherEligible⟩)
    · rintro ⟨candidate, mem, eligible, rfl, undominated⟩
      refine ⟨candidate, ⟨mem_eligibleCandidates.mpr ⟨mem, eligible⟩, ?_⟩, rfl⟩
      intro other otherMem exceeds
      rcases mem_eligibleCandidates.mp otherMem with ⟨otherConsidered, otherEligible⟩
      rw [← dominates_iff, undominated other otherConsidered otherEligible] at exceeds
      cases exceeds
  · intro candidate mem eligible
    rcases onFrontier_or_exceeded metricValue
      (mem_eligibleCandidates.mpr ⟨mem, eligible⟩) with onFrontier | ⟨above, onFrontier, exceeds⟩
    · exact .inl ((mem_frontier_selectedDecision distinct).mpr ⟨candidate, onFrontier, rfl⟩)
    · rcases mem_eligibleCandidates.mp onFrontier.mem with ⟨aboveConsidered, aboveEligible⟩
      exact .inr ⟨above, aboveConsidered, aboveEligible,
        (mem_frontier_selectedDecision distinct).mpr ⟨above, onFrontier, rfl⟩,
        dominates_iff.mpr exceeds⟩
  · rintro _ ⟨⟩
    rcases mem_eligibleCandidates.mp selectedMem.mem with ⟨mem, eligible⟩
    refine ⟨selected, mem, eligible, rfl,
      (mem_frontier_selectedDecision distinct).mpr ⟨selected, selectedMem, rfl⟩, ?_⟩
    intro other otherConsidered otherEligible onFrontier
    rcases (mem_frontier_selectedDecision distinct).mp onFrontier
      with ⟨candidate, candidateMem, sameId⟩
    have same := identifies candidate candidateMem.mem other
      (mem_eligibleCandidates.mpr ⟨otherConsidered, otherEligible⟩) sameId
    rw [← same]
    exact best candidate ((mem_paretoFrontier_iff identifies).mpr candidateMem)

theorem exists_exact (distinct : DistinctCandidates candidates) :
    ∃ decision, optimizePrograms library canonicalJson policy candidates = some decision ∧
      Exact policy candidates decision := by
  by_cases none_eligible : eligibleCandidates policy candidates = []
  · exact ⟨_, optimizePrograms_of_no_eligible none_eligible, exact_of_no_eligible none_eligible⟩
  · rcases exists_ranked distinct none_eligible with ⟨selected, rest, order, best⟩
    exact ⟨_, optimizePrograms_of_ranked none_eligible order,
      exact_of_ranked distinct none_eligible order best⟩

/-! ## Other orders and more candidates -/

theorem considered_of_perm (distinct : DistinctCandidates candidates)
    {others : List CandidateProgram} (permutation : others.Perm candidates) :
    considered policy others = considered policy candidates := by
  unfold considered
  rw [eq_sortBy (identifies_of_distinct distinct) (pairwise_sortBy _ others)
    ((sortBy_perm _ others).trans permutation)]

theorem optimizePrograms_congr {others : List CandidateProgram}
    (same : affordable policy others = affordable policy candidates) :
    optimizePrograms library canonicalJson policy others =
      optimizePrograms library canonicalJson policy candidates := by
  simp only [optimizePrograms, same]

theorem considered_of_length_le (few : candidates.length ≤ policy.maxCandidates.1) :
    considered policy candidates = sortBy CandidateProgram.candidateId candidates := by
  apply take_of_length_le
  rw [(sortBy_perm _ candidates).length_eq]
  exact few

section Added

variable {added : CandidateProgram} (distinct : DistinctCandidates (added :: candidates))
  (few : (added :: candidates).length ≤ policy.maxCandidates.1)
include distinct few

theorem affordable_cons (expensive : policy.maxCostUnits.1 < added.generationCostUnits) :
    affordable policy (added :: candidates) = affordable policy candidates := by
  have identifies := identifies_of_distinct distinct
  have fewer : candidates.length ≤ policy.maxCandidates.1 := (Nat.le_succ _).trans few
  unfold affordable
  rw [considered_of_length_le few, considered_of_length_le fewer, filter_sortBy identifies,
    filter_sortBy (identifies_of_distinct distinct.of_cons), filter_cons_of_neg]
  simpa using expensive

theorem eligibleCandidates_cons (infeasible : added.feasible = false) :
    eligibleCandidates policy (added :: candidates) = eligibleCandidates policy candidates := by
  have identifies := identifies_of_distinct distinct
  have fewer : candidates.length ≤ policy.maxCandidates.1 := (Nat.le_succ _).trans few
  unfold eligibleCandidates affordable
  rw [considered_of_length_le few, considered_of_length_le fewer, filter_filter,
    filter_filter, filter_sortBy identifies,
    filter_sortBy (identifies_of_distinct distinct.of_cons)]
  simp [infeasible]

theorem optimizePrograms_cons_of_infeasible (infeasible : added.feasible = false)
    (found : ∃ candidate ∈ considered policy candidates, Eligible policy candidate) :
    optimizePrograms library canonicalJson policy (added :: candidates) =
      optimizePrograms library canonicalJson policy candidates := by
  have same := eligibleCandidates_cons distinct few infeasible
  have some_eligible : eligibleCandidates policy candidates ≠ [] :=
    mt eligibleCandidates_eq_nil_iff.mp (not_not.mpr found)
  rcases exists_ranked distinct.of_cons some_eligible with ⟨selected, rest, order, _⟩
  rw [optimizePrograms_of_ranked some_eligible order,
    optimizePrograms_of_ranked (same ▸ some_eligible) (same ▸ order), same]

end Added

/-- Among the candidates it considers the optimizer decides exactly, whatever
their order; as long as all are considered, a candidate that is over the cost
bound changes nothing, nor does an infeasible one next to an eligible one. -/
theorem optimizePrograms_exact (library : Library) (canonicalJson : DecisionBase → String)
    (policy : OptimizationPolicy) (candidates : List CandidateProgram)
    (distinct : DistinctCandidates candidates) :
    (∃ decision, optimizePrograms library canonicalJson policy candidates = some decision ∧
      Exact policy candidates decision) ∧
    (candidates.length ≤ policy.maxCandidates.1 →
      ∀ candidate, candidate ∈ considered policy candidates ↔ candidate ∈ candidates) ∧
    (∀ others, others.Perm candidates → optimizePrograms library canonicalJson policy others =
      optimizePrograms library canonicalJson policy candidates) ∧
    (∀ added, DistinctCandidates (added :: candidates) →
      (added :: candidates).length ≤ policy.maxCandidates.1 →
        (policy.maxCostUnits.1 < added.generationCostUnits ∨ added.feasible = false ∧
          ∃ candidate ∈ considered policy candidates, Eligible policy candidate) →
            optimizePrograms library canonicalJson policy (added :: candidates) =
              optimizePrograms library canonicalJson policy candidates) := by
  refine ⟨exists_exact distinct, ?_, ?_, ?_⟩
  · intro few candidate
    rw [considered_of_length_le few, mem_sortBy]
  · intro others permutation
    apply optimizePrograms_congr
    unfold affordable
    rw [considered_of_perm distinct permutation]
  · rintro added distinctAll few (expensive | ⟨infeasible, found⟩)
    · exact optimizePrograms_congr (affordable_cons distinctAll few expensive)
    · exact optimizePrograms_cons_of_infeasible distinctAll few infeasible found

/-- An infeasible candidate with the first id. -/
def failing : CandidateProgram where
  candidateId := "candidate-a"
  constraintResults := [⟨"hard:duration", false⟩]
  metrics := []

def passing : CandidateProgram where
  candidateId := "candidate-b"
  constraintResults := []
  metrics := []

/-- A policy that looks at one candidate. -/
def single : OptimizationPolicy where
  policyVersion := "optimizer.v1"
  maxCandidates := ⟨1, by decide⟩

theorem passing_not_selected : ¬ ∀ (candidates : List CandidateProgram),
    DistinctCandidates candidates → (∃ candidate ∈ candidates, Eligible single candidate) →
      ∀ library canonicalJson decision,
        optimizePrograms library canonicalJson single candidates = some decision →
          decision.selectedCandidateId ≠ none := by
  intro claim
  have none_eligible : eligibleCandidates single [failing, passing] = [] := by decide
  exact claim [failing, passing] (by decide) ⟨passing, .tail _ (.head _), by decide, rfl⟩
    plainLibrary (fun _ => "") _
    (optimizePrograms_of_no_eligible none_eligible) rfl

theorem optimizePrograms_exact_single :
    (∃ decision, optimizePrograms plainLibrary (fun _ => "") single
        [failing, passing] = some decision ∧ Exact single [failing, passing] decision) ∧
    ([failing, passing].length ≤ single.maxCandidates.1 →
      ∀ candidate, candidate ∈ considered single [failing, passing] ↔
        candidate ∈ [failing, passing]) ∧
    (∀ others, others.Perm [failing, passing] →
      optimizePrograms plainLibrary (fun _ => "") single others =
        optimizePrograms plainLibrary (fun _ => "") single
          [failing, passing]) ∧
    (∀ added, DistinctCandidates (added :: [failing, passing]) →
      (added :: [failing, passing]).length ≤ single.maxCandidates.1 →
        (single.maxCostUnits.1 < added.generationCostUnits ∨ added.feasible = false ∧
          ∃ candidate ∈ considered single [failing, passing], Eligible single candidate) →
            optimizePrograms plainLibrary (fun _ => "") single
                (added :: [failing, passing]) =
              optimizePrograms plainLibrary (fun _ => "") single
                [failing, passing]) :=
  optimizePrograms_exact plainLibrary (fun _ => "") single
    [failing, passing] (by decide)

end

end OhMyClass.PedagogicalCompiler
