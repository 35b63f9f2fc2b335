import Mathlib.Algebra.Order.Field.Basic
import Mathlib.Tactic.Linarith
import OhMyClass.Transition.Machine

/-!
# The token budget

Usage is recorded task by task in a moving average, from which the soft limit
of a task is taken once there are enough samples.
-/

namespace OhMyClass.LlmClient

open List Function Transition

structure TokenBudgetConfig where
  contentGenerationSoftLimit : ℤ := 12000
  blueprintDesignSoftLimit : ℤ := 6000
  factVerificationSoftLimit : ℤ := 4000
  qualityGateSoftLimit : ℤ := 3000
  emaAlpha : ℚ := 1 / 10
  emaHeadroom : ℚ := 3 / 2
  emaMinSamples : ℤ := 5

/-- `getattr(self._config, f"{task}_soft_limit", 8_000)`. -/
def TokenBudgetConfig.softLimit (config : TokenBudgetConfig) (task : String) : ℤ :=
  if task = "content_generation" then config.contentGenerationSoftLimit
  else if task = "blueprint_design" then config.blueprintDesignSoftLimit
  else if task = "fact_verification" then config.factVerificationSoftLimit
  else if task = "quality_gate" then config.qualityGateSoftLimit
  else 8000

structure EMATracker where
  values : String → Option ℚ
  counts : String → ℕ

namespace EMATracker

def empty : EMATracker :=
  ⟨fun _ => none, fun _ => 0⟩

def record (alpha : ℚ) (tracker : EMATracker) (task : String) (tokens : ℕ) : EMATracker :=
  let current := (tracker.values task).getD tokens
  let value := if tracker.counts task = 0 then (tokens : ℚ)
    else alpha * tokens + (1 - alpha) * current
  { values := Function.update tracker.values task (some value)
    counts := Function.update tracker.counts task (tracker.counts task + 1) }

def getEma (minSamples : ℤ) (tracker : EMATracker) (task : String) : Option ℚ :=
  if tracker.counts task < minSamples then none else tracker.values task

end EMATracker

inductive BudgetError where
  | zeroDivision
  deriving DecidableEq

/-- `int` of a number with a fraction. -/
def truncate (value : ℚ) : ℤ :=
  value.num.tdiv value.den

namespace TokenBudgetConfig

variable (config : TokenBudgetConfig)

def getSoftLimit (tracker : EMATracker) (task : String) : ℤ :=
  match tracker.getEma config.emaMinSamples task with
  | some value => truncate (value * config.emaHeadroom)
  | none => config.softLimit task

/-- The warning of usage above the limit divides by the limit. -/
def checkSoftLimit (tracker : EMATracker) (task : String) (tokensUsed : ℕ) :
    Except BudgetError Bool :=
  let limit := config.getSoftLimit tracker task
  if limit < tokensUsed then
    if limit = 0 then .error .zeroDivision else .ok false
  else .ok true

/-- A manager with this configuration; a usage is a task with its tokens. -/
def manager : Machine EMATracker (String × ℕ) (Except BudgetError Unit) where
  initial tracker := tracker = .empty
  step tracker usage :=
    let recorded := tracker.record config.emaAlpha usage.1 usage.2
    (recorded, (config.checkSoftLimit recorded usage.1 usage.2).map fun _ => ())

end TokenBudgetConfig

/-- The moving average of counts, newest first. -/
def average (alpha : ℚ) : List ℕ → ℚ
  | [] => 0
  | tokens :: older =>
    if older = [] then tokens else alpha * tokens + (1 - alpha) * average alpha older

/-- The counts recorded for a task. -/
def countsOf (task : String) (usages : List (String × ℕ)) : List ℕ :=
  (usages.filter fun usage => usage.1 = task).map Prod.snd

/-- The limit after these counts is not zero. -/
def TokenBudgetConfig.Limited (config : TokenBudgetConfig) (task : String) (counts : List ℕ) :
    Prop :=
  if (counts.length : ℤ) < config.emaMinSamples then config.softLimit task ≠ 0
  else 1 ≤ |average config.emaAlpha counts * config.emaHeadroom|

/-- Usage is recorded without an error, in averages between the smallest and the
largest count of their task, and no limit changes but that of the task. -/
structure AccountsSafely (config : TokenBudgetConfig) (tracker : EMATracker)
    (history : History (String × ℕ) (Except BudgetError Unit)) : Prop where
  returns : ∀ recorded ∈ history, recorded.2 = .ok ()
  between : ∀ task value, tracker.values task = some value →
    ∃ smallest ∈ countsOf task (history.map Prod.fst),
      ∃ largest ∈ countsOf task (history.map Prod.fst),
        (smallest : ℚ) ≤ value ∧ value ≤ largest
  others : ∀ task tokens other, other ≠ task →
    config.getSoftLimit (config.manager.step tracker (task, tokens)).1 other =
      config.getSoftLimit tracker other

/-- What the tracker holds for each task of the usages. -/
def Tracks (alpha : ℚ) (usages : List (String × ℕ)) (tracker : EMATracker) : Prop :=
  ∀ task, tracker.counts task = (countsOf task usages).length ∧
    tracker.values task = if countsOf task usages = [] then none
      else some (average alpha (countsOf task usages))

section Records

variable {alpha : ℚ} {usages : List (String × ℕ)} {tracker : EMATracker} {task other : String}
  {tokens : ℕ} {counts : List ℕ} {config : TokenBudgetConfig}

theorem truncate_eq_zero_iff {value : ℚ} : truncate value = 0 ↔ |value| < 1 := by
  have positive : (0 : ℚ) < value.den := by exact_mod_cast value.den_pos
  have fraction : |value| = (value.num.natAbs : ℚ) / value.den := by
    rw [← Rat.num_div_den value, abs_div, abs_of_pos positive, Rat.num_div_den, ← Int.cast_abs,
      Int.abs_eq_natAbs]
    rfl
  rw [← Int.natAbs_eq_zero, truncate, Int.natAbs_tdiv, fraction, div_lt_one positive, Nat.cast_lt]
  exact Nat.div_eq_zero_iff_lt value.den_pos

theorem countsOf_cons_self : countsOf task ((task, tokens) :: usages) =
    tokens :: countsOf task usages := by
  simp [countsOf]

theorem countsOf_cons_other (different : other ≠ task) :
    countsOf other ((task, tokens) :: usages) = countsOf other usages := by
  simp [countsOf, different.symm]

theorem Tracks.record (tracks : Tracks alpha usages tracker) (task : String) (tokens : ℕ) :
    Tracks alpha ((task, tokens) :: usages) (tracker.record alpha task tokens) := by
  intro other
  by_cases same : other = task
  · subst same
    rcases tracks other with ⟨length, value⟩
    rw [countsOf_cons_self]
    simp only [EMATracker.record, update_self, length, value]
    cases countsOf other usages with
    | nil => exact ⟨rfl, rfl⟩
    | cons first rest => exact ⟨rfl, rfl⟩
  · rw [countsOf_cons_other same]
    simp only [EMATracker.record, update_of_ne same]
    exact tracks other

theorem average_within (range : 0 ≤ alpha ∧ alpha ≤ 1) {lower upper : ℚ}
    (within : ∀ count ∈ counts, lower ≤ (count : ℚ) ∧ (count : ℚ) ≤ upper)
    (nonempty : counts ≠ []) : lower ≤ average alpha counts ∧ average alpha counts ≤ upper := by
  induction counts with
  | nil => exact absurd rfl nonempty
  | cons tokens older ih =>
    rw [forall_mem_cons] at within
    rw [average]
    split
    · exact within.1
    · next more =>
      have rest := ih within.2 more
      have weight : 0 ≤ 1 - alpha := sub_nonneg.mpr range.2
      have lowers := add_le_add (mul_le_mul_of_nonneg_left within.1.1 range.1)
        (mul_le_mul_of_nonneg_left rest.1 weight)
      have uppers := add_le_add (mul_le_mul_of_nonneg_left within.1.2 range.1)
        (mul_le_mul_of_nonneg_left rest.2 weight)
      constructor <;> linarith

theorem average_between (range : 0 ≤ alpha ∧ alpha ≤ 1) (nonempty : counts ≠ []) :
    ∃ smallest ∈ counts, ∃ largest ∈ counts,
      (smallest : ℚ) ≤ average alpha counts ∧ average alpha counts ≤ largest := by
  have someCount := List.toFinset_nonempty_iff counts |>.mpr nonempty
  rcases counts.toFinset.exists_min_image id someCount with ⟨smallest, isSmallest, least⟩
  rcases counts.toFinset.exists_max_image id someCount with ⟨largest, isLargest, greatest⟩
  simp only [mem_toFinset] at isSmallest isLargest least greatest
  refine ⟨smallest, isSmallest, largest, isLargest, average_within range (fun count mem => ?_) nonempty⟩
  exact ⟨Nat.cast_le.mpr (least count mem), Nat.cast_le.mpr (greatest count mem)⟩

theorem Tracks.getSoftLimit_eq_zero_iff (tracks : Tracks config.emaAlpha usages tracker)
    (task : String) (nonempty : countsOf task usages ≠ []) :
    config.getSoftLimit tracker task = 0 ↔ ¬ config.Limited task (countsOf task usages) := by
  rcases tracks task with ⟨length, value⟩
  rw [if_neg nonempty] at value
  unfold TokenBudgetConfig.getSoftLimit TokenBudgetConfig.Limited EMATracker.getEma
  rw [length, value]
  by_cases few : ((countsOf task usages).length : ℤ) < config.emaMinSamples
  · simp only [if_pos few, not_not]
  · simp only [if_neg few, truncate_eq_zero_iff, not_le]

theorem Tracks.returns_iff (tracks : Tracks config.emaAlpha usages tracker) (task : String)
    (tokens : ℕ) :
    (config.manager.step tracker (task, tokens)).2 = .ok () ↔
      (0 < tokens → config.Limited task (tokens :: countsOf task usages)) := by
  have zero_iff := (tracks.record task tokens).getSoftLimit_eq_zero_iff task
    (by rw [countsOf_cons_self]; exact cons_ne_nil _ _)
  rw [countsOf_cons_self] at zero_iff
  rw [← not_not (a := config.Limited _ _), ← zero_iff]
  simp only [TokenBudgetConfig.manager, TokenBudgetConfig.checkSoftLimit]
  split
  · next exceeded =>
    split
    · next isZero =>
      rw [isZero, Int.natCast_pos] at exceeded
      simp [Except.map, isZero, exceeded]
    · next nonzero => simp [Except.map, nonzero]
  · next within =>
    refine iff_of_true rfl fun used isZero => within ?_
    rw [isZero]
    exact Int.natCast_pos.mpr used

end Records

variable {config : TokenBudgetConfig} {tracker : EMATracker}
  {history : History (String × ℕ) (Except BudgetError Unit)}

theorem tracks_of_run (run : config.manager.Run (fun _ _ _ => True) tracker history) :
    Tracks config.emaAlpha (history.map Prod.fst) tracker := by
  induction run with
  | start isInitial =>
    cases isInitial
    exact fun task => ⟨rfl, rfl⟩
  | next usage _ _ ih => exact ih.record usage.1 usage.2

/-- Usage is accounted for safely exactly if no use of tokens meets a limit that
is zero after it. -/
theorem accountsSafely_iff (range : 0 ≤ config.emaAlpha ∧ config.emaAlpha ≤ 1)
    (run : config.manager.Run (fun _ _ _ => True) tracker history) :
    AccountsSafely config tracker history ↔
      ∀ later task tokens older, history.map Prod.fst = later ++ (task, tokens) :: older →
        0 < tokens → config.Limited task (tokens :: countsOf task older) := by
  have returns_iff : (∀ recorded ∈ history, recorded.2 = .ok ()) ↔
      ∀ later task tokens older, history.map Prod.fst = later ++ (task, tokens) :: older →
        0 < tokens → config.Limited task (tokens :: countsOf task older) := by
    induction run with
    | start isInitial => simp
    | @next state history usage run _ ih =>
      have first := (tracks_of_run run).returns_iff usage.1 usage.2
      simp only [Machine.advance, forall_mem_cons, map_cons, first, ih]
      constructor
      · rintro ⟨now, before⟩ later task tokens older split
        rcases cons_eq_append_iff.mp split with ⟨rfl, same⟩ | ⟨others, rfl, same⟩
        · cases same
          exact now
        · exact before others task tokens older same
      · intro all
        refine ⟨all [] usage.1 usage.2 _ rfl, fun later task tokens older split => ?_⟩
        exact all (usage :: later) task tokens older (by rw [split]; rfl)
  refine ⟨fun safe => returns_iff.mp safe.returns, fun limited => ?_⟩
  constructor
  case returns => exact returns_iff.mpr limited
  case between =>
    intro task value isValue
    rw [(tracks_of_run run task).2] at isValue
    split at isValue
    · cases isValue
    · next nonempty =>
      rw [← Option.some.inj isValue]
      exact average_between range nonempty
  case others =>
    intro task tokens other different
    simp only [TokenBudgetConfig.manager, TokenBudgetConfig.getSoftLimit, EMATracker.getEma,
      EMATracker.record, update_of_ne different]

/-- Four answers without tokens, and one with a single token. -/
def shortAnswers : EMATracker × History (String × ℕ) (Except BudgetError Unit) :=
  (TokenBudgetConfig.manager {}).drive (.empty, [])
    (List.replicate 4 ("quality_gate", 0) ++ [("quality_gate", 1)])

theorem run_shortAnswers :
    (TokenBudgetConfig.manager {}).Run (fun _ _ _ => True) shortAnswers.1 shortAnswers.2 :=
  (Machine.Run.start rfl).drive _ Machine.admits_all

theorem accountsSafely_shortAnswers : AccountsSafely {} shortAnswers.1 shortAnswers.2 ↔
    ∀ later task tokens older,
      shortAnswers.2.map Prod.fst = later ++ (task, tokens) :: older → 0 < tokens →
        TokenBudgetConfig.Limited {} task (tokens :: countsOf task older) :=
  accountsSafely_iff (by norm_num) run_shortAnswers

/-- The warning about the last answer divides by zero. -/
theorem lastAnswer_raises : ¬ ∀ config : TokenBudgetConfig,
    0 ≤ config.emaAlpha ∧ config.emaAlpha ≤ 1 → ∀ tracker history,
      config.manager.Run (fun _ _ _ => True) tracker history →
        AccountsSafely config tracker history := by
  intro safe
  have raises : (("quality_gate", 1), .error .zeroDivision) ∈ shortAnswers.2 := by decide +kernel
  cases (safe {} (by norm_num) _ _ run_shortAnswers).returns _ raises

end OhMyClass.LlmClient
