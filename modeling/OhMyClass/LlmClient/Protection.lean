import Mathlib.Algebra.Order.Field.Rat
import Mathlib.Tactic.Linarith
import OhMyClass.Transition.Machine

/-!
# The breakers of the model client

A breaker without a provider counts in its own fields; one with a provider
hands every call to a second breaker that keeps its count in a store, if a
store is configured.  Times are seconds, with their fractions.
-/

namespace OhMyClass.LlmClient

section

open Transition

inductive CircuitState where
  | closed
  | opened
  | halfOpen
  deriving DecidableEq

/-- The value under the key of a breaker. -/
structure Entry where
  failures : ℕ
  state : CircuitState
  lastFailureTime : ℚ

def Entry.initial : Entry :=
  ⟨0, .closed, 0⟩

/-- `BreakerStore`, over the contents `σ`. -/
structure BreakerStore (σ : Type) where
  get : σ → String → Option Entry
  set : σ → String → Entry → (ttlSeconds : ℚ) → σ

/-- A store that keeps what it was given until it is given something else. -/
structure BreakerStore.Faithful {σ : Type} (store : BreakerStore σ) : Prop where
  get_set : ∀ stored key entry ttlSeconds,
    store.get (store.set stored key entry ttlSeconds) key = some entry

structure ProviderCircuitBreaker (σ : Type) where
  providerName : String
  threshold : ℕ := 3
  recoveryTimeout : ℚ := 60
  store : Option (BreakerStore σ) := none

namespace ProviderCircuitBreaker

variable {σ : Type} (breaker : ProviderCircuitBreaker σ)

def key : String :=
  "cb:provider:" ++ breaker.providerName

/-- `_state`. -/
def entry (stored : σ) : Entry :=
  match breaker.store with
  | none => .initial
  | some store => (store.get stored breaker.key).getD .initial

def save (stored : σ) (value : Entry) : σ :=
  match breaker.store with
  | none => stored
  | some store => store.set stored breaker.key value breaker.recoveryTimeout

def isOpen (time : ℚ) (stored : σ) : Bool × σ :=
  let current := breaker.entry stored
  if current.state ≠ .opened then
    (false, stored)
  else if breaker.recoveryTimeout ≤ time - current.lastFailureTime then
    (false, breaker.save stored { current with state := .halfOpen })
  else
    (true, stored)

def recordSuccess (stored : σ) : σ :=
  breaker.save stored .initial

def recordFailure (time : ℚ) (stored : σ) : σ :=
  let failures := (breaker.entry stored).failures + 1
  breaker.save stored
    { failures := failures
      state := if breaker.threshold ≤ failures then .opened else .closed
      lastFailureTime := time }

end ProviderCircuitBreaker

structure CircuitBreaker where
  failureThreshold : ℕ := 3
  recoverySeconds : ℚ := 60
  provider : Option String := none
  failures : ℕ := 0
  state : CircuitState := .closed
  openedAt : Option ℚ := none

/-- `breaker_for`, the first time a provider is named. -/
def breakerFor (provider : String) : CircuitBreaker :=
  { provider := some provider }

namespace CircuitBreaker

variable {σ : Type} (providerStore : Option (BreakerStore σ)) (breaker : CircuitBreaker)

/-- `delegate`; the module's store is read when it is first asked for. -/
def delegate : Option (ProviderCircuitBreaker σ) :=
  breaker.provider.map fun provider =>
    { providerName := provider
      threshold := breaker.failureThreshold
      recoveryTimeout := breaker.recoverySeconds
      store := providerStore }

def recordSuccess (stored : σ) : CircuitBreaker × σ :=
  match breaker.delegate providerStore with
  | some delegate => (breaker, delegate.recordSuccess stored)
  | none => ({ breaker with failures := 0, state := .closed, openedAt := none }, stored)

def recordFailure (time : ℚ) (stored : σ) : CircuitBreaker × σ :=
  match breaker.delegate providerStore with
  | some delegate => (breaker, delegate.recordFailure time stored)
  | none =>
    let failures := breaker.failures + 1
    if breaker.state = .closed ∧ breaker.failureThreshold ≤ failures then
      ({ breaker with failures, state := .opened, openedAt := some time }, stored)
    else
      ({ breaker with failures }, stored)

/-- `self._opened_at is not None and now - self._opened_at >= self.recovery_seconds`. -/
def recovered (time : ℚ) : Bool :=
  breaker.openedAt.any fun openedAt => decide (breaker.recoverySeconds ≤ time - openedAt)

def isOpen (time : ℚ) (stored : σ) : Bool × CircuitBreaker × σ :=
  match breaker.delegate providerStore with
  | some delegate =>
    ((delegate.isOpen time stored).1, breaker, (delegate.isOpen time stored).2)
  | none =>
    match breaker.state with
    | .closed => (false, breaker, stored)
    | .halfOpen => (false, breaker, stored)
    | .opened =>
      if breaker.recovered time then
        (false, { breaker with state := .halfOpen }, stored)
      else
        (true, breaker, stored)

end CircuitBreaker

inductive Method where
  | recordFailure
  | recordSuccess
  | isOpen

/-- A call, some time after the one before it. -/
structure Call where
  wait : ℚ≥0
  method : Method

/-- The answer to a call, and what `is_open` would answer after any further
wait. -/
structure Observation where
  answer : Option Bool
  outlook : ℚ≥0 → Bool

/-- The calls of a breaker, over its states `τ`. -/
structure Breaker (τ : Type) where
  recordFailure : (time : ℚ) → τ → τ
  recordSuccess : τ → τ
  isOpen : (time : ℚ) → τ → Bool × τ

namespace Breaker

variable {τ : Type} (breaker : Breaker τ)

def perform (time : ℚ) (state : τ) : Method → Option Bool × τ
  | .recordFailure => (none, breaker.recordFailure time state)
  | .recordSuccess => (none, breaker.recordSuccess state)
  | .isOpen => ((breaker.isOpen time state).1, (breaker.isOpen time state).2)

def outlook (time : ℚ) (state : τ) (wait : ℚ≥0) : Bool :=
  (breaker.isOpen (time + wait) state).1

/-- A breaker and its clock under any sequence of calls. -/
def machine : Machine (ℚ × τ) Call Observation where
  initial _ := True
  step here call :=
    let time := here.1 + call.wait
    let reached := breaker.perform time here.2 call.method
    ((time, reached.2), ⟨reached.1, breaker.outlook time reached.2⟩)

end Breaker

/-- The calls of a `CircuitBreaker`, over the breaker and the contents of the
store. -/
def circuitBreaker {σ : Type} (providerStore : Option (BreakerStore σ)) :
    Breaker (CircuitBreaker × σ) where
  recordFailure time := fun (breaker, stored) =>
    breaker.recordFailure providerStore time stored
  recordSuccess := fun (breaker, stored) => breaker.recordSuccess providerStore stored
  isOpen time := fun (breaker, stored) => breaker.isOpen providerStore time stored

end

/-!
## The reference breaker

It opens after its threshold of failures, admits a trial after the recovery
time and opens again when the trial fails.  Another breaker is compared with it
call by call, and by what it would answer after any further wait.
-/

section

open Transition

inductive Phase where
  | closed (failures : ℕ)
  | opened (since : ℚ)
  | trial

/-- A breaker as it is meant: only a failure that opens it starts a recovery
time. -/
def reference (threshold : ℕ) (recovery : ℚ) : Breaker Phase where
  recordFailure time
    | .closed failures => if threshold ≤ failures + 1 then .opened time else .closed (failures + 1)
    | .opened since => .opened since
    | .trial => .opened time
  recordSuccess _ := .closed 0
  isOpen time
    | .closed failures => (false, .closed failures)
    | .opened since => if recovery ≤ time - since then (false, .trial) else (true, .opened since)
    | .trial => (false, .trial)

/-! ## Breakers that answer alike -/

variable {τ υ : Type} {left : Breaker τ} {right : Breaker υ} {related : τ → υ → Prop}
  {allowed : ℚ → υ → Prop}

/-- Related states answer alike and stay related but for some failures. -/
structure Alike (left : Breaker τ) (right : Breaker υ) (related : τ → υ → Prop)
    (allowed : ℚ → υ → Prop) : Prop where
  isOpen : ∀ {state other} time, related state other →
    (left.isOpen time state).1 = (right.isOpen time other).1 ∧
      related (left.isOpen time state).2 (right.isOpen time other).2
  recordSuccess : ∀ {state other}, related state other →
    related (left.recordSuccess state) (right.recordSuccess other)
  recordFailure : ∀ {state other time}, related state other → allowed time other →
    related (left.recordFailure time state) (right.recordFailure time other)

/-- A failure that is not allowed leaves breakers that will answer differently. -/
def Diverges (left : Breaker τ) (right : Breaker υ) (related : τ → υ → Prop)
    (allowed : ℚ → υ → Prop) : Prop :=
  ∀ {state other time}, related state other → ¬ allowed time other →
    left.outlook time (left.recordFailure time state) ≠
      right.outlook time (right.recordFailure time other)

/-- A call is allowed unless it is a failure that is not. -/
def AllowedCall (allowed : ℚ → υ → Prop) (here : ℚ × υ) (call : Call) : Prop :=
  call.method = .recordFailure → allowed (here.1 + call.wait) here.2

def RelatedAt (related : τ → υ → Prop) (here : ℚ × τ) (there : ℚ × υ) : Prop :=
  here.1 = there.1 ∧ related here.2 there.2

namespace Alike

variable (alike : Alike left right related allowed)
include alike

theorem outlook_eq {state : τ} {other : υ} (same : related state other) (time : ℚ) :
    left.outlook time state = right.outlook time other :=
  funext fun wait => (alike.isOpen (time + wait) same).1

theorem perform {state : τ} {other : υ} (same : related state other) (time : ℚ) (method : Method)
    (admitted : method = .recordFailure → allowed time other) :
    (left.perform time state method).1 = (right.perform time other method).1 ∧
      related (left.perform time state method).2 (right.perform time other method).2 := by
  cases method with
  | recordFailure => exact ⟨rfl, alike.recordFailure same (admitted rfl)⟩
  | recordSuccess => exact ⟨rfl, alike.recordSuccess same⟩
  | isOpen => exact ⟨congrArg some (alike.isOpen time same).1, (alike.isOpen time same).2⟩

theorem step {here : ℚ × τ} {there : ℚ × υ} {call : Call} (same : RelatedAt related here there)
    (admitted : AllowedCall allowed there call) :
    (left.machine.step here call).2 = (right.machine.step there call).2 ∧
      RelatedAt related (left.machine.step here call).1 (right.machine.step there call).1 := by
  rcases here with ⟨clock, state⟩
  rcases there with ⟨_, other⟩
  rcases same with ⟨rfl, same⟩
  rcases alike.perform same (clock + call.wait) call.method admitted with ⟨answer, next⟩
  exact ⟨congr (congrArg Observation.mk answer) (alike.outlook_eq next _), rfl, next⟩

/-- Breakers that diverge at every other failure agree exactly on the runs
without one. -/
theorem lockstep (diverges : Diverges left right related allowed) :
    Machine.Lockstep left.machine right.machine (RelatedAt related) (AllowedCall allowed) where
  agree same admitted := alike.step same admitted
  differ := by
    rintro ⟨clock, state⟩ ⟨_, other⟩ ⟨wait, method⟩ ⟨rfl, same⟩ refused answers
    rcases Classical.not_imp.mp refused with ⟨isFailure, forbidden⟩
    subst isFailure
    exact diverges same forbidden (congrArg Observation.outlook answers)

end Alike

end

/-! ## What the breakers protect from -/

open Transition

section Kinds

variable {σ : Type} {threshold : ℕ} {recovery : ℚ} {name : String}

/-- The phase of a breaker in its own fields. -/
inductive OwnPhase (breaker : CircuitBreaker) : Phase → Prop
  | closed : breaker.state = .closed → OwnPhase breaker (.closed breaker.failures)
  | opened {since : ℚ} : breaker.state = .opened → breaker.openedAt = some since →
      OwnPhase breaker (.opened since)
  | trial : breaker.state = .halfOpen → OwnPhase breaker .trial

/-- A breaker without a provider. -/
structure Own (threshold : ℕ) (recovery : ℚ) (here : CircuitBreaker × σ) (phase : Phase) :
    Prop where
  provider : here.1.provider = none
  threshold : here.1.failureThreshold = threshold
  recovery : here.1.recoverySeconds = recovery
  phase : OwnPhase here.1 phase

def NoFailedTrial (_time : ℚ) (phase : Phase) : Prop :=
  phase ≠ .trial

theorem own_alike (providerStore : Option (BreakerStore σ)) :
    Alike (circuitBreaker providerStore) (reference threshold recovery) (Own threshold recovery)
      NoFailedTrial where
  isOpen := by
    rintro ⟨⟨limit, wait, _, _, _, _⟩, stored⟩ _ time ⟨rfl, rfl, rfl, own⟩
    rcases own with ⟨⟨⟩⟩ | @⟨since, ⟨⟩, ⟨⟩⟩ | ⟨⟨⟩⟩
    · exact ⟨rfl, rfl, rfl, rfl, .closed rfl⟩
    · by_cases recovered : wait ≤ time - since
      · simp only [circuitBreaker, CircuitBreaker.isOpen, CircuitBreaker.delegate, reference,
          CircuitBreaker.recovered, Option.map_none, Option.any_some, recovered, decide_true, if_true]
        exact ⟨trivial, rfl, rfl, rfl, .trial rfl⟩
      · simp only [circuitBreaker, CircuitBreaker.isOpen, CircuitBreaker.delegate, reference,
          CircuitBreaker.recovered, Option.map_none, Option.any_some, recovered, decide_false,
          if_false, Bool.false_eq_true]
        exact ⟨trivial, rfl, rfl, rfl, .opened rfl rfl⟩
    · exact ⟨rfl, rfl, rfl, rfl, .trial rfl⟩
  recordSuccess := by
    rintro ⟨⟨_, _, _, _, _, _⟩, stored⟩ _ ⟨rfl, rfl, rfl, own⟩
    exact ⟨rfl, rfl, rfl, .closed rfl⟩
  recordFailure := by
    rintro ⟨⟨limit, _, _, failures, _, _⟩, stored⟩ _ time ⟨rfl, rfl, rfl, own⟩ allowed
    rcases own with ⟨⟨⟩⟩ | @⟨since, ⟨⟩, ⟨⟩⟩ | ⟨⟨⟩⟩
    · by_cases reached : limit ≤ failures + 1
      · simp only [circuitBreaker, CircuitBreaker.recordFailure, CircuitBreaker.delegate, reference,
          Option.map_none, reached, and_self, if_true]
        exact ⟨rfl, rfl, rfl, .opened rfl rfl⟩
      · simp only [circuitBreaker, CircuitBreaker.recordFailure, CircuitBreaker.delegate, reference,
          Option.map_none, reached, and_false, if_false]
        exact ⟨rfl, rfl, rfl, .closed rfl⟩
    · exact ⟨rfl, rfl, rfl, .opened rfl rfl⟩
    · exact (allowed rfl).elim

theorem reference_outlook_opened (positive : 0 < recovery) (time : ℚ) :
    (reference threshold recovery).outlook time (.opened time) 0 = true := by
  have waiting : ¬ recovery ≤ time + (0 : ℚ≥0) - time := by
    rw [NNRat.cast_zero]
    linarith
  simp only [Breaker.outlook, reference, if_neg waiting]

theorem own_diverges (providerStore : Option (BreakerStore σ)) (positive : 0 < recovery) :
    Diverges (circuitBreaker providerStore) (reference threshold recovery) (Own threshold recovery)
      NoFailedTrial := by
  rintro ⟨⟨limit, wait, _, failures, _, _⟩, stored⟩ _ time ⟨rfl, rfl, rfl, own⟩ failed same
  rcases own with ⟨⟨⟩⟩ | ⟨⟨⟩, ⟨⟩⟩ | ⟨⟨⟩⟩
  · exact failed Phase.noConfusion
  · exact failed Phase.noConfusion
  · have blocks := (congrFun same 0).trans (reference_outlook_opened positive time)
    cases blocks

/-! ## A breaker with a store -/

inductive EntryPhase (threshold : ℕ) (entry : Entry) : Phase → Prop
  | closed : entry.state = .closed → EntryPhase threshold entry (.closed entry.failures)
  | opened : entry.state = .opened → threshold ≤ entry.failures →
      EntryPhase threshold entry (.opened entry.lastFailureTime)
  | trial : entry.state = .halfOpen → threshold ≤ entry.failures → EntryPhase threshold entry .trial

/-- A failure in an open breaker must come with the one that opened it. -/
def NoLateFailure (time : ℚ) (phase : Phase) : Prop :=
  ∀ since, phase = .opened since → time = since

/-- The calls of a breaker with a store. -/
def providerBreaker (breaker : ProviderCircuitBreaker σ) : Breaker σ where
  recordFailure := breaker.recordFailure
  recordSuccess := breaker.recordSuccess
  isOpen := breaker.isOpen

section Stored

variable {store : BreakerStore σ}

abbrev storedBreaker (store : BreakerStore σ) (name : String) (threshold : ℕ) (recovery : ℚ) :
    ProviderCircuitBreaker σ :=
  ⟨name, threshold, recovery, some store⟩

def StoredPhase (breaker : ProviderCircuitBreaker σ) (stored : σ) (phase : Phase) : Prop :=
  EntryPhase breaker.threshold (breaker.entry stored) phase

variable (faithful : store.Faithful)
include faithful

theorem entry_save (stored : σ) (value : Entry) :
    (storedBreaker store name threshold recovery).entry
      ((storedBreaker store name threshold recovery).save stored value) = value := by
  simp [ProviderCircuitBreaker.entry, ProviderCircuitBreaker.save, faithful.get_set]

theorem entry_recordFailure (stored : σ) (time : ℚ) :
    (storedBreaker store name threshold recovery).entry
      ((storedBreaker store name threshold recovery).recordFailure time stored) =
    { failures := ((storedBreaker store name threshold recovery).entry stored).failures + 1
      state := if threshold ≤ ((storedBreaker store name threshold recovery).entry
        stored).failures + 1 then .opened else .closed
      lastFailureTime := time } :=
  entry_save faithful stored _

theorem provider_alike :
    Alike (providerBreaker (storedBreaker store name threshold recovery))
      (reference threshold recovery) (StoredPhase (storedBreaker store name threshold recovery))
      NoLateFailure where
  isOpen := by
    intro stored _ time entry
    cases entry with
    | closed state =>
      simp only [providerBreaker, ProviderCircuitBreaker.isOpen, state, reference]
      exact ⟨rfl, .closed state⟩
    | opened state failed =>
      by_cases recovered : recovery ≤
        time - ((storedBreaker store name threshold recovery).entry stored).lastFailureTime
      · simp only [providerBreaker, ProviderCircuitBreaker.isOpen, state, reference, recovered,
          if_true, ne_eq, not_true, if_false, true_and]
        unfold StoredPhase
        rw [entry_save faithful]
        exact .trial rfl failed
      · simp only [providerBreaker, ProviderCircuitBreaker.isOpen, state, reference, recovered,
          ne_eq, not_true, if_false, true_and]
        exact .opened state failed
    | trial state failed =>
      simp only [providerBreaker, ProviderCircuitBreaker.isOpen, state, reference]
      exact ⟨rfl, .trial state failed⟩
  recordSuccess := by
    intro stored _ _
    unfold StoredPhase providerBreaker ProviderCircuitBreaker.recordSuccess
    rw [entry_save faithful]
    exact .closed rfl
  recordFailure := by
    intro stored _ time entry allowed
    unfold StoredPhase providerBreaker
    rw [entry_recordFailure faithful]
    cases entry with
    | closed state =>
      by_cases reached : threshold ≤
        ((storedBreaker store name threshold recovery).entry stored).failures + 1
      · simp only [reference, reached, if_true]
        exact .opened rfl reached
      · simp only [reference, reached, if_false]
        exact .closed rfl
    | opened state failed =>
      rw [if_pos (Nat.le_succ_of_le failed)]
      rw [← allowed _ rfl]
      exact .opened rfl (Nat.le_succ_of_le failed)
    | trial state failed =>
      rw [if_pos (Nat.le_succ_of_le failed)]
      exact .opened rfl (Nat.le_succ_of_le failed)

theorem provider_outlook_recordFailure {stored : σ} (time : ℚ)
    (failed : threshold ≤
      ((storedBreaker store name threshold recovery).entry stored).failures + 1) (wait : ℚ≥0) :
    (providerBreaker (storedBreaker store name threshold recovery)).outlook time
      ((storedBreaker store name threshold recovery).recordFailure time stored) wait =
        decide ((wait : ℚ) < recovery) := by
  simp only [Breaker.outlook, providerBreaker, ProviderCircuitBreaker.isOpen]
  rw [entry_recordFailure faithful, if_pos failed]
  by_cases recovered : recovery ≤ wait
  · simp [recovered]
  · simp [recovered, not_le.mp recovered]

omit faithful in
theorem reference_outlook (time since : ℚ) (wait : ℚ≥0) :
    (reference threshold recovery).outlook time (.opened since) wait =
      decide (time + wait - since < recovery) := by
  unfold Breaker.outlook reference
  by_cases recovered : recovery ≤ time + wait - since
  · simp [recovered]
  · simp [recovered, not_le.mp recovered]

omit faithful in
theorem exists_wait_between (positive : 0 < recovery) {time since : ℚ} (late : time ≠ since) :
    ∃ wait : ℚ≥0, ¬ ((wait : ℚ) < recovery ↔ time + wait - since < recovery) := by
  rcases late.lt_or_gt with earlier | later
  · refine ⟨⟨recovery, positive.le⟩, fun both => ?_⟩
    have within := both.mpr (by rw [NNRat.coe_mk]; linarith)
    exact within.ne rfl
  · refine ⟨⟨max 0 (recovery - (time - since)), le_max_left _ _⟩, fun both => ?_⟩
    have within := both.mp (by rw [NNRat.coe_mk]; exact max_lt positive (by linarith))
    rw [NNRat.coe_mk] at within
    linarith [le_max_right 0 (recovery - (time - since))]

theorem provider_diverges (positive : 0 < recovery) :
    Diverges (providerBreaker (storedBreaker store name threshold recovery))
      (reference threshold recovery) (StoredPhase (storedBreaker store name threshold recovery))
      NoLateFailure := by
  intro stored _ time entry late same
  cases entry with
  | closed state => exact late fun _ same => Phase.noConfusion same
  | trial state failed => exact late fun _ same => Phase.noConfusion same
  | opened state failed =>
    have apart : time ≠
        ((storedBreaker store name threshold recovery).entry stored).lastFailureTime :=
      fun first => late fun _ since => first.trans (Phase.opened.inj since)
    rcases exists_wait_between positive apart with ⟨wait, differs⟩
    apply differs
    have answers := (provider_outlook_recordFailure faithful time
      (Nat.le_succ_of_le failed) wait).symm.trans
        ((congrFun same wait).trans (reference_outlook time _ wait))
    exact decide_eq_decide.mp answers

end Stored

/-- No failure may open the breaker. -/
def NoOpening (threshold : ℕ) (_time : ℚ) (phase : Phase) : Prop :=
  ∀ failures, phase = .closed failures → failures + 1 < threshold

/-- Nothing is known but that the breaker is closed. -/
def Closed (_stored : σ) (phase : Phase) : Prop :=
  ∃ failures, phase = .closed failures

theorem unstored_alike :
    Alike (providerBreaker (σ := σ) ⟨name, threshold, recovery, none⟩)
      (reference threshold recovery) Closed (NoOpening threshold) where
  isOpen := by
    rintro stored _ time ⟨failures, rfl⟩
    exact ⟨rfl, failures, rfl⟩
  recordSuccess := by
    rintro stored _ ⟨failures, rfl⟩
    exact ⟨0, rfl⟩
  recordFailure := by
    rintro stored _ time ⟨failures, rfl⟩ allowed
    exact ⟨failures + 1, if_neg (allowed failures rfl).not_ge⟩

theorem unstored_diverges (positive : 0 < recovery) :
    Diverges (providerBreaker (σ := σ) ⟨name, threshold, recovery, none⟩)
      (reference threshold recovery) Closed (NoOpening threshold) := by
  rintro stored _ time ⟨failures, rfl⟩ refused same
  have reached : threshold ≤ failures + 1 := by
    by_contra under
    apply refused
    rintro _ ⟨⟩
    exact not_le.mp under
  have opened : (reference threshold recovery).recordFailure time (.closed failures) =
      .opened time := if_pos reached
  rw [opened] at same
  have blocks := (congrFun same 0).trans (reference_outlook_opened positive time)
  cases blocks

section Delegated

variable {providerStore : Option (BreakerStore σ)} {delegate : ProviderCircuitBreaker σ}
  {stands : σ → Phase → Prop} {admits : ℚ → Phase → Prop}

/-- A breaker with its provider's breaker in some phase. -/
def Delegated (providerStore : Option (BreakerStore σ)) (delegate : ProviderCircuitBreaker σ)
    (stands : σ → Phase → Prop) (here : CircuitBreaker × σ) (phase : Phase) : Prop :=
  here.1.delegate providerStore = some delegate ∧ stands here.2 phase

theorem delegated_alike
    (alike : Alike (providerBreaker delegate) (reference threshold recovery) stands admits) :
    Alike (circuitBreaker providerStore) (reference threshold recovery)
      (Delegated providerStore delegate stands) admits where
  isOpen := by
    rintro ⟨breaker, stored⟩ phase time ⟨named, same⟩
    simp only [circuitBreaker, CircuitBreaker.isOpen]
    rw [named]
    exact ⟨(alike.isOpen time same).1, named, (alike.isOpen time same).2⟩
  recordSuccess := by
    rintro ⟨breaker, stored⟩ phase ⟨named, same⟩
    simp only [circuitBreaker, CircuitBreaker.recordSuccess]
    rw [named]
    exact ⟨named, alike.recordSuccess same⟩
  recordFailure := by
    rintro ⟨breaker, stored⟩ phase time ⟨named, same⟩ allowed
    simp only [circuitBreaker, CircuitBreaker.recordFailure]
    rw [named]
    exact ⟨named, alike.recordFailure same allowed⟩

theorem delegated_diverges
    (diverges : Diverges (providerBreaker delegate) (reference threshold recovery) stands admits) :
    Diverges (circuitBreaker providerStore) (reference threshold recovery)
      (Delegated providerStore delegate stands) admits := by
  rintro ⟨breaker, stored⟩ phase time ⟨named, same⟩ refused outlooks
  have failed : (circuitBreaker providerStore).recordFailure time (breaker, stored) =
      (breaker, delegate.recordFailure time stored) := by
    simp only [circuitBreaker, CircuitBreaker.recordFailure]
    rw [named]
  have outlook : (circuitBreaker providerStore).outlook time
      (breaker, delegate.recordFailure time stored) =
        (providerBreaker delegate).outlook time (delegate.recordFailure time stored) := by
    funext wait
    simp only [Breaker.outlook, circuitBreaker, CircuitBreaker.isOpen]
    rw [named]
    rfl
  rw [failed, outlook] at outlooks
  exact diverges same refused outlooks

end Delegated

/-! ## Protection -/

/-- A breaker answers a run of calls like the reference, and so would any
check after a further wait. -/
def Protects (providerStore : Option (BreakerStore σ)) (breaker : CircuitBreaker) (stored : σ)
    (start : ℚ) (calls : List Call) : Prop :=
  (circuitBreaker providerStore).machine.answers (start, breaker, stored) calls =
    (reference breaker.failureThreshold breaker.recoverySeconds).machine.answers
      (start, .closed 0) calls

/-- Every failure of a run meets a phase that admits it. -/
def Admits (admits : ℚ → Phase → Prop) (breaker : CircuitBreaker) (start : ℚ)
    (calls : List Call) : Prop :=
  ∀ visit ∈ (reference breaker.failureThreshold breaker.recoverySeconds).machine.visits
    (start, .closed 0) calls, AllowedCall admits visit.1 visit.2

/-- A breaker protects when its failures are admitted and, if there is a
recovery time, only then. -/
structure ProtectsExactly (providerStore : Option (BreakerStore σ)) (breaker : CircuitBreaker)
    (stored : σ) (admits : ℚ → Phase → Prop) (start : ℚ) (calls : List Call) : Prop where
  enough : Admits admits breaker start calls → Protects providerStore breaker stored start calls
  needed : 0 < breaker.recoverySeconds → Protects providerStore breaker stored start calls →
    Admits admits breaker start calls

theorem protectsExactly_of_alike {providerStore : Option (BreakerStore σ)}
    {breaker : CircuitBreaker} {stored : σ} {admits : ℚ → Phase → Prop}
    {related : CircuitBreaker × σ → Phase → Prop}
    (alike : Alike (circuitBreaker providerStore)
      (reference breaker.failureThreshold breaker.recoverySeconds) related admits)
    (diverges : 0 < breaker.recoverySeconds → Diverges (circuitBreaker providerStore)
      (reference breaker.failureThreshold breaker.recoverySeconds) related admits)
    (fresh : related (breaker, stored) (.closed 0)) (start : ℚ) (calls : List Call) :
    ProtectsExactly providerStore breaker stored admits start calls where
  enough admitted :=
    Machine.answers_eq_of_allowed alike.step (show RelatedAt related _ _ from ⟨rfl, fresh⟩) calls
      admitted
  needed positive protects :=
    ((alike.lockstep (diverges positive)).answers_eq_iff ⟨rfl, fresh⟩ calls).mp protects

/-- A breaker with its settings, before any call. -/
def CircuitBreaker.fresh (threshold : ℕ) (recovery : ℚ) (provider : Option String) :
    CircuitBreaker :=
  { failureThreshold := threshold, recoverySeconds := recovery, provider }

variable {store : BreakerStore σ}

theorem own_protects (start : ℚ) (calls : List Call) (stored : σ) :
    ProtectsExactly (some store) (.fresh threshold recovery none) stored NoFailedTrial start calls :=
  protectsExactly_of_alike (own_alike _) (own_diverges _) ⟨rfl, rfl, rfl, .closed rfl⟩ start calls

theorem stored_protects (faithful : store.Faithful) {stored : σ}
    (unset : store.get stored ("cb:provider:" ++ name) = none) (start : ℚ) (calls : List Call) :
    ProtectsExactly (some store) (.fresh threshold recovery (some name)) stored NoLateFailure start
      calls := by
  have initially : (storedBreaker store name threshold recovery).entry stored = .initial := by
    simp only [ProviderCircuitBreaker.entry, ProviderCircuitBreaker.key, unset, Option.getD_none]
  have related : Delegated (some store) (storedBreaker store name threshold recovery)
      (StoredPhase (storedBreaker store name threshold recovery))
      (.fresh threshold recovery (some name), stored) (.closed 0) := by
    refine ⟨rfl, ?_⟩
    unfold StoredPhase
    rw [initially]
    exact .closed rfl
  exact protectsExactly_of_alike (delegated_alike (provider_alike faithful))
    (fun positive => delegated_diverges (provider_diverges faithful positive)) related start calls

theorem unstored_protects (start : ℚ) (calls : List Call) (stored : σ) :
    ProtectsExactly none (.fresh threshold recovery (some name)) stored (NoOpening threshold) start
      calls :=
  protectsExactly_of_alike (delegated_alike unstored_alike)
    (fun positive => delegated_diverges (unstored_diverges positive)) ⟨rfl, 0, rfl⟩ start calls

/-- Each kind of breaker protects exactly in the runs without its own kind of
failure; where two protect, they give the same answers. -/
theorem circuitBreakers_protect (threshold : ℕ) (recovery : ℚ) (name : String)
    (store : BreakerStore σ) (faithful : store.Faithful) (stored : σ)
    (unset : store.get stored ("cb:provider:" ++ name) = none) (start : ℚ) (calls : List Call) :
    ProtectsExactly (some store) (.fresh threshold recovery none) stored NoFailedTrial start calls ∧
    ProtectsExactly (some store) (.fresh threshold recovery (some name)) stored NoLateFailure start
      calls ∧
    ProtectsExactly none (.fresh threshold recovery (some name)) stored (NoOpening threshold) start
      calls ∧
    (Admits NoFailedTrial (.fresh threshold recovery none) start calls →
      Admits NoLateFailure (.fresh threshold recovery (some name)) start calls →
        (circuitBreaker (some store)).machine.answers
            (start, .fresh threshold recovery none, stored) calls =
          (circuitBreaker (some store)).machine.answers
            (start, .fresh threshold recovery (some name), stored) calls) := by
  have own : ProtectsExactly (some store) (.fresh threshold recovery none) stored NoFailedTrial start
      calls := own_protects start calls stored
  have named : ProtectsExactly (some store) (.fresh threshold recovery (some name)) stored
      NoLateFailure start calls := stored_protects faithful unset start calls
  refine ⟨own, named, unstored_protects start calls stored, ?_⟩
  intro ownAdmits namedAdmits
  exact (own.enough ownAdmits).trans (named.enough namedAdmits).symm

end Kinds

/-- A store of one value for every key. -/
def cells : BreakerStore (List (String × Entry)) where
  get stored key := stored.lookup key
  set stored key entry _ := (key, entry) :: stored

theorem cells_faithful : cells.Faithful where
  get_set stored key entry _ := by simp [cells]

def threeFailures : List Call :=
  [⟨0, .recordFailure⟩, ⟨0, .recordFailure⟩, ⟨0, .recordFailure⟩, ⟨0, .isOpen⟩]

def failedTrial : List Call :=
  threeFailures ++ [⟨60, .isOpen⟩, ⟨0, .recordFailure⟩, ⟨0, .isOpen⟩]

theorem breakers_not_protect :
    ¬ Protects none (breakerFor "f.light") ([] : List (String × Entry)) 0 threeFailures ∧
      ¬ Protects none {} ([] : List (String × Entry)) 0 failedTrial := by
  constructor
  · intro protects
    have answers := congrArg (List.map Observation.answer) protects
    revert answers
    decide +kernel
  · intro protects
    have answers := congrArg (List.map Observation.answer) protects
    revert answers
    decide +kernel

theorem circuitBreakers_protect_threeFailures :
    ProtectsExactly (some cells) (.fresh 3 60 none) [] NoFailedTrial 0 threeFailures ∧
    ProtectsExactly (some cells) (.fresh 3 60 (some "f.light")) [] NoLateFailure 0 threeFailures ∧
    ProtectsExactly none (.fresh 3 60 (some "f.light")) ([] : List (String × Entry)) (NoOpening 3) 0
      threeFailures ∧
    (Admits NoFailedTrial (.fresh 3 60 none) 0 threeFailures →
      Admits NoLateFailure (.fresh 3 60 (some "f.light")) 0 threeFailures →
        (circuitBreaker (some cells)).machine.answers (0, .fresh 3 60 none, []) threeFailures =
          (circuitBreaker (some cells)).machine.answers (0, .fresh 3 60 (some "f.light"), [])
            threeFailures) :=
  circuitBreakers_protect 3 60 "f.light" cells cells_faithful [] rfl 0 threeFailures

end OhMyClass.LlmClient
