import Mathlib.Tactic.Linarith
import OhMyClass.Healing.Orchestrator
import OhMyClass.Transition.Machine

/-!
# One circuit breaker over two stores

The breaker keeps its state under one key of a store.  The store in memory
keeps what was last set for ever; the Redis store gives the key a lifetime
with every write and answers nothing once that is over.  Times are seconds of
the clock, with their fractions.
-/

namespace OhMyClass.Healing.CircuitBreaker

open Transition

structure BreakerState where
  failures : ℕ
  state : BreakerStatus
  lastFailureTime : ℚ
  deriving DecidableEq

def BreakerState.initial : BreakerState :=
  ⟨0, .closed, 0⟩

/-- The two operations of a `BreakerStore`, for one key. -/
structure Store (σ : Type) where
  get : (now : ℚ) → σ → Option BreakerState
  set : (now : ℚ) → σ → BreakerState → (ttlSeconds : ℚ) → σ

/-- `InMemoryBreakerStore`. -/
def inMemoryStore : Store (Option BreakerState) where
  get _ value := value
  set _ _ value _ := some value

/-- A key with a lifetime. -/
structure Key where
  value : BreakerState
  expiresAt : ℚ

/-- `max(1, int(ttl_seconds))`; `int` drops the fraction. -/
def lifetime (ttlSeconds : ℚ) : ℚ :=
  max 1 (ttlSeconds.num.tdiv ttlSeconds.den : ℤ)

/-- `RedisBreakerStore`: `HSET` followed by `EXPIRE`, and `HGETALL`. -/
def redisStore : Store (Option Key) where
  get now
    | none => none
    | some key => if now < key.expiresAt then some key.value else none
  set now _ value ttlSeconds := some ⟨value, now + lifetime ttlSeconds⟩

structure Config where
  threshold : ℕ
  recoveryTimeout : ℚ

section Breaker

variable {σ : Type} (store : Store σ) (config : Config)

def loadState (now : ℚ) (stored : σ) : BreakerState :=
  (store.get now stored).getD .initial

def saveState (now : ℚ) (stored : σ) (state : BreakerState) : σ :=
  store.set now stored state config.recoveryTimeout

def recordSuccess (now : ℚ) (stored : σ) : σ :=
  saveState store config now stored .initial

def recordFailure (now : ℚ) (stored : σ) : σ :=
  let failures := (loadState store now stored).failures + 1
  saveState store config now stored
    { failures := failures
      state := if config.threshold ≤ failures then .opened else .closed
      lastFailureTime := now }

/-- `_blocks`: whether the breaker blocks, and what the check leaves stored. -/
def blocks (now : ℚ) (stored : σ) (current : BreakerState) : Bool × σ :=
  if current.state ≠ .opened then
    (false, stored)
  else if config.recoveryTimeout < now - current.lastFailureTime then
    (false, saveState store config now stored { current with state := .halfOpen })
  else
    (true, stored)

def isOpen (now : ℚ) (stored : σ) : Bool × σ :=
  blocks store config now stored (loadState store now stored)

/-- What the properties of the breaker report. -/
structure Report where
  failures : ℕ
  state : BreakerStatus
  exhausted : Bool

def report (now : ℚ) (stored : σ) : Report :=
  let current := loadState store now stored
  { failures := current.failures
    state := current.state
    exhausted := current.state = .opened ∧ config.threshold ≤ current.failures }

/-- An operation with its time.  The function given to `call` returns or
raises at a time of its own. -/
inductive Operation where
  | recordFailure (time : ℚ)
  | recordSuccess (time : ℚ)
  | isOpen (time : ℚ)
  | call (time finished : ℚ) (succeeds : Bool)

inductive Decision where
  | recorded
  | allowed
  | blocked

def Decision.ofBlocks (blocked : Bool) : Decision :=
  if blocked then .blocked else .allowed

/-- Whether a failure recorded now emits `breaker_tripped`. -/
def trips (now : ℚ) (stored : σ) : Bool :=
  (loadState store now stored).state ≠ .opened ∧
    config.threshold ≤ (loadState store now stored).failures + 1

/-- The decision of an operation, with what is reported before and after it. -/
structure Observation where
  before : Report
  decision : Decision
  tripped : Bool
  after : Report

def stepOperation (stored : σ) : Operation → σ × Observation
  | .recordFailure time =>
    let next := recordFailure store config time stored
    (next,
      { before := report store config time stored
        decision := .recorded
        tripped := trips store config time stored
        after := report store config time next })
  | .recordSuccess time =>
    let next := recordSuccess store config time stored
    (next,
      { before := report store config time stored
        decision := .recorded
        tripped := false
        after := report store config time next })
  | .isOpen time =>
    let check := isOpen store config time stored
    (check.2,
      { before := report store config time stored
        decision := .ofBlocks check.1
        tripped := false
        after := report store config time check.2 })
  | .call time finished succeeds =>
    let check := isOpen store config time stored
    if check.1 then
      (check.2,
        { before := report store config time stored
          decision := .blocked
          tripped := false
          after := report store config time check.2 })
    else
      let next :=
        if succeeds then recordSuccess store config finished check.2
        else recordFailure store config finished check.2
      (next,
        { before := report store config time stored
          decision := .allowed
          tripped := !succeeds && trips store config finished check.2
          after := report store config finished next })

/-- The breaker over a store, from a store without its key. -/
def breaker {σ : Type} (store : Store (Option σ)) (config : Config) :
    Machine (Option σ) Operation Observation where
  initial stored := stored = none
  step := stepOperation store config

end Breaker

/-- What was last set under a key, whether or not it has expired. -/
def lastSet : Option Key → BreakerState
  | none => .initial
  | some key => key.value

/-- What was last set is still there, or says no more than a missing key. -/
def Readable (now : ℚ) : Option Key → Prop
  | none => True
  | some key => key.value = .initial ∨ now < key.expiresAt

/-- An open key whose recovery timeout is not over. -/
def Key.StillOpen (config : Config) (key : Key) (time : ℚ) : Prop :=
  key.value.state = .opened ∧ time - key.value.lastFailureTime ≤ config.recoveryTimeout

/-- When the key expires once it was checked: turning half-open sets it anew. -/
def Key.expiryAfterCheck (config : Config) (key : Key) (time : ℚ) : ℚ :=
  if key.value.state = .opened then time + lifetime config.recoveryTimeout else key.expiresAt

/-- The operation finds what was last set, and so does the failure that a call
records when its function raises. -/
def InTime (config : Config) : Option Key → Operation → Prop
  | stored, .recordFailure time => Readable time stored
  | stored, .recordSuccess time => Readable time stored
  | stored, .isOpen time => Readable time stored
  | stored, .call time _ true => Readable time stored
  | none, .call _ _ false => True
  | some key, .call time finished false =>
    key.value = .initial ∨
      time < key.expiresAt ∧
        (key.StillOpen config time ∨ finished < key.expiryAfterCheck config time)

variable {config : Config} {now finished : ℚ} {stored : Option Key}

theorem lifetime_pos (ttlSeconds : ℚ) : 0 < lifetime ttlSeconds :=
  lt_of_lt_of_le one_pos (le_max_left 1 _)

theorem loadState_redis_of_readable (readable : Readable now stored) :
    loadState redisStore now stored = lastSet stored := by
  cases stored with
  | none => rfl
  | some key =>
    by_cases live : now < key.expiresAt
    · simp [loadState, redisStore, lastSet, live]
    · rcases readable with unset | stillLive
      · simp [loadState, redisStore, lastSet, live, unset]
      · exact absurd stillLive live

theorem loadState_redis_of_not_readable (lost : ¬ Readable now stored) :
    loadState redisStore now stored = .initial ∧ lastSet stored ≠ .initial := by
  cases stored with
  | none => exact absurd trivial lost
  | some key =>
    simp only [Readable, not_or] at lost
    exact ⟨by simp [loadState, redisStore, lost.2], lost.1⟩

@[simp]
theorem loadState_saveState_redis (state : BreakerState) :
    loadState redisStore now (saveState redisStore config now stored state) = state := by
  simp [loadState, saveState, redisStore, lifetime_pos]

/-! ## The two stores side by side -/

/-- Both stores were last set to the same value, and only a state that counts
failures differs from the initial one. -/
structure Related (memory : Option BreakerState) (stored : Option Key) : Prop where
  same : loadState inMemoryStore 0 memory = lastSet stored
  counted : (lastSet stored).failures = 0 → lastSet stored = .initial

variable {memory : Option BreakerState}

theorem Related.loadState_eq (related : Related memory stored) (readable : Readable now stored) :
    loadState inMemoryStore now memory = loadState redisStore now stored :=
  related.same.trans (loadState_redis_of_readable readable).symm

theorem Related.failures_ne (related : Related memory stored) (lost : ¬ Readable now stored) :
    (loadState inMemoryStore now memory).failures ≠
      (loadState redisStore now stored).failures := by
  rcases loadState_redis_of_not_readable lost with ⟨empty, unlike⟩
  have counts : (loadState inMemoryStore now memory).failures = (lastSet stored).failures :=
    congrArg BreakerState.failures related.same
  rw [counts, empty]
  exact fun none => unlike (related.counted none)

theorem related_saveState {state : BreakerState} (counted : state.failures = 0 → state = .initial) :
    Related (saveState inMemoryStore config now memory state)
      (saveState redisStore config now stored state) :=
  ⟨rfl, counted⟩

variable (config memory stored) in
theorem related_recordSuccess :
    Related (recordSuccess inMemoryStore config now memory)
      (recordSuccess redisStore config now stored) :=
  related_saveState fun _ => rfl

theorem Related.after_recordFailure (related : Related memory stored) (readable : Readable now stored) :
    Related (recordFailure inMemoryStore config now memory)
      (recordFailure redisStore config now stored) := by
  unfold recordFailure
  rw [related.loadState_eq readable]
  exact related_saveState fun none => absurd none (Nat.succ_ne_zero _)

variable (config) in
theorem Related.after_isOpen (related : Related memory stored) (readable : Readable now stored) :
    (isOpen inMemoryStore config now memory).1 = (isOpen redisStore config now stored).1 ∧
      Related (isOpen inMemoryStore config now memory).2
        (isOpen redisStore config now stored).2 := by
  unfold isOpen blocks
  rw [related.loadState_eq readable]
  split
  · exact ⟨rfl, related⟩
  · split
    · next opened _ =>
      refine ⟨rfl, @related_saveState config now stored memory _ fun none => ?_⟩
      have notInitial := related.counted
      rw [← loadState_redis_of_readable readable] at notInitial
      simp [notInitial none, BreakerState.initial] at opened
    · exact ⟨rfl, related⟩

variable (config) in
theorem isOpen_redis_of_live {key : Key} (live : now < key.expiresAt) :
    isOpen redisStore config now (some key) =
      if key.value.state = .opened then
        if config.recoveryTimeout < now - key.value.lastFailureTime then
          (false, some ⟨{ key.value with state := .halfOpen },
            now + lifetime config.recoveryTimeout⟩)
        else (true, some key)
      else (false, some key) := by
  have loaded : loadState redisStore now (some key) = key.value :=
    loadState_redis_of_readable (.inr live)
  simp only [isOpen, blocks, loaded, ne_eq, ite_not]
  rfl

theorem isOpen_redis_of_initial (unset : lastSet stored = .initial) :
    isOpen redisStore config now stored = (false, stored) := by
  have readable : Readable now stored := by
    cases stored with
    | none => trivial
    | some key => exact Or.inl unset
  simp [isOpen, blocks, loadState_redis_of_readable readable, unset, BreakerState.initial]

theorem readable_isOpen (readable : Readable now stored) :
    Readable now (isOpen redisStore config now stored).2 := by
  cases stored with
  | none =>
    trivial
  | some key =>
    rcases readable with unset | live
    · rw [isOpen_redis_of_initial (show lastSet (some key) = .initial from unset)]
      exact Or.inl unset
    · rw [isOpen_redis_of_live config live]
      split
      · split
        · exact Or.inr (lt_add_of_pos_right now (lifetime_pos _))
        · exact Or.inr live
      · exact Or.inr live

/-- When a call was let through, its failure finds what was last set exactly
when the whole call is in now. -/
theorem inTime_failing_call_iff (readable : Readable now stored)
    (admitted : (isOpen redisStore config now stored).1 = false) :
    InTime config stored (.call now finished false) ↔
      Readable finished (isOpen redisStore config now stored).2 := by
  cases stored with
  | none =>
    exact Iff.rfl
  | some key =>
    by_cases unset : key.value = .initial
    · rw [isOpen_redis_of_initial (show lastSet (some key) = .initial from unset)]
      simp [InTime, Readable, unset]
    · have live : now < key.expiresAt := readable.resolve_left unset
      rw [isOpen_redis_of_live config live] at admitted ⊢
      simp only [InTime, unset, false_or, live, true_and, Key.StillOpen, Key.expiryAfterCheck]
      by_cases opened : key.value.state = .opened
      · by_cases elapsed : config.recoveryTimeout < now - key.value.lastFailureTime
        · simp [opened, elapsed, not_le.mpr elapsed, Readable, BreakerState.initial]
        · simp [opened, elapsed] at admitted
      · simp [opened, Readable, unset]

theorem inTime_blocked_call (readable : Readable now stored)
    (blocked : (isOpen redisStore config now stored).1 = true) :
    InTime config stored (.call now finished false) := by
  cases stored with
  | none => trivial
  | some key =>
    rcases readable with unset | live
    · exact Or.inl unset
    · refine Or.inr ⟨live, Or.inl ?_⟩
      rw [isOpen_redis_of_live config live] at blocked
      by_cases opened : key.value.state = .opened
      · by_cases elapsed : config.recoveryTimeout < now - key.value.lastFailureTime
        · simp [opened, elapsed] at blocked
        · exact ⟨opened, not_lt.mp elapsed⟩
      · simp [opened] at blocked

/-! ## One operation -/

def Operation.time : Operation → ℚ
  | .recordFailure time | .recordSuccess time | .isOpen time | .call time _ _ => time

theorem InTime.readable {operation : Operation} (inTime : InTime config stored operation) :
    Readable operation.time stored := by
  cases operation with
  | call time finished succeeds =>
    cases succeeds with
    | true => exact inTime
    | false =>
      cases stored with
      | none => trivial
      | some key => exact Or.imp_right And.left inTime
  | _ => exact inTime

variable (config) in
theorem Related.report_eq (related : Related memory stored) (readable : Readable now stored) :
    report inMemoryStore config now memory = report redisStore config now stored := by
  unfold report
  rw [related.loadState_eq readable]

theorem report_saveState_eq (state : BreakerState) :
    report inMemoryStore config now (saveState inMemoryStore config now memory state) =
      report redisStore config now (saveState redisStore config now stored state) := by
  unfold report
  rw [loadState_saveState_redis]
  rfl

theorem report_recordFailure_eq (related : Related memory stored)
    (readable : Readable now stored) :
    report inMemoryStore config now (recordFailure inMemoryStore config now memory) =
      report redisStore config now (recordFailure redisStore config now stored) := by
  unfold recordFailure
  rw [related.loadState_eq readable]
  exact report_saveState_eq _

theorem trips_eq (related : Related memory stored) (readable : Readable now stored) :
    trips inMemoryStore config now memory = trips redisStore config now stored := by
  unfold trips
  rw [related.loadState_eq readable]

section Calls

variable {σ : Type} {store : Store σ} {held : σ} (succeeds : Bool)

theorem step_blocked_call (blocked : (isOpen store config now held).1 = true) :
    stepOperation store config held (.call now finished succeeds) =
      ((isOpen store config now held).2,
        { before := report store config now held
          decision := .blocked
          tripped := false
          after := report store config now (isOpen store config now held).2 }) := by
  simp only [stepOperation, blocked, if_true]

theorem step_returning_call (admitted : (isOpen store config now held).1 = false) :
    stepOperation store config held (.call now finished true) =
      (recordSuccess store config finished (isOpen store config now held).2,
        { before := report store config now held
          decision := .allowed
          tripped := false
          after := report store config finished
            (recordSuccess store config finished (isOpen store config now held).2) }) := by
  simp [stepOperation, admitted]

theorem step_raising_call (admitted : (isOpen store config now held).1 = false) :
    stepOperation store config held (.call now finished false) =
      (recordFailure store config finished (isOpen store config now held).2,
        { before := report store config now held
          decision := .allowed
          tripped := trips store config finished (isOpen store config now held).2
          after := report store config finished
            (recordFailure store config finished (isOpen store config now held).2) }) := by
  simp [stepOperation, admitted]

end Calls

theorem Related.step_call (related : Related memory stored) {succeeds : Bool}
    (inTime : InTime config stored (.call now finished succeeds)) :
    (stepOperation inMemoryStore config memory (.call now finished succeeds)).2 =
        (stepOperation redisStore config stored (.call now finished succeeds)).2 ∧
      Related (stepOperation inMemoryStore config memory (.call now finished succeeds)).1
        (stepOperation redisStore config stored (.call now finished succeeds)).1 := by
  have readable : Readable now stored := inTime.readable
  have before := related.report_eq config readable
  rcases related.after_isOpen config readable with ⟨decision, next⟩
  cases blocked : (isOpen redisStore config now stored).1 with
  | true =>
    rw [step_blocked_call succeeds blocked, step_blocked_call succeeds (decision.trans blocked)]
    refine ⟨?_, next⟩
    rw [before, next.report_eq config (readable_isOpen readable)]
  | false =>
    cases succeeds with
    | true =>
      rw [step_returning_call blocked, step_returning_call (decision.trans blocked)]
      refine ⟨?_, related_recordSuccess config (isOpen redisStore config now stored).2
        (isOpen inMemoryStore config now memory).2⟩
      rw [before, recordSuccess, report_saveState_eq]
      rfl
    | false =>
      have found := (inTime_failing_call_iff readable blocked).mp inTime
      rw [step_raising_call blocked, step_raising_call (decision.trans blocked)]
      refine ⟨?_, next.after_recordFailure found⟩
      rw [before, trips_eq next found, report_recordFailure_eq next found]

theorem Related.step (related : Related memory stored) {operation : Operation}
    (inTime : InTime config stored operation) :
    (stepOperation inMemoryStore config memory operation).2 =
        (stepOperation redisStore config stored operation).2 ∧
      Related (stepOperation inMemoryStore config memory operation).1
        (stepOperation redisStore config stored operation).1 := by
  have readable := inTime.readable
  have before := related.report_eq config readable
  cases operation with
  | recordFailure time =>
    refine ⟨?_, related.after_recordFailure readable⟩
    simp only [stepOperation, Observation.mk.injEq]
    exact ⟨before, trivial, trips_eq related readable, report_recordFailure_eq related readable⟩
  | recordSuccess time =>
    refine ⟨?_, related_recordSuccess config stored memory⟩
    simp only [stepOperation, Observation.mk.injEq]
    exact ⟨before, trivial, trivial, report_saveState_eq .initial⟩
  | isOpen time =>
    rcases related.after_isOpen config readable with ⟨decision, next⟩
    refine ⟨?_, next⟩
    simp only [stepOperation, Observation.mk.injEq]
    exact ⟨before, congrArg Decision.ofBlocks decision, trivial,
      next.report_eq config (readable_isOpen readable)⟩
  | call time finished succeeds => exact related.step_call inTime

theorem before_stepOperation {σ : Type} {store : Store σ} {held : σ} (operation : Operation) :
    (stepOperation store config held operation).2.before =
      report store config operation.time held := by
  cases operation with
  | call time finished succeeds =>
    simp only [stepOperation]
    split <;> rfl
  | _ => rfl

theorem Related.step_call_ne (related : Related memory stored) (readable : Readable now stored)
    (late : ¬ InTime config stored (.call now finished false)) :
    (stepOperation inMemoryStore config memory (.call now finished false)).2 ≠
      (stepOperation redisStore config stored (.call now finished false)).2 := by
  intro same
  rcases related.after_isOpen config readable with ⟨decision, next⟩
  cases blocked : (isOpen redisStore config now stored).1 with
  | true => exact late (inTime_blocked_call readable blocked)
  | false =>
    have lost := fun found => late ((inTime_failing_call_iff readable blocked).mpr found)
    rw [step_raising_call blocked, step_raising_call (decision.trans blocked)] at same
    have counted := congrArg (fun seen : Observation => seen.after.failures) same
    apply next.failures_ne lost
    simpa [report, recordFailure, loadState, saveState, inMemoryStore, redisStore, lifetime_pos]
      using counted

theorem Related.step_ne (related : Related memory stored) {operation : Operation}
    (late : ¬ InTime config stored operation) :
    (stepOperation inMemoryStore config memory operation).2 ≠
      (stepOperation redisStore config stored operation).2 := by
  by_cases readable : Readable operation.time stored
  · cases operation with
    | call time finished succeeds =>
      cases succeeds with
      | true => exact absurd readable late
      | false => exact related.step_call_ne readable late
    | _ => exact absurd readable late
  · intro same
    have before := congrArg Observation.before same
    rw [before_stepOperation, before_stepOperation] at before
    exact related.failures_ne readable (congrArg Report.failures before)

theorem lockstep (config : Config) :
    Machine.Lockstep (breaker inMemoryStore config) (breaker redisStore config) Related
      (InTime config) where
  agree related inTime := related.step inTime
  differ related late := related.step_ne late

theorem related_empty : Related none none :=
  ⟨rfl, fun _ => rfl⟩

/-! ## The trial after the recovery timeout -/

/-- The check of a call turns the breaker half-open, and the failure of the
call opens it again. -/
def Reopens {σ : Type} (store : Store σ) (config : Config) (held : σ) (time finished : ℚ) : Prop :=
  (report store config time (isOpen store config time held).2).state = .halfOpen ∧
    (report store config finished
      (stepOperation store config held (.call time finished false)).1).state = .opened

/-- A breaker is open only after as many failures as its threshold. -/
def Earned (config : Config) (state : BreakerState) : Prop :=
  state.state = .opened → config.threshold ≤ state.failures

/-- A store answers what was last set or nothing. -/
def Store.Faithful {σ : Type} (store : Store σ) : Prop :=
  ∀ now later held value ttlSeconds,
    loadState store later (store.set now held value ttlSeconds) = value ∨
      loadState store later (store.set now held value ttlSeconds) = .initial

theorem inMemoryStore_faithful : inMemoryStore.Faithful :=
  fun _ _ _ _ _ => .inl rfl

theorem redisStore_faithful : redisStore.Faithful := by
  intro now later held value ttlSeconds
  by_cases live : later < now + lifetime ttlSeconds
  · simp [loadState, redisStore, live]
  · simp [loadState, redisStore, live]

section Earned

variable {σ : Type} {store : Store σ} {held : σ}

theorem earned_initial : Earned config .initial :=
  fun opened => nomatch opened

section

variable (faithful : store.Faithful)

include faithful

theorem earned_saveState {value : BreakerState} (earned : Earned config value) (later : ℚ) :
    Earned config (loadState store later (saveState store config now held value)) := by
  rcases faithful now later held value config.recoveryTimeout with same | empty
  · rw [saveState, same]
    exact earned
  · rw [saveState, empty]
    exact earned_initial

theorem earned_recordFailure (later : ℚ) :
    Earned config (loadState store later (recordFailure store config now held)) := by
  apply earned_saveState faithful
  intro opened
  by_contra below
  simp [below] at opened

theorem earned_recordSuccess (later : ℚ) :
    Earned config (loadState store later (recordSuccess store config now held)) :=
  earned_saveState faithful earned_initial later

theorem earned_isOpen (earned : ∀ later, Earned config (loadState store later held)) (later : ℚ) :
    Earned config (loadState store later (isOpen store config now held).2) := by
  unfold isOpen blocks
  split
  · exact earned later
  · split
    · refine earned_saveState faithful (fun opened => ?_) later
      cases opened
    · exact earned later

theorem earned_stepOperation (earned : ∀ later, Earned config (loadState store later held))
    (operation : Operation) (later : ℚ) :
    Earned config (loadState store later (stepOperation store config held operation).1) := by
  cases operation with
  | recordFailure time => exact earned_recordFailure faithful later
  | recordSuccess time => exact earned_recordSuccess faithful later
  | isOpen time => exact earned_isOpen faithful earned later
  | call time finished succeeds =>
    simp only [stepOperation]
    split
    · exact earned_isOpen faithful earned later
    · cases succeeds with
      | true => exact earned_recordSuccess faithful later
      | false => exact earned_recordFailure faithful later

end

variable (config) in
theorem earned_drive {σ : Type} {store : Store (Option σ)} (faithful : store.Faithful)
    (empty : ∀ later, loadState store later none = .initial) (operations : List Operation)
    (later : ℚ) :
    Earned config
      (loadState store later ((breaker store config).drive (none, []) operations).1) := by
  have admitted : (breaker store config).Admits (fun _ _ _ => True) (none, []) operations :=
    Machine.admits_all
  refine admitted.invariant (fun held => ∀ later, Earned config (loadState store later held))
    (fun _ _ operation earned _ => earned_stepOperation faithful earned operation) ?_ later
  exact fun later => (empty later).symm ▸ earned_initial

end Earned

/-- In memory, the call that comes after the recovery timeout is a trial whose
failure opens the breaker again. -/
theorem reopens_inMemory {state : BreakerState} (earned : Earned config state)
    (opened : state.state = .opened)
    (elapsed : config.recoveryTimeout < now - state.lastFailureTime) :
    Reopens inMemoryStore config (some state) now finished := by
  have counted : config.threshold ≤ state.failures + 1 := Nat.le_succ_of_le (earned opened)
  have check : isOpen inMemoryStore config now (some state) =
      (false, some { state with state := .halfOpen }) := by
    simp [isOpen, blocks, loadState, saveState, inMemoryStore, opened, elapsed]
  refine ⟨?_, ?_⟩
  · rw [check]
    rfl
  · rw [step_raising_call (by rw [check]), check]
    simp [report, recordFailure, loadState, saveState, inMemoryStore, counted]

theorem reopens_redis_iff {key : Key} (earned : Earned config key.value)
    (opened : key.value.state = .opened)
    (elapsed : config.recoveryTimeout < now - key.value.lastFailureTime) :
    Reopens redisStore config (some key) now finished ↔
      now < key.expiresAt ∧
        (finished < now + lifetime config.recoveryTimeout ∨ config.threshold ≤ 1) := by
  have counted : config.threshold ≤ key.value.failures + 1 := Nat.le_succ_of_le (earned opened)
  by_cases live : now < key.expiresAt
  · have check := isOpen_redis_of_live config live
    rw [if_pos opened, if_pos elapsed] at check
    unfold Reopens
    rw [step_raising_call (by rw [check]), check]
    by_cases prompt : finished < now + lifetime config.recoveryTimeout
    · simp [report, recordFailure, loadState, saveState, redisStore, lifetime_pos, live, prompt,
        counted]
    · simp [report, recordFailure, loadState, saveState, redisStore, lifetime_pos, live, prompt,
        BreakerState.initial]
  · have missing : loadState redisStore now (some key) = .initial := by
      simp [loadState, redisStore, live]
    simp [Reopens, report, isOpen, blocks, missing, live, BreakerState.initial]

/-- Over Redis the breaker decides and reports as in memory exactly along the
runs in which every operation, and every failure a call records, still finds
what was last set; in memory the first call after the recovery timeout is a
trial, over Redis only while the key lives. -/
theorem redis_answers_as_memory_iff (config : Config) (operations : List Operation) :
    ((breaker inMemoryStore config).answers none operations =
          (breaker redisStore config).answers none operations ↔
        ∀ visit ∈ (breaker redisStore config).visits none operations,
          InTime config visit.1 visit.2) ∧
      (∀ state time finished,
        ((breaker inMemoryStore config).drive (none, []) operations).1 = some state →
        state.state = .opened →
        config.recoveryTimeout < time - state.lastFailureTime →
        Reopens inMemoryStore config (some state) time finished) ∧
      ∀ key time finished,
        ((breaker redisStore config).drive (none, []) operations).1 = some key →
        key.value.state = .opened →
        config.recoveryTimeout < time - key.value.lastFailureTime →
        (Reopens redisStore config (some key) time finished ↔
          time < key.expiresAt ∧
            (finished < time + lifetime config.recoveryTimeout ∨ config.threshold ≤ 1)) := by
  refine ⟨(lockstep config).answers_eq_iff related_empty operations, ?_, ?_⟩
  · intro state time finished reached opened elapsed
    have earned := earned_drive config inMemoryStore_faithful (fun _ => rfl)
      operations time
    rw [reached] at earned
    exact reopens_inMemory earned opened elapsed
  · intro key time finished reached opened elapsed
    have earned := earned_drive config redisStore_faithful (fun _ => rfl)
      operations (key.expiresAt - 1)
    have alive : Readable (key.expiresAt - 1) (some key) := Or.inr (sub_one_lt _)
    rw [reached, loadState_redis_of_readable alive] at earned
    exact reopens_redis_iff earned opened elapsed

/-- Two failures open a breaker with threshold two; a call that fails ten
seconds after its key expired leaves it open in memory and closed over Redis. -/
theorem redis_forgets_open_breaker :
    let config : Config := ⟨2, 30⟩
    let operations : List Operation := [.recordFailure 0, .recordFailure 1, .call 41 42 false]
    ((breaker inMemoryStore config).answers none operations).map (·.after.state) =
        [.closed, .opened, .opened] ∧
      ((breaker redisStore config).answers none operations).map (·.after.state) =
        [.closed, .opened, .closed] := by
  decide +kernel

/-- A state whose clock shows whole seconds. -/
def BreakerState.ofSeconds (state : Healing.BreakerState) : BreakerState :=
  ⟨state.failures, state.state, state.lastFailureTime⟩

def ofStored (store : Healing.BreakerStore) : Option Key :=
  store.map fun stored => ⟨.ofSeconds stored.state, stored.expiresAt⟩

theorem lifetime_natCast (seconds : ℕ) : lifetime seconds = Healing.timeToLive seconds := by
  simp [lifetime, Healing.timeToLive]

theorem loadState_ofStored (seconds : ℕ) (store : Healing.BreakerStore) :
    loadState redisStore seconds (ofStored store) =
      .ofSeconds (Healing.loadState ⟨seconds, true⟩ store) := by
  cases store with
  | none => rfl
  | some stored =>
    by_cases live : seconds < stored.expiresAt
    · simp [loadState, redisStore, ofStored, Healing.loadState, live]
    · simp [loadState, redisStore, ofStored, Healing.loadState, live, BreakerState.initial,
        BreakerState.ofSeconds, Healing.BreakerState.initial]

/-- At whole seconds, a failure recorded over a reachable store is the one the
healing ladder counts. -/
theorem recordFailure_ofStored (threshold recoveryTimeout seconds : ℕ)
    (store : Healing.BreakerStore) :
    recordFailure redisStore ⟨threshold, recoveryTimeout⟩ seconds (ofStored store) =
      ofStored (Healing.recordFailure threshold recoveryTimeout ⟨seconds, true⟩ store) := by
  unfold recordFailure Healing.recordFailure
  rw [loadState_ofStored]
  simp [saveState, redisStore, Healing.saveState, ofStored, lifetime_natCast]
  rfl

end OhMyClass.Healing.CircuitBreaker
