import OhMyClass.Gateway.Renderer.Effects

/-!
# Answers and requests

A call gets the answer to its own request as long as nobody takes a worker that
still has the answer to an earlier request before it.
-/

namespace OhMyClass.Renderer

open Function Transition

/-- Every call that returned HTML got it in answer to its own request. -/
def AnswersOwn (pool : RendererPool) : Prop :=
  ∀ call answered html, pool.phase call = .returned answered html → answered = call

/-- No call tries more often than configured. -/
def TriesBounded (config : RendererConfig) (pool : RendererPool) : Prop :=
  ∀ call, (pool.phase call).tried ≤ config.maxRetries + 1

/-- A call that takes a worker's lock finds no earlier request before it. -/
def TakesClean (pool : RendererPool) : Event → Prop
  | .takeWorker call _ =>
    match pool.phase call with
    | .waitingForWorker _ worker =>
      (pool.processes worker).lock = none → (pool.processes worker).unread = []
    | _ => True
  | _ => True

instance (pool : RendererPool) (event : Event) : Decidable (TakesClean pool event) := by
  unfold TakesClean
  split
  · split <;> infer_instance
  · infer_instance

section Steps

variable {config : RendererConfig} {pool after : RendererPool} {event : Event}

theorem TriesBounded.update (bounded : TriesBounded config pool) {call : CallId} {phase : Phase}
    (tried : phase.tried ≤ max (pool.phase call).tried (config.maxRetries + 1))
    (phases : after.phase = Function.update pool.phase call phase) :
    TriesBounded config after := by
  intro other
  rw [phases]
  by_cases same : other = call
  · subst same
    rw [update_self]
    exact tried.trans (max_le (bounded other) le_rfl)
  · rw [update_of_ne same]
    exact bounded other

theorem TriesBounded.effect (bounded : TriesBounded config pool)
    (effect : Effect config pool event after) : TriesBounded config after := by
  cases effect with
  | still phases _ =>
    intro call
    rw [phases]
    exact bounded call
  | move call phase phases _ _ _ tried => exact bounded.update tried phases
  | leave call worker process phase _ phases _ _ _ _ _ tried _ => exact bounded.update tried phases
  | take call attempt worker _ waiting _ isAfter =>
    subst isAfter
    exact bounded.update (by rw [waiting]; exact le_max_left _ _) rfl

/-! ## Locks -/

/-- Where a call holds a worker's lock, only its own request is before it. -/
structure Sound (pool : RendererPool) : Prop where
  locked : ∀ call worker, (pool.phase call).held = some worker →
    (pool.processes worker).lock = some call
  unread : ∀ call worker, (pool.phase call).held = some worker →
    ∀ other ∈ (pool.processes worker).unread, other = call
  own : AnswersOwn pool

theorem sound_initial (config : RendererConfig) : Sound (.initial config) where
  locked _ _ held := by cases held
  unread _ _ held := by cases held
  own _ _ _ returned := by cases returned

theorem Sound.eq_of_held (sound : Sound pool) {first second : CallId} {worker : WorkerId}
    (firstHolds : (pool.phase first).held = some worker)
    (secondHolds : (pool.phase second).held = some worker) : first = second := by
  have same := (sound.locked first worker firstHolds).symm.trans
    (sound.locked second worker secondHolds)
  exact Option.some.inj same

theorem unread_written (worker : RendererWorker) (call : CallId) {other : CallId}
    (mem : other ∈ (worker.written call).unread) : other ∈ worker.unread ∨ other = call := by
  unfold RendererWorker.unread RendererWorker.written at mem
  split at mem
  · simp only [List.mem_append, List.mem_singleton, ← or_assoc] at mem
    simpa [RendererWorker.unread] using mem
  · exact .inl mem

theorem Sound.effect (sound : Sound pool) (clean : TakesClean pool event)
    (effect : Effect config pool event after) : Sound after := by
  cases effect with
  | still phases workers =>
    constructor
    · intro call worker held
      rw [phases] at held
      rw [(workers worker).lock]
      exact sound.locked call worker held
    · intro call worker held other mem
      rw [phases] at held
      exact sound.unread call worker held other ((workers worker).unread.mem mem)
    · intro call answered html ret
      rw [phases] at ret
      exact sound.own call answered html ret
  | move mover phase phases workers held notReturned _ =>
    have oldHeld (call : CallId) : (after.phase call).held = (pool.phase call).held := by
      rw [phases]
      by_cases same : call = mover
      · subst same
        rw [update_self, held]
      · rw [update_of_ne same]
    constructor
    · intro call worker holds
      rw [(workers worker).lock]
      exact sound.locked call worker (oldHeld call ▸ holds)
    · intro call worker holds other mem
      exact sound.unread call worker (oldHeld call ▸ holds) other
        ((workers worker).unread.mem mem)
    · intro call answered html ret
      rw [phases] at ret
      by_cases same : call = mover
      · subst same
        rw [update_self] at ret
        exact absurd ret (notReturned answered html)
      · rw [update_of_ne same] at ret
        exact sound.own call answered html ret
  | leave leaver left process phase held phases workers unlocked unread notHeld answers _ _ =>
    -- whoever still holds a lock is another call, at another worker
    have stays {call : CallId} {worker : WorkerId}
        (holds : (after.phase call).held = some worker) :
        (pool.phase call).held = some worker ∧ after.processes worker = pool.processes worker := by
      rw [phases] at holds
      by_cases same : call = leaver
      · subst same
        rw [update_self, notHeld] at holds
        cases holds
      · rw [update_of_ne same] at holds
        have apart : worker ≠ left := by
          rintro rfl
          exact same (sound.eq_of_held holds held)
        exact ⟨holds, by rw [workers, update_of_ne apart]⟩
    constructor
    · intro call worker holds
      rw [(stays holds).2]
      exact sound.locked call worker (stays holds).1
    · intro call worker holds other mem
      rw [(stays holds).2] at mem
      exact sound.unread call worker (stays holds).1 other mem
    · intro call answered html ret
      rw [phases] at ret
      by_cases same : call = leaver
      · subst same
        rw [update_self] at ret
        exact sound.unread call left held answered (answers answered html ret)
      · rw [update_of_ne same] at ret
        exact sound.own call answered html ret
  | take taker attempt taken isEvent waiting unlocked isAfter =>
    subst isEvent isAfter
    have isClean : (pool.processes taken).unread = [] := by
      simp only [TakesClean, waiting] at clean
      exact clean unlocked
    have processes : (pool.write taker attempt taken).processes =
      Function.update pool.processes taken ((pool.processes taken).written taker) := rfl
    have phases : (pool.write taker attempt taken).phase =
      Function.update pool.phase taker (.draining attempt taken) := rfl
    have stays {call : CallId} {worker : WorkerId}
        (holds : ((pool.write taker attempt taken).phase call).held = some worker) :
        (call = taker ∧ worker = taken) ∨ ((pool.phase call).held = some worker ∧
          (pool.write taker attempt taken).processes worker = pool.processes worker) := by
      rw [phases] at holds
      by_cases same : call = taker
      · subst same
        rw [update_self] at holds
        exact .inl ⟨rfl, (Option.some.inj holds).symm⟩
      · rw [update_of_ne same] at holds
        have apart : worker ≠ taken := by
          rintro rfl
          rw [sound.locked call worker holds] at unlocked
          cases unlocked
        exact .inr ⟨holds, by rw [processes, update_of_ne apart]⟩
    constructor
    · intro call worker holds
      rcases stays holds with ⟨rfl, rfl⟩ | ⟨held, same⟩
      · rw [processes, update_self]
        rfl
      · rw [same]
        exact sound.locked call worker held
    · intro call worker holds other mem
      rcases stays holds with ⟨rfl, rfl⟩ | ⟨held, same⟩
      · rw [processes, update_self] at mem
        rcases unread_written _ _ mem with earlier | own
        · rw [isClean] at earlier
          cases earlier
        · exact own
      · rw [same] at mem
        exact sound.unread call worker held other mem
    · intro call answered html ret
      rw [phases] at ret
      by_cases same : call = taker
      · subst same
        rw [update_self] at ret
        cases ret
      · rw [update_of_ne same] at ret
        exact sound.own call answered html ret

end Steps

section Runs

variable (library : Library) (config : RendererConfig)

theorem triesBounded_states (events : List Event) :
    ∀ pool ∈ (rendering library config).states (.initial config) events,
      TriesBounded config pool :=
  Machine.forall_states
    (fun pool event bounded => bounded.effect (effect_step library config pool event))
    (fun _ => Nat.zero_le _) events

theorem sound_states (events : List Event)
    (clean : ∀ visit ∈ (rendering library config).visits (.initial config) events,
      TakesClean visit.1 visit.2) :
    ∀ pool ∈ (rendering library config).states (.initial config) events, Sound pool :=
  Machine.forall_states_of_allowed
    (fun pool event sound clean => sound.effect clean (effect_step library config pool event))
    (sound_initial config) events clean

end Runs

/-- A library for which every document stands alone. -/
def plainLibrary : Library where
  isZero _ := false
  printable _ := true
  validateStandaloneHtml _ := none

def oneWorker : RendererConfig where
  timeoutSeconds := "30.0"
  poolSize := ⟨1, le_rfl⟩
  maxConcurrentRenders := ⟨2, Nat.le_succ 1⟩
  maxRetries := 1

def htmlLine (html : String) : ResponseLine :=
  .value (.obj [("ok", .bool true), ("html", .str html)])

/-- The first call is cancelled while it reads; the second one takes its worker. -/
def cancelledRun : List Event :=
  [.enter 0, .takeCapacity 0, .takePoolLock 0, .workerStarted 0, .takeWorker 0 none, .drained 0,
    .cancel 0, .enter 1, .takeCapacity 1, .takePoolLock 1, .takeWorker 1 none, .drained 1,
    .answer 0 (htmlLine "<!doctype html>first"), .readLine 1]

/-- The read times out, the worker is replaced, and the next one answers. -/
def retriedRun : List Event :=
  [.enter 0, .takeCapacity 0, .takePoolLock 0, .workerStarted 0, .takeWorker 0 none, .drained 0,
    .timeOut 0, .takePoolLock 0, .terminated 0, .takePoolLock 0, .workerStarted 0,
    .takeWorker 0 none, .drained 0, .answer 1 (htmlLine "<!doctype html>first"), .readLine 0]

end OhMyClass.Renderer
