import OhMyClass.Gateway.Renderer.Pool

/-!
# What a step of the pool does

A step leaves the locks as they are, or one call leaves a worker or takes one.
-/

namespace OhMyClass.Renderer

open RendererPool

namespace Phase

/-- The worker whose lock the call holds. -/
def held : Phase → Option WorkerId
  | draining _ worker | reading _ worker => some worker
  | _ => none

/-- The attempts the call has begun. -/
def tried : Phase → ℕ
  | outside | waitingForCapacity | returned _ _ => 0
  | borrowing attempt | starting attempt | waitingForWorker attempt _ | draining attempt _
  | reading attempt _ | readingStderr attempt _ | replacing attempt _ _
  | terminating attempt _ _ => attempt + 1
  | raised tried _ => tried

end Phase

/-- A call gives up between its write and its answer. -/
def GivesUp (pool : RendererPool) : Event → Prop
  | .drainFailed _ _ | .readOverlong _ _ | .timeOut _ => True
  | .cancel call => (pool.phase call).held ≠ none
  | _ => False

/-! ## What a step does -/

/-- A worker with the same lock and no new request before a reader. -/
structure Quieter (before after : RendererWorker) : Prop where
  lock : after.lock = before.lock
  unread : after.unread.Sublist before.unread

theorem Quieter.refl (worker : RendererWorker) : Quieter worker worker :=
  ⟨rfl, List.Sublist.refl _⟩

theorem quieter_ended (worker : RendererWorker) (code : Int) :
    Quieter worker (worker.ended code) where
  lock := rfl
  unread := by simp [RendererWorker.unread, RendererWorker.ended]

theorem quieter_answered (worker : RendererWorker) (line : ResponseLine) :
    Quieter worker (worker.answered line) := by
  unfold RendererWorker.answered
  split
  next => exact Quieter.refl worker
  next call rest _ isStdin _ => exact ⟨rfl, by simp [RendererWorker.unread, isStdin]⟩

/-- Where a call may go from an attempt, without a worker's lock and without
HTML. -/
structure Aside (config : RendererConfig) (attempt : ℕ) (phase : Phase) : Prop where
  held : phase.held = none
  notReturned : ∀ answered html, phase ≠ .returned answered html
  tried : phase.tried ≤ max (attempt + 1) (config.maxRetries + 1)

/-- One step: nothing or a worker's own step; a call that keeps the lock it has
or has none; a call that leaves a worker; or a call that takes one. -/
inductive Effect (config : RendererConfig) (pool : RendererPool) (event : Event)
    (after : RendererPool) : Prop
  | still (phases : after.phase = pool.phase)
      (workers : ∀ worker, Quieter (pool.processes worker) (after.processes worker))
  | move (call : CallId) (phase : Phase)
      (phases : after.phase = Function.update pool.phase call phase)
      (workers : ∀ worker, Quieter (pool.processes worker) (after.processes worker))
      (held : phase.held = (pool.phase call).held)
      (notReturned : ∀ answered html, phase ≠ .returned answered html)
      (tried : phase.tried ≤ max (pool.phase call).tried (config.maxRetries + 1))
  | leave (call : CallId) (worker : WorkerId) (process : RendererWorker) (phase : Phase)
      (held : (pool.phase call).held = some worker)
      (phases : after.phase = Function.update pool.phase call phase)
      (workers : after.processes = Function.update pool.processes worker process)
      (unlocked : process.lock = none)
      (unread : process.unread.Sublist (pool.processes worker).unread)
      (notHeld : phase.held = none)
      (answers : ∀ answered html, phase = .returned answered html →
        answered ∈ (pool.processes worker).unread)
      (tried : phase.tried ≤ max (pool.phase call).tried (config.maxRetries + 1))
      (left : GivesUp pool event ∨ process.unread = (pool.processes worker).unread.tail)
  | take (call : CallId) (attempt : ℕ) (worker : WorkerId)
      (isEvent : event = .takeWorker call none)
      (waiting : pool.phase call = .waitingForWorker attempt worker)
      (unlocked : (pool.processes worker).lock = none)
      (isAfter : after = pool.write call attempt worker)

section Effects

variable {library : Library} {config : RendererConfig} {pool after : RendererPool}
  {call : CallId} {attempt : ℕ} {event : Event}

theorem quieter_of_same (same : after.processes = pool.processes) (worker : WorkerId) :
    Quieter (pool.processes worker) (after.processes worker) := by
  rw [same]
  exact Quieter.refl _

theorem fill_moves (config : RendererConfig) (pool : RendererPool) (call : CallId)
    (attempt : ℕ) :
    ∃ phase, Aside config attempt phase ∧
      (pool.fill config call attempt).phase = Function.update pool.phase call phase ∧
      (pool.fill config call attempt).processes = pool.processes := by
  unfold fill
  split
  · exact ⟨_, ⟨rfl, by simp, le_max_left _ _⟩, rfl, rfl⟩
  · exact ⟨_, ⟨rfl, by simp, le_max_left _ _⟩, rfl, rfl⟩

theorem retry_moves (config : RendererConfig) (pool : RendererPool) (call : CallId)
    (attempt : ℕ) (error : RenderError) :
    ∃ phase, Aside config attempt phase ∧
      (pool.retry config call attempt error).phase = Function.update pool.phase call phase ∧
      (pool.retry config call attempt error).processes = pool.processes := by
  unfold RendererPool.retry
  split
  next more =>
    have within : attempt + 1 + 1 ≤ config.maxRetries + 1 := Nat.succ_le_succ more
    exact ⟨.borrowing (attempt + 1), ⟨rfl, by simp, le_max_of_le_right within⟩, rfl, rfl⟩
  next => exact ⟨_, ⟨rfl, by simp, le_max_left _ _⟩, rfl, rfl⟩

theorem fail_moves (config : RendererConfig) (pool : RendererPool) (call : CallId)
    (attempt : ℕ) (worker : WorkerId) (error : RenderError) :
    ∃ phase, Aside config attempt phase ∧
      (pool.fail call attempt worker error).phase = Function.update pool.phase call phase ∧
      (pool.fail call attempt worker error).processes = pool.processes := by
  unfold fail
  split
  · exact ⟨_, ⟨rfl, by simp, le_max_left _ _⟩, rfl, rfl⟩
  · exact ⟨_, ⟨rfl, by simp, le_max_left _ _⟩, rfl, rfl⟩

variable {phase old : Phase}

theorem Effect.aside (isPhase : pool.phase call = old) (begun : old.tried = attempt + 1)
    (notHeld : old.held = none) (aside : Aside config attempt phase)
    (phases : after.phase = Function.update pool.phase call phase)
    (workers : ∀ worker, Quieter (pool.processes worker) (after.processes worker)) :
    Effect config pool event after :=
  .move call phase phases workers (by rw [isPhase, notHeld, aside.held]) aside.notReturned
    (by rw [isPhase, begun]; exact aside.tried)

variable {worker : WorkerId} {process : RendererWorker}

theorem Effect.leaves (isPhase : pool.phase call = old) (begun : old.tried = attempt + 1)
    (held : old.held = some worker) (aside : Aside config attempt phase)
    (phases : after.phase = Function.update pool.phase call phase)
    (workers : after.processes = Function.update pool.processes worker process)
    (unlocked : process.lock = none)
    (unread : process.unread.Sublist (pool.processes worker).unread)
    (left : GivesUp pool event ∨ process.unread = (pool.processes worker).unread.tail) :
    Effect config pool event after :=
  .leave call worker process phase (isPhase ▸ held) phases workers unlocked unread aside.held
    (fun answered html isReturned => absurd isReturned (aside.notReturned answered html))
    (by rw [isPhase, begun]; exact aside.tried) left

theorem quieter_setProcess (quieter : Quieter (pool.processes worker) process) (other : WorkerId) :
    Quieter (pool.processes other) ((pool.setProcess worker process).processes other) := by
  by_cases same : other = worker
  · subst same
    simpa [setProcess] using quieter
  · simpa [setProcess, same] using Quieter.refl _

theorem Effect.same (config : RendererConfig) (pool : RendererPool) (event : Event) :
    Effect config pool event pool :=
  .still rfl fun _ => Quieter.refl _

theorem effect_takeLine (isPhase : pool.phase call = .reading attempt worker) :
    Effect config pool event (pool.takeLine library call attempt worker) := by
  simp only [takeLine]
  split
  next => exact Effect.same _ _ _
  next answered line rest isStdout =>
    have unread : (pool.processes worker).unread =
        answered :: (rest.map Prod.fst ++ (pool.processes worker).stdin) := by
      simp [RendererWorker.unread, isStdout]
    split
    next html _ =>
      exact .leave call worker _ (.returned answered html) (by rw [isPhase]; rfl) rfl rfl rfl
        (by rw [unread]; exact List.sublist_cons_self _ _) rfl
        (by
          rintro _ _ ⟨rfl, rfl⟩
          rw [unread]
          exact List.mem_cons_self)
        (Nat.zero_le _) (.inr (by rw [unread]; rfl))
    next error _ =>
      obtain ⟨phase, aside, phases, workers⟩ :=
        fail_moves config (pool.setProcess worker
          { pool.processes worker with lock := none, stdout := rest }) call attempt worker error
      exact Effect.leaves isPhase rfl rfl aside phases workers rfl
        (by rw [unread]; exact List.sublist_cons_self _ _) (.inr (by rw [unread]; rfl))

theorem effect_cancelled (call : CallId) :
    Effect config pool (.cancel call) (pool.cancelled call) := by
  unfold RendererPool.cancelled
  have aside (attempt : ℕ) : Aside config attempt (.raised (attempt + 1) .cancelled) :=
    ⟨rfl, by simp, le_max_left _ _⟩
  split
  case h_1 | h_2 | h_3 => exact Effect.same _ _ _
  case h_4 isPhase =>
    exact .move call _ rfl (fun _ => Quieter.refl _) (by rw [isPhase]; rfl) (by simp)
      (Nat.zero_le _)
  case h_5 attempt isPhase | h_6 attempt _ isPhase | h_7 attempt _ isPhase
      | h_8 attempt _ _ isPhase =>
    exact Effect.aside isPhase rfl rfl (aside attempt) rfl fun _ => Quieter.refl _
  case h_9 attempt isPhase | h_10 attempt _ _ isPhase =>
    exact Effect.aside isPhase rfl rfl (aside attempt) rfl fun _ => Quieter.refl _
  case h_11 attempt worker isPhase | h_12 attempt worker isPhase =>
    exact Effect.leaves isPhase rfl rfl (aside attempt) rfl rfl rfl (List.Sublist.refl _)
      (.inl (by simp [GivesUp, isPhase, Phase.held]))

theorem effect_step (library : Library) (config : RendererConfig) (pool : RendererPool)
    (event : Event) : Effect config pool event (pool.step library config event) := by
  cases event with
  | enter call =>
    simp only [RendererPool.step]
    split
    next isPhase =>
      exact .move call _ rfl (fun _ => Quieter.refl _) (by rw [isPhase]; rfl) (by simp)
        (Nat.zero_le _)
    next => exact Effect.same _ _ _
  | takeCapacity call =>
    simp only [RendererPool.step]
    split
    next isPhase =>
      split
      next => exact Effect.same _ _ _
      next =>
        exact .move call _ rfl (fun _ => Quieter.refl _) (by rw [isPhase]; rfl) (by simp)
          (le_max_of_le_right (Nat.succ_le_succ (Nat.zero_le _)))
    next => exact Effect.same _ _ _
  | takePoolLock call =>
    simp only [RendererPool.step]
    split
    next => exact Effect.same _ _ _
    next =>
      split
      next attempt isPhase =>
        obtain ⟨phase, aside, phases, workers⟩ := fill_moves config pool call attempt
        exact Effect.aside isPhase rfl rfl aside phases (quieter_of_same workers)
      next attempt worker error isPhase =>
        unfold terminate
        split
        next =>
          exact Effect.aside isPhase rfl rfl ⟨rfl, by simp, le_max_left _ _⟩ rfl
            (quieter_setProcess (quieter_ended _ _))
        next =>
          obtain ⟨phase, aside, phases, workers⟩ := retry_moves config
            { pool with workers := pool.workers.erase worker } call attempt error
          exact Effect.aside isPhase rfl rfl aside phases (quieter_of_same workers)
      next => exact Effect.same _ _ _
  | workerStarted call =>
    simp only [RendererPool.step]
    split
    next attempt isPhase =>
      obtain ⟨phase, aside, phases, workers⟩ := fill_moves config
        { pool with workers := pool.workers ++ [pool.started], started := pool.started + 1 }
        call attempt
      exact Effect.aside isPhase rfl rfl aside phases (quieter_of_same workers)
    next => exact Effect.same _ _ _
  | startFailed call reason =>
    simp only [RendererPool.step]
    split
    next attempt isPhase =>
      exact Effect.aside isPhase rfl rfl ⟨rfl, by simp, le_max_left _ _⟩ rfl
        fun _ => Quieter.refl _
    next => exact Effect.same _ _ _
  | takeWorker call failure =>
    simp only [RendererPool.step]
    split
    next attempt worker isPhase =>
      split
      next => exact Effect.same _ _ _
      next isFree =>
        cases failure with
        | some failure =>
          obtain ⟨phase, aside, phases, workers⟩ :=
            fail_moves config pool call attempt worker failure.toError
          exact Effect.aside isPhase rfl rfl aside phases (quieter_of_same workers)
        | none => exact .take call attempt worker rfl isPhase (not_not.mp isFree) rfl
    next => exact Effect.same _ _ _
  | drained call =>
    simp only [RendererPool.step]
    split
    next attempt worker isPhase =>
      exact .move call _ rfl (fun _ => Quieter.refl _) (by rw [isPhase]; rfl) (by simp)
        (by rw [isPhase]; exact le_max_left _ _)
    next => exact Effect.same _ _ _
  | drainFailed call failure =>
    simp only [RendererPool.step]
    split
    next attempt worker isPhase =>
      obtain ⟨phase, aside, phases, workers⟩ :=
        fail_moves config (pool.unlock worker) call attempt worker failure.toError
      exact Effect.leaves isPhase rfl rfl aside phases workers rfl (List.Sublist.refl _)
        (.inl trivial)
    next => exact Effect.same _ _ _
  | readLine call =>
    simp only [RendererPool.step]
    split
    next attempt worker isPhase => exact effect_takeLine isPhase
    next => exact Effect.same _ _ _
  | readEnd call =>
    simp only [RendererPool.step]
    split
    next attempt worker isPhase =>
      split
      next atEnd =>
        have noStdin := (pool.processes worker).ended_reads_nothing.resolve_left atEnd.2
        exact Effect.leaves isPhase rfl rfl ⟨rfl, by simp, le_max_left _ _⟩ rfl rfl rfl
          (List.Sublist.refl _) (.inr (by simp [RendererWorker.unread, atEnd.1, noStdin]))
      next => exact Effect.same _ _ _
    next => exact Effect.same _ _ _
  | readOverlong call dropped =>
    simp only [RendererPool.step]
    split
    next attempt worker isPhase =>
      obtain ⟨phase, aside, phases, workers⟩ := fail_moves config _ call attempt worker _
      refine Effect.leaves isPhase rfl rfl aside phases workers rfl ?_ (.inl trivial)
      apply List.Sublist.append_right
      split
      next => exact (List.tail_sublist _).map _
      next => exact List.Sublist.refl _
    next => exact Effect.same _ _ _
  | timeOut call =>
    simp only [RendererPool.step]
    split
    next attempt worker isPhase =>
      obtain ⟨phase, aside, phases, workers⟩ :=
        fail_moves config (pool.unlock worker) call attempt worker _
      exact Effect.leaves isPhase rfl rfl aside phases workers rfl (List.Sublist.refl _)
        (.inl trivial)
    next => exact Effect.same _ _ _
  | readStderr call stderr =>
    simp only [RendererPool.step]
    split
    next attempt worker isPhase =>
      obtain ⟨phase, aside, phases, workers⟩ := fail_moves config pool call attempt worker _
      exact Effect.aside isPhase rfl rfl aside phases (quieter_of_same workers)
    next => exact Effect.same _ _ _
  | terminated call =>
    simp only [RendererPool.step]
    split
    next attempt worker error isPhase =>
      obtain ⟨phase, aside, phases, workers⟩ := retry_moves config
        { pool with lock := none } call attempt error
      exact Effect.aside isPhase rfl rfl aside phases (quieter_of_same workers)
    next => exact Effect.same _ _ _
  | cancel call => exact effect_cancelled call
  | answer worker line => exact .still rfl (quieter_setProcess (quieter_answered _ _))
  | exit worker code =>
    simp only [RendererPool.step]
    split
    next => exact .still rfl (quieter_setProcess (quieter_ended _ _))
    next => exact Effect.same _ _ _

end Effects

end OhMyClass.Renderer
