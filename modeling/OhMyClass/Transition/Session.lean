import Mathlib.Logic.Basic

/-!
# Sessions that raise

A session computation returns a value or raises an exception, and what it
wrote before raising stays visible to whoever handles the exception.  Only a
transaction boundary discards it.
-/

namespace OhMyClass.Transition

universe u

/-- A computation over a session state, with exceptions that keep the state. -/
def Session (σ ε α : Type u) : Type u :=
  σ → Except ε α × σ

namespace Session

variable {σ ε α β : Type u}

def pure (value : α) : Session σ ε α := fun state => (.ok value, state)

def bind (first : Session σ ε α) (next : α → Session σ ε β) : Session σ ε β := fun state =>
  match first state with
  | (.ok value, after) => next value after
  | (.error exception, after) => (.error exception, after)

instance : Monad (Session σ ε) where
  pure := Session.pure
  bind := Session.bind

def raise (exception : ε) : Session σ ε α := fun state => (.error exception, state)

/-- `try body except exception: handler(exception)`. -/
def handle (body : Session σ ε α) (handler : ε → Session σ ε α) : Session σ ε α := fun state =>
  match body state with
  | (.ok value, after) => (.ok value, after)
  | (.error exception, after) => handler exception after

/-- `try body except exception: ... else: ...`, where the caller looks at the
outcome. -/
def attempt (body : Session σ ε α) : Session σ ε (Except ε α) := fun state =>
  (.ok (body state).1, (body state).2)

def read (query : σ → α) : Session σ ε α := fun state => (.ok (query state), state)

def write (change : σ → σ) : Session σ ε PUnit := fun state => (.ok ⟨⟩, change state)

/-- Lift a call that touches no session state. -/
def call (result : Except ε α) : Session σ ε α := fun state => (result, state)

/-- Run each computation in turn. -/
def forEach {γ : Type u} (items : List γ) (body : γ → Session σ ε PUnit) : Session σ ε PUnit :=
  match items with
  | [] => pure ⟨⟩
  | item :: rest => bind (body item) fun _ => forEach rest body

/-- A transaction: commit what a returning computation wrote, roll back one
that raised. -/
def atomically (body : Session σ ε α) (state : σ) : Except ε α × σ :=
  match body state with
  | (.ok value, after) => (.ok value, after)
  | (.error exception, _) => (.error exception, state)

/-! ## Peeling computations apart -/

variable {first : Session σ ε α} {next : α → Session σ ε β} {state after : σ}

theorem bind_eq_ok {value : β} :
    (first >>= next) state = (.ok value, after) ↔
      ∃ middle between, first state = (.ok middle, between) ∧
        next middle between = (.ok value, after) := by
  change bind first next state = _ ↔ _
  unfold bind
  constructor
  · intro ret
    split at ret
    · next middle between firstEq => exact ⟨middle, between, firstEq, ret⟩
    · cases ret
  · rintro ⟨middle, between, firstEq, nextEq⟩
    simp only [firstEq, nextEq]

variable {between : σ}

theorem bind_of_ok {value : α} (ret : first state = (.ok value, between)) :
    (first >>= next) state = next value between := by
  change bind first next state = _
  simp only [bind, ret]

theorem bind_cases {result : Except ε β} (sequence : (first >>= next) state = (result, after)) :
    (∃ middle between, first state = (.ok middle, between) ∧
        next middle between = (result, after)) ∨
      ∃ exception, first state = (.error exception, after) ∧ result = .error exception := by
  change bind first next state = _ at sequence
  unfold bind at sequence
  split at sequence
  · next middle between firstEq => exact .inl ⟨middle, between, firstEq, sequence⟩
  · next exception between firstEq =>
    cases sequence
    exact .inr ⟨exception, firstEq, rfl⟩

@[simp] theorem pure_apply (value : α) (state : σ) :
    (Pure.pure value : Session σ ε α) state = (.ok value, state) :=
  rfl

@[simp] theorem read_bind (query : σ → α) (next : α → Session σ ε β) (state : σ) :
    (read query >>= next) state = next (query state) state :=
  rfl

@[simp] theorem write_bind (change : σ → σ) (next : PUnit → Session σ ε β) (state : σ) :
    (write change >>= next) state = next ⟨⟩ (change state) :=
  rfl

theorem call_bind_of_ok {result : Except ε α} {value : α} (isOk : result = .ok value)
    (next : α → Session σ ε β) (state : σ) : (call result >>= next) state = next value state := by
  rw [isOk]
  rfl

theorem call_eq_ok {result : Except ε α} {value : α} :
    (call result : Session σ ε α) state = (.ok value, after) ↔
      result = .ok value ∧ after = state := by
  simp only [call, Prod.mk.injEq, eq_comm (a := state)]

theorem bind_apply_ok (next : α → Session σ ε β) {middle : α}
    (firstEq : first state = (.ok middle, between)) :
    (first >>= next) state = next middle between := by
  change bind first next state = _
  simp only [bind, firstEq]

theorem bind_apply_error (next : α → Session σ ε β) {exception : ε}
    (firstEq : first state = (.error exception, between)) :
    (first >>= next) state = (.error exception, between) := by
  change bind first next state = _
  simp only [bind, firstEq]

variable {body : Session σ ε α}

theorem handle_raise_eq_ok {translate : ε → ε} {value : α} :
    handle body (fun exception => raise (translate exception)) state = (.ok value, after) ↔
      body state = (.ok value, after) := by
  unfold handle
  split
  · next bodyEq => rw [bodyEq]
  · next bodyEq => simp only [raise, bodyEq, Prod.mk.injEq, reduceCtorEq, false_and]

theorem atomically_of_ok {value : α} (ret : body state = (.ok value, after)) :
    atomically body state = (.ok value, after) := by
  simp only [atomically, ret]

theorem atomically_of_error {exception : ε} (raised : body state = (.error exception, after)) :
    atomically body state = (.error exception, state) := by
  simp only [atomically, raised]

theorem atomically_cases (body : Session σ ε α) (state : σ) :
    (∃ value after, body state = (.ok value, after) ∧
        atomically body state = (.ok value, after)) ∨
      ∃ exception after, body state = (.error exception, after) ∧
        atomically body state = (.error exception, state) := by
  unfold atomically
  split
  · next value after ret => exact .inl ⟨value, after, ret, rfl⟩
  · next exception after raised => exact .inr ⟨exception, after, raised, rfl⟩

/-- The computation keeps the invariant, whether it returns or raises. -/
def Keeps (invariant : σ → Prop) (body : Session σ ε α) : Prop :=
  ∀ state, invariant state → invariant (body state).2

variable {invariant : σ → Prop}

theorem Keeps.holds_after (keeps : Keeps invariant body) {result : Except ε α}
    (ran : body state = (result, after)) (holds : invariant state) :
    invariant after := by
  have kept := keeps state holds
  rw [ran] at kept
  exact kept

theorem keeps_pure (value : α) : Keeps invariant (Pure.pure value : Session σ ε α) :=
  fun _ holds => holds

theorem keeps_raise (exception : ε) : Keeps invariant (raise exception : Session σ ε α) :=
  fun _ holds => holds

theorem keeps_read (query : σ → α) : Keeps invariant (read query : Session σ ε α) :=
  fun _ holds => holds

theorem keeps_call (result : Except ε α) : Keeps invariant (call result : Session σ ε α) :=
  fun _ holds => holds

theorem keeps_or {other : σ → Prop} (keeps : Keeps invariant body) (otherKeeps : Keeps other body) :
    Keeps (fun state => invariant state ∨ other state) body :=
  fun state holds => holds.imp (keeps state) (otherKeeps state)

theorem keeps_bind (firstKeeps : Keeps invariant first)
    (nextKeeps : ∀ value, Keeps invariant (next value)) :
    Keeps invariant (first >>= next) := by
  intro state holds
  have between := firstKeeps state holds
  change invariant (bind first next state).2
  unfold bind
  split
  · next value after firstEq =>
    rw [firstEq] at between
    exact nextKeeps value after between
  · next exception after firstEq =>
    rw [firstEq] at between
    exact between

theorem keeps_handle {handler : ε → Session σ ε α} (bodyKeeps : Keeps invariant body)
    (handlerKeeps : ∀ exception, Keeps invariant (handler exception)) :
    Keeps invariant (handle body handler) := by
  intro state holds
  have between := bodyKeeps state holds
  unfold handle
  split
  · next value after bodyEq =>
    rw [bodyEq] at between
    exact between
  · next exception after bodyEq =>
    rw [bodyEq] at between
    exact handlerKeeps exception after between

theorem keeps_attempt (bodyKeeps : Keeps invariant body) :
    Keeps invariant (attempt body) :=
  bodyKeeps

theorem keeps_forEach {γ : Type u} {items : List γ} {body : γ → Session σ ε PUnit}
    (bodyKeeps : ∀ item ∈ items, Keeps invariant (body item)) :
    Keeps invariant (forEach items body) := by
  induction items with
  | nil => exact fun _ holds => holds
  | cons item rest ih =>
    apply keeps_bind (bodyKeeps item List.mem_cons_self)
    intro _
    exact ih fun other mem => bodyKeeps other (List.mem_cons_of_mem _ mem)

theorem keeps_atomically (bodyKeeps : Keeps invariant body) :
    Keeps invariant (atomically body) := by
  intro state holds
  rcases atomically_cases body state with ⟨value, after, ret, committed⟩ | rolledBack
  · have kept := bodyKeeps state holds
    rw [ret] at kept
    rw [committed]
    exact kept
  · rcases rolledBack with ⟨exception, after, raised, discarded⟩
    rw [discarded]
    exact holds

/-- From every state with the invariant the computation raises. -/
def Raises (invariant : σ → Prop) (body : Session σ ε α) : Prop :=
  ∀ state, invariant state → ∃ exception after, body state = (.error exception, after)

theorem raises_bind_of_first (raises : Raises invariant first) (next : α → Session σ ε β) :
    Raises invariant (first >>= next) := by
  intro state holds
  obtain ⟨exception, after, raised⟩ := raises state holds
  exact ⟨exception, after, bind_apply_error next raised⟩

theorem raises_bind (keeps : Keeps invariant first)
    (raises : ∀ value, Raises invariant (next value)) :
    Raises invariant (first >>= next) := by
  intro state holds
  have between := keeps state holds
  rcases firstEq : first state with ⟨value | value, after⟩
  · exact ⟨value, after, bind_apply_error next firstEq⟩
  · rw [firstEq] at between
    rw [bind_apply_ok next firstEq]
    exact raises value after between

end Session

end OhMyClass.Transition
