import Mathlib.Order.Filter.AtTopBot.Basic
import Mathlib.Order.OrderIsoNat

/-!
# Machines with observed steps

A component is driven by inputs and answers each of them.  A run keeps the
newest-first history of inputs and answers beside the state, so that a
property may compare what is stored with what was observed.  A guard limits
the inputs the environment offers; it may consult the state and the history
before the step, never the answer of the step itself.
-/

namespace OhMyClass.Transition

universe u v w

/-- A total step function with an answer, and the states a run may start in. -/
structure Machine (σ : Type u) (ι : Type v) (ο : Type w) where
  initial : σ → Prop
  step : σ → ι → σ × ο

/-- Inputs and answers so far, newest first. -/
abbrev History (ι : Type v) (ο : Type w) := List (ι × ο)

/-- Which inputs may be offered in a state with a given history. -/
abbrev Guard (σ : Type u) (ι : Type v) (ο : Type w) :=
  σ → History ι ο → ι → Prop

namespace Machine

variable {σ : Type u} {ι : Type v} {ο : Type w}

/-- The state and history after one more input. -/
def advance (machine : Machine σ ι ο) (state : σ) (history : History ι ο)
    (input : ι) : σ × History ι ο :=
  ((machine.step state input).1, (input, (machine.step state input).2) :: history)

/-- Finite runs all of whose inputs meet the guard. -/
inductive Run (machine : Machine σ ι ο) (guard : Guard σ ι ο) :
    σ → History ι ο → Prop
  | start {state : σ} : machine.initial state → Run machine guard state []
  | next {state : σ} {history : History ι ο} (input : ι) :
      Run machine guard state history → guard state history input →
      Run machine guard (machine.advance state history input).1
        (machine.advance state history input).2

variable {machine : Machine σ ι ο} {guard : Guard σ ι ο} {state : σ} {history : History ι ο}

/-- A predicate that holds initially and is kept by every guarded step holds
after every run. -/
theorem Run.invariant (property : σ → History ι ο → Prop)
    (initially : ∀ state, machine.initial state → property state [])
    (preserved : ∀ state history input, property state history →
      guard state history input →
      property (machine.advance state history input).1
        (machine.advance state history input).2) (run : machine.Run guard state history) :
    property state history := by
  induction run with
  | start isInitial => exact initially _ isInitial
  | next input _ allowed ih => exact preserved _ _ input ih allowed

theorem Run.mono {weaker : Guard σ ι ο}
    (weaken : ∀ state history input, guard state history input → weaker state history input)
    (run : machine.Run guard state history) :
    machine.Run weaker state history := by
  induction run with
  | start isInitial => exact .start isInitial
  | next input _ allowed ih => exact .next input ih (weaken _ _ _ allowed)

/-- State and history after a sequence of inputs. -/
def drive (machine : Machine σ ι ο) : σ × History ι ο → List ι → σ × History ι ο
  | here, [] => here
  | here, input :: rest => machine.drive (machine.advance here.1 here.2 input) rest

/-- The guard admits each input of a sequence in turn. -/
def Admits (machine : Machine σ ι ο) (guard : Guard σ ι ο) : σ × History ι ο → List ι → Prop
  | _, [] => True
  | here, input :: rest =>
    guard here.1 here.2 input ∧ machine.Admits guard (machine.advance here.1 here.2 input) rest

instance decidableAdmits {machine : Machine σ ι ο} {guard : Guard σ ι ο}
    [∀ state history input, Decidable (guard state history input)] :
    (here : σ × History ι ο) → (inputs : List ι) → Decidable (machine.Admits guard here inputs)
  | _, [] => .isTrue trivial
  | here, input :: rest =>
    @instDecidableAnd _ _ inferInstance
      (decidableAdmits (machine.advance here.1 here.2 input) rest)

theorem Run.drive (run : machine.Run guard state history) (inputs : List ι)
    (admitted : machine.Admits guard (state, history) inputs) :
    machine.Run guard (machine.drive (state, history) inputs).1
      (machine.drive (state, history) inputs).2 := by
  induction inputs generalizing state history with
  | nil => exact run
  | cons input rest ih => exact ih (.next input run admitted.1) admitted.2

variable {here : σ × History ι ο} {inputs : List ι}

theorem Admits.invariant (property : σ → Prop)
    (preserved : ∀ state history input, property state → guard state history input →
      property (machine.step state input).1) (admitted : machine.Admits guard here inputs)
    (holds : property here.1) : property (machine.drive here inputs).1 := by
  induction inputs generalizing here with
  | nil => exact holds
  | cons input rest ih =>
    exact ih admitted.2 (preserved _ _ _ holds admitted.1)

theorem drive_frame {κ : Type*} (component : σ → κ) {untouched : ι → Prop}
    (frame : ∀ state input, untouched input →
      component (machine.step state input).1 = component state) (here : σ × History ι ο)
    (all : ∀ input ∈ inputs, untouched input) :
    component (machine.drive here inputs).1 = component here.1 := by
  induction inputs generalizing here with
  | nil => rfl
  | cons input rest ih =>
    have rested := ih (machine.advance here.1 here.2 input)
      fun other mem => all other (List.mem_cons_of_mem _ mem)
    exact rested.trans (frame here.1 input (all input List.mem_cons_self))

theorem admits_of_forall (allowed : ι → Prop) (all : ∀ input ∈ inputs, allowed input) :
    machine.Admits (fun _ _ input => allowed input) here inputs := by
  induction inputs generalizing here with
  | nil => exact trivial
  | cons input rest ih =>
    exact ⟨all input List.mem_cons_self,
      ih fun other mem => all other (List.mem_cons_of_mem _ mem)⟩

theorem admits_all : machine.Admits (fun _ _ _ => True) here inputs :=
  admits_of_forall (fun _ => True) fun _ _ => trivial

variable {invariant : σ → Prop}

/-- A property that one of the inputs establishes and all of them keep holds in
the end. -/
theorem drive_establishes (machine : Machine σ ι ο) {property : σ → Prop} {allowed : ι → Prop}
    {input : ι}
    (kept : ∀ state other, invariant state → allowed other → invariant (machine.step state other).1)
    (established : ∀ state, invariant state → property (machine.step state input).1)
    (lasts : ∀ state other, invariant state → property state → allowed other →
      property (machine.step state other).1) (holds : invariant here.1)
    (all : ∀ other ∈ inputs, allowed other) (mem : input ∈ inputs) :
    property (machine.drive here inputs).1 := by
  have final : ∀ (here : σ × History ι ο) (inputs : List ι), invariant here.1 ∧ property here.1 →
      (∀ other ∈ inputs, allowed other) → property (machine.drive here inputs).1 := by
    intro here inputs both all
    have admitted : machine.Admits (fun _ _ other => allowed other) here inputs :=
      admits_of_forall allowed all
    exact (admitted.invariant (fun state => invariant state ∧ property state)
      (fun state _ other holds may =>
        ⟨kept state other holds.1 may, lasts state other holds.1 holds.2 may⟩) both).2
  induction inputs generalizing here with
  | nil => cases mem
  | cons first rest ih =>
    rcases List.forall_mem_cons.mp all with ⟨mayFirst, mayRest⟩
    rcases List.mem_cons.mp mem with rfl | later
    · exact final (machine.advance here.1 here.2 _) rest
        ⟨kept _ _ holds mayFirst, established _ holds⟩ mayRest
    · exact ih (kept _ _ holds mayFirst) mayRest later

/-- Every state a sequence of inputs passes through, paired with the input it
receives there. -/
def visits (machine : Machine σ ι ο) : σ → List ι → List (σ × ι)
  | _, [] => []
  | state, input :: rest => (state, input) :: machine.visits (machine.step state input).1 rest

/-- The states of a sequence of inputs, the first one included. -/
def states (machine : Machine σ ι ο) : σ → List ι → List σ
  | state, [] => [state]
  | state, input :: rest => state :: machine.states (machine.step state input).1 rest

theorem drive_mem_states (machine : Machine σ ι ο) (state : σ) (history : History ι ο)
    (inputs : List ι) :
    (machine.drive (state, history) inputs).1 ∈ machine.states state inputs := by
  induction inputs generalizing state history with
  | nil => exact List.mem_singleton_self state
  | cons input rest ih => exact List.mem_cons_of_mem _ (ih _ _)

theorem forall_states
    (kept : ∀ state input, invariant state → invariant (machine.step state input).1)
    (holds : invariant state) (inputs : List ι) :
    ∀ reached ∈ machine.states state inputs, invariant reached := by
  induction inputs generalizing state with
  | nil => simpa [states] using holds
  | cons input rest ih =>
    exact List.forall_mem_cons.mpr ⟨holds, ih (kept state input holds)⟩

section

variable {allowed : σ → ι → Prop}
  (kept : ∀ state input, invariant state → allowed state input → invariant (machine.step state input).1)

include kept

/-- What every allowed step keeps holds at every visit, if all steps are allowed. -/
theorem forall_visits_of_allowed (holds : invariant state) (inputs : List ι)
    (all : ∀ visit ∈ machine.visits state inputs, allowed visit.1 visit.2) :
    ∀ visit ∈ machine.visits state inputs, invariant visit.1 := by
  induction inputs generalizing state with
  | nil => simp [visits]
  | cons input rest ih =>
    simp only [visits, List.forall_mem_cons] at all ⊢
    exact ⟨holds, ih (kept state input holds all.1) all.2⟩

theorem forall_states_of_allowed (holds : invariant state) (inputs : List ι)
    (all : ∀ visit ∈ machine.visits state inputs, allowed visit.1 visit.2) :
    ∀ reached ∈ machine.states state inputs, invariant reached := by
  induction inputs generalizing state with
  | nil => simpa [states] using holds
  | cons input rest ih =>
    simp only [visits, states, List.forall_mem_cons] at all ⊢
    exact ⟨holds, ih (kept state input holds all.1) all.2⟩

end

/-- If an input keeps a property exactly when it is allowed, then every state has
the property exactly when the first one has it and every input was allowed. -/
theorem forall_states_iff {property : σ → Prop} {allowed : σ → ι → Prop}
    (kept : ∀ state input, invariant state → invariant (machine.step state input).1)
    (step : ∀ state input, invariant state → property state →
      (property (machine.step state input).1 ↔ allowed state input)) (holds : invariant state)
    (inputs : List ι) :
    (∀ reached ∈ machine.states state inputs, property reached) ↔
      property state ∧ ∀ visit ∈ machine.visits state inputs, allowed visit.1 visit.2 := by
  induction inputs generalizing state with
  | nil => simp [states, visits]
  | cons input rest ih =>
    simp only [states, visits, List.forall_mem_cons]
    have later := ih (kept state input holds)
    constructor
    · rintro ⟨first, others⟩
      rcases later.mp others with ⟨next, allowedLater⟩
      exact ⟨first, (step state input holds first).mp next, allowedLater⟩
    · rintro ⟨first, allowedFirst, allowedLater⟩
      exact ⟨first, later.mpr ⟨(step state input holds first).mpr allowedFirst, allowedLater⟩⟩

/-- Two properties of single steps that agree wherever an invariant holds agree
along every sequence of inputs of one kind, if the steps with the first property
keep it. -/
theorem forall_visits_congr_of_inputs (invariant : σ → Prop) (kind : ι → Prop)
    {left right : σ → ι → Prop}
    (kept : ∀ state input, invariant state → kind input → left state input →
      invariant (machine.step state input).1) (agree : ∀ state input, invariant state → kind input →
      (left state input ↔ right state input)) (holds : invariant state)
    (all : ∀ input ∈ inputs, kind input) :
    (∀ visit ∈ machine.visits state inputs, left visit.1 visit.2) ↔
      ∀ visit ∈ machine.visits state inputs, right visit.1 visit.2 := by
  induction inputs generalizing state with
  | nil => simp [visits]
  | cons input rest ih =>
    rcases List.forall_mem_cons.mp all with ⟨isKind, allRest⟩
    simp only [visits, List.forall_mem_cons]
    constructor
    · rintro ⟨first, others⟩
      exact ⟨(agree state input holds isKind).mp first,
        (ih (kept state input holds isKind first) allRest).mp others⟩
    · rintro ⟨first, others⟩
      have leftFirst := (agree state input holds isKind).mpr first
      exact ⟨leftFirst, (ih (kept state input holds isKind leftFirst) allRest).mpr others⟩

theorem forall_visits_congr (invariant : σ → Prop) {left right : σ → ι → Prop}
    (kept : ∀ state input, invariant state → left state input →
      invariant (machine.step state input).1)
    (agree : ∀ state input, invariant state → (left state input ↔ right state input))
    (holds : invariant state) (inputs : List ι) :
    (∀ visit ∈ machine.visits state inputs, left visit.1 visit.2) ↔
      ∀ visit ∈ machine.visits state inputs, right visit.1 visit.2 :=
  forall_visits_congr_of_inputs invariant (fun _ => True)
    (fun state input isInvariant _ => kept state input isInvariant)
    (fun state input isInvariant _ => agree state input isInvariant) holds fun _ _ => trivial

end Machine

end OhMyClass.Transition

/-!
## Two machines in lockstep

Two machines that receive the same inputs are compared by their answers.  If
a relation between their states decides, input by input, whether the answers
agree, then the sequences of answers agree exactly when every input did.
-/

namespace OhMyClass.Transition.Machine

universe u u' v w

variable {σ : Type u} {τ : Type u'} {ι : Type v} {ο : Type w}

/-- The answers to a sequence of inputs, in the order they are given. -/
def answers (machine : Machine σ ι ο) : σ → List ι → List ο
  | _, [] => []
  | state, input :: rest =>
    (machine.step state input).2 :: machine.answers (machine.step state input).1 rest

theorem length_answers (machine : Machine σ ι ο) (state : σ) (inputs : List ι) :
    (machine.answers state inputs).length = inputs.length := by
  induction inputs generalizing state with
  | nil => rfl
  | cons input rest ih => exact congrArg Nat.succ (ih _)

/-- Related states answer the allowed inputs alike and stay related, and they
answer every other input differently. -/
structure Lockstep (left : Machine σ ι ο) (right : Machine τ ι ο) (related : σ → τ → Prop)
    (allowed : τ → ι → Prop) : Prop where
  agree : ∀ {state other input}, related state other → allowed other input →
    (left.step state input).2 = (right.step other input).2 ∧
      related (left.step state input).1 (right.step other input).1
  differ : ∀ {state other input}, related state other → ¬ allowed other input →
    (left.step state input).2 ≠ (right.step other input).2

variable {left : Machine σ ι ο} {right : Machine τ ι ο} {related : σ → τ → Prop}
  {allowed : τ → ι → Prop}

theorem answers_eq_of_allowed
    (agree : ∀ {state other input}, related state other → allowed other input →
      (left.step state input).2 = (right.step other input).2 ∧
        related (left.step state input).1 (right.step other input).1)
    {state : σ} {other : τ} (start : related state other) (inputs : List ι)
    (admitted : ∀ visit ∈ right.visits other inputs, allowed visit.1 visit.2) :
    left.answers state inputs = right.answers other inputs := by
  induction inputs generalizing state other with
  | nil => rfl
  | cons input rest ih =>
    rw [visits, List.forall_mem_cons] at admitted
    rcases agree start admitted.1 with ⟨same, next⟩
    rw [answers, answers, same, ih next admitted.2]

theorem Lockstep.answers_eq_iff (lockstep : Lockstep left right related allowed) {state : σ}
    {other : τ} (start : related state other) (inputs : List ι) :
    left.answers state inputs = right.answers other inputs ↔
      ∀ visit ∈ right.visits other inputs, allowed visit.1 visit.2 := by
  constructor
  · intro same
    induction inputs generalizing state other with
    | nil => simp [visits]
    | cons input rest ih =>
      rcases List.cons.inj same with ⟨sameFirst, sameRest⟩
      have first : allowed other input :=
        Classical.not_not.mp fun refused => lockstep.differ start refused sameFirst
      exact List.forall_mem_cons.mpr ⟨first, ih (lockstep.agree start first).2 sameRest⟩
  · exact answers_eq_of_allowed lockstep.agree start inputs

end OhMyClass.Transition.Machine

/-!
## Infinite schedules

A machine driven by infinitely many inputs.  Progress is argued with
properties that stay once they hold and with measures that never grow: a
measure of natural numbers is lowered only finitely often.
-/

namespace OhMyClass.Transition

open Filter

/-! ## Progress -/

variable {holds : ℕ → Prop}

theorem eventually_of_stable (stable : ∀ n, holds n → holds (n + 1)) {n : ℕ} (now : holds n) :
    ∀ᶠ m in atTop, holds m := by
  rw [eventually_atTop]
  refine ⟨n, fun m later => ?_⟩
  induction m, later using Nat.le_induction with
  | base => exact now
  | succ m _ ih => exact stable m ih

/-- What lowers a measure again and again until a property holds makes the
property hold, if the measure never grows and the property stays. -/
theorem eventually_of_progress (measure : ℕ → ℕ) (stable : ∀ n, holds n → holds (n + 1))
    (neverGrows : Antitone measure)
    (lowers : ∃ᶠ n in atTop, ¬ holds n → measure (n + 1) < measure n) :
    ∀ᶠ n in atTop, holds n := by
  let descending : ℕ →o ℕᵒᵈ := ⟨measure, fun _ _ le => neverGrows le⟩
  rcases WellFoundedGT.monotone_chain_condition descending with ⟨n, constant⟩
  rcases frequently_atTop.mp lowers n with ⟨m, later, lowered⟩
  have same : measure (m + 1) = measure m :=
    (constant (m + 1) (Nat.le_succ_of_le later)).symm.trans (constant m later)
  apply eventually_of_stable stable (n := m)
  by_contra missing
  exact absurd (lowered missing) (same ▸ Nat.lt_irrefl _)

theorem exists_of_descent (measure : ℕ → ℕ)
    (lowers : ∀ n, ¬ holds n → measure (n + 1) < measure n) : ∃ n, holds n := by
  by_contra missing
  rw [not_exists] at missing
  have falls (n : ℕ) : measure n + n ≤ measure 0 := by
    induction n with
    | zero => exact le_rfl
    | succ n ih =>
      have lowered := lowers n (missing n)
      omega
  have below := falls (measure 0 + 1)
  omega

/-! ## Trajectories -/

universe u v w

namespace Machine

variable {σ : Type u} {ι : Type v} {ο : Type w}

/-- The state and history before each of infinitely many inputs. -/
def trajectory (machine : Machine σ ι ο) (start : σ) (inputs : ℕ → ι) : ℕ → σ × History ι ο
  | 0 => (start, [])
  | n + 1 =>
    machine.advance (machine.trajectory start inputs n).1 (machine.trajectory start inputs n).2
      (inputs n)

theorem trajectory_run {machine : Machine σ ι ο} {start : σ} (initial : machine.initial start)
    (inputs : ℕ → ι) (n : ℕ) :
    machine.Run (fun _ _ _ => True) (machine.trajectory start inputs n).1
      (machine.trajectory start inputs n).2 := by
  induction n with
  | zero => exact .start initial
  | succ n ih => exact .next (inputs n) ih trivial

end Machine

end OhMyClass.Transition
