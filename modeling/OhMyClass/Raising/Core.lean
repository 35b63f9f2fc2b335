import Mathlib.Data.List.Forall2

/-!
# Computations that raise

Which exceptions a computation may raise, and what is left of them where a
guard around its first part catches some.
-/

namespace OhMyClass.Raising

variable {ε α β : Type} {caught : ε → Prop}

/-- The computation returns a value with a property. -/
def Returns (holds : α → Prop) (result : Except ε α) : Prop :=
  ∃ value, result = .ok value ∧ holds value

/-- Whatever the computation raises is caught. -/
def OnlyRaises (caught : ε → Prop) (result : Except ε α) : Prop :=
  ∀ error, result = .error error → caught error

/-! ## One computation after another -/

variable {first : Except ε α} {next : α → Except ε β}

theorem bind_eq_ok {result : β} :
    (first >>= next) = .ok result ↔ ∃ value, first = .ok value ∧ next value = .ok result := by
  cases first with
  | error _ => simp [bind, Except.bind]
  | ok _ => simp [bind, Except.bind]

variable {f : α → Except ε β} {items : List α}

theorem mapM_eq_ok_iff {results : List β} :
    items.mapM f = .ok results ↔ List.Forall₂ (fun item result => f item = .ok result)
      items results := by
  induction items generalizing results with
  | nil =>
    simp [pure, Except.pure]
  | cons item rest ih =>
    rw [List.mapM_cons, List.forall₂_cons_left_iff]
    cases head : f item with
    | error _ => simp [bind, Except.bind]
    | ok value =>
      cases tail : rest.mapM f with
      | error _ =>
        simp only [bind, Except.bind, reduceCtorEq, false_iff, not_exists, not_and]
        rintro other others _ rested
        rw [ih.mpr rested] at tail
        cases tail
      | ok values =>
        simp only [bind, Except.bind, pure, Except.pure, Except.ok.injEq]
        constructor
        · rintro rfl
          exact ⟨value, values, rfl, ih.mp tail, rfl⟩
        · rintro ⟨other, others, rfl, rested, rfl⟩
          rw [ih.mpr rested] at tail
          cases tail
          rfl

theorem returns_bind {holds : β → Prop} :
    Returns holds (first >>= next) ↔ ∃ value, first = .ok value ∧ Returns holds (next value) := by
  cases first with
  | error error => simp [Returns, bind, Except.bind]
  | ok value => simp [Returns, bind, Except.bind]

theorem mem_mapM_iff {results : List β} (ret : items.mapM f = .ok results) {result : β} :
    result ∈ results ↔ ∃ item ∈ items, f item = .ok result := by
  have paired := mapM_eq_ok_iff.mp ret
  clear ret
  induction paired with
  | nil => simp
  | cons first _ ih =>
    simp only [List.mem_cons, ih, exists_eq_or_imp, first, Except.ok.injEq]
    exact or_congr_left eq_comm

theorem exists_mapM_iff :
    (∃ results, items.mapM f = .ok results) ↔ ∀ item ∈ items, ∃ result, f item = .ok result := by
  simp only [mapM_eq_ok_iff]
  induction items with
  | nil => exact iff_of_true ⟨[], .nil⟩ fun _ no => absurd no List.not_mem_nil
  | cons item rest ih =>
    rw [List.forall_mem_cons, ← ih]
    constructor
    · rintro ⟨results, paired⟩
      obtain ⟨result, others, first, restPaired, rfl⟩ := List.forall₂_cons_left_iff.mp paired
      exact ⟨⟨result, first⟩, others, restPaired⟩
    · rintro ⟨⟨result, first⟩, others, paired⟩
      exact ⟨result :: others, .cons first paired⟩

@[simp]
theorem onlyRaises_ok {value : α} : OnlyRaises caught (.ok value : Except ε α) :=
  nofun

@[simp]
theorem onlyRaises_error {error : ε} : OnlyRaises caught (.error error : Except ε α) ↔ caught error := by
  simp [OnlyRaises]

theorem onlyRaises_bind :
    OnlyRaises caught (first >>= next) ↔
      OnlyRaises caught first ∧ ∀ value, first = .ok value → OnlyRaises caught (next value) := by
  cases first with
  | error error => simp [OnlyRaises, bind, Except.bind]
  | ok value => simp [OnlyRaises, bind, Except.bind]

theorem OnlyRaises.throwIf {condition : Prop} [Decidable condition] {error : ε}
    (isCaught : caught error) :
    OnlyRaises caught (if condition then throw error else pure () : Except ε Unit) := by
  split
  · exact onlyRaises_error.mpr isCaught
  · exact onlyRaises_ok

theorem OnlyRaises.mapM {step : α → Except ε β}
    (each : ∀ item ∈ items, OnlyRaises caught (step item)) :
    OnlyRaises caught (items.mapM step) := by
  induction items with
  | nil =>
    exact onlyRaises_ok
  | cons item rest ih =>
    rw [List.forall_mem_cons] at each
    rw [List.mapM_cons, onlyRaises_bind]
    refine ⟨each.1, fun value _ => ?_⟩
    rw [onlyRaises_bind]
    exact ⟨ih each.2, fun values _ => onlyRaises_ok⟩

theorem OnlyRaises.mapError {ε' : Type} {rename : ε' → ε} (result : Except ε' α)
    (each : ∀ error, caught (rename error)) : OnlyRaises caught (result.mapError rename) := by
  cases result with
  | error error => exact onlyRaises_error.mpr (each error)
  | ok value => exact onlyRaises_ok

theorem mapError_eq_ok {ε' : Type} {rename : ε' → ε} {result : Except ε' α} {value : α} :
    result.mapError rename = .ok value ↔ result = .ok value := by
  cases result with
  | error error => simp [Except.mapError]
  | ok value => simp [Except.mapError]

/-- `try: body`, `except caught: return handler`, and the rest after it. -/
def guarded (caught : ε → Bool) (handler : ε → β) (body : Except ε α) (rest : α → Except ε β) :
    Except ε β :=
  match body with
  | .error error => if caught error then .ok (handler error) else .error error
  | .ok value => rest value

/-- Where the handler's answers will do, all is well if the guarded part raises
only what is caught and the rest, which is not guarded, returns. -/
theorem returns_guarded_iff {holds : β → Prop} {caught : ε → Bool} {handler : ε → β}
    {body : Except ε α} {rest : α → Except ε β} (handled : ∀ error, holds (handler error)) :
    Returns holds (guarded caught handler body rest) ↔
      OnlyRaises (fun error => caught error = true) body ∧
        ∀ value, body = .ok value → Returns holds (rest value) := by
  cases body with
  | error error =>
    rw [guarded, onlyRaises_error]
    cases isCaught : caught error with
    | false => simp [Returns]
    | true => simp [Returns, handled]
  | ok value => simp [guarded]

end OhMyClass.Raising
