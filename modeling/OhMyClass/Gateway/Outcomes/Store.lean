import Mathlib.Data.Rat.Init
import OhMyClass.Gateway.Basic
import OhMyClass.Table.Core

/-!
# The outcome store

Guardian consents and the attempts of pseudonymous students.  A consent is
revoked by a timestamp; its row, and with it the unique teacher, class and
pseudonym, stays.
-/

namespace OhMyClass.Gateway.Outcomes

open List

/-- Whom a consent is about. -/
structure StudentScope where
  teacherId : String
  classId : String
  studentPseudonym : String
  deriving DecidableEq

/-- A row of `public.guardian_consents`; its `consent_id` is a new UUID, here a
serial number. -/
structure GuardianConsent where
  consentId : Nat
  scope : StudentScope
  grantedAt : DateTime
  revokedAt : Option DateTime

/-- The primary key and `uq_guardian_consents_active`. -/
def GuardianConsent.Conflict (first second : GuardianConsent) : Prop :=
  first.consentId = second.consentId ∨ first.scope = second.scope
  deriving Decidable

structure StudentAttempt where
  attemptId : String
  studentPseudonym : String
  questionId : String
  kcIds : List String
  correct : Bool
  score : Rat
  timestamp : DateTime
  deliveryId : String

/-- A row of `public.student_attempts`. -/
structure StudentAttemptRecord where
  attempt : StudentAttempt
  teacherId : String

/-- The primary key. -/
def StudentAttemptRecord.Conflict (first second : StudentAttemptRecord) : Prop :=
  first.attempt.attemptId = second.attempt.attemptId
  deriving Decidable

structure OutcomeStore where
  consents : Table GuardianConsent GuardianConsent.Conflict
  attempts : Table StudentAttemptRecord StudentAttemptRecord.Conflict
  nextConsentId : Nat

inductive OutcomeError where
  | dataError
  | uniqueViolation
  | multipleResultsFound

/-- The lengths of the columns. -/
def StudentScope.fits (scope : StudentScope) : Bool :=
  scope.teacherId.length ≤ 64 && scope.classId.length ≤ 64 && scope.studentPseudonym.length ≤ 128

def StudentAttemptRecord.fits (row : StudentAttemptRecord) : Bool :=
  row.attempt.attemptId.length ≤ 64 && row.attempt.studentPseudonym.length ≤ 128 &&
    row.attempt.questionId.length ≤ 128 && row.attempt.deliveryId.length ≤ 64 &&
    row.teacherId.length ≤ 64

/-- `result.scalar_one_or_none()`. -/
def scalarOneOrNone {α : Type*} : List α → Except OutcomeError (Option α)
  | [] => .ok none
  | [row] => .ok (some row)
  | _ => .error .multipleResultsFound

/-- The consent is for the student and was not revoked. -/
def GuardianConsent.isActive (scope : StudentScope) (row : GuardianConsent) : Bool :=
  row.scope = scope && row.revokedAt.isNone

namespace OutcomeStore

def hasConsent (store : OutcomeStore) (scope : StudentScope) : Except OutcomeError Bool :=
  (scalarOneOrNone (store.consents.rows.filter (GuardianConsent.isActive scope))).map Option.isSome

def grantConsent (store : OutcomeStore) (now : DateTime) (scope : StudentScope) :
    Except OutcomeError OutcomeStore :=
  if scope.fits then
    match store.consents.insert ⟨store.nextConsentId, scope, now, none⟩ with
    | none => .error .uniqueViolation
    | some consents => .ok { store with consents, nextConsentId := store.nextConsentId + 1 }
  else .error .dataError

/-- `row.revoked_at = datetime.now(UTC)`. -/
def GuardianConsent.revoke (now : DateTime) (row : GuardianConsent) : GuardianConsent :=
  { row with revokedAt := some now }

theorem conflict_of_revoke (now : DateTime) (selected : GuardianConsent → Bool)
    (first second : GuardianConsent)
    (clash : (Table.changeSelected selected (GuardianConsent.revoke now) first).Conflict
      (Table.changeSelected selected (GuardianConsent.revoke now) second)) :
    first.Conflict second := by
  unfold GuardianConsent.Conflict at clash ⊢
  rwa [Table.changeSelected_frame GuardianConsent.consentId rfl,
    Table.changeSelected_frame GuardianConsent.consentId rfl,
    Table.changeSelected_frame GuardianConsent.scope rfl,
    Table.changeSelected_frame GuardianConsent.scope rfl] at clash

def revokeConsent (store : OutcomeStore) (now : DateTime) (scope : StudentScope) :
    Except OutcomeError OutcomeStore := do
  match ← scalarOneOrNone (store.consents.rows.filter (GuardianConsent.isActive scope)) with
  | none => return store
  | some row =>
    return { store with
      consents := store.consents.update (fun other => other.consentId = row.consentId)
        (GuardianConsent.revoke now) (conflict_of_revoke now _) }

def recordAttempt (store : OutcomeStore) (attempt : StudentAttempt) (teacherId : String) :
    Except OutcomeError OutcomeStore :=
  if (StudentAttemptRecord.mk attempt teacherId).fits then
    match store.attempts.insert ⟨attempt, teacherId⟩ with
    | none => .error .uniqueViolation
    | some attempts => .ok { store with attempts }
  else .error .dataError

/-! ## Consents -/

variable {store after : OutcomeStore} {scope other : StudentScope} {now : DateTime}

/-- Some active consent is stored. -/
def consented (store : OutcomeStore) (scope : StudentScope) : Bool :=
  store.consents.rows.any (GuardianConsent.isActive scope)

theorem scalarOneOrNone_filter {α : Type*} {rows : List α} {selected : α → Bool}
    (apart : rows.Pairwise fun first second => selected first = true → selected second = false) :
    scalarOneOrNone (rows.filter selected) = .ok (rows.find? selected) := by
  induction rows with
  | nil => rfl
  | cons row rest ih =>
    rcases pairwise_cons.mp apart with ⟨first, others⟩
    by_cases isSelected : selected row = true
    · have noOther : rest.filter selected = [] :=
        filter_eq_nil_iff.mpr fun other mem => by simp [first other mem isSelected]
      simp [isSelected, noOther, scalarOneOrNone]
    · simpa [isSelected] using ih others

theorem scalarOneOrNone_active (store : OutcomeStore) (scope : StudentScope) :
    scalarOneOrNone (store.consents.rows.filter (GuardianConsent.isActive scope)) =
      .ok (store.consents.rows.find? (GuardianConsent.isActive scope)) := by
  refine scalarOneOrNone_filter (store.consents.consistent.imp ?_)
  intro first second apart isFirst
  by_contra isSecond
  simp only [GuardianConsent.isActive, Bool.and_eq_true, decide_eq_true_eq,
    Bool.not_eq_false] at isFirst isSecond
  exact apart (.inr (isFirst.1.trans isSecond.1.symm))

/-- `has_consent` never raises. -/
theorem hasConsent_eq (store : OutcomeStore) (scope : StudentScope) :
    store.hasConsent scope = .ok (store.consented scope) := by
  rw [hasConsent, scalarOneOrNone_active, consented, ← isSome_find?]
  rfl

theorem grantConsent_eq_ok_iff (numbered : ∀ row ∈ store.consents.rows,
      row.consentId < store.nextConsentId) :
    (∃ after, store.grantConsent now scope = .ok after) ↔
      scope.fits = true ∧ ∀ row ∈ store.consents.rows, row.scope ≠ scope := by
  unfold grantConsent
  by_cases fits : scope.fits = true
  · rw [if_pos fits]
    cases inserted : store.consents.insert ⟨store.nextConsentId, scope, now, none⟩ with
    | none =>
      rcases Table.insert_eq_none_iff.mp inserted with ⟨row, mem, clash⟩
      rcases clash with sameId | sameScope
      · exact absurd sameId (Nat.ne_of_lt (numbered row mem))
      · constructor
        · rintro ⟨_, ⟨⟩⟩
        · exact fun free => absurd sameScope (free.2 row mem)
    | some grown =>
      simp only [Except.ok.injEq, exists_eq', true_iff]
      refine ⟨fits, fun row mem same => ?_⟩
      have clash : store.consents.insert ⟨store.nextConsentId, scope, now, none⟩ = none :=
        Table.insert_eq_none_iff.mpr ⟨row, mem, .inr same⟩
      rw [inserted] at clash
      cases clash
  · simp [fits]

theorem grantConsent_eq_ok (granted : store.grantConsent now scope = .ok after) :
    after.consents.rows = store.consents.rows ++ [⟨store.nextConsentId, scope, now, none⟩] ∧
      after.attempts = store.attempts ∧ after.nextConsentId = store.nextConsentId + 1 := by
  unfold grantConsent at granted
  split at granted
  · split at granted
    · cases granted
    · next inserted =>
      cases granted
      exact ⟨Table.rows_of_insert inserted, rfl, rfl⟩
  · cases granted

theorem consented_grantConsent (granted : store.grantConsent now scope = .ok after) :
    after.consented other = (store.consented other || decide (scope = other)) := by
  rw [consented, (grantConsent_eq_ok granted).1, consented]
  simp [GuardianConsent.isActive]

theorem consentId_eq_iff_isActive {row found : GuardianConsent}
    (isFound : store.consents.rows.find? (GuardianConsent.isActive scope) = some found)
    (mem : row ∈ store.consents.rows) :
    row.consentId = found.consentId ↔ row.isActive scope = true := by
  have foundMem := mem_of_find?_eq_some isFound
  have foundActive := List.find?_some isFound
  have symmetric : ∀ first second : GuardianConsent,
      first.Conflict second → second.Conflict first :=
    fun _ _ clash => clash.imp Eq.symm Eq.symm
  constructor
  · intro sameId
    rwa [store.consents.eq_of_conflict symmetric mem foundMem (.inl sameId)]
  · intro isActive
    simp only [GuardianConsent.isActive, Bool.and_eq_true, decide_eq_true_eq]
      at isActive foundActive
    rw [store.consents.eq_of_conflict symmetric mem foundMem
      (.inr (isActive.1.trans foundActive.1.symm))]

theorem revokeConsent_eq_ok (store : OutcomeStore) (now : DateTime) (scope : StudentScope) :
    ∃ after, store.revokeConsent now scope = .ok after ∧
      after.consents.rows = store.consents.rows.map
        (Table.changeSelected (GuardianConsent.isActive scope) (GuardianConsent.revoke now)) ∧
      after.attempts = store.attempts ∧ after.nextConsentId = store.nextConsentId := by
  unfold revokeConsent
  rw [scalarOneOrNone_active]
  cases found : store.consents.rows.find? (GuardianConsent.isActive scope) with
  | none =>
    refine ⟨store, rfl, ?_, rfl, rfl⟩
    have unchanged : ∀ row ∈ store.consents.rows,
        Table.changeSelected (GuardianConsent.isActive scope) (GuardianConsent.revoke now) row =
          row :=
      fun row mem => if_neg (List.find?_eq_none.mp found row mem)
    rw [map_congr_left unchanged, map_id']
  | some row =>
    refine ⟨_, rfl, map_congr_left fun other mem => ?_, rfl, rfl⟩
    unfold Table.changeSelected
    simp only [decide_eq_true_eq, consentId_eq_iff_isActive found mem]

theorem isActive_revoked (now : DateTime) (scope other : StudentScope) (row : GuardianConsent) :
    (Table.changeSelected (GuardianConsent.isActive scope) (GuardianConsent.revoke now)
      row).isActive other = (row.isActive other && !decide (scope = other)) := by
  unfold Table.changeSelected
  by_cases isActive : row.isActive scope = true
  · rw [if_pos isActive]
    simp only [GuardianConsent.isActive, Bool.and_eq_true, decide_eq_true_eq] at isActive
    by_cases same : scope = other
    · simp [GuardianConsent.isActive, GuardianConsent.revoke, same]
    · simp [GuardianConsent.isActive, GuardianConsent.revoke, isActive.1, same]
  · rw [if_neg isActive]
    by_cases same : scope = other
    · rw [← same]
      simpa using isActive
    · simp [same]

/-- After a revocation the student has no consent, and the others have what they had. -/
theorem consented_revoked (revoked : after.consents.rows = store.consents.rows.map
      (Table.changeSelected (GuardianConsent.isActive scope) (GuardianConsent.revoke now))) :
    after.consented other = (store.consented other && !decide (scope = other)) := by
  rw [consented, revoked, any_map, consented]
  simp only [Function.comp_def, isActive_revoked]
  by_cases same : scope = other
  · simp [same]
  · simp [same]

/-! ## Attempts -/

/-- The rows are new under their key, each after the ones before it. -/
def AttemptsFit (store : OutcomeStore) (teacherId : String) (attempts : List StudentAttempt) :
    Prop :=
  (∀ attempt ∈ attempts, (StudentAttemptRecord.mk attempt teacherId).fits = true) ∧
    (attempts.map StudentAttempt.attemptId).Nodup ∧
    ∀ attempt ∈ attempts, ∀ row ∈ store.attempts.rows, row.attempt.attemptId ≠ attempt.attemptId

instance (store : OutcomeStore) (teacherId : String) (attempts : List StudentAttempt) :
    Decidable (store.AttemptsFit teacherId attempts) :=
  inferInstanceAs (Decidable (_ ∧ _ ∧ _))

def recordAttempts (store : OutcomeStore) (teacherId : String) :
    List StudentAttempt → Except OutcomeError OutcomeStore
  | [] => .ok store
  | attempt :: rest => do
    let store ← store.recordAttempt attempt teacherId
    store.recordAttempts teacherId rest

theorem recordAttempts_append (store : OutcomeStore) (teacherId : String)
    (first second : List StudentAttempt) :
    store.recordAttempts teacherId (first ++ second) =
      store.recordAttempts teacherId first >>= fun store =>
        store.recordAttempts teacherId second := by
  induction first generalizing store with
  | nil => rfl
  | cons attempt rest ih =>
    simp only [cons_append, recordAttempts, bind_assoc]
    congr 1
    funext after
    exact ih after

variable {attempt : StudentAttempt} {attempts : List StudentAttempt} {teacherId : String}

theorem recordAttempt_eq_ok (recorded : store.recordAttempt attempt teacherId = .ok after) :
    (StudentAttemptRecord.mk attempt teacherId).fits = true ∧
      (∀ row ∈ store.attempts.rows, row.attempt.attemptId ≠ attempt.attemptId) ∧
      after.attempts.rows = store.attempts.rows ++ [⟨attempt, teacherId⟩] ∧
      after.consents = store.consents ∧ after.nextConsentId = store.nextConsentId := by
  unfold recordAttempt at recorded
  split at recorded
  · next fits =>
    split at recorded
    · cases recorded
    · next grown inserted =>
      cases recorded
      refine ⟨fits, fun row mem same => ?_, Table.rows_of_insert inserted, rfl, rfl⟩
      have clash : store.attempts.insert ⟨attempt, teacherId⟩ = none :=
        Table.insert_eq_none_iff.mpr ⟨row, mem, same⟩
      rw [inserted] at clash
      cases clash
  · cases recorded

theorem recordAttempt_of_fits (fits : (StudentAttemptRecord.mk attempt teacherId).fits = true)
    (free : ∀ row ∈ store.attempts.rows, row.attempt.attemptId ≠ attempt.attemptId) :
    ∃ after, store.recordAttempt attempt teacherId = .ok after := by
  unfold recordAttempt
  rw [if_pos fits]
  cases inserted : store.attempts.insert ⟨attempt, teacherId⟩ with
  | none =>
    rcases Table.insert_eq_none_iff.mp inserted with ⟨row, mem, same⟩
    exact absurd same (free row mem)
  | some attempts => exact ⟨_, rfl⟩

theorem recordAttempts_eq_ok (recorded : store.recordAttempts teacherId attempts = .ok after) :
    store.AttemptsFit teacherId attempts ∧
      after.attempts.rows =
        store.attempts.rows ++ attempts.map (fun attempt => ⟨attempt, teacherId⟩) ∧
      after.consents = store.consents ∧ after.nextConsentId = store.nextConsentId := by
  induction attempts generalizing store with
  | nil =>
    cases recorded
    exact ⟨⟨nofun, nodup_nil, nofun⟩, (append_nil _).symm, rfl, rfl⟩
  | cons attempt rest ih =>
    cases first : store.recordAttempt attempt teacherId with
    | error error =>
      rw [recordAttempts, first] at recorded
      cases recorded
    | ok middle =>
      rw [recordAttempts, first] at recorded
      rcases recordAttempt_eq_ok first with ⟨fits, free, rows, consents, next⟩
      rcases ih recorded with ⟨⟨restFits, nodup, restFree⟩, restRows, restConsents, restNext⟩
      simp only [rows, mem_append, mem_singleton] at restFree
      refine ⟨⟨forall_mem_cons.mpr ⟨fits, restFits⟩, ?_, ?_⟩, ?_, restConsents.trans consents,
        restNext.trans next⟩
      · refine nodup_cons.mpr ⟨fun again => ?_, nodup⟩
        rcases mem_map.mp again with ⟨other, mem, same⟩
        exact restFree other mem _ (.inr rfl) same.symm
      · exact forall_mem_cons.mpr
          ⟨free, fun other mem row stored => restFree other mem row (.inl stored)⟩
      · rw [restRows, rows]
        simp

theorem recordAttempts_of_fit (fit : store.AttemptsFit teacherId attempts) :
    ∃ after, store.recordAttempts teacherId attempts = .ok after := by
  induction attempts generalizing store with
  | nil => exact ⟨store, rfl⟩
  | cons attempt rest ih =>
    rcases fit with ⟨fits, nodup, free⟩
    rcases forall_mem_cons.mp fits with ⟨firstFits, restFits⟩
    rcases forall_mem_cons.mp free with ⟨firstFree, restFree⟩
    rcases nodup_cons.mp nodup with ⟨firstNew, restNodup⟩
    rcases recordAttempt_of_fits firstFits firstFree with ⟨middle, recorded⟩
    have rows := (recordAttempt_eq_ok recorded).2.2.1
    have stillFree : ∀ other ∈ rest, ∀ row ∈ middle.attempts.rows,
        row.attempt.attemptId ≠ other.attemptId := by
      intro other mem row stored
      rw [rows, mem_append, mem_singleton] at stored
      rcases stored with earlier | rfl
      · exact restFree other mem row earlier
      · exact fun same => firstNew (mem_map.mpr ⟨other, mem, same.symm⟩)
    rcases ih ⟨restFits, restNodup, stillFree⟩ with ⟨after, restRecorded⟩
    refine ⟨after, ?_⟩
    rw [recordAttempts, recorded]
    exact restRecorded

end OutcomeStore

end OhMyClass.Gateway.Outcomes
