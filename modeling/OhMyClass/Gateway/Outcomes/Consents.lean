import Mathlib.Algebra.Order.Ring.Unbundled.Rat
import OhMyClass.Gateway.Outcomes.Store
import OhMyClass.TeachingPack.ArtifactStatus
import OhMyClass.Transition.Machine

/-!
# Capturing forms responses

The answers of consented respondents to mapped items become attempts under ids
made of the form, the response and the item.  Recorded attempts do not change who
has consented, so a capture is the recording of one list of attempts.
-/

namespace OhMyClass.Gateway.Outcomes

open List Function
open OhMyClass.TeachingPack (strip)
open OutcomeStore

structure FormsQuestionMapping where
  questionId : String
  kcIds : List String

structure FormsAnswerGrade where
  score : Option Rat
  correct : Option Bool

structure FormsAnswer where
  questionId : String
  grade : Option FormsAnswerGrade
  text : Option String

structure FormsResponse where
  responseId : String
  respondent : String
  createTime : DateTime
  answers : List (String × FormsAnswer)

structure FormsCaptureRequest where
  teacherId : String
  classId : String
  deliveryId : String
  formId : String
  questionMap : List (String × FormsQuestionMapping)
  essayScores : List (String × Rat)

/-- The functions of the standard library under a pseudonym. -/
structure PseudonymLibrary where
  casefold : Char → List Char
  /-- The hexadecimal SHA-256 of the UTF-8 bytes of a text. -/
  sha256 : String → String

/-- A respondent of a teacher's class, by the normalised name. -/
structure Respondent where
  teacherId : String
  classId : String
  name : String
  deriving DecidableEq

/-- The text that is hashed. -/
def Respondent.text (respondent : Respondent) : String :=
  respondent.teacherId ++ ":" ++ respondent.classId ++ ":" ++ respondent.name

/-- What identifies a captured answer. -/
structure FormsKey where
  formId : String
  responseId : String
  itemId : String
  deriving DecidableEq

def FormsKey.attemptId (key : FormsKey) : String :=
  "forms:" ++ key.formId ++ ":" ++ key.responseId ++ ":" ++ key.itemId

def clampScore (value : Rat) : Rat :=
  min 1 (max 0 value)

/-- The double nearest to `0.6`. -/
def passingScore : Rat :=
  mkRat 5404319552844595 9007199254740992

def scoreForAnswer (request : FormsCaptureRequest) (responseId itemId : String)
    (answer : FormsAnswer) : Rat :=
  match answer.grade.bind FormsAnswerGrade.score with
  | some score => clampScore score
  | none => clampScore ((request.essayScores.lookup (responseId ++ ":" ++ itemId)).getD 0)

def attemptFromAnswer (request : FormsCaptureRequest) (response : FormsResponse) (itemId : String)
    (answer : FormsAnswer) (mapping : FormsQuestionMapping) (pseudonym : String) :
    StudentAttempt :=
  let score := scoreForAnswer request response.responseId itemId answer
  { attemptId := FormsKey.attemptId ⟨request.formId, response.responseId, itemId⟩
    studentPseudonym := pseudonym
    questionId := mapping.questionId
    kcIds := mapping.kcIds
    correct := (answer.grade.bind FormsAnswerGrade.correct).getD (decide (passingScore ≤ score))
    score := score
    timestamp := response.createTime
    deliveryId := request.deliveryId }

variable (library : PseudonymLibrary)

/-- `respondent.strip().casefold()`, with the teacher and the class. -/
def respondentOf (request : FormsCaptureRequest) (response : FormsResponse) : Respondent where
  teacherId := request.teacherId
  classId := request.classId
  name := String.ofList ((strip response.respondent.toList).flatMap library.casefold)

def pseudonymizeRespondent (respondent : Respondent) : String :=
  "sha256:" ++ sliceTo (library.sha256 respondent.text) 16

/-- Whose consent a capture asks for. -/
def scopeOf (request : FormsCaptureRequest) (response : FormsResponse) : StudentScope where
  teacherId := request.teacherId
  classId := request.classId
  studentPseudonym := pseudonymizeRespondent library (respondentOf library request response)

namespace OutcomeStore

def captureAnswers (request : FormsCaptureRequest) (response : FormsResponse) (pseudonym : String)
    (store : OutcomeStore) : List (String × FormsAnswer) →
    Except OutcomeError (OutcomeStore × List StudentAttempt)
  | [] => .ok (store, [])
  | (itemId, answer) :: rest =>
    match request.questionMap.lookup itemId with
    | none => store.captureAnswers request response pseudonym rest
    | some mapping => do
      let attempt := attemptFromAnswer request response itemId answer mapping pseudonym
      let store ← store.recordAttempt attempt request.teacherId
      let (store, attempts) ← store.captureAnswers request response pseudonym rest
      return (store, attempt :: attempts)

def captureFormsResponses (request : FormsCaptureRequest) (store : OutcomeStore) :
    List FormsResponse → Except OutcomeError (OutcomeStore × List StudentAttempt)
  | [] => .ok (store, [])
  | response :: rest => do
    let scope := scopeOf library request response
    if ← store.hasConsent scope then
      let (store, attempts) ←
        store.captureAnswers request response scope.studentPseudonym response.answers
      let (store, others) ← store.captureFormsResponses request rest
      return (store, attempts ++ others)
    else
      store.captureFormsResponses request rest

end OutcomeStore

/-! ## What is due -/

def mappedAnswers (request : FormsCaptureRequest) (response : FormsResponse) :
    List (String × FormsAnswer × FormsQuestionMapping) :=
  response.answers.filterMap fun item =>
    (request.questionMap.lookup item.1).map fun mapping => (item.1, item.2, mapping)

/-- The answers of the responses to mapped items, as far as the respondents have
consented, in order. -/
def dueAnswers (consented : StudentScope → Bool) (request : FormsCaptureRequest)
    (responses : List FormsResponse) :
    List (FormsResponse × String × FormsAnswer × FormsQuestionMapping) :=
  (responses.filter fun response => consented (scopeOf library request response)).flatMap
    fun response => (mappedAnswers request response).map fun answer => (response, answer)

def dueKeys (consented : StudentScope → Bool) (request : FormsCaptureRequest)
    (responses : List FormsResponse) : List FormsKey :=
  (dueAnswers library consented request responses).map fun due =>
    ⟨request.formId, due.1.responseId, due.2.1⟩

/-- The attempts a capture has to record. -/
def dueAttempts (consented : StudentScope → Bool) (request : FormsCaptureRequest)
    (responses : List FormsResponse) : List StudentAttempt :=
  (dueAnswers library consented request responses).map fun due =>
    attemptFromAnswer request due.1 due.2.1 due.2.2.1 due.2.2.2
      (scopeOf library request due.1).studentPseudonym

theorem attemptIds_dueAttempts (consented : StudentScope → Bool) (request : FormsCaptureRequest)
    (responses : List FormsResponse) :
    (dueAttempts library consented request responses).map StudentAttempt.attemptId =
      (dueKeys library consented request responses).map FormsKey.attemptId := by
  rw [dueAttempts, dueKeys, map_map, map_map]
  rfl

theorem consented_of_mem_dueAttempts {consented : StudentScope → Bool}
    {request : FormsCaptureRequest} {responses : List FormsResponse} {attempt : StudentAttempt}
    (mem : attempt ∈ dueAttempts library consented request responses) :
    consented ⟨request.teacherId, request.classId, attempt.studentPseudonym⟩ = true := by
  rcases mem_map.mp mem with ⟨due, dueMem, rfl⟩
  rcases mem_flatMap.mp dueMem with ⟨response, responseMem, answerMem⟩
  rcases mem_map.mp answerMem with ⟨answer, -, rfl⟩
  exact (mem_filter.mp responseMem).2

theorem dueAttempts_cons (consented : StudentScope → Bool) (request : FormsCaptureRequest)
    (response : FormsResponse) (rest : List FormsResponse) :
    dueAttempts library consented request (response :: rest) =
      (if consented (scopeOf library request response) then
        (mappedAnswers request response).map fun answer =>
          attemptFromAnswer request response answer.1 answer.2.1 answer.2.2
            (scopeOf library request response).studentPseudonym
      else []) ++ dueAttempts library consented request rest := by
  by_cases hasConsent : consented (scopeOf library request response) = true
  · simp [dueAttempts, dueAnswers, hasConsent]
  · simp [dueAttempts, dueAnswers, hasConsent]

namespace OutcomeStore

theorem consented_recordAttempts {store after : OutcomeStore} {teacherId : String}
    {attempts : List StudentAttempt}
    (recorded : store.recordAttempts teacherId attempts = .ok after) :
    after.consented = store.consented := by
  funext scope
  rw [consented, (recordAttempts_eq_ok recorded).2.2.1]
  rfl

theorem captureAnswers_eq (request : FormsCaptureRequest) (response : FormsResponse)
    (pseudonym : String) (store : OutcomeStore) (answers : List (String × FormsAnswer)) :
    store.captureAnswers request response pseudonym answers =
      let attempts := (mappedAnswers request { response with answers }).map fun answer =>
        attemptFromAnswer request response answer.1 answer.2.1 answer.2.2 pseudonym
      (store.recordAttempts request.teacherId attempts).map fun after => (after, attempts) := by
  induction answers generalizing store with
  | nil => rfl
  | cons item rest ih =>
    rcases item with ⟨itemId, answer⟩
    rw [captureAnswers]
    cases isMapped : request.questionMap.lookup itemId with
    | none =>
      rw [ih]
      simp [mappedAnswers, isMapped]
    | some mapping =>
      simp only [ih, mappedAnswers, isMapped, filterMap_cons, Option.map_some, map_cons,
        recordAttempts]
      cases store.recordAttempt (attemptFromAnswer request response itemId answer mapping pseudonym)
        request.teacherId with
      | error error => rfl
      | ok middle =>
        simp only [bind, Except.bind]
        generalize middle.recordAttempts request.teacherId _ = recorded
        cases recorded <;> rfl

theorem captureFormsResponses_eq (request : FormsCaptureRequest) (store : OutcomeStore)
    (responses : List FormsResponse) :
    store.captureFormsResponses library request responses =
      let attempts := dueAttempts library store.consented request responses
      (store.recordAttempts request.teacherId attempts).map fun after => (after, attempts) := by
  induction responses generalizing store with
  | nil => rfl
  | cons response rest ih =>
    rw [captureFormsResponses, hasConsent_eq, dueAttempts_cons]
    by_cases hasConsent : store.consented (scopeOf library request response) = true
    · simp only [hasConsent, if_pos, captureAnswers_eq, recordAttempts_append]
      cases first : store.recordAttempts request.teacherId
        ((mappedAnswers request response).map fun answer =>
          attemptFromAnswer request response answer.1 answer.2.1 answer.2.2
            (scopeOf library request response).studentPseudonym) with
      | error error => rfl
      | ok middle =>
        simp only [bind, Except.bind, Except.map, ih, consented_recordAttempts first]
        generalize middle.recordAttempts request.teacherId _ = recorded
        cases recorded <;> rfl
    · simp only [hasConsent, Bool.false_eq_true, if_false, nil_append]
      exact ih store

end OutcomeStore

/-! ## Consents and captures over a history -/

open OhMyClass.Transition

structure Ledger where
  granted : StudentScope → Bool
  captured : List FormsKey
  met : List Respondent

inductive ConsentOp where
  | grant (now : DateTime) (scope : StudentScope)
  | revoke (now : DateTime) (scope : StudentScope)
  | capture (request : FormsCaptureRequest) (responses : List FormsResponse)

/-- The keys after those known, each once. -/
def addNew (known : List FormsKey) (keys : List FormsKey) : List FormsKey :=
  keys.foldl (fun known key => if key ∈ known then known else known ++ [key]) known

variable (library : PseudonymLibrary)

/-- What an operation means. -/
def Ledger.step (ledger : Ledger) : ConsentOp → Ledger
  | .grant _ scope => { ledger with granted := Function.update ledger.granted scope true }
  | .revoke _ scope => { ledger with granted := Function.update ledger.granted scope false }
  | .capture request responses =>
    { ledger with
      captured := addNew ledger.captured (dueKeys library ledger.granted request responses)
      met := ledger.met ++ responses.map (respondentOf library request) }

theorem addNew_of_disjoint {known keys : List FormsKey} (nodup : keys.Nodup)
    (isNew : ∀ key ∈ keys, key ∉ known) : addNew known keys = known ++ keys := by
  induction keys generalizing known with
  | nil => exact (append_nil known).symm
  | cons key rest ih =>
    rcases nodup_cons.mp nodup with ⟨firstNew, restNodup⟩
    rcases forall_mem_cons.mp isNew with ⟨keyNew, restNew⟩
    have stillNew : ∀ other ∈ rest, other ∉ known ++ [key] := by
      intro other mem isKnown
      rcases mem_append.mp isKnown with earlier | isKey
      · exact restNew other mem earlier
      · rw [mem_singleton.mp isKey] at mem
        exact firstNew mem
    change addNew (if key ∈ known then known else known ++ [key]) rest = _
    rw [if_neg keyNew, ih restNodup stillNew]
    simp

structure ConsentSystem where
  store : OutcomeStore
  ledger : Ledger

def ConsentSystem.start : ConsentSystem where
  store := { consents := .empty, attempts := .empty, nextConsentId := 0 }
  ledger := { granted := fun _ => false, captured := [], met := [] }

/-- An operation in a transaction of its own; a capture returns its attempts. -/
def OutcomeStore.perform (store : OutcomeStore) :
    ConsentOp → Except OutcomeError (OutcomeStore × List StudentAttempt)
  | .grant now scope => (store.grantConsent now scope).map fun store => (store, [])
  | .revoke now scope => (store.revokeConsent now scope).map fun store => (store, [])
  | .capture request responses => store.captureFormsResponses library request responses

/-- An operation that raises is rolled back. -/
def consenting : Machine ConsentSystem ConsentOp (Except OutcomeError (List StudentAttempt)) where
  initial system := system = .start
  step system op :=
    match system.store.perform library op with
    | .error error => ({ system with ledger := system.ledger.step library op }, .error error)
    | .ok (store, attempts) => (⟨store, system.ledger.step library op⟩, .ok attempts)

/-- The store shows the last decisions, holds one attempt for each captured answer
and no others, and the respondents met have pseudonyms of their own. -/
structure ConsentSystem.Follows (system : ConsentSystem) : Prop where
  consents : ∀ scope, system.store.hasConsent scope = .ok (system.ledger.granted scope)
  attempts : system.store.attempts.rows.map (fun row => row.attempt.attemptId) =
    system.ledger.captured.map FormsKey.attemptId
  pseudonyms : ∀ first ∈ system.ledger.met, ∀ second ∈ system.ledger.met,
    pseudonymizeRespondent library first = pseudonymizeRespondent library second → first = second

/-- An attempt is recorded with the consent of its respondent. -/
def OnlyConsented (ledger : Ledger) (attempts : List StudentAttempt) : ConsentOp → Prop
  | .capture request _ => ∀ attempt ∈ attempts,
      ledger.granted ⟨request.teacherId, request.classId, attempt.studentPseudonym⟩ = true
  | _ => attempts = []

/-- The operation succeeds, records attempts of consented respondents only, and the
store follows the ledger afterwards. -/
def Lawful (system : ConsentSystem) (op : ConsentOp) : Prop :=
  let after := (consenting library).step system op
  (∃ attempts, after.2 = .ok attempts ∧
    after.1.store.attempts.rows.map StudentAttemptRecord.attempt =
      system.store.attempts.rows.map StudentAttemptRecord.attempt ++ attempts ∧
    OnlyConsented system.ledger attempts op) ∧
  after.1.Follows library

/-- A student is granted consent once ever, what a capture has to record is new,
everything fits its columns, and no two respondents are joined to one text. -/
def Allowed (system : ConsentSystem) : ConsentOp → Prop
  | .grant _ scope =>
    scope.fits = true ∧ ∀ row ∈ system.store.consents.rows, row.scope ≠ scope
  | .revoke _ _ => True
  | .capture request responses =>
    system.store.AttemptsFit request.teacherId
      (dueAttempts library system.store.consented request responses) ∧
    ∀ first ∈ system.ledger.met ++ responses.map (respondentOf library request),
      ∀ second ∈ system.ledger.met ++ responses.map (respondentOf library request),
        first.text = second.text → first = second

def ConsentOp.texts : ConsentOp → List String
  | .capture request responses =>
    responses.map fun response => (respondentOf library request response).text
  | _ => []

/-! ## One step -/

variable {library} {system : ConsentSystem} {texts : Set String}

/-- What lawful steps keep. -/
structure Sound (library : PseudonymLibrary) (texts : Set String) (system : ConsentSystem) :
    Prop where
  follows : system.Follows library
  numbered : ∀ row ∈ system.store.consents.rows, row.consentId < system.store.nextConsentId
  within : ∀ respondent ∈ system.ledger.met, respondent.text ∈ texts

theorem ConsentSystem.Follows.granted (follows : system.Follows library) :
    system.ledger.granted = system.store.consented := by
  funext scope
  have same := follows.consents scope
  rw [hasConsent_eq] at same
  exact (Except.ok.inj same).symm

theorem pseudonymizeRespondent_eq_iff
    (collisionFree : Set.InjOn (fun text => sliceTo (library.sha256 text) 16) texts)
    {first second : Respondent} (firstIn : first.text ∈ texts) (secondIn : second.text ∈ texts) :
    pseudonymizeRespondent library first = pseudonymizeRespondent library second ↔
      first.text = second.text := by
  constructor
  · intro same
    exact collisionFree firstIn secondIn (String.append_right_inj _ |>.mp same)
  · intro same
    rw [pseudonymizeRespondent, same, pseudonymizeRespondent]

theorem exists_of_map_eq_ok {α β ε : Type*} {result : Except ε α} {f : α → β} {value : β}
    (mapped : result.map f = .ok value) : ∃ inner, result = .ok inner ∧ f inner = value := by
  cases result with
  | error error => cases mapped
  | ok inner => exact ⟨inner, rfl, Except.ok.inj mapped⟩

variable {op : ConsentOp} {store : OutcomeStore} {attempts : List StudentAttempt}

theorem step_of_ok (performed : system.store.perform library op = .ok (store, attempts)) :
    (consenting library).step system op =
      (⟨store, system.ledger.step library op⟩, .ok attempts) := by
  simp [consenting, performed]

theorem Lawful.performed (lawful : Lawful library system op) :
    ∃ store attempts, system.store.perform library op = .ok (store, attempts) := by
  rcases lawful with ⟨⟨attempts, isOk, -⟩, -⟩
  cases performed : system.store.perform library op with
  | error error => simp [consenting, performed] at isOk
  | ok result => exact ⟨result.1, result.2, rfl⟩

section

variable (sound : Sound library texts system)

include sound

theorem Sound.lawful_grant_iff (now : DateTime) (scope : StudentScope) :
    Lawful library system (.grant now scope) ↔ Allowed library system (.grant now scope) := by
  have succeeds : (∃ after, system.store.grantConsent now scope = .ok after) ↔
      scope.fits = true ∧ ∀ row ∈ system.store.consents.rows, row.scope ≠ scope :=
    grantConsent_eq_ok_iff sound.numbered
  constructor
  · intro lawful
    rcases lawful.performed with ⟨store, attempts, performed⟩
    rcases exists_of_map_eq_ok performed with ⟨after, granted, -⟩
    exact succeeds.mp ⟨after, granted⟩
  · intro allowed
    rcases succeeds.mpr allowed with ⟨after, granted⟩
    have performed : system.store.perform library (.grant now scope) = .ok (after, []) := by
      rw [OutcomeStore.perform, granted]
      rfl
    have spec := grantConsent_eq_ok granted
    rw [Lawful, step_of_ok performed]
    refine ⟨⟨[], rfl, ?_, rfl⟩, ?_, ?_, ?_⟩
    · rw [append_nil, spec.2.1]
    · intro other
      rw [hasConsent_eq, consented_grantConsent granted,
        ← sound.follows.granted]
      by_cases same : scope = other
      · simp [Ledger.step, same]
      · simp [Ledger.step, same, update_of_ne (Ne.symm same)]
    · rw [spec.2.1]
      exact sound.follows.attempts
    · exact sound.follows.pseudonyms

theorem Sound.lawful_revoke (now : DateTime) (scope : StudentScope) :
    Lawful library system (.revoke now scope) := by
  rcases system.store.revokeConsent_eq_ok now scope with ⟨after, succeeded, revoked, sameRows, -⟩
  have performed : system.store.perform library (.revoke now scope) = .ok (after, []) := by
    rw [OutcomeStore.perform, succeeded]
    rfl
  rw [Lawful, step_of_ok performed]
  refine ⟨⟨[], rfl, ?_, rfl⟩, ?_, ?_, ?_⟩
  · rw [append_nil, sameRows]
  · intro other
    rw [hasConsent_eq, consented_revoked revoked, ← sound.follows.granted]
    by_cases same : scope = other
    · simp [Ledger.step, same]
    · simp [Ledger.step, same, update_of_ne (Ne.symm same)]
  · rw [sameRows]
    exact sound.follows.attempts
  · exact sound.follows.pseudonyms

theorem Sound.captured_of_fit {request : FormsCaptureRequest} {responses : List FormsResponse}
    (fit : system.store.AttemptsFit request.teacherId
      (dueAttempts library system.store.consented request responses)) :
    addNew system.ledger.captured (dueKeys library system.ledger.granted request responses) =
      system.ledger.captured ++ dueKeys library system.ledger.granted request responses := by
  rw [sound.follows.granted]
  rcases fit with ⟨-, nodup, free⟩
  rw [attemptIds_dueAttempts] at nodup
  refine addNew_of_disjoint nodup.of_map fun key isDue isCaptured => ?_
  have storedId : key.attemptId ∈
      system.store.attempts.rows.map (fun row => row.attempt.attemptId) := by
    rw [sound.follows.attempts]
    exact mem_map_of_mem isCaptured
  have dueId : key.attemptId ∈ (dueAttempts library system.store.consented request responses).map
      StudentAttempt.attemptId := by
    rw [attemptIds_dueAttempts]
    exact mem_map_of_mem isDue
  rcases mem_map.mp storedId with ⟨row, rowMem, rowId⟩
  rcases mem_map.mp dueId with ⟨attempt, attemptMem, sameId⟩
  exact free attempt attemptMem row rowMem (rowId.trans sameId.symm)

theorem Sound.lawful_capture_iff
    (collisionFree : Set.InjOn (fun text => sliceTo (library.sha256 text) 16) texts)
    (request : FormsCaptureRequest) (responses : List FormsResponse)
    (within : ∀ text ∈ (ConsentOp.capture request responses).texts library, text ∈ texts) :
    Lawful library system (.capture request responses) ↔
      Allowed library system (.capture request responses) := by
  have performed : system.store.perform library (.capture request responses) =
      (system.store.recordAttempts request.teacherId
        (dueAttempts library system.store.consented request responses)).map fun after =>
          (after, dueAttempts library system.store.consented request responses) :=
    captureFormsResponses_eq library request system.store responses
  have metWithin : ∀ respondent ∈
      system.ledger.met ++ responses.map (respondentOf library request),
      respondent.text ∈ texts := by
    intro respondent mem
    rcases mem_append.mp mem with earlier | later
    · exact sound.within respondent earlier
    · rcases mem_map.mp later with ⟨response, responseMem, rfl⟩
      exact within _ (mem_map.mpr ⟨response, responseMem, rfl⟩)
  constructor
  · intro lawful
    rcases lawful.performed with ⟨store, attempts, isOk⟩
    rcases exists_of_map_eq_ok (performed ▸ isOk) with ⟨after, recorded, -⟩
    refine ⟨(recordAttempts_eq_ok recorded).1, ?_⟩
    intro first firstMem second secondMem same
    have follows := lawful.2
    rw [step_of_ok isOk] at follows
    exact follows.pseudonyms first firstMem second secondMem
      ((pseudonymizeRespondent_eq_iff collisionFree (metWithin first firstMem)
        (metWithin second secondMem)).mpr same)
  · rintro ⟨fit, apart⟩
    rcases recordAttempts_of_fit fit with ⟨after, recorded⟩
    rw [recorded] at performed
    have spec := recordAttempts_eq_ok recorded
    rw [Lawful, step_of_ok performed]
    refine ⟨⟨_, rfl, ?_, ?_⟩, ?_, ?_, ?_⟩
    · simp [spec.2.1, Function.comp_def]
    · intro attempt mem
      rw [sound.follows.granted]
      exact consented_of_mem_dueAttempts library mem
    · intro scope
      rw [hasConsent_eq, consented_recordAttempts recorded,
        ← sound.follows.granted]
      rfl
    · change _ = (addNew system.ledger.captured _).map FormsKey.attemptId
      rw [sound.captured_of_fit fit, map_append, ← sound.follows.attempts, spec.2.1,
        map_append, sound.follows.granted, ← attemptIds_dueAttempts, map_map]
      rfl
    · intro first firstMem second secondMem same
      exact apart first firstMem second secondMem
        ((pseudonymizeRespondent_eq_iff collisionFree (metWithin first firstMem)
          (metWithin second secondMem)).mp same)

theorem Sound.lawful_iff
    (collisionFree : Set.InjOn (fun text => sliceTo (library.sha256 text) 16) texts)
    (op : ConsentOp) (within : ∀ text ∈ op.texts library, text ∈ texts) :
    Lawful library system op ↔ Allowed library system op := by
  cases op with
  | grant now scope => exact sound.lawful_grant_iff now scope
  | revoke now scope => exact iff_of_true (sound.lawful_revoke now scope) trivial
  | capture request responses =>
    exact sound.lawful_capture_iff collisionFree request responses within

theorem Sound.numbered_step (performed : system.store.perform library op = .ok (store, attempts)) :
    ∀ row ∈ store.consents.rows, row.consentId < store.nextConsentId := by
  cases op with
  | grant now scope =>
    rcases exists_of_map_eq_ok performed with ⟨after, granted, ⟨⟩⟩
    rcases grantConsent_eq_ok granted with ⟨rows, -, next⟩
    intro row mem
    rw [rows, mem_append, mem_singleton] at mem
    rw [next]
    rcases mem with earlier | rfl
    · exact Nat.lt_succ_of_lt (sound.numbered row earlier)
    · exact Nat.lt_succ_self _
  | revoke now scope =>
    rcases system.store.revokeConsent_eq_ok now scope with ⟨after, succeeded, revoked, -, next⟩
    rw [OutcomeStore.perform, succeeded] at performed
    cases performed
    intro row mem
    rw [revoked] at mem
    rcases mem_map.mp mem with ⟨stored, storedMem, rfl⟩
    rw [next, Table.changeSelected_frame GuardianConsent.consentId rfl]
    exact sound.numbered stored storedMem
  | capture request responses =>
    rw [OutcomeStore.perform, captureFormsResponses_eq] at performed
    rcases exists_of_map_eq_ok performed with ⟨after, recorded, ⟨⟩⟩
    rcases recordAttempts_eq_ok recorded with ⟨-, -, consents, next⟩
    rw [consents, next]
    exact sound.numbered

theorem Sound.step (lawful : Lawful library system op)
    (within : ∀ text ∈ op.texts library, text ∈ texts) :
    Sound library texts ((consenting library).step system op).1 := by
  rcases lawful.performed with ⟨store, attempts, performed⟩
  have follows := lawful.2
  rw [step_of_ok performed] at follows ⊢
  refine ⟨follows, sound.numbered_step performed, ?_⟩
  cases op with
  | grant now scope => exact sound.within
  | revoke now scope => exact sound.within
  | capture request responses =>
    intro respondent mem
    rcases mem_append.mp mem with earlier | later
    · exact sound.within respondent earlier
    · rcases mem_map.mp later with ⟨response, responseMem, rfl⟩
      exact within _ (mem_map.mpr ⟨response, responseMem, rfl⟩)

end

theorem sound_start (library : PseudonymLibrary) (texts : Set String) :
    Sound library texts .start where
  follows := ⟨fun _ => rfl, rfl, nofun⟩
  numbered := nofun
  within := nofun

def hashedTexts (library : PseudonymLibrary) (ops : List ConsentOp) : Set String :=
  {text | text ∈ ops.flatMap (ConsentOp.texts library)}

/-- Where digests do not collide, consents follow the last decisions and captures
record each answer once exactly in the histories all of whose operations are
allowed. -/
theorem consents_follow_iff (library : PseudonymLibrary) (ops : List ConsentOp)
    (collisionFree : Set.InjOn (fun text => sliceTo (library.sha256 text) 16)
      (hashedTexts library ops)) :
    (∀ visit ∈ (consenting library).visits .start ops, Lawful library visit.1 visit.2) ↔
      ∀ visit ∈ (consenting library).visits .start ops, Allowed library visit.1 visit.2 := by
  refine Machine.forall_visits_congr_of_inputs (Sound library (hashedTexts library ops))
    (fun op => ∀ text ∈ op.texts library, text ∈ hashedTexts library ops) ?_ ?_
    (sound_start library _) ?_
  · intro system op sound within lawful
    exact sound.step lawful within
  · intro system op sound within
    exact sound.lawful_iff collisionFree op within
  · intro op mem text isText
    exact mem_flatMap.mpr ⟨op, mem, isText⟩

instance (system : ConsentSystem) : (op : ConsentOp) → Decidable (Allowed library system op)
  | .grant _ _ => inferInstanceAs (Decidable (_ ∧ _))
  | .revoke _ _ => .isTrue trivial
  | .capture _ _ => inferInstanceAs (Decidable (_ ∧ _))

/-! ## Two histories -/

def minh : StudentScope where
  teacherId := "teacher-1"
  classId := "class-1"
  studentPseudonym := "sha256:6683257dd791ccfe"

def formsLibrary : PseudonymLibrary where
  casefold c := [c.toLower]
  sha256 text :=
    if text = "teacher-1:class-1:student@example.com" then
      "6683257dd791ccfef83e5d9d9dcbd89b47b541f71b6ef01ff795262e3ca83771"
    else
      "5ee23cf627024610b42335a8512f3ba52fa768f3e2771ef5cd23f4dc560c16e2"

def formsRequest : FormsCaptureRequest where
  teacherId := "teacher-1"
  classId := "class-1"
  deliveryId := "delivery-1"
  formId := "form-1"
  questionMap := [("item_1", ⟨"q-1", ["KC-fractions"]⟩)]
  essayScores := []

def formsResponse (responseId respondent : String) : FormsResponse where
  responseId := responseId
  respondent := respondent
  createTime := 0
  answers := [("item_1", ⟨"item_1", some ⟨some 1, some true⟩, none⟩)]

/-- One of two respondents has consented, and revokes later. -/
def consentedOnce : List ConsentOp :=
  [.grant 0 minh,
    .capture formsRequest
      [formsResponse "response-1" "Student@example.com ",
        formsResponse "response-2" "other@example.com"],
    .revoke 1 minh,
    .capture formsRequest [formsResponse "response-3" "student@example.com"]]

theorem digests_apart : ∀ first ∈ consentedOnce.flatMap (ConsentOp.texts formsLibrary),
    ∀ second ∈ consentedOnce.flatMap (ConsentOp.texts formsLibrary),
      sliceTo (formsLibrary.sha256 first) 16 = sliceTo (formsLibrary.sha256 second) 16 →
        first = second := by
  decide +kernel

theorem consents_follow_iff_consentedOnce :
    ((consenting formsLibrary).drive (.start, []) consentedOnce).1.ledger.captured =
      [⟨"form-1", "response-1", "item_1"⟩] ∧
    ∀ visit ∈ (consenting formsLibrary).visits .start consentedOnce,
      Lawful formsLibrary visit.1 visit.2 :=
  ⟨by decide +kernel, (consents_follow_iff formsLibrary consentedOnce
    fun first isFirst second isSecond => digests_apart first isFirst second isSecond).mpr
      (by decide +kernel)⟩

/-- A consent that was revoked cannot be granted again. -/
theorem consents_refused :
    ¬ ∀ (library : PseudonymLibrary) (ops : List ConsentOp),
      Set.InjOn (fun text => sliceTo (library.sha256 text) 16) (hashedTexts library ops) →
      ∀ visit ∈ (consenting library).visits .start ops, Lawful library visit.1 visit.2 := by
  intro lawful
  have hashesNothing : Set.InjOn (fun text => sliceTo (formsLibrary.sha256 text) 16)
      (hashedTexts formsLibrary [.grant 0 minh, .revoke 1 minh, .grant 2 minh]) := by
    intro text isText
    cases isText
  have again := lawful formsLibrary _ hashesNothing _ (mem_of_getElem? (i := 2) rfl)
  rcases again.performed with ⟨store, attempts, performed⟩
  cases performed

end OhMyClass.Gateway.Outcomes
