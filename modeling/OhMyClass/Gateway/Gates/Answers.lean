import OhMyClass.Gateway.Gates.Store
import OhMyClass.Transition.Machine

/-!
# Active gates take an answer

A response needs a gate that has none yet.  Every step keeps the active gates
without a response except one: reopening a gate that was answered makes it
active and leaves its response stored.
-/

namespace OhMyClass.Gateway

open List OhMyClass.Transition TeachingPackControlStore Table Session

inductive GateOp where
  | tick (elapsed : Nat)
  | openGate (payload : TeachingPackGateCreate)
  | respondToGate (payload : GateResponseCreate)
  | cancelActiveGates (runId : RunId)
  | sweepEscalatedGates (timeoutHours : Int)
  | markEscalated (runId : RunId) (reason adminId : String)
  | reopenGate (runId : RunId) (reason adminId : String)

namespace GateOp

/-- The request the administrator sends; it touches no notification. -/
def recover (runId : RunId) (action : SafeRecoveryAction) (reason adminId : String) :
    GateSession AdminRecoveryResult :=
  onGateway (executeRecovery ⟨runId, action, reason, adminId⟩ ⟨false, "", action⟩)

/-- Each operation is a transaction. -/
def commit {α : Type} (body : GateSession α) (state : GateDb) : GateDb × Except GateError Unit :=
  ((Session.atomically body state).2, (Session.atomically body state).1.map fun _ => ⟨⟩)

def step (state : GateDb) : GateOp → GateDb × Except GateError Unit
  | tick elapsed => ({ state with db := { state.db with now := state.db.now + elapsed } }, .ok ⟨⟩)
  | openGate payload => commit (TeachingPackControlStore.openGate payload) state
  | respondToGate payload => commit (TeachingPackControlStore.respondToGate payload) state
  | cancelActiveGates runId =>
    commit (onGateway (TeachingPackControlStore.cancelActiveGates runId)) state
  | sweepEscalatedGates timeoutHours =>
    commit (onGateway (Gateway.sweepEscalatedGates timeoutHours)) state
  | markEscalated runId reason adminId =>
    commit (recover runId .markEscalated reason adminId) state
  | reopenGate runId reason adminId => commit (recover runId .reopenGate reason adminId) state

end GateOp

/-- A database before its first gate. -/
def gateMachine : Machine GateDb GateOp (Except GateError Unit) where
  initial state := state.db.gates.rows = [] ∧ state.responses.rows = []
  step := GateOp.step

/-- The run of the gate can answer it under every new response id: the response
is stored and the gate is responded. -/
def Answerable (state : GateDb) (gate : GateInterrupt) : Prop :=
  ∀ payload : GateResponseCreate, payload.gateId = gate.gateId → payload.runId = gate.runId →
    (∀ stored ∈ state.responses.rows, stored.responseId ≠ payload.responseId) →
    ∃ after, TeachingPackControlStore.respondToGate payload state = (.ok ⟨⟩, after) ∧
      payload.row state.db.now ∈ after.responses.rows ∧
      { gate with status := .responded } ∈ after.db.gates.rows

def OneActiveGate (state : GateDb) : Prop :=
  ∀ first ∈ state.db.gates.rows, ∀ second ∈ state.db.gates.rows,
    first.status = .active → second.status = .active → first.runId = second.runId →
    first.gateName = second.gateName → first = second

/-- No response to the gate is stored. -/
def NoResponse (state : GateDb) (gateId : String) : Prop :=
  ∀ response ∈ state.responses.rows, response.gateId ≠ gateId

/-- The gate `REOPEN_GATE` picks. -/
def newestClosedGate (runId : RunId) (db : Db) : Option GateInterrupt :=
  (db.gates.rows.filter fun gate =>
    gate.runId == runId && (gate.status == .responded || gate.status == .expired)).argmax
      GateInterrupt.createdAt

/-- A gate is reopened only while it has no response. -/
def ReopensUnanswered (state : GateDb) : GateOp → Prop
  | .reopenGate runId _ _ =>
    ∀ gate ∈ newestClosedGate runId state.db, NoResponse state gate.gateId
  | _ => True

def ReopenGuard : Guard GateDb GateOp (Except GateError Unit) := fun state _ op =>
  ReopensUnanswered state op

/-! ## The invariant -/

/-- Gates belong to stored runs, responses to stored gates, and no active gate
has a response. -/
structure Unanswered (state : GateDb) : Prop where
  runs : ∀ gate ∈ state.db.gates.rows, state.db.HasRun gate.runId
  gates : ∀ response ∈ state.responses.rows,
    ∃ gate ∈ state.db.gates.rows, gate.gateId = response.gateId
  active : ∀ gate ∈ state.db.gates.rows, gate.status = .active → NoResponse state gate.gateId

variable {first second : GateInterrupt}

theorem GateInterrupt.Conflict.symm (clash : GateInterrupt.Conflict first second) :
    GateInterrupt.Conflict second first := by
  rcases clash with sameId | ⟨firstActive, secondActive, sameRun, sameName⟩
  · exact .inl sameId.symm
  · exact .inr ⟨secondActive, firstActive, sameRun.symm, sameName.symm⟩

theorem oneActiveGate (state : GateDb) : OneActiveGate state := by
  intro first firstMem second secondMem firstActive secondActive sameRun sameName
  exact state.db.gates.eq_of_conflict (fun _ _ => GateInterrupt.Conflict.symm) firstMem secondMem
    (.inr ⟨firstActive, secondActive, sameRun, sameName⟩)

theorem eq_of_gateId {gates : GateInterrupts} (firstMem : first ∈ gates.rows)
    (secondMem : second ∈ gates.rows) (sameId : first.gateId = second.gateId) : first = second :=
  gates.eq_of_conflict (fun _ _ => GateInterrupt.Conflict.symm) firstMem secondMem (.inl sameId)

variable {db : Db} {gate : GateInterrupt}

theorem of_findGate {gateId : String} {runId : RunId}
    (found : findGate gateId runId db = some gate) :
    gate ∈ db.gates.rows ∧ gate.gateId = gateId ∧ gate.runId = runId := by
  have matched := List.find?_some found
  rw [Bool.and_eq_true, beq_iff_eq, beq_iff_eq] at matched
  exact ⟨mem_of_find?_eq_some found, matched⟩

theorem findGate_of_mem (stored : gate ∈ db.gates.rows) :
    findGate gate.gateId gate.runId db = some gate := by
  cases found : findGate gate.gateId gate.runId db with
  | none =>
    have noMatch := List.find?_eq_none.mp found gate stored
    simp only [beq_self_eq_true, Bool.and_self, not_true_eq_false] at noMatch
  | some other =>
    rcases of_findGate found with ⟨otherMem, sameId, _⟩
    rw [eq_of_gateId otherMem stored sameId]

namespace Unanswered

variable {state : GateDb} {status : GateInterruptStatus}

/-- Rewriting the status of gates keeps the invariant if no gate with a response
becomes active. -/
theorem rewrite (unanswered : Unanswered state) {selected : GateInterrupt → Bool} (db : Db)
    (sameRuns : ∀ runId, state.db.HasRun runId → db.HasRun runId)
    (rows : db.gates.rows = state.db.gates.rows.map
      (changeSelected selected fun gate => { gate with status := status }))
    (reopened : status = .active → ∀ gate ∈ state.db.gates.rows, selected gate = true →
      NoResponse state gate.gateId) :
    Unanswered { state with db := db } := by
  have idsEq (gate : GateInterrupt) :
      (changeSelected selected (fun gate => { gate with status := status }) gate).gateId =
        gate.gateId ∧
      (changeSelected selected (fun gate => { gate with status := status }) gate).runId =
        gate.runId :=
    ⟨changeSelected_frame GateInterrupt.gateId rfl,
      changeSelected_frame GateInterrupt.runId rfl⟩
  constructor
  · intro gate mem
    rw [rows] at mem
    rcases mem_map.mp mem with ⟨stored, storedMem, rfl⟩
    rw [(idsEq stored).2]
    exact sameRuns _ (unanswered.runs stored storedMem)
  · intro response mem
    rcases unanswered.gates response mem with ⟨gate, stored, sameId⟩
    refine ⟨_, ?_, (idsEq gate).1.trans sameId⟩
    rw [rows]
    exact mem_map_of_mem stored
  · intro gate mem isActive
    rw [rows] at mem
    rcases mem_map_changeSelected.mp mem with
      ⟨stored, storedMem, isSelected, rfl⟩ | ⟨storedMem, _⟩
    · exact reopened isActive stored storedMem isSelected
    · exact unanswered.active gate storedMem isActive

theorem deactivate (unanswered : Unanswered state) (selected : GateInterrupt → Bool)
    (inactive : status ≠ .active) :
    Unanswered
      { state with db := TeachingPackControlStore.deactivate state.db selected status inactive } :=
  unanswered.rewrite _ (fun _ hasRun => hasRun) rfl fun isActive => absurd isActive inactive

variable {after : GateDb} {answer : PUnit}

theorem openGate (unanswered : Unanswered state) {payload : TeachingPackGateCreate}
    (opened : TeachingPackControlStore.openGate payload state = (.ok answer, after)) :
    Unanswered after := by
  rcases onGateway_eq_ok opened with ⟨db, inserted, rfl⟩
  unfold TeachingPackRunStore.openGate at inserted
  split at inserted
  · next hasRun =>
    split at inserted
    · cases inserted
    · next gates grown =>
      cases inserted
      have rows := rows_of_insert grown
      constructor
      · intro gate mem
        simp only [rows, mem_append, mem_singleton] at mem
        rcases mem with stored | rfl
        · exact unanswered.runs gate stored
        · exact hasRun
      · intro response mem
        rcases unanswered.gates response mem with ⟨gate, stored, sameId⟩
        refine ⟨gate, ?_, sameId⟩
        rw [rows]
        exact mem_append_left _ stored
      · intro gate mem isActive
        simp only [rows, mem_append, mem_singleton] at mem
        rcases mem with stored | rfl
        · exact unanswered.active gate stored isActive
        · -- a response would belong to a stored gate with the same id
          intro response responded sameId
          rcases unanswered.gates response responded with ⟨gate, stored, gateId⟩
          have taken := insert_eq_none_iff.mpr
            ⟨gate, stored, (.inl (gateId.trans sameId) : GateInterrupt.Conflict gate _)⟩
          rw [grown] at taken
          cases taken
  · cases inserted

variable {gate : GateInterrupt}

theorem respondToGate (unanswered : Unanswered state) (stored : gate ∈ state.db.gates.rows)
    (isActive : gate.status = .active) {payload : GateResponseCreate}
    (sameGate : payload.gateId = gate.gateId) (sameRun : payload.runId = gate.runId)
    (newId : ∀ response ∈ state.responses.rows, response.responseId ≠ payload.responseId) :
    ∃ responses, responses.rows = state.responses.rows ++ [payload.row state.db.now] ∧
      TeachingPackControlStore.respondToGate payload state =
        (.ok ⟨⟩, ⟨TeachingPackControlStore.deactivate state.db
          (fun row => row.gateId == gate.gateId) .responded (by decide), responses⟩) := by
  have found := findGate_of_mem stored
  rw [← sameGate, ← sameRun] at found
  cases inserted : state.responses.insert (payload.row state.db.now) with
  | none =>
    rcases insert_eq_none_iff.mp inserted with ⟨response, responded, sameId | taken⟩
    · exact absurd sameId (newId response responded)
    · exact absurd (taken.trans sameGate) (unanswered.active gate stored isActive response responded)
  | some responses =>
    refine ⟨responses, rows_of_insert inserted, ?_⟩
    have references : (TeachingPackControlStore.deactivate state.db
        (fun row => row.gateId == gate.gateId) .responded (by decide)).HasRun
          (payload.row state.db.now).runId ∧
        ∃ row ∈ (TeachingPackControlStore.deactivate state.db
          (fun row => row.gateId == gate.gateId) .responded (by decide)).gates.rows,
          row.gateId = (payload.row state.db.now).gateId := by
      constructor
      · rw [GateResponseCreate.row, sameRun]
        exact unanswered.runs gate stored
      · refine ⟨_, mem_map_of_mem stored, ?_⟩
        rw [changeSelected, if_pos (beq_self_eq_true gate.gateId)]
        exact sameGate.symm
    unfold TeachingPackControlStore.respondToGate
    rw [read_bind, found]
    simp only [isActive, ne_eq, not_true_eq_false, if_false]
    rw [read_bind, write_bind, TeachingPackControlStore.insertResponse,
      if_pos references]
    simp only [inserted]

theorem respondToGate_eq_ok {payload : GateResponseCreate}
    (ret : TeachingPackControlStore.respondToGate payload state = (.ok answer, after)) :
    ∃ gate ∈ state.db.gates.rows, gate.gateId = payload.gateId ∧ ∃ responses,
      responses.rows = state.responses.rows ++ [payload.row state.db.now] ∧
      after = ⟨TeachingPackControlStore.deactivate state.db
        (fun row => row.gateId == gate.gateId) .responded (by decide), responses⟩ := by
  unfold TeachingPackControlStore.respondToGate at ret
  rw [read_bind] at ret
  cases found : findGate payload.gateId payload.runId state.db with
  | none =>
    rw [found] at ret
    cases ret
  | some gate =>
    rw [found] at ret
    rcases of_findGate found with ⟨stored, sameGate, _⟩
    refine ⟨gate, stored, sameGate, ?_⟩
    by_cases isActive : gate.status = .active
    · simp only [isActive, ne_eq, not_true_eq_false, if_false] at ret
      rw [read_bind, write_bind,
        TeachingPackControlStore.insertResponse] at ret
      split at ret
      · split at ret
        · cases ret
        · next responses inserted =>
          cases ret
          exact ⟨responses, rows_of_insert inserted, rfl⟩
      · cases ret
    · simp only [ne_eq, isActive, not_false_eq_true, if_true] at ret
      cases ret

theorem answered (unanswered : Unanswered state) {payload : GateResponseCreate}
    (ret : TeachingPackControlStore.respondToGate payload state = (.ok answer, after)) :
    Unanswered after := by
  rcases respondToGate_eq_ok ret with ⟨gate, stored, sameGate, responses, rows, rfl⟩
  have inactive : GateInterruptStatus.responded ≠ .active := by decide
  have closed := unanswered.deactivate (fun row => row.gateId == gate.gateId) inactive
  constructor
  · exact closed.runs
  · intro response mem
    simp only [rows, mem_append, mem_singleton] at mem
    rcases mem with earlier | rfl
    · exact closed.gates response earlier
    · refine ⟨_, mem_map_of_mem stored, ?_⟩
      rw [changeSelected, if_pos (beq_self_eq_true gate.gateId)]
      exact sameGate
  · intro row mem isActive response responded
    simp only [rows, mem_append, mem_singleton] at responded
    rcases responded with earlier | rfl
    · exact closed.active row mem isActive response earlier
    · -- the row is another gate, since the answered one is no longer active
      rcases mem_map_changeSelected.mp mem with ⟨_, _, _, rfl⟩ | ⟨_, otherGate⟩
      · cases isActive
      · intro sameId
        exact beq_eq_false_iff_ne.mp otherGate (sameId.symm.trans sameGate.symm)

variable {db : Db}

theorem of_sameControl (unanswered : Unanswered state) (same : SameControl db state.db) :
    Unanswered { state with db := db } := by
  constructor
  · intro gate mem
    rw [same.gates] at mem
    rcases unanswered.runs gate mem with ⟨run, stored, sameRun⟩
    exact ⟨run, by rw [same.runs]; exact stored, sameRun⟩
  · intro response mem
    rcases unanswered.gates response mem with ⟨gate, stored, sameId⟩
    exact ⟨gate, by rw [same.gates]; exact stored, sameId⟩
  · intro gate mem isActive
    rw [same.gates] at mem
    exact unanswered.active gate mem isActive

variable {runId : RunId} {action : SafeRecoveryAction} {result : AdminRecoveryResult}

theorem changeNewestGate (unanswered : Unanswered state) {condition : GateInterrupt → Bool}
    {missing changed : String}
    (ret : Gateway.changeNewestGate runId condition status action missing changed state.db =
      (.ok result, db))
    (reopened : status = .active → ∀ gate ∈ (state.db.gates.rows.filter fun gate =>
      gate.runId == runId && condition gate).argmax GateInterrupt.createdAt,
        NoResponse state gate.gateId) :
    Unanswered { state with db := db } := by
  unfold Gateway.changeNewestGate at ret
  split at ret
  · cases ret
    exact unanswered
  · next newest isNewest =>
    split at ret
    · cases ret
    · next gates updated =>
      cases ret
      apply unanswered.rewrite { state.db with gates := gates } (fun _ hasRun => hasRun)
        (rows_of_tryUpdate updated)
      intro isActive gate _ isNewestGate
      rw [beq_iff_eq.mp isNewestGate]
      exact reopened isActive newest isNewest

theorem recover {reason adminId : String}
    (ret : GateOp.recover runId action reason adminId state = (.ok result, after))
    (performed : ∀ between, recoveryAction ⟨runId, action, reason, adminId⟩ ⟨false, "", action⟩
      state.db = (.ok result, between) → Unanswered { state with db := between }) :
    Unanswered after := by
  rcases onGateway_eq_ok ret with ⟨db, recovered, rfl⟩
  rcases executeRecovery_eq_ok recovered with ⟨between, actionEq, same⟩
  exact (performed between actionEq).of_sameControl same

theorem commit {α : Type} (unanswered : Unanswered state) {body : GateSession α}
    (kept : ∀ answer after, body state = (.ok answer, after) → Unanswered after) :
    Unanswered (GateOp.commit body state).1 := by
  unfold GateOp.commit
  rcases atomically_cases body state with
    ⟨answer, after, ret, committed⟩ | ⟨error, _, _, rolledBack⟩
  · rw [committed]
    exact kept answer after ret
  · rw [rolledBack]
    exact unanswered

theorem step (unanswered : Unanswered state) {op : GateOp} (allowed : ReopensUnanswered state op) :
    Unanswered (op.step state).1 := by
  cases op with
  | tick elapsed => exact ⟨unanswered.runs, unanswered.gates, unanswered.active⟩
  | openGate payload => exact unanswered.commit fun _ _ opened => unanswered.openGate opened
  | respondToGate payload =>
    exact unanswered.commit fun _ _ ret => unanswered.answered ret
  | cancelActiveGates runId =>
    apply unanswered.commit
    intro count after ret
    rcases onGateway_eq_ok ret with ⟨db, cancelled, rfl⟩
    cases cancelled
    exact unanswered.deactivate _ (by decide)
  | sweepEscalatedGates timeoutHours =>
    apply unanswered.commit
    intro escalated after ret
    rcases onGateway_eq_ok ret with ⟨db, swept, rfl⟩
    cases swept
    exact unanswered.deactivate _ (by decide)
  | markEscalated runId reason adminId =>
    apply unanswered.commit
    intro result after ret
    apply Unanswered.recover ret
    intro between performed
    exact unanswered.changeNewestGate performed nofun
  | reopenGate runId reason adminId =>
    apply unanswered.commit
    intro result after ret
    apply Unanswered.recover ret
    intro between performed
    exact unanswered.changeNewestGate performed fun _ gate isNewest => allowed gate isNewest

theorem answerable (unanswered : Unanswered state) (stored : gate ∈ state.db.gates.rows)
    (isActive : gate.status = .active) :
    Answerable state gate := by
  intro payload sameGate sameRun newId
  obtain ⟨responses, rows, ret⟩ :=
    unanswered.respondToGate stored isActive sameGate sameRun newId
  refine ⟨_, ret, ?_, ?_⟩
  · rw [rows]
    exact mem_append_right _ (mem_singleton.mpr rfl)
  · have changed : changeSelected (fun row => row.gateId == gate.gateId)
        (fun row => { row with status := .responded }) gate =
          { gate with status := .responded } :=
      if_pos (beq_self_eq_true gate.gateId)
    rw [← changed]
    exact mem_map_of_mem stored

end Unanswered

/-- In every run that reopens only gates without a response, every active gate
takes an answer, and no run has two active gates of one name. -/
theorem active_gates_answerable {state : GateDb} {history : History GateOp (Except GateError Unit)}
    (run : gateMachine.Run ReopenGuard state history) :
    (∀ gate ∈ state.db.gates.rows, gate.status = .active → Answerable state gate) ∧
      OneActiveGate state := by
  have unanswered : Unanswered state := by
    apply run.invariant fun state _ => Unanswered state
    · rintro start ⟨noGates, noResponses⟩
      constructor
      · rw [noGates]
        exact nofun
      · rw [noResponses]
        exact nofun
      · rw [noGates]
        exact nofun
    · intro state history op unanswered allowed
      exact unanswered.step allowed
  exact ⟨fun gate stored isActive => unanswered.answerable stored isActive, oneActiveGate state⟩

/-! ## Reopening a gate -/

/-- A run before its first gate. -/
def gatelessDb : GateDb where
  db := { Db.empty 0 with
    runs := .single ⟨"run-1", "teacher-1", .generating, 0, none, none, none, none⟩ }
  responses := .empty

theorem gatelessDb_initial : gateMachine.initial gatelessDb :=
  ⟨rfl, rfl⟩

/-- The state after a sequence of operations on the gateless database. -/
def afterGateOps (ops : List GateOp) : GateDb :=
  (gateMachine.drive (gatelessDb, []) ops).1

def approvalGate : GateOp :=
  .openGate ⟨"gate-1", "run-1", "content_approval", []⟩

def reopenAnswered : List GateOp :=
  [approvalGate, .respondToGate ⟨"response-1", "gate-1", "run-1", "teacher-1", []⟩,
    .reopenGate "run-1" "teacher asked" "admin-1"]

def answerAgain : GateResponseCreate :=
  ⟨"response-2", "gate-1", "run-1", "teacher-1", []⟩

def gatewayAnswer : Except GateError PUnit → Except GatewayError Bool
  | .error (.gateway error) => .error error
  | .error (.staleGateResponse _) => .ok false
  | .ok _ => .ok true

theorem respondToGate_reopenAnswered :
    (TeachingPackControlStore.respondToGate answerAgain (afterGateOps reopenAnswered)).1 =
      .error (.gateway (.store .integrityError)) := by
  have refused := @eq_of_isRefused _ (gatewayAnswer (TeachingPackControlStore.respondToGate
    answerAgain (afterGateOps reopenAnswered)).1) (by decide +kernel)
  unfold gatewayAnswer at refused
  split at refused
  · next isGateway => rw [isGateway, Except.error.inj refused]
  · cases refused
  · cases refused

/-- Answering a gate and reopening it leaves an active gate that takes no
answer any more. -/
theorem reopened_gate_not_answerable :
    ∃ state history, gateMachine.Run (fun _ _ _ => True) state history ∧
      ∃ gate ∈ state.db.gates.rows, gate.status = .active ∧ ¬ Answerable state gate := by
  refine ⟨_, _, (Machine.Run.start gatelessDb_initial).drive reopenAnswered
    Machine.admits_all,
    ⟨"gate-1", "run-1", "content_approval", .active, [], 0⟩, ?_, rfl, ?_⟩
  · have gates : (afterGateOps reopenAnswered).db.gates.rows =
        [⟨"gate-1", "run-1", "content_approval", .active, [], 0⟩] := by
      rfl
    exact gates ▸ mem_singleton.mpr rfl
  · intro answerable
    rcases answerable answerAgain rfl rfl (by decide +kernel) with ⟨after, ret, _⟩
    cases (congrArg Prod.fst ret).symm.trans respondToGate_reopenAnswered

def reopenExpired : List GateOp :=
  [approvalGate, .markEscalated "run-1" "no answer" "admin-1",
    .reopenGate "run-1" "teacher asked" "admin-1"]

theorem reopenExpired_admitted : gateMachine.Admits ReopenGuard (gatelessDb, []) reopenExpired := by
  refine ⟨trivial, trivial, ?_, trivial⟩
  intro gate _ response responded
  cases responded

theorem reopened_expired_gate_answerable :
    ∃ gate ∈ (afterGateOps reopenExpired).db.gates.rows, gate.status = .active ∧
      Answerable (afterGateOps reopenExpired) gate := by
  have isReopened : ∃ gate ∈ (afterGateOps reopenExpired).db.gates.rows, gate.status = .active := by
    decide +kernel
  have answerable := (active_gates_answerable
    ((Machine.Run.start gatelessDb_initial).drive reopenExpired reopenExpired_admitted)).1
  rcases isReopened with ⟨gate, stored, isActive⟩
  exact ⟨gate, stored, isActive, answerable gate stored isActive⟩

end OhMyClass.Gateway
