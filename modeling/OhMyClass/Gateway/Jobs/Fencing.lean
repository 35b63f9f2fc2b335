import Mathlib.Data.List.ModifyLast
import OhMyClass.Gateway.Jobs.Steps

/-!
# Lease fencing of one job

One row of `run_jobs`, the clock, and the claims workers have made of it.  A
settlement is issued by the worker of one of these claims.  `refresh_lease`
asks for the lease owner, the settlements only for a running row, so a worker
whose lease has passed to another may still settle.
-/

namespace OhMyClass.Gateway

open OhMyClass.Transition TeachingPackJobStore

/-- A claim of the job, with the expiry of the lease it was last granted. -/
structure Claim where
  worker : String
  deadline : DateTime

/-- The row, the clock, and every claim so far, oldest first. -/
structure Fencing where
  job : RunJob
  now : DateTime
  claims : List Claim

/-- Steps on the one row; a settlement names the claim it is issued for. -/
inductive FencingOp where
  | tick (elapsed : Nat)
  | claimNext (worker : String) (leaseSeconds : Int)
  | refreshLease (worker : String) (leaseSeconds : Int)
  | settle (claim : Nat) (settlement : RunJob.Settlement)

namespace Fencing

/-- A freshly enqueued job. -/
def start (payload : RunJobCreate) (now : DateTime) : Fencing :=
  ⟨payload.row now, now, []⟩

/-- The answer is whether the step took effect. -/
def step (state : Fencing) : FencingOp → Fencing × Bool
  | .tick elapsed => ({ state with now := state.now + elapsed }, true)
  | .claimNext worker leaseSeconds =>
    if state.job.Claimable state.now then
      ({ state with
          job := state.job.claim worker leaseSeconds state.now
          claims := state.claims ++ [⟨worker, state.now + seconds leaseSeconds⟩] }, true)
    else
      (state, false)
  | .refreshLease worker leaseSeconds =>
    if state.job.HeldBy worker then
      ({ state with
          job := state.job.extendLease leaseSeconds state.now
          claims := state.claims.modifyLast fun claim =>
            { claim with deadline := state.now + seconds leaseSeconds } }, true)
    else
      (state, false)
  | .settle claim settlement =>
    match state.claims[claim]? with
    | none => (state, false)
    | some _ =>
      let (updated, job) := state.job.changeFrom .running (RunJob.settle state.now settlement)
      ({ state with job := job }, updated)

/-- The claim's lease has expired and another worker has claimed the job since. -/
def Superseded (state : Fencing) (claim : Nat) : Prop :=
  ∃ own ∈ state.claims[claim]?, own.deadline ≤ state.now ∧
    ∃ later ∈ state.claims.drop (claim + 1), later.worker ≠ own.worker

/-- The newest claim of the job is by the worker of the given claim. -/
def ClaimedLastBy (state : Fencing) (claim : Nat) : Prop :=
  ∃ own ∈ state.claims[claim]?, ∃ newest ∈ state.claims.getLast?, newest.worker = own.worker

/-- A settlement for a superseded claim returns False and leaves the row alone,
and one that takes effect is by the lease owner. -/
def Fenced (state : Fencing) : FencingOp → Prop
  | .settle claim settlement =>
    (state.Superseded claim →
      (state.step (.settle claim settlement)).2 = false ∧
        (state.step (.settle claim settlement)).1.job = state.job) ∧
    ((state.step (.settle claim settlement)).2 = true →
      ∃ own ∈ state.claims[claim]?, state.job.leaseOwner = some own.worker)
  | _ => True

/-- A settlement that meets a running row comes from the worker of the newest
claim, and its own claim is not superseded. -/
def IssuedInTime (state : Fencing) : FencingOp → Prop
  | .settle claim _ =>
    claim < state.claims.length → state.job.status = .running →
      state.ClaimedLastBy claim ∧ ¬ state.Superseded claim
  | _ => True

/-- A running row carries the name of the newest claimant. -/
def OwnedByNewest (state : Fencing) : Prop :=
  state.job.status = .running →
    ∃ newest ∈ state.claims.getLast?, state.job.leaseOwner = some newest.worker

theorem ownedByNewest_start (payload : RunJobCreate) (now : DateTime) :
    (start payload now).OwnedByNewest := by
  intro isRunning
  simp only [start, RunJobCreate.row] at isRunning
  split at isRunning <;> cases isRunning

theorem status_settle_ne_running (now : DateTime) (settlement : RunJob.Settlement)
    (job : RunJob) : (job.settle now settlement).status ≠ .running := by
  cases settlement <;> simp [RunJob.settle, RunJob.release, RunJob.deadLetter, RunJob.requeue]

theorem ownedByNewest_step (state : Fencing) (op : FencingOp) (owned : state.OwnedByNewest) :
    (state.step op).1.OwnedByNewest := by
  cases op with
  | tick => exact owned
  | claimNext worker leaseSeconds =>
    simp only [step]
    split
    · intro _
      exact ⟨_, List.getLast?_concat, rfl⟩
    · exact owned
  | refreshLease worker leaseSeconds =>
    simp only [step]
    split
    · intro isRunning
      rcases owned isRunning with ⟨newest, isNewest, ownerEq⟩
      rcases List.getLast?_eq_some_iff.mp isNewest with ⟨older, claimsEq⟩
      refine ⟨{ newest with deadline := state.now + seconds leaseSeconds }, ?_, ownerEq⟩
      simp only [claimsEq, List.modifyLast_concat, List.getLast?_concat, Option.mem_def]
    · exact owned
  | settle claim settlement =>
    simp only [step]
    split
    · exact owned
    · simp only [RunJob.changeFrom]
      split
      · exact fun isRunning => absurd isRunning (status_settle_ne_running _ _ _)
      · exact owned

/-! ## When the fencing holds -/

theorem step_settle_of_running {state : Fencing} {claim : Nat} (settlement : RunJob.Settlement)
    (issued : claim < state.claims.length) (isRunning : state.job.status = .running) :
    (state.step (.settle claim settlement)).2 = true := by
  simp only [step, List.getElem?_eq_getElem issued, RunJob.changeFrom, if_pos isRunning]

theorem step_settle_of_not_running {state : Fencing} {claim : Nat}
    (settlement : RunJob.Settlement)
    (idle : ¬ (claim < state.claims.length ∧ state.job.status = .running)) :
    state.step (.settle claim settlement) = (state, false) := by
  by_cases issued : claim < state.claims.length
  · have notRunning : state.job.status ≠ .running := fun isRunning => idle ⟨issued, isRunning⟩
    simp only [step, List.getElem?_eq_getElem issued, RunJob.changeFrom, if_neg notRunning]
  · simp only [step, List.getElem?_eq_none (Nat.not_lt.mp issued)]

theorem fenced_iff_issuedInTime (state : Fencing) (op : FencingOp)
    (owned : state.OwnedByNewest) : state.Fenced op ↔ state.IssuedInTime op := by
  cases op with
  | tick | claimNext | refreshLease => exact Iff.rfl
  | settle claim settlement =>
    constructor
    · rintro ⟨staleRejected, byOwner⟩ issued isRunning
      have updated := step_settle_of_running settlement issued isRunning
      obtain ⟨own, isOwn, ownerEq⟩ := byOwner updated
      rcases owned isRunning with ⟨newest, isNewest, newestEq⟩
      constructor
      · exact ⟨own, isOwn, newest, isNewest, Option.some.inj (newestEq.symm.trans ownerEq)⟩
      · intro superseded
        exact Bool.noConfusion (updated.symm.trans (staleRejected superseded).1)
    · intro inTime
      by_cases effective : claim < state.claims.length ∧ state.job.status = .running
      · rcases effective with ⟨issued, isRunning⟩
        rcases inTime issued isRunning with ⟨⟨own, isOwn, newest, isNewest, sameWorker⟩, current⟩
        rcases owned isRunning with ⟨owner, isOwner, ownerEq⟩
        obtain rfl : newest = owner := Option.some.inj (isNewest.symm.trans isOwner)
        rw [sameWorker] at ownerEq
        exact ⟨fun superseded => absurd superseded current, fun _ => ⟨own, isOwn, ownerEq⟩⟩
      · have unchanged := step_settle_of_not_running settlement effective
        rw [Fenced, unchanged]
        exact ⟨fun _ => ⟨rfl, rfl⟩, fun impossible => Bool.noConfusion impossible⟩

end Fencing

def fencingMachine : Machine Fencing FencingOp Bool where
  initial state := ∃ payload now, state = Fencing.start payload now
  step := Fencing.step

/-- Every interleaving is fenced exactly if each settlement that meets a running
row is issued by the newest claimant, for a claim that is not superseded. -/
theorem fenced_iff_settlements_in_time (payload : RunJobCreate) (now : DateTime)
    (ops : List FencingOp) :
    (∀ visit ∈ fencingMachine.visits (Fencing.start payload now) ops, visit.1.Fenced visit.2) ↔
      ∀ visit ∈ fencingMachine.visits (Fencing.start payload now) ops,
        visit.1.IssuedInTime visit.2 :=
  Machine.forall_visits_congr Fencing.OwnedByNewest
    (fun state op owned _ => state.ownedByNewest_step op owned)
    Fencing.fenced_iff_issuedInTime
    (Fencing.ownedByNewest_start payload now) ops

/-- A worker that hangs past its lease, a second worker, and the first one's
late settlement. -/
def lateSettlement : List FencingOp :=
  [.claimNext "worker-a" 60, .tick 60000000, .claimNext "worker-b" 60, .settle 0 .markCompleted]

/-- The late settlement completes the job under the second worker's lease. -/
theorem late_settlement_not_fenced :
    ∃ visit ∈ fencingMachine.visits (Fencing.start startJob 0) lateSettlement,
      visit.2 = .settle 0 .markCompleted ∧ visit.1.Superseded 0 ∧
        visit.1.job.leaseOwner = some "worker-b" ∧ (visit.1.step visit.2).2 = true ∧
        (visit.1.step visit.2).1.job.status = .completed ∧ ¬ visit.1.Fenced visit.2 := by
  refine ⟨(((fencingMachine.drive (Fencing.start startJob 0, []) (lateSettlement.take 3)).1),
    .settle 0 .markCompleted), ?_, rfl, ?_, rfl, rfl, rfl, fun fenced => ?_⟩
  · exact .tail _ (.tail _ (.tail _ (.head _)))
  · exact ⟨⟨"worker-a", 60000000⟩, rfl, by decide, ⟨"worker-b", 120000000⟩, .head _, by decide⟩
  · rcases fenced.2 rfl with ⟨own, isOwn, ownerEq⟩
    obtain rfl : (⟨"worker-a", 60000000⟩ : Claim) = own := Option.some.inj isOwn
    exact absurd ownerEq (by decide)

/-- The queue operation a step stands for. -/
def FencingOp.onQueue (jobId : String) : FencingOp → JobOp
  | tick elapsed => .tick elapsed
  | claimNext worker leaseSeconds => .claimNext worker leaseSeconds []
  | refreshLease worker leaseSeconds => .refreshLease jobId worker leaseSeconds
  | settle _ settlement => .settle jobId settlement

theorem change_single (job : RunJob) {change : RunJob → RunJob}
    (keeps : RunJob.KeepsKeys change) :
    RunJobs.change (Table.single job) (fun row => row.jobId == job.jobId) change keeps =
      Table.single (change job) := by
  have changed : Table.changeSelected (fun row => row.jobId == job.jobId) change job = change job :=
    if_pos (beq_self_eq_true job.jobId)
  simp only [RunJobs.change, Table.update, Table.single, List.map_cons, List.map_nil, changed]

theorem oldestClaimable_single (job : RunJob) (claimTime : DateTime) :
    oldestClaimable [] claimTime (Table.single job) =
      if job.Claimable claimTime then some job else none := by
  by_cases claimable : job.Claimable claimTime <;>
    simp [oldestClaimable, Table.single, claimable]

/-- On a table with one job the store does what the step does to the row, for
every settlement that some claim's worker issues. -/
theorem Fencing.step_onQueue (state : Fencing) (op : FencingOp)
    (issued : ∀ claim settlement, op = .settle claim settlement → claim < state.claims.length) :
    (Queue.step ⟨Table.single state.job, state.now⟩ (op.onQueue state.job.jobId)).1 =
      ⟨Table.single (state.step op).1.job, (state.step op).1.now⟩ := by
  cases op with
  | tick => rfl
  | claimNext worker leaseSeconds =>
    simp only [FencingOp.onQueue, Queue.step, Queue.commit, TeachingPackJobStore.claimNext,
      oldestClaimable_single, step]
    by_cases claimable : state.job.Claimable state.now
    · simp only [if_pos claimable]
      exact congrArg (Queue.mk · state.now) (change_single state.job _)
    · simp only [if_neg claimable]
  | refreshLease worker leaseSeconds =>
    simp only [FencingOp.onQueue, Queue.step, Queue.commit, TeachingPackJobStore.refreshLease,
      Table.single, List.find?_singleton, beq_self_eq_true, Bool.true_and, decide_eq_true_eq, step]
    by_cases held : state.job.HeldBy worker
    · simp only [if_pos held]
      exact congrArg (Queue.mk · state.now) (change_single state.job _)
    · simp only [if_neg held]
  | settle claim settlement =>
    have known := issued claim settlement rfl
    simp only [FencingOp.onQueue, Queue.step, TeachingPackJobStore.settle,
      changeJob, Table.single, List.find?_singleton, beq_self_eq_true,
      if_true, Queue.commit, step, List.getElem?_eq_getElem known]
    exact congrArg (Queue.mk · state.now) (change_single state.job _)

namespace Fencing

/-- The operation a worker's step asks of the store; only the worker of a claim
settles. -/
def queueOp : Fencing × FencingOp → Option JobOp
  | (state, .settle claim settlement) =>
    if claim < state.claims.length then some (.settle state.job.jobId settlement) else none
  | (state, op) => some (op.onQueue state.job.jobId)

def onQueue (state : Fencing) : Queue :=
  ⟨Table.single state.job, state.now⟩

theorem queueOp_step (state : Fencing) (op : FencingOp) :
    match queueOp (state, op) with
    | some queueOp => (state.onQueue.step queueOp).1 = (state.step op).1.onQueue
    | none => (state.step op).1 = state := by
  cases op with
  | settle claim settlement =>
    by_cases issued : claim < state.claims.length
    · simp only [queueOp, if_pos issued]
      exact state.step_onQueue (.settle claim settlement) (by rintro _ _ ⟨⟩; exact issued)
    · simp only [queueOp, if_neg issued, step, List.getElem?_eq_none (Nat.not_lt.mp issued)]
  | tick | claimNext | refreshLease => exact state.step_onQueue _ (by rintro _ _ ⟨⟩)

end Fencing

/-- Every run of the one-row protocol is a run of the job store on a table with
this row. -/
theorem fencing_runs_on_queue (payload : RunJobCreate) (now : DateTime) (ops : List FencingOp)
    (history : JobHistory) :
    (queueMachine.drive ((Fencing.start payload now).onQueue, history)
      ((fencingMachine.visits (Fencing.start payload now) ops).filterMap Fencing.queueOp)).1 =
      (fencingMachine.drive (Fencing.start payload now, []) ops).1.onQueue := by
  generalize Fencing.start payload now = state, ([] : History FencingOp Bool) = earlier
  induction ops generalizing state earlier history with
  | nil => rfl
  | cons op rest ih =>
    have stepped := state.queueOp_step op
    simp only [Machine.visits, List.filterMap_cons, Machine.drive]
    cases asked : Fencing.queueOp (state, op) with
    | none =>
      rw [asked] at stepped
      simp only [Machine.advance, fencingMachine, stepped]
      exact ih _ _ _
    | some queueOp =>
      rw [asked] at stepped
      simp only [Machine.drive, Machine.advance, queueMachine, stepped]
      exact ih _ _ _

end OhMyClass.Gateway
