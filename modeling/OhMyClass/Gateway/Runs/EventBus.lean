import Mathlib.Logic.Function.Basic
import OhMyClass.Gateway.Basic

/-!
# The run event bus

A version for each run, and the events of those who wait for the next one.  A
notification takes the waiting list under the lock and sets its events
afterwards; a waiter looks at the version and joins the list under the lock, and
takes itself off the list when it leaves.
-/

namespace OhMyClass.Gateway

open List Function

/-- An `anyio.Event`; every wait makes a new one. -/
abbrev WaiterId := Nat

structure RunEventBus where
  versions : RunId → Nat
  waiters : RunId → Option (List WaiterId)
  /-- Taken off a list by a notification that has yet to set them. -/
  popped : List WaiterId
  isSet : WaiterId → Bool
  nextWaiter : WaiterId

namespace RunEventBus

/-- The bus of a new process. -/
def empty : RunEventBus where
  versions _ := 0
  waiters _ := none
  popped := []
  isSet _ := false
  nextWaiter := 0

def currentRunEventVersion (bus : RunEventBus) (runId : RunId) : Nat :=
  bus.versions runId

/-- `notify_run_event` under the lock. -/
def notifyRunEvent (bus : RunEventBus) (runId : RunId) : RunEventBus :=
  { bus with
    versions := Function.update bus.versions runId (bus.versions runId + 1)
    waiters := Function.update bus.waiters runId none
    popped := bus.popped ++ (bus.waiters runId).getD [] }

/-- `waiter.set()` in `notify_run_event`. -/
def setWaiter (bus : RunEventBus) (waiter : WaiterId) : RunEventBus :=
  if waiter ∈ bus.popped then
    { bus with
      popped := bus.popped.erase waiter
      isSet := Function.update bus.isSet waiter true }
  else bus

/-- `wait_for_run_event` up to the wait: nothing if it returns at once. -/
def enterWait (bus : RunEventBus) (runId : RunId) (observedVersion : Nat) :
    Option (RunEventBus × WaiterId) :=
  if bus.versions runId > observedVersion then none
  else
    some ({ bus with
      waiters := Function.update bus.waiters runId
        (some ((bus.waiters runId).getD [] ++ [bus.nextWaiter]))
      nextWaiter := bus.nextWaiter + 1 }, bus.nextWaiter)

/-- The `finally` block of `wait_for_run_event`. -/
def leaveWait (bus : RunEventBus) (runId : RunId) (waiter : WaiterId) : RunEventBus :=
  let waiters := ((bus.waiters runId).getD []).erase waiter
  { bus with
    waiters := Function.update bus.waiters runId (if waiters.isEmpty then none else some waiters) }

/-- On the waiting list of a run. -/
def Waits (bus : RunEventBus) (runId : RunId) (waiter : WaiterId) : Prop :=
  waiter ∈ (bus.waiters runId).getD []

/-- A notification has taken the waiter off its list. -/
def Woken (bus : RunEventBus) (waiter : WaiterId) : Prop :=
  waiter ∈ bus.popped ∨ bus.isSet waiter = true

/-! ## Versions -/

variable {bus : RunEventBus}

theorem versions_notifyRunEvent (bus : RunEventBus) (runId : RunId) :
    (bus.notifyRunEvent runId).versions runId = bus.versions runId + 1 := by
  simp [notifyRunEvent]

theorem le_versions_notifyRunEvent (bus : RunEventBus) (runId other : RunId) :
    bus.versions other ≤ (bus.notifyRunEvent runId).versions other := by
  by_cases same : other = runId
  · rw [same, versions_notifyRunEvent]
    exact Nat.le_succ _
  · simp [notifyRunEvent, same]

@[simp]
theorem versions_setWaiter (bus : RunEventBus) (waiter : WaiterId) :
    (bus.setWaiter waiter).versions = bus.versions := by
  unfold setWaiter
  split <;> rfl

variable {runId : RunId} {waiter : WaiterId} {observedVersion : Nat}

theorem enterWait_eq_some {after : RunEventBus}
    (entered : bus.enterWait runId observedVersion = some (after, waiter)) :
    waiter = bus.nextWaiter ∧ after = { bus with
      waiters := Function.update bus.waiters runId
        (some ((bus.waiters runId).getD [] ++ [bus.nextWaiter]))
      nextWaiter := bus.nextWaiter + 1 } := by
  unfold enterWait at entered
  split at entered
  · cases entered
  · simp only [Option.some.injEq, Prod.mk.injEq] at entered
    exact ⟨entered.2.symm, entered.1.symm⟩

theorem enterWait_eq_none (newer : observedVersion < bus.versions runId) :
    bus.enterWait runId observedVersion = none :=
  if_pos newer

theorem Woken.notifyRunEvent (woken : bus.Woken waiter) (runId : RunId) :
    (bus.notifyRunEvent runId).Woken waiter :=
  woken.imp_left (mem_append_left _)

theorem Woken.setWaiter (woken : bus.Woken waiter) (other : WaiterId) :
    (bus.setWaiter other).Woken waiter := by
  unfold RunEventBus.setWaiter
  split
  · by_cases same : waiter = other
    · exact .inr (by simp [same])
    · exact woken.imp (mem_erase_of_ne same).mpr fun isSet => by simp [same, isSet]
  · exact woken

theorem Woken.isSet_setWaiter (woken : bus.Woken waiter) :
    (bus.setWaiter waiter).isSet waiter = true := by
  unfold RunEventBus.setWaiter
  split
  · simp
  · next absent => exact woken.resolve_left absent

theorem Waits.woken_notifyRunEvent (waits : bus.Waits runId waiter) :
    (bus.notifyRunEvent runId).Woken waiter :=
  .inl (mem_append_right _ waits)

/-! ## Waiting lists -/

/-- The runs of some waits and the events they hold, with the bus: every event on
a list belongs to one wait for that run, and one that a wait holds is on the list
or has been woken. -/
structure Registered {ι : Type*} (runOf : ι → RunId) (owner : ι → Option WaiterId)
    (bus : RunEventBus) : Prop where
  bounded : ∀ wait waiter, owner wait = some waiter → waiter < bus.nextWaiter
  distinct : ∀ first second waiter, owner first = some waiter → owner second = some waiter →
    first = second
  nonempty : ∀ runId, bus.waiters runId ≠ some []
  nodup : ∀ runId, ((bus.waiters runId).getD []).Nodup
  owned : ∀ runId waiter, bus.Waits runId waiter →
    ∃ wait, owner wait = some waiter ∧ runOf wait = runId
  heard : ∀ wait waiter, owner wait = some waiter →
    bus.Waits (runOf wait) waiter ∨ bus.Woken waiter

namespace Registered

variable {ι : Type*} {runOf : ι → RunId} {owner : ι → Option WaiterId}

theorem empty (runOf : ι → RunId) {owner : ι → Option WaiterId} (none : ∀ wait, owner wait = none) :
    Registered runOf owner .empty where
  bounded wait waiter isOwner := by simp [none wait] at isOwner
  distinct first _ waiter isOwner := by simp [none first] at isOwner
  nonempty _ := nofun
  nodup _ := nodup_nil
  owned _ _ waits := by cases waits
  heard wait waiter isOwner := by simp [none wait] at isOwner

section

variable (registered : Registered runOf owner bus)

include registered

theorem waiters_eq_none {runId : RunId} (noWait : ∀ wait, runOf wait = runId → owner wait = none) :
    bus.waiters runId = none := by
  cases list : bus.waiters runId with
  | none => rfl
  | some waiters =>
    cases waiters with
    | nil => exact absurd list (registered.nonempty runId)
    | cons waiter rest =>
      have waits : bus.Waits runId waiter := by simp [Waits, list]
      rcases registered.owned runId waiter waits with ⟨wait, isOwner, isRun⟩
      rw [noWait wait isRun] at isOwner
      cases isOwner

theorem notifyRunEvent (runId : RunId) :
    Registered runOf owner (bus.notifyRunEvent runId) := by
  have kept : ∀ other waiter, (bus.notifyRunEvent runId).Waits other waiter ↔
      other ≠ runId ∧ bus.Waits other waiter := by
    intro other waiter
    by_cases same : other = runId <;> simp [Waits, RunEventBus.notifyRunEvent, same]
  constructor
  · exact registered.bounded
  · exact registered.distinct
  · refine (forall_update_iff bus.waiters fun _ list => list ≠ some []).mpr ⟨?_, ?_⟩
    · rintro ⟨⟩
    · exact fun other _ => registered.nonempty other
  · exact (forall_update_iff bus.waiters fun _ list => (list.getD []).Nodup).mpr
      ⟨nodup_nil, fun other _ => registered.nodup other⟩
  · intro other waiter waits
    exact registered.owned other waiter ((kept other waiter).mp waits).2
  · intro wait waiter isOwner
    rcases registered.heard wait waiter isOwner with waits | woken
    · by_cases same : runOf wait = runId
      · exact .inr (same ▸ waits.woken_notifyRunEvent)
      · exact .inl ((kept _ waiter).mpr ⟨same, waits⟩)
    · exact .inr (woken.notifyRunEvent runId)

theorem setWaiter (waiter : WaiterId) :
    Registered runOf owner (bus.setWaiter waiter) := by
  have sameWaiters : (bus.setWaiter waiter).waiters = bus.waiters := by
    unfold RunEventBus.setWaiter
    split <;> rfl
  have sameNext : (bus.setWaiter waiter).nextWaiter = bus.nextWaiter := by
    unfold RunEventBus.setWaiter
    split <;> rfl
  have sameWaits : (bus.setWaiter waiter).Waits = bus.Waits := by
    funext runId other
    rw [Waits, Waits, sameWaiters]
  constructor
  · rw [sameNext]
    exact registered.bounded
  · exact registered.distinct
  · rw [sameWaiters]
    exact registered.nonempty
  · rw [sameWaiters]
    exact registered.nodup
  · rw [sameWaits]
    exact registered.owned
  · intro wait other isOwner
    rw [sameWaits]
    exact (registered.heard wait other isOwner).imp_right fun woken => woken.setWaiter waiter

variable [DecidableEq ι] {wait : ι} {waiter : WaiterId}

omit registered in
theorem update_eq_some_iff {new : Option WaiterId} {other : ι} :
    Function.update owner wait new other = some waiter ↔
      (other = wait ∧ new = some waiter) ∨ (other ≠ wait ∧ owner other = some waiter) := by
  by_cases same : other = wait <;> simp [same]

theorem enterWait {observedVersion : Nat} {after : RunEventBus} (free : owner wait = none)
    (entered : bus.enterWait (runOf wait) observedVersion = some (after, waiter)) :
    Registered runOf (Function.update owner wait (some waiter)) after := by
  rcases enterWait_eq_some entered with ⟨rfl, rfl⟩
  have older : ∀ runId waiter, bus.Waits runId waiter → waiter < bus.nextWaiter := by
    intro runId waiter waits
    rcases registered.owned runId waiter waits with ⟨other, isOwner, -⟩
    exact registered.bounded other waiter isOwner
  have stillOwner : ∀ other waiter, owner other = some waiter →
      Function.update owner wait (some bus.nextWaiter) other = some waiter := by
    intro other waiter isOwner
    refine update_eq_some_iff.mpr (.inr ⟨?_, isOwner⟩)
    rintro rfl
    cases free.symm.trans isOwner
  constructor
  · intro other waiter isOwner
    rcases update_eq_some_iff.mp isOwner with ⟨_, ⟨⟩⟩ | ⟨_, isOwner⟩
    · exact Nat.lt_succ_self _
    · exact Nat.lt_succ_of_lt (registered.bounded other waiter isOwner)
  · intro first second waiter isFirst isSecond
    rcases update_eq_some_iff.mp isFirst with ⟨rfl, ⟨⟩⟩ | ⟨_, wasFirst⟩ <;>
      rcases update_eq_some_iff.mp isSecond with ⟨rfl, isNew⟩ | ⟨_, wasSecond⟩
    · rfl
    · exact absurd (registered.bounded second _ wasSecond) (Nat.lt_irrefl _)
    · cases isNew
      exact absurd (registered.bounded first _ wasFirst) (Nat.lt_irrefl _)
    · exact registered.distinct first second waiter wasFirst wasSecond
  · refine (forall_update_iff bus.waiters fun _ list => list ≠ some []).mpr ⟨?_, ?_⟩
    · simp
    · exact fun other _ => registered.nonempty other
  · refine (forall_update_iff bus.waiters fun _ list => (list.getD []).Nodup).mpr ⟨?_, ?_⟩
    · refine nodup_append.mpr ⟨registered.nodup _, pairwise_singleton _ _, ?_⟩
      intro listed mem added isNew
      rw [mem_singleton.mp isNew]
      exact Nat.ne_of_lt (older (runOf wait) listed mem)
    · exact fun other _ => registered.nodup other
  · intro runId waiter waits
    by_cases same : runId = runOf wait
    · simp only [Waits, same, update_self, Option.getD_some, mem_append,
        mem_singleton] at waits
      rcases waits with earlier | rfl
      · rcases registered.owned _ waiter earlier with ⟨other, isOwner, isRun⟩
        exact ⟨other, stillOwner other waiter isOwner, isRun.trans same.symm⟩
      · exact ⟨wait, update_self .., same.symm⟩
    · simp only [Waits, update_of_ne same] at waits
      rcases registered.owned runId waiter waits with ⟨other, isOwner, isRun⟩
      exact ⟨other, stillOwner other waiter isOwner, isRun⟩
  · intro other waiter isOwner
    rcases update_eq_some_iff.mp isOwner with ⟨rfl, ⟨⟩⟩ | ⟨_, isOwner⟩
    · exact .inl (by simp [Waits])
    · refine (registered.heard other waiter isOwner).imp_left fun waits => ?_
      by_cases sameRun : runOf other = runOf wait
      · simp only [Waits, sameRun, update_self, Option.getD_some]
        exact mem_append_left _ (sameRun ▸ waits)
      · simpa [Waits, sameRun] using waits

theorem leaveWait (isOwner : owner wait = some waiter) :
    Registered runOf (Function.update owner wait none) (bus.leaveWait (runOf wait) waiter) := by
  have listed : ((bus.leaveWait (runOf wait) waiter).waiters (runOf wait)).getD [] =
      ((bus.waiters (runOf wait)).getD []).erase waiter := by
    simp only [RunEventBus.leaveWait, update_self]
    split
    · next isEmpty => exact (isEmpty_iff.mp isEmpty).symm
    · rfl
  have elsewhere : ∀ runId, runId ≠ runOf wait →
      (bus.leaveWait (runOf wait) waiter).waiters runId = bus.waiters runId :=
    fun runId different => update_of_ne different ..
  have others : ∀ other held, Function.update owner wait none other = some held →
      other ≠ wait ∧ owner other = some held := by
    intro other held holds
    exact (update_eq_some_iff.mp holds).resolve_left fun removed => nomatch removed.2
  constructor
  · intro other held holds
    exact registered.bounded other held (others other held holds).2
  · intro first second held isFirst isSecond
    exact registered.distinct first second held (others _ _ isFirst).2 (others _ _ isSecond).2
  · intro runId
    by_cases same : runId = runOf wait
    · rw [same]
      simp only [RunEventBus.leaveWait, update_self]
      split
      · nofun
      · next isFilled => simpa using isFilled
    · rw [elsewhere runId same]
      exact registered.nonempty runId
  · intro runId
    by_cases same : runId = runOf wait
    · rw [same, listed]
      exact (registered.nodup _).erase waiter
    · rw [elsewhere runId same]
      exact registered.nodup runId
  · intro runId held waits
    by_cases same : runId = runOf wait
    · rw [same, Waits, listed, (registered.nodup _).mem_erase_iff] at waits
      rcases registered.owned _ held waits.2 with ⟨other, holds, isRun⟩
      have different : other ≠ wait := by
        rintro rfl
        exact waits.1 (Option.some.inj (holds.symm.trans isOwner))
      exact ⟨other, (update_of_ne different ..).trans holds, isRun.trans same.symm⟩
    · rw [Waits, elsewhere runId same] at waits
      rcases registered.owned runId held waits with ⟨other, holds, isRun⟩
      have different : other ≠ wait := by
        rintro rfl
        exact same isRun.symm
      exact ⟨other, (update_of_ne different ..).trans holds, isRun⟩
  · intro other held holds
    rcases others other held holds with ⟨different, holds⟩
    refine (registered.heard other held holds).imp_left fun waits => ?_
    by_cases sameRun : runOf other = runOf wait
    · rw [Waits, sameRun, listed, (registered.nodup _).mem_erase_iff]
      refine ⟨?_, sameRun ▸ waits⟩
      rintro rfl
      exact different (registered.distinct other wait _ holds isOwner)
    · rw [Waits, elsewhere _ sameRun]
      exact waits

end

end Registered

end RunEventBus

end OhMyClass.Gateway
