import Mathlib.Data.List.DropRight
import OhMyClass.Contracts.JudgeOutput
import OhMyClass.Transition.Machine

/-!
# The trust score of a gate

A call of `record_gate_event` reads the history and writes it back in a later
step.  Weights are exact, and no entry expires.
-/

namespace OhMyClass.TeachingPack.GateTrust

open List Transition
open OhMyClass.Contracts (mean mean_inRange)

def windowSize : Nat := 10

/-- `_EVENT_WEIGHTS`, and nothing for another action. -/
def eventWeight (action : String) : ℚ :=
  if action = "approve" ∨ action = "auto_approved" then 1
  else if action = "edit" ∨ action = "request_edits" then 1 / 2
  else 0

structure GateEvent where
  action : String
  artifactTypes : List String
deriving DecidableEq

structure GateCall extends GateEvent where
  teacherId : String
  gateName : String
deriving DecidableEq

/-- The namespace and the key of a history. -/
def storeKey (teacherId gateName : String) : (String × String) × String :=
  ((teacherId, "preferences"), "gate_trust::" ++ gateName)

def GateCall.key (call : GateCall) : (String × String) × String :=
  storeKey call.teacherId call.gateName

/-- The store, the calls between `get` and `put` with what they read, and the
finished calls. -/
structure Trust where
  store : (String × String) × String → Option (List GateEvent)
  reading : List (GateCall × List GateEvent)
  recorded : List GateCall

inductive TrustInput where
  | get (call : GateCall)
  | put (call : GateCall) (read : List GateEvent)

/-- `record_gate_event`, cut between its two accesses of the store. -/
def trustStep (trust : Trust) : TrustInput → Trust
  | .get call =>
    { trust with reading := (call, (trust.store call.key).getD []) :: trust.reading }
  | .put call read =>
    if (call, read) ∈ trust.reading then
      { store := Function.update trust.store call.key
          ((read ++ [call.toGateEvent]).rtake (windowSize * 2))
        reading := trust.reading.erase (call, read)
        recorded := trust.recorded ++ [call] }
    else trust

def trustMachine : Machine Trust TrustInput Unit where
  initial trust := trust = ⟨fun _ => none, [], []⟩
  step trust input := (trustStep trust input, ())

def computeTrustScore (trust : Trust) (teacherId gateName : String) : ℚ :=
  match trust.store (storeKey teacherId gateName) with
  | some events => mean ((events.rtake windowSize).map fun event => eventWeight event.action)
  | none => 0

def isFastLaneEligible (gateName : String) : Bool :=
  ["content_approval", "blueprint_approval"].contains gateName

def shouldFastLane (trust : Trust) (teacherId gateName : String) (threshold : ℚ) : Bool :=
  isFastLaneEligible gateName && decide (0 < threshold) &&
    decide (threshold ≤ computeTrustScore trust teacherId gateName)

/-- The recorded events of a teacher at a gate. -/
def Trust.eventsOf (trust : Trust) (teacherId gateName : String) : List GateEvent :=
  (trust.recorded.filter fun call => call.teacherId = teacherId ∧ call.gateName = gateName).map
    GateCall.toGateEvent

/-- The score is the mean weight of the last ten recorded events. -/
structure RollingAverage (trust : Trust) (teacherId gateName : String) : Prop where
  score : computeTrustScore trust teacherId gateName =
    mean (((trust.eventsOf teacherId gateName).rtake 10).map fun event => eventWeight event.action)
  bounds : 0 ≤ computeTrustScore trust teacherId gateName ∧
    computeTrustScore trust teacherId gateName ≤ 1
  fastLane : ∀ threshold, shouldFastLane trust teacherId gateName threshold = true ↔
    (gateName = "content_approval" ∨ gateName = "blueprint_approval") ∧ 0 < threshold ∧
      threshold ≤ computeTrustScore trust teacherId gateName

/-- No call reads a history that another call has read and not yet written. -/
def NoOverlap : Guard Trust TrustInput Unit :=
  fun trust _ input => ∀ call, input = .get call → ∀ entry ∈ trust.reading, entry.1.key ≠ call.key

/-! ## Weights -/

theorem eventWeight_mem (action : String) : 0 ≤ eventWeight action ∧ eventWeight action ≤ 1 := by
  unfold eventWeight
  split_ifs <;> norm_num

variable {trust : Trust} {teacherId gateName : String}

theorem computeTrustScore_eq :
    computeTrustScore trust teacherId gateName =
      mean ((((trust.store (storeKey teacherId gateName)).getD []).rtake windowSize).map
        fun event => eventWeight event.action) := by
  unfold computeTrustScore
  split
  · next isStored => rw [isStored]; rfl
  · next isNone => rw [isNone]; exact (div_zero _).symm

theorem shouldFastLane_iff {threshold : ℚ} :
    shouldFastLane trust teacherId gateName threshold = true ↔
      (gateName = "content_approval" ∨ gateName = "blueprint_approval") ∧ 0 < threshold ∧
        threshold ≤ computeTrustScore trust teacherId gateName := by
  simp [shouldFastLane, isFastLaneEligible, and_assoc]

/-! ## Windows -/

theorem rtake_rtake {α : Type} {few more : Nat} (le : few ≤ more) (items : List α) :
    (items.rtake more).rtake few = items.rtake few := by
  unfold rtake
  rw [drop_drop, length_drop]
  congr 1
  omega

theorem rtake_concat_rtake {α : Type} (items : List α) (item : α) (size : Nat) :
    (items.rtake size ++ [item]).rtake size = (items ++ [item]).rtake size := by
  cases size with
  | zero => rw [rtake_zero, rtake_zero]
  | succ size => rw [rtake_concat_succ, rtake_concat_succ, rtake_rtake (Nat.le_succ _)]

/-! ## Runs -/

theorem storeKey_inj {otherTeacher otherGate : String} :
    storeKey teacherId gateName = storeKey otherTeacher otherGate ↔
      teacherId = otherTeacher ∧ gateName = otherGate := by
  simp [storeKey]

/-- The store holds the last events of every history, and the calls under way
have read what it holds. -/
structure Intact (trust : Trust) : Prop where
  stored : ∀ teacherId gateName, (trust.store (storeKey teacherId gateName)).getD [] =
    (trust.eventsOf teacherId gateName).rtake (windowSize * 2)
  current : ∀ entry ∈ trust.reading, entry.2 = (trust.store entry.1.key).getD []
  apart : (trust.reading.map fun entry => entry.1.key).Nodup

theorem Intact.get (intact : Intact trust) {call : GateCall}
    (free : ∀ entry ∈ trust.reading, entry.1.key ≠ call.key) :
    Intact (trustStep trust (.get call)) where
  stored := intact.stored
  current := forall_mem_cons.mpr ⟨rfl, intact.current⟩
  apart := by
    refine nodup_cons.mpr ⟨fun mem => ?_, intact.apart⟩
    rcases mem_map.mp mem with ⟨entry, isReading, same⟩
    exact free entry isReading same

theorem Intact.put (intact : Intact trust) (call : GateCall) (read : List GateEvent) :
    Intact (trustStep trust (.put call read)) := by
  rw [trustStep]
  split
  · next isReading =>
    have isCurrent : read = (trust.store call.key).getD [] := intact.current _ isReading
    refine ⟨fun teacherId gateName => ?_, fun entry mem => ?_, ?_⟩
    · have stored := intact.stored teacherId gateName
      unfold Trust.eventsOf at stored ⊢
      simp only [filter_append, map_append]
      by_cases own : call.teacherId = teacherId ∧ call.gateName = gateName
      · rcases own with ⟨rfl, rfl⟩
        rw [GateCall.key, Function.update_self, Option.getD_some, isCurrent, GateCall.key, stored,
          rtake_concat_rtake]
        simp
      · rw [Function.update_of_ne, stored]
        · simp [own]
        · exact fun same => own ((storeKey_inj.mp same).imp Eq.symm Eq.symm)
    · have distinct := intact.apart.of_map
      have other := distinct.mem_erase_iff.mp mem
      dsimp only
      rw [Function.update_of_ne, intact.current entry other.2]
      exact fun same => other.1 (inj_on_of_nodup_map intact.apart other.2 isReading same)
    · exact intact.apart.sublist (erase_sublist.map _)
  · exact intact

theorem Intact.run {history : History TrustInput Unit}
    (run : trustMachine.Run NoOverlap trust history) : Intact trust := by
  refine run.invariant (fun trust _ => Intact trust) ?_ ?_
  · rintro _ rfl
    exact ⟨fun _ _ => rfl, forall_mem_nil _, nodup_nil⟩
  · intro state _ input intact free
    cases input with
    | get call => exact intact.get (free call rfl)
    | put call read => exact intact.put call read

/-- While no two calls overlap at a gate, every score is the rolling average. -/
theorem trustScore_rollingAverage {history : History TrustInput Unit}
    (run : trustMachine.Run NoOverlap trust history) (teacherId gateName : String) :
    RollingAverage trust teacherId gateName where
  score := by
    rw [computeTrustScore_eq, (Intact.run run).stored, rtake_rtake (by decide)]
    rfl
  bounds := by
    rw [computeTrustScore_eq]
    exact mean_inRange zero_le_one (forall_mem_map.mpr fun event _ => eventWeight_mem event.action)
  fastLane _ := shouldFastLane_iff

def approval : GateCall := ⟨⟨"approve", []⟩, "t1", "content_approval"⟩

def rejection : GateCall := ⟨⟨"reject", []⟩, "t1", "content_approval"⟩

def driven (inputs : List TrustInput) : Trust × History TrustInput Unit :=
  trustMachine.drive (⟨fun _ => none, [], []⟩, []) inputs

theorem trustScore_oneApproval :
    RollingAverage (driven [.get approval, .put approval []]).1 "t1" "content_approval" := by
  refine trustScore_rollingAverage (.next (.put approval []) (.next (.get approval) (.start rfl) ?_)
    ?_) "t1" "content_approval"
  · exact fun _ _ _ mem => absurd mem not_mem_nil
  · rintro _ ⟨⟩

/-- Of two calls that overlap, only the later one is in the score. -/
theorem overlapping_calls_lose_event :
    ¬ ∀ (trust : Trust) (history : History TrustInput Unit),
      trustMachine.Run (fun _ _ _ => True) trust history → trust.reading = [] →
        ∀ teacherId gateName, RollingAverage trust teacherId gateName := by
  intro claim
  let inputs : List TrustInput :=
    [.get approval, .get rejection, .put approval [], .put rejection []]
  have run : trustMachine.Run (fun _ _ _ => True) (driven inputs).1 (driven inputs).2 :=
    Machine.Run.drive (.start rfl) inputs Machine.admits_all
  have average : mean [0] = mean [1, 0] := (claim _ _ run rfl "t1" "content_approval").score
  norm_num [mean] at average

end OhMyClass.TeachingPack.GateTrust
