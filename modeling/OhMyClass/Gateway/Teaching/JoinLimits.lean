import OhMyClass.Gateway.Basic
import OhMyClass.SlidingWindow.Core

/-!
# The rate limit on joining

Join attempts are limited for every pair of client address and room code.  Of the
attempts that were let through only those are kept that lay in the window at the
last attempt of their key, which is enough to decide as if all were kept.
-/

namespace OhMyClass.Gateway

open List Function OhMyClass.SlidingWindow

structure JoinRateLimitConfig where
  rateLimitCount : Int
  rateLimitWindowSeconds : Int

/-- Moments in microseconds for every pair of address and room code; a pair that
is not in the dictionary has none. -/
structure JoinRateLimitState where
  requestTimes : String × String → List Int

def JoinRateLimitState.initial : JoinRateLimitState := ⟨fun _ => []⟩

def allowJoinAttempt (config : JoinRateLimitConfig) (limit windowSeconds : Option Int)
    (state : JoinRateLimitState) (clientIp roomCode : String) (now : DateTime) :
    Bool × JoinRateLimitState :=
  let window := seconds (windowSeconds.getD config.rateLimitWindowSeconds)
  let cap := limit.getD config.rateLimitCount
  let key := (clientIp, roomCode)
  let recent := (state.requestTimes key).filter fun seenAt => now - seenAt ≤ window
  if recent.length ≥ cap then (false, ⟨Function.update state.requestTimes key recent⟩)
  else (true, ⟨Function.update state.requestTimes key (recent ++ [now])⟩)

/-- An attempt on a pair of address and room code. -/
abbrev JoinAttempt := Attempt (String × String)

/-- The attempts one after another, each with its answer. -/
def allowJoinAttempts (config : JoinRateLimitConfig) (limit windowSeconds : Option Int) :
    JoinRateLimitState → List JoinAttempt → Record (String × String)
  | _, [] => []
  | state, attempt :: rest =>
    let (allowed, state) := allowJoinAttempt config limit windowSeconds state attempt.key.1
      attempt.key.2 attempt.now
    (attempt, allowed) :: allowJoinAttempts config limit windowSeconds state rest

def joinLimit (config : JoinRateLimitConfig) (limit windowSeconds : Option Int) : Limit where
  count := limit.getD config.rateLimitCount
  window := seconds (windowSeconds.getD config.rateLimitWindowSeconds)

section

variable {config : JoinRateLimitConfig} {limit windowSeconds : Option Int}
  {state : JoinRateLimitState} {record : Record (String × String)}

/-- What is kept of a key agrees with the full record on every window that ends
no earlier than the last attempt. -/
def JoinRateLimitState.Keeps (state : JoinRateLimitState) (limit : Limit)
    (record : Record (String × String)) : Prop :=
  ∀ key since, (∀ entry ∈ record, entry.1.now - limit.window ≤ since) →
    (state.requestTimes key).countP (since ≤ ·) = admittedSince record key since

theorem keeps_initial {limit : Limit} : JoinRateLimitState.initial.Keeps limit [] :=
  fun _ _ _ => rfl

theorem countP_recent {times : List Int} {now window since : Int} (later : now - window ≤ since) :
    (times.filter fun seenAt => now - seenAt ≤ window).countP (since ≤ ·) =
      times.countP (since ≤ ·) := by
  rw [countP_filter]
  refine countP_congr fun seenAt _ => ?_
  simp only [Bool.and_eq_true, decide_eq_true_eq]
  omega

theorem length_recent {times : List Int} {now window : Int} :
    (times.filter fun seenAt => now - seenAt ≤ window).length =
      times.countP (now - window ≤ ·) := by
  rw [← countP_eq_length_filter]
  refine countP_congr fun seenAt _ => ?_
  simp only [decide_eq_true_eq]
  omega

variable {attempt : JoinAttempt}

theorem admittedSince_singleton {allowed : Bool} {key : String × String} {since : Int} :
    admittedSince [(attempt, allowed)] key since =
      if allowed ∧ attempt.key = key ∧ since ≤ attempt.now then 1 else 0 := by
  simp [admittedSince]

theorem allowJoinAttempt_eq :
    allowJoinAttempt config limit windowSeconds state attempt.key.1 attempt.key.2 attempt.now =
      let joinLimit := joinLimit config limit windowSeconds
      let recent := (state.requestTimes attempt.key).filter fun seenAt =>
        attempt.now - seenAt ≤ joinLimit.window
      let allowed := decide ((recent.length : Int) < joinLimit.count)
      (allowed, ⟨Function.update state.requestTimes attempt.key
        (recent ++ if allowed then [attempt.now] else [])⟩) := by
  unfold allowJoinAttempt joinLimit
  dsimp only
  split
  next full =>
    rw [decide_eq_false (Int.not_lt.mpr full), if_neg Bool.false_ne_true, append_nil]
  next room => rw [decide_eq_true (Int.not_le.mp room), if_pos rfl]

/-- One attempt: the answer is the one of the full record, and what is kept goes
on to agree with it. -/
theorem allowJoinAttempt_keeps (keeps : state.Keeps (joinLimit config limit windowSeconds) record)
    (later : ∀ entry ∈ record, entry.1.now ≤ attempt.now) :
    ∃ next, allowJoinAttempt config limit windowSeconds state attempt.key.1 attempt.key.2
        attempt.now = (admits (joinLimit config limit windowSeconds) record attempt, next) ∧
      next.Keeps (joinLimit config limit windowSeconds)
        (record ++ [(attempt, admits (joinLimit config limit windowSeconds) record attempt)]) := by
  rw [allowJoinAttempt_eq]
  generalize joinLimit config limit windowSeconds = limit at keeps ⊢
  have counted := keeps attempt.key (attempt.now - limit.window)
    fun entry mem => Int.sub_le_sub_right (later entry mem) _
  rw [← length_recent] at counted
  rw [admits, ← counted]
  refine ⟨_, rfl, fun key since onward => ?_⟩
  generalize decide (_ < limit.count) = allowed at onward ⊢
  have earlier := keeps key since fun entry mem =>
    onward entry (mem_append_left _ mem)
  have present : attempt.now - limit.window ≤ since :=
    onward (attempt, _) (mem_append_right _ (mem_singleton_self _))
  rw [admittedSince_append, admittedSince_singleton, ← earlier]
  by_cases same : attempt.key = key
  · subst same
    dsimp only
    rw [update_self, countP_append, countP_recent present]
    cases allowed <;> simp [countP_singleton]
  · dsimp only
    rw [update_of_ne (Ne.symm same)]
    simp [same]

variable {attempts : List JoinAttempt}

theorem allowJoinAttempts_decided
    (keeps : state.Keeps (joinLimit config limit windowSeconds) record)
    (decided : Decided (joinLimit config limit windowSeconds) record)
    (later : ∀ entry ∈ record, ∀ attempt ∈ attempts, entry.1.now ≤ attempt.now)
    (sorted : attempts.Pairwise fun first second => first.now ≤ second.now) :
    Decided (joinLimit config limit windowSeconds)
      (record ++ allowJoinAttempts config limit windowSeconds state attempts) := by
  induction attempts generalizing state record with
  | nil => simpa [allowJoinAttempts] using decided
  | cons attempt rest ih =>
    rw [pairwise_cons] at sorted
    rcases allowJoinAttempt_keeps keeps fun entry mem =>
      later entry mem attempt mem_cons_self with ⟨next, isStep, keepsNext⟩
    rw [allowJoinAttempts, isStep, append_cons]
    refine ih keepsNext (decided.concat attempt) ?_ sorted.2
    intro entry mem other isOther
    rcases mem_append.mp mem with old | new
    · exact later entry old other (mem_cons_of_mem _ isOther)
    · rw [mem_singleton.mp new]
      exact sorted.1 other isOther

theorem allowJoinAttempts_map_fst :
    (allowJoinAttempts config limit windowSeconds state attempts).map Prod.fst = attempts := by
  induction attempts generalizing state with
  | nil => rfl
  | cons attempt rest ih => rw [allowJoinAttempts, map_cons, ih]

theorem allowJoinAttempts_eq_iff
    (sorted : attempts.Pairwise fun first second => first.now ≤ second.now) :
    allowJoinAttempts config limit windowSeconds .initial attempts = record ↔
      record.map Prod.fst = attempts ∧ Decided (joinLimit config limit windowSeconds) record := by
  have decided : Decided (joinLimit config limit windowSeconds)
      (allowJoinAttempts config limit windowSeconds .initial attempts) :=
    allowJoinAttempts_decided keeps_initial .nil (forall_mem_nil _) sorted
  constructor
  · rintro rfl
    exact ⟨allowJoinAttempts_map_fst, decided⟩
  · rintro ⟨same, decidedRecord⟩
    exact decided.unique decidedRecord (allowJoinAttempts_map_fst.trans same.symm)

end

/-- The answers to attempts are those of a true sliding window. -/
structure IsSlidingWindow (config : JoinRateLimitConfig) (limit windowSeconds : Option Int)
    (attempts : List JoinAttempt) : Prop where
  bounded : ∀ key first,
    admittedWithin (allowJoinAttempts config limit windowSeconds .initial attempts) key first
      (first + (joinLimit config limit windowSeconds).window) ≤
        (joinLimit config limit windowSeconds).count
  refused : ∀ earlier attempt later,
    allowJoinAttempts config limit windowSeconds .initial attempts =
        earlier ++ (attempt, false) :: later →
      (joinLimit config limit windowSeconds).count ≤ admittedWithin earlier attempt.key
        (attempt.now - (joinLimit config limit windowSeconds).window) attempt.now
  /-- Without a refused attempt all other answers are the same. -/
  free : ∀ earlier attempt later,
    allowJoinAttempts config limit windowSeconds .initial attempts =
        earlier ++ (attempt, false) :: later →
      allowJoinAttempts config limit windowSeconds .initial ((earlier ++ later).map Prod.fst) =
        earlier ++ later
  /-- Without the attempts of other keys the answers for a key are the same. -/
  apart : ∀ key,
    allowJoinAttempts config limit windowSeconds .initial
        (attempts.filter fun attempt => attempt.key = key) =
      (allowJoinAttempts config limit windowSeconds .initial attempts).filter
        fun entry => entry.1.key = key

theorem allowJoinAttempts_slidingWindow (config : JoinRateLimitConfig)
    (limit windowSeconds : Option Int)
    (nonneg : 0 ≤ (joinLimit config limit windowSeconds).count) {attempts : List JoinAttempt}
    (sorted : attempts.Pairwise fun first second => first.now ≤ second.now) :
    IsSlidingWindow config limit windowSeconds attempts := by
  rcases (allowJoinAttempts_eq_iff sorted).mp
    (rfl : allowJoinAttempts config limit windowSeconds .initial attempts = _) with
    ⟨areAttempts, decided⟩
  constructor
  · exact decided.admittedWithin_le nonneg
  · intro earlier attempt later split
    rw [split] at decided areAttempts
    have before : ∀ entry ∈ earlier, entry.1.now ≤ attempt.now := by
      intro entry mem
      rw [← areAttempts, map_append] at sorted
      exact (pairwise_append.mp sorted).2.2 entry.1 (mem_map_of_mem mem) attempt
        mem_cons_self
    have enough := decided.le_of_refused
    rwa [admittedSince_eq_admittedWithin before] at enough
  · intro earlier attempt later split
    rw [split] at decided areAttempts
    have fewer : ((earlier ++ later).map Prod.fst).Sublist attempts := by
      rw [← areAttempts]
      exact ((sublist_cons_self _ _).append_left earlier).map _
    exact (allowJoinAttempts_eq_iff (sorted.sublist fewer)).mpr ⟨rfl, decided.drop_refused⟩
  · intro key
    refine (allowJoinAttempts_eq_iff (sorted.sublist filter_sublist)).mpr
      ⟨?_, decided.filter_key key⟩
    conv_rhs => rw [← areAttempts, filter_map]
    rfl

/-- Three attempts on one room and one on another, two allowed a minute. -/
def joinAttempts : List JoinAttempt :=
  [⟨("10.0.0.1", "123456"), 0⟩, ⟨("10.0.0.1", "123456"), 1000000⟩,
    ⟨("10.0.0.2", "123456"), 2000000⟩, ⟨("10.0.0.1", "123456"), 60000000⟩]

theorem joinAttempts_slidingWindow : IsSlidingWindow ⟨10, 60⟩ (some 2) none joinAttempts :=
  allowJoinAttempts_slidingWindow ⟨10, 60⟩ (some 2) none (by decide) (by decide)

example : (allowJoinAttempts ⟨10, 60⟩ (some 2) none .initial joinAttempts).map Prod.snd =
    [true, true, true, false] := by decide

end OhMyClass.Gateway
