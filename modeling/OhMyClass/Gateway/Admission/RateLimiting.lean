import OhMyClass.Redis.Core
import OhMyClass.Transition.Machine

/-!
# Rate limits and abuse blocks

A request asks whether its principal is blocked, is counted, and is recorded as a
violation where it is one too many.  Each of these is a few Redis commands, and
the commands of concurrent requests mix.  The violation counter and the block
expire independently of each other.
-/

namespace OhMyClass.Gateway

open List OhMyClass.Redis OhMyClass.Transition

/-- At most `limit` requests per `windowSeconds`. -/
structure RateLimitTier where
  limit : Int
  windowSeconds : Nat
  windowSeconds_pos : 0 < windowSeconds

inductive Role where
  | teacher
  | admin
  | schoolAdmin
  | systemAdmin

/-- `Role(value)`; an unknown role counts as a teacher's. -/
def Role.ofString : String → Role
  | "admin" => .admin
  | "school_admin" => .schoolAdmin
  | "system_admin" => .systemAdmin
  | _ => .teacher

/-- The tiers of both middlewares; a token has one to read and one to mutate. -/
structure RateLimitTiers where
  general : RateLimitTier
  login : RateLimitTier
  tokens : Role → RateLimitTier × RateLimitTier

/-- A request as the middleware of its principal sees it. -/
inductive LimitedRequest where
  | ip (clientIp path : String)
  | token (userId userRole method : String)

namespace LimitedRequest

def isLogin (path : String) : Bool := path == "/auth/login"

def endpointClass (method : String) : String :=
  if method ∈ ["GET", "HEAD", "OPTIONS"] then "read" else "mutate"

def principalKey : LimitedRequest → String
  | .ip clientIp _ => "ip:" ++ clientIp
  | .token userId _ _ => "token:" ++ userId

def key (request : LimitedRequest) : String :=
  request.principalKey ++ ":" ++
    match request with
    | .ip _ path => if isLogin path then "login" else "all"
    | .token _ _ method => endpointClass method

def tier (tiers : RateLimitTiers) : LimitedRequest → RateLimitTier
  | .ip _ path => if isLogin path then tiers.login else tiers.general
  | .token _ userRole method =>
    let (readTier, mutateTier) := tiers.tokens (Role.ofString userRole)
    if endpointClass method = "read" then readTier else mutateTier

def reason : LimitedRequest → String
  | .ip _ path => "ip_rate_limit:" ++ path
  | .token _ _ method => "token_rate_limit:" ++ endpointClass method

end LimitedRequest

def rateKey (key : String) (windowIndex : Nat) : String :=
  "ratelimit:" ++ key ++ ":" ++ toString windowIndex

def violationKey (principalKey : String) : String := "ratelimit:violations:" ++ principalKey

def blockKey (principalKey : String) : String := "ratelimit:blocked:" ++ principalKey

structure RateLimitOutcome where
  allowed : Bool
  remaining : Int
  retryAfterSeconds : Nat

/-- What `check_rate_limit` answers for a count; `now` is in milliseconds. -/
def RateLimitTier.outcome (tier : RateLimitTier) (count now : Nat) : RateLimitOutcome :=
  let retryAfter := tier.windowSeconds - now / 1000 % tier.windowSeconds
  if count > tier.limit then ⟨false, 0, retryAfter⟩
  else ⟨true, tier.limit - count, retryAfter⟩

def isBlocked (ttl : Int) : Option Nat :=
  if ttl > 0 then some ttl.toNat else none

def abuseThreshold : Nat := 5

def violationWindowSeconds : Nat := 600

def escalationSeconds : List Nat := [60, 300, 900, 3600]

def escalationIndex (count : Nat) : Nat :=
  min (count - abuseThreshold) (escalationSeconds.length - 1)

def blockSeconds (count : Nat) : Nat := escalationSeconds.getD (escalationIndex count) 0

inductive MiddlewareResponse where
  | callNext
  | tooManyRequests (detail retryAfter : String)

def rateLimitResponse (retryAfterSeconds : Nat) (detail : String) : MiddlewareResponse :=
  .tooManyRequests detail (toString (max retryAfterSeconds 1))

/-! ## Requests under way -/

/-- The next thing a request does: a Redis command or a look at the clock. -/
inductive LimitPhase where
  | isBlocked
  | checkRateLimit
  | countRequest (checkedAt : Nat)
  | startWindow (checkedAt : Nat)
  | recordViolation (retryAfter : Nat)
  | startViolationWindow (retryAfter : Nat)
  | block (count retryAfter : Nat)
  | answered (response : MiddlewareResponse)

/-- A block as it was set and logged. -/
structure AbuseBlock where
  principalKey : String
  reason : String
  violations : Nat
  seconds : Nat
  setAt : Nat

def AbuseBlock.endsAt (block : AbuseBlock) : Nat := block.setAt + 1000 * block.seconds

structure LimiterState where
  redis : Store
  now : Nat
  requests : List (LimitedRequest × LimitPhase)
  /-- Newest first. -/
  blocks : List AbuseBlock

namespace LimiterState

def initial (now : Nat) : LimiterState := ⟨.empty, now, [], []⟩

def setPhase (state : LimiterState) (index : Nat) (request : LimitedRequest)
    (phase : LimitPhase) : LimiterState :=
  { state with requests := state.requests.set index (request, phase) }

/-- What follows from the count of a request. -/
def afterCount (tier : RateLimitTier) (count checkedAt : Nat) : LimitPhase :=
  let outcome := tier.outcome count checkedAt
  if outcome.allowed then .answered .callNext else .recordViolation outcome.retryAfterSeconds

/-- What follows from the count of violations. -/
def afterViolation (count retryAfter : Nat) : LimitPhase :=
  if count < abuseThreshold then .answered (rateLimitResponse retryAfter "Rate limit exceeded")
  else .block count retryAfter

/-- The next command of a request, and what its answer leads to. -/
def proceed (tiers : RateLimitTiers) (state : LimiterState) (index : Nat)
    (request : LimitedRequest) : LimitPhase → LimiterState
  | .isBlocked =>
    state.setPhase index request <|
      match isBlocked (state.redis.ttl state.now (blockKey request.principalKey)) with
      | some ttl => .answered (rateLimitResponse ttl "Too many requests -- temporarily blocked")
      | none => .checkRateLimit
  | .checkRateLimit => state.setPhase index request (.countRequest state.now)
  | .countRequest checkedAt =>
    let tier := request.tier tiers
    let (count, redis) := state.redis.incr state.now
      (rateKey request.key (checkedAt / 1000 / tier.windowSeconds))
    { state with redis }.setPhase index request <|
      if count = 1 then .startWindow checkedAt else afterCount tier count checkedAt
  | .startWindow checkedAt =>
    let tier := request.tier tiers
    { state with
      redis := state.redis.expire state.now
        (rateKey request.key (checkedAt / 1000 / tier.windowSeconds)) tier.windowSeconds
      }.setPhase index request (afterCount tier 1 checkedAt)
  | .recordViolation retryAfter =>
    let (count, redis) := state.redis.incr state.now (violationKey request.principalKey)
    { state with redis }.setPhase index request <|
      if count = 1 then .startViolationWindow retryAfter else afterViolation count retryAfter
  | .startViolationWindow retryAfter =>
    { state with
      redis := state.redis.expire state.now (violationKey request.principalKey)
        violationWindowSeconds }.setPhase index request (afterViolation 1 retryAfter)
  | .block count retryAfter =>
    { state with
      redis := state.redis.setEx state.now (blockKey request.principalKey) 1 (blockSeconds count)
      blocks := ⟨request.principalKey, request.reason, count, blockSeconds count, state.now⟩ ::
        state.blocks
      }.setPhase index request (.answered (rateLimitResponse retryAfter "Rate limit exceeded"))
  | .answered response => state.setPhase index request (.answered response)

/-- Redis fails: the request goes on as if it were allowed. -/
def failOpen (state : LimiterState) (index : Nat) (request : LimitedRequest) :
    LimitPhase → LimiterState
  | .answered response => state.setPhase index request (.answered response)
  | _ => state.setPhase index request (.answered .callNext)

/-- The block that was set last for a principal. -/
def lastBlock (state : LimiterState) (principalKey : String) : Option AbuseBlock :=
  state.blocks.find? fun block => block.principalKey = principalKey

/-- How long a principal is still blocked, in milliseconds. -/
def blockedFor (state : LimiterState) (principalKey : String) : Nat :=
  state.redis.remaining state.now (blockKey principalKey)

end LimiterState

inductive LimiterInput where
  | arrive (request : LimitedRequest)
  | proceed (index : Nat)
  | redisError (index : Nat)
  | tick (elapsed : Nat)

def limiterStep (tiers : RateLimitTiers) (state : LimiterState) : LimiterInput → LimiterState
  | .arrive request => { state with requests := state.requests ++ [(request, .isBlocked)] }
  | .proceed index =>
    match state.requests[index]? with
    | some (request, phase) => state.proceed tiers index request phase
    | none => state
  | .redisError index =>
    match state.requests[index]? with
    | some (request, phase) => state.failOpen index request phase
    | none => state
  | .tick elapsed => { state with now := state.now + elapsed }

/-- Requests of any principals, from an empty store. -/
def limiterMachine (tiers : RateLimitTiers) : Machine LimiterState LimiterInput Unit where
  initial state := ∃ now, state = .initial now
  step state input := (limiterStep tiers state input, ())

theorem blockKey_ne_violationKey (first second : String) :
    blockKey first ≠ violationKey second := by
  unfold blockKey violationKey
  intro same
  have chars := congrArg String.toList same
  rw [String.toList_append, String.toList_append] at chars
  have char := congrArg (fun chars : List Char => chars[10]?) chars
  rw [List.getElem?_append_left (by decide), List.getElem?_append_left (by decide)] at char
  exact absurd char (by decide)

theorem blockKey_ne_rateKey (principalKey : String) (request : LimitedRequest) (window : Nat) :
    blockKey principalKey ≠ rateKey request.key window := by
  unfold blockKey rateKey LimitedRequest.key
  intro same
  have chars := congrArg String.toList same
  simp only [String.toList_append, append_assoc] at chars
  have char := congrArg (fun chars : List Char => chars[10]?) chars
  rw [List.getElem?_append_left (by decide), List.getElem?_append_right (by decide)] at char
  cases request with
  | ip clientIp path =>
    rw [LimitedRequest.principalKey, String.toList_append, append_assoc,
      List.getElem?_append_left (by decide)] at char
    exact absurd char (by decide)
  | token userId userRole method =>
    rw [LimitedRequest.principalKey, String.toList_append, append_assoc,
      List.getElem?_append_left (by decide)] at char
    exact absurd char (by decide)

theorem blockKey_injective : Function.Injective blockKey := by
  intro first second same
  exact (String.append_right_inj _).mp same

/-! ## Steps -/

/-- The time that passes in a step. -/
def LimiterInput.elapsed : LimiterInput → Nat
  | .tick elapsed => elapsed
  | _ => 0

/-- A step that sets no block. -/
structure LimiterState.Quiet (state next : LimiterState) (elapsed : Nat) : Prop where
  blocks : next.blocks = state.blocks
  block : ∀ principalKey, next.redis (blockKey principalKey) = state.redis (blockKey principalKey)
  now : next.now = state.now + elapsed
  pending : ∀ request count retryAfter, (request, .block count retryAfter) ∈ next.requests →
    (request, .block count retryAfter) ∈ state.requests ∨ abuseThreshold ≤ count

namespace LimiterState

variable {state : LimiterState} {tiers : RateLimitTiers} {index : Nat} {request : LimitedRequest}

/-- A phase that a request may enter without having counted many violations. -/
def Enterable (phase : LimitPhase) : Prop :=
  ∀ count retryAfter, phase = .block count retryAfter → abuseThreshold ≤ count

theorem Enterable.ite {condition : Prop} [Decidable condition] {first second : LimitPhase}
    (ifTrue : Enterable first) (ifFalse : Enterable second) :
    Enterable (if condition then first else second) := by
  split
  · exact ifTrue
  · exact ifFalse

theorem enterable_afterCount {tier : RateLimitTier} {count checkedAt : Nat} :
    Enterable (afterCount tier count checkedAt) := by
  intro _ _ isBlock
  rw [afterCount] at isBlock
  split at isBlock <;> cases isBlock

theorem enterable_afterViolation {count retryAfter : Nat} :
    Enterable (afterViolation count retryAfter) := by
  intro _ _ isBlock
  rw [afterViolation] at isBlock
  split at isBlock
  next => cases isBlock
  next enough =>
    cases isBlock
    exact Nat.le_of_not_lt enough

variable {phase : LimitPhase}

theorem quiet_setPhase {redis : Store} (enterable : Enterable phase)
    (block : ∀ principalKey, redis (blockKey principalKey) = state.redis (blockKey principalKey)) :
    state.Quiet ({ state with redis }.setPhase index request phase) 0 where
  blocks := rfl
  block := block
  now := rfl
  pending := by
    intro other count retryAfter mem
    rcases mem_or_eq_of_mem_set mem with old | new
    · exact Or.inl old
    · exact Or.inr (enterable count retryAfter (congrArg Prod.snd new).symm)

theorem quiet_proceed (sets : ∀ count retryAfter, phase ≠ .block count retryAfter) :
    state.Quiet (state.proceed tiers index request phase) 0 := by
  cases phase with
  | isBlocked =>
    refine quiet_setPhase ?_ fun _ => rfl
    intro _ _ isBlock
    split at isBlock <;> cases isBlock
  | checkRateLimit => exact quiet_setPhase nofun fun _ => rfl
  | countRequest checkedAt =>
    exact quiet_setPhase (Enterable.ite nofun enterable_afterCount)
      fun _ => Store.incr_of_ne (blockKey_ne_rateKey _ _ _)
  | startWindow checkedAt =>
    exact quiet_setPhase enterable_afterCount
      fun _ => Store.expire_of_ne (blockKey_ne_rateKey _ _ _)
  | recordViolation retryAfter =>
    have block (principalKey : String) :
        (state.redis.incr state.now (violationKey request.principalKey)).2 (blockKey principalKey) =
          state.redis (blockKey principalKey) :=
      Store.incr_of_ne (blockKey_ne_violationKey _ _)
    exact quiet_setPhase (Enterable.ite nofun enterable_afterViolation) block
  | startViolationWindow retryAfter =>
    exact quiet_setPhase enterable_afterViolation
      fun _ => Store.expire_of_ne (blockKey_ne_violationKey _ _)
  | block count retryAfter => exact absurd rfl (sets count retryAfter)
  | answered response => exact quiet_setPhase nofun fun _ => rfl

theorem quiet_failOpen :
    state.Quiet (state.failOpen index request phase) 0 := by
  unfold failOpen
  split <;> exact quiet_setPhase nofun fun _ => rfl

theorem Quiet.refl : state.Quiet state 0 where
  blocks := rfl
  block _ := rfl
  now := rfl
  pending _ _ _ := Or.inl

theorem limiterStep_cases (input : LimiterInput) :
    state.Quiet (limiterStep tiers state input) input.elapsed ∨
      ∃ index request count retryAfter, input = .proceed index ∧
        state.requests[index]? = some (request, .block count retryAfter) ∧
          limiterStep tiers state input =
            state.proceed tiers index request (.block count retryAfter) := by
  cases input with
  | arrive request =>
    refine Or.inl ⟨rfl, fun _ => rfl, rfl, ?_⟩
    intro other count retryAfter mem
    rcases mem_append.mp mem with old | new
    · exact Or.inl old
    · cases mem_singleton.mp new
  | proceed index =>
    rw [limiterStep]
    cases found : state.requests[index]? with
    | none => exact Or.inl Quiet.refl
    | some entry =>
      rcases entry with ⟨request, phase⟩
      by_cases sets : ∃ count retryAfter, phase = .block count retryAfter
      · rcases sets with ⟨count, retryAfter, rfl⟩
        exact Or.inr ⟨index, request, count, retryAfter, rfl, found, rfl⟩
      · exact Or.inl (quiet_proceed fun count retryAfter isBlock =>
          sets ⟨count, retryAfter, isBlock⟩)
  | redisError index =>
    rw [limiterStep]
    cases state.requests[index]? with
    | none => exact Or.inl Quiet.refl
    | some entry => exact Or.inl quiet_failOpen
  | tick elapsed => exact Or.inl ⟨rfl, fun _ => rfl, rfl, fun _ _ _ => Or.inl⟩

/-! ## Blocks -/

/-- The principal's blocks, newest first, do not get shorter once the one before
has ended. -/
def NeverShorter (state : LimiterState) (principalKey : String) : Prop :=
  (state.blocks.filter fun block => block.principalKey = principalKey).IsChain
    fun later earlier => earlier.endsAt ≤ later.setAt → earlier.seconds ≤ later.seconds
  deriving Decidable

/-- The store holds the block that was set last. -/
structure Blocked (state : LimiterState) : Prop where
  stored : ∀ principalKey, state.redis (blockKey principalKey) =
    (state.lastBlock principalKey).map fun block => ⟨1, some block.endsAt⟩
  set : ∀ block ∈ state.blocks, abuseThreshold ≤ block.violations ∧
    block.seconds = blockSeconds block.violations ∧ block.setAt ≤ state.now
  pending : ∀ request count retryAfter,
    (request, .block count retryAfter) ∈ state.requests → abuseThreshold ≤ count
  neverShorter : ∀ principalKey, state.NeverShorter principalKey

theorem Blocked.initial {now : Nat} : (LimiterState.initial now).Blocked where
  stored _ := rfl
  set := nofun
  pending := nofun
  neverShorter _ := isChain_nil

theorem Blocked.quiet (blocked : state.Blocked) {next : LimiterState} {elapsed : Nat}
    (quiet : state.Quiet next elapsed) : next.Blocked where
  stored principalKey := by
    rw [quiet.block, blocked.stored, lastBlock, lastBlock, quiet.blocks]
  set block member := by
    rw [quiet.blocks] at member
    rcases blocked.set block member with ⟨enough, seconds, earlier⟩
    rw [quiet.now]
    exact ⟨enough, seconds, Nat.le_add_right_of_le earlier⟩
  pending request count retryAfter member := by
    rcases quiet.pending request count retryAfter member with old | enough
    · exact blocked.pending request count retryAfter old
    · exact enough
  neverShorter principalKey := by
    rw [NeverShorter, quiet.blocks]
    exact blocked.neverShorter principalKey

theorem blockSeconds_le_iff {first second : Nat} (firstEnough : abuseThreshold ≤ first)
    (secondEnough : abuseThreshold ≤ second) :
    blockSeconds first ≤ blockSeconds second ↔ first ≤ second ∨ 8 ≤ second := by
  obtain ⟨first, rfl⟩ := Nat.exists_eq_add_of_le firstEnough
  obtain ⟨second, rfl⟩ := Nat.exists_eq_add_of_le secondEnough
  have table : ∀ firstIndex ≤ 3, ∀ secondIndex ≤ 3,
      escalationSeconds.getD firstIndex 0 ≤ escalationSeconds.getD secondIndex 0 ↔
        firstIndex ≤ secondIndex := by decide
  have index (extra : Nat) : escalationIndex (abuseThreshold + extra) = min extra 3 := by
    simp [escalationIndex, escalationSeconds]
  rw [blockSeconds, blockSeconds, index, index, table _ (by omega) _ (by omega)]
  simp only [abuseThreshold]
  omega

variable {principalKey : String}

theorem lastBlock_cons {blocks : List AbuseBlock} {block : AbuseBlock} {redis : Store} {now : Nat}
    {requests : List (LimitedRequest × LimitPhase)} :
    lastBlock ⟨redis, now, requests, block :: blocks⟩ principalKey =
      if block.principalKey = principalKey then some block
      else lastBlock ⟨redis, now, requests, blocks⟩ principalKey := by
  split <;> simp_all [lastBlock]

theorem lastBlock_mem {block : AbuseBlock} (isLast : state.lastBlock principalKey = some block) :
    block ∈ state.blocks :=
  mem_of_find?_eq_some isLast

/-- The count that a block is set for is no less than that of the principal's
block before it, or at least eight. -/
def CountRises (state : LimiterState) (principalKey : String) (count : Nat) : Prop :=
  ∀ last, state.lastBlock principalKey = some last → last.violations ≤ count ∨ 8 ≤ count
  deriving Decidable

variable {count retryAfter : Nat}

section

variable (blocked : state.Blocked)

include blocked

theorem Blocked.seconds_le (enough : abuseThreshold ≤ count)
    (rises : state.CountRises request.principalKey count) {last : AbuseBlock}
    (isLast : state.lastBlock request.principalKey = some last) :
    last.seconds ≤ blockSeconds count := by
  rcases blocked.set last (lastBlock_mem isLast) with ⟨lastEnough, seconds, _⟩
  rw [seconds]
  exact (blockSeconds_le_iff lastEnough enough).mpr (rises last isLast)

theorem Blocked.proceed (enough : abuseThreshold ≤ count)
    (rises : state.CountRises request.principalKey count) :
    (state.proceed tiers index request (.block count retryAfter)).Blocked where
  stored principalKey := by
    simp only [LimiterState.proceed, setPhase, lastBlock_cons]
    split
    next same =>
      rw [← same]
      exact Store.setEx_self
    next other =>
      rw [Store.setEx_of_ne fun same => other (blockKey_injective same).symm]
      exact blocked.stored principalKey
  set block member := by
    rcases mem_cons.mp member with rfl | old
    · exact ⟨enough, rfl, Nat.le_refl _⟩
    · exact blocked.set block old
  pending other otherCount otherRetry member := by
    rcases mem_or_eq_of_mem_set member with old | new
    · exact blocked.pending other otherCount otherRetry old
    · cases new
  neverShorter principalKey := by
    simp only [NeverShorter, LimiterState.proceed, setPhase, filter_cons, decide_eq_true_eq]
    split
    next same =>
      refine isChain_cons.mpr ⟨?_, blocked.neverShorter principalKey⟩
      intro last isLast _
      rw [List.head?_filter, ← same] at isLast
      exact blocked.seconds_le enough rises isLast
    next => exact blocked.neverShorter principalKey

theorem Blocked.blockedFor :
    state.blockedFor principalKey =
      (state.lastBlock principalKey).elim 0 fun block => block.endsAt - state.now := by
  rw [LimiterState.blockedFor, Store.remaining, blocked.stored]
  cases state.lastBlock principalKey <;> rfl

theorem Blocked.blockedFor_le_proceed (enough : abuseThreshold ≤ count)
    (rises : state.CountRises request.principalKey count) (principalKey : String) :
    state.blockedFor principalKey ≤
      (state.proceed tiers index request (.block count retryAfter)).blockedFor principalKey := by
  rw [blocked.blockedFor, (blocked.proceed enough rises).blockedFor]
  simp only [LimiterState.proceed, setPhase, lastBlock_cons]
  by_cases same : request.principalKey = principalKey
  · subst same
    rw [if_pos rfl]
    cases isLast : state.lastBlock request.principalKey with
    | none => exact Nat.zero_le _
    | some last =>
      have longer := blocked.seconds_le enough rises isLast
      have earlier := (blocked.set last (lastBlock_mem isLast)).2.2
      simp only [Option.elim_some, AbuseBlock.endsAt]
      omega
  · rw [if_neg same]
    exact Nat.le_refl _

theorem Blocked.blockedFor_le_quiet {next : LimiterState} {elapsed : Nat}
    (quiet : state.Quiet next elapsed) (principalKey : String) :
    state.blockedFor principalKey ≤ next.blockedFor principalKey + elapsed := by
  rw [blocked.blockedFor, (blocked.quiet quiet).blockedFor, lastBlock, lastBlock, quiet.blocks,
    quiet.now]
  cases state.blocks.find? fun block => block.principalKey = principalKey with
  | none => exact Nat.zero_le _
  | some block =>
    simp only [Option.elim_some]
    omega

end

end LimiterState

/-- A request that sets a block now does so for a rising count. -/
def LimiterState.SetsRising (state : LimiterState) : Option (LimitedRequest × LimitPhase) → Prop
  | some (request, .block count _) => state.CountRises request.principalKey count
  | _ => True

/-- Blocks are only set for rising counts. -/
def CountsRise : Guard LimiterState LimiterInput Unit
  | state, _, .proceed index => state.SetsRising state.requests[index]?
  | _, _, _ => True

open LimiterState

theorem Blocked.step {tiers : RateLimitTiers} {state : LimiterState}
    {history : History LimiterInput Unit} (blocked : state.Blocked) {input : LimiterInput}
    (rise : CountsRise state history input) :
    (limiterStep tiers state input).Blocked ∧
      ∀ principalKey, state.blockedFor principalKey ≤
        (limiterStep tiers state input).blockedFor principalKey + input.elapsed := by
  rcases limiterStep_cases input with
    quiet | ⟨index, request, count, retryAfter, rfl, found, isStep⟩
  · exact ⟨blocked.quiet quiet, blocked.blockedFor_le_quiet quiet⟩
  · rw [CountsRise, found] at rise
    have enough := blocked.pending request count retryAfter (mem_of_getElem? found)
    rw [isStep]
    exact ⟨blocked.proceed enough rise, blocked.blockedFor_le_proceed enough rise⟩

instance (state : LimiterState) : ∀ entry, Decidable (state.SetsRising entry)
  | some (request, .block count _) =>
    inferInstanceAs (Decidable (state.CountRises request.principalKey count))
  | none | some (_, .isBlocked) | some (_, .checkRateLimit) | some (_, .countRequest _)
  | some (_, .startWindow _) | some (_, .recordViolation _) | some (_, .startViolationWindow _)
  | some (_, .answered _) => .isTrue trivial

instance : ∀ state history input, Decidable (CountsRise state history input)
  | state, _, .proceed _ => inferInstanceAs (Decidable (state.SetsRising _))
  | _, _, .arrive _ | _, _, .redisError _ | _, _, .tick _ => .isTrue trivial

/-- One request a minute. -/
def strictTiers : RateLimitTiers where
  general := ⟨1, 60, by decide⟩
  login := ⟨1, 60, by decide⟩
  tokens _ := (⟨1, 60, by decide⟩, ⟨1, 60, by decide⟩)

def homePage : LimitedRequest := .ip "10.0.0.1" "/"

/-- The next steps of a request. -/
def advance (steps index : Nat) : List LimiterInput := List.replicate steps (.proceed index)

/-- A request from its arrival to its answer, with nothing in between. -/
def serve (index : Nat) : List LimiterInput := .arrive homePage :: advance 7 index

def driven (inputs : List LimiterInput) : LimiterState × History LimiterInput Unit :=
  (limiterMachine strictTiers).drive (.initial 0, []) inputs

/-- A block of one minute and, after it, one of five. -/
def blockedTwice : List LimiterInput :=
  [0, 1, 2, 3, 4, 5].flatMap serve ++ .tick 61000 :: [6, 7].flatMap serve

theorem driven_run {guard : Guard LimiterState LimiterInput Unit} {inputs : List LimiterInput}
    (admitted : (limiterMachine strictTiers).Admits guard (.initial 0, []) inputs) :
    (limiterMachine strictTiers).Run guard (driven inputs).1 (driven inputs).2 := by
  have start : (limiterMachine strictTiers).Run guard (.initial 0) [] := .start ⟨0, rfl⟩
  exact start.drive inputs admitted

/-- Blocks of one, five and fifteen minutes; the counter runs out in the last. -/
def pastTheWindow : List LimiterInput :=
  blockedTwice ++ .tick 301000 :: [8, 9].flatMap serve ++
    .tick 901000 :: [10, 11, 12, 13, 14, 15].flatMap serve

/-- Seven requests get past the check for a block before any is counted; the last
two count the fifth and the sixth violation, and the sixth sets its block first. -/
def overtaken : List LimiterInput :=
  List.replicate 7 (.arrive homePage) ++ [0, 1, 2, 3, 4, 5, 6].flatMap (advance 1) ++
    [0, 1, 2, 3, 4].flatMap (advance 6) ++ [5, 6].flatMap (advance 3) ++ [.proceed 6]

end OhMyClass.Gateway
