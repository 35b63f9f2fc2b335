import OhMyClass.PedagogicalCompiler.SemanticIr
import OhMyClass.Transition.Machine

/-!
# Domain tools

The registry of tools, one execution of a request and the runtime that keeps
verified results of deterministic tools under tenant, tool, version, policy and
input.
-/

namespace OhMyClass.PedagogicalCompiler

open Transition

inductive ToolStatus where
  | verified
  | unsupported
  | invalidInput
  | failed
  deriving DecidableEq

def ToolStatus.text : ToolStatus → String
  | verified => "verified"
  | unsupported => "unsupported"
  | invalidInput => "invalid_input"
  | failed => "failed"

structure ToolCapability where
  toolId : String
  version : String
  deterministic : Bool
  networkPolicy : {text // text ∈ ["none", "allowlisted"]} := ⟨"none", List.mem_cons_self⟩

structure ToolPolicy where
  policyVersion : String
  allowNetwork : Bool := false

theorem outputBytes_bounds : 128 ≤ 8192 ∧ 8192 ≤ 1000000 := by decide

/-- A request with an input `α`. -/
structure ToolRequest (α : Type) where
  toolId : String
  input : α
  tenantScope : String
  policy : ToolPolicy
  maxOutputBytes : {bytes : Nat // 128 ≤ bytes ∧ bytes ≤ 1000000} := ⟨8192, outputBytes_bounds⟩

structure ToolEvidence where
  evidenceId : String
  normalizedInputHash : String
  resultHash : String
  statement : String

structure ToolFailure where
  code : ToolStatus
  message : String

structure ToolResult (β : Type) where
  status : ToolStatus
  output : Option β := none
  evidence : Option ToolEvidence := none
  failure : Option ToolFailure := none

structure ToolReceipt where
  receiptId : String
  toolId : String
  toolVersion : String
  tenantScope : String
  policyVersion : String
  normalizedInputHash : String
  resultHash : Option String
  status : ToolStatus
  reusable : Bool

/-- What a handler raises: an error of the input with its text, or any other
error by the name of its type. -/
inductive Raised where
  | invalidInput (message : String)
  | other (typeName : String)

/-- The tools of a runtime, and the canonical JSON of inputs and outputs; an
output may have none. -/
structure Toolbox (α β : Type) where
  capabilities : String → Option ToolCapability
  handlers : String → α → Except Raised β
  canonicalInput : α → String
  canonicalOutput : β → Except Raised String

section Execute

variable {α β : Type} (library : Library) (toolbox : Toolbox α β)

def toolReceipt (request : ToolRequest α) (version inputHash : String) (result : ToolResult β) :
    ToolReceipt :=
  let resultHash := result.evidence.map ToolEvidence.resultHash
  { receiptId := stableId library "tool-receipt" [request.tenantScope, request.toolId, version,
      inputHash, result.status.text, resultHash.getD "None"]
    toolId := request.toolId
    toolVersion := version
    tenantScope := request.tenantScope
    policyVersion := request.policy.policyVersion
    normalizedInputHash := inputHash
    resultHash
    status := result.status
    reusable := decide (result.status = .verified) }

/-- The output of the handler with its canonical JSON. -/
def handled (request : ToolRequest α) : Except Raised (β × String) := do
  let output ← toolbox.handlers request.toolId request.input
  let encoded ← toolbox.canonicalOutput output
  return (output, encoded)

/-- `str(exc)[:500]`, or the name of the error's type. -/
def raisedResult : Raised → ToolResult β
  | .invalidInput message =>
    { status := .invalidInput
      failure := some ⟨.invalidInput, String.ofList (message.toList.take 500)⟩ }
  | .other typeName => { status := .failed, failure := some ⟨.failed, typeName⟩ }

def verifiedResult (request : ToolRequest α) (capability : ToolCapability) (inputHash : String)
    (output : β) (encoded : String) : ToolResult β :=
  let resultHash := stableHash library "tool-result" encoded
  { status := .verified
    output := some output
    evidence := some
      { evidenceId := stableId library "tool-evidence" [request.toolId, capability.version,
          inputHash, resultHash]
        normalizedInputHash := inputHash
        resultHash
        statement := "Verified by deterministic tool " ++ request.toolId ++ "@" ++
          capability.version } }

def handlerResult (request : ToolRequest α) (capability : ToolCapability) (inputHash : String) :
    ToolResult β :=
  match handled toolbox request with
  | .error raised => raisedResult raised
  | .ok (output, encoded) =>
    if request.maxOutputBytes.1 < encoded.utf8ByteSize then
      raisedResult (.invalidInput "tool output exceeds budget")
    else
      verifiedResult library request capability inputHash output encoded

structure CacheKey where
  tenantScope : String
  toolId : String
  version : String
  policyVersion : String
  inputHash : String
  deriving DecidableEq

/-- What `execute` returns. -/
abbrev Executed (β : Type) := ToolResult β × ToolReceipt

abbrev Cache (β : Type) := CacheKey → Option (Executed β)

def inputHash (request : ToolRequest α) : String :=
  stableHash library "tool-input" (toolbox.canonicalInput request.input)

def cacheKey (request : ToolRequest α) (capability : ToolCapability) : CacheKey where
  tenantScope := request.tenantScope
  toolId := request.toolId
  version := capability.version
  policyVersion := request.policy.policyVersion
  inputHash := inputHash library toolbox request

def denied (message : String) : ToolResult β where
  status := .unsupported
  failure := some ⟨.unsupported, message⟩

/-- `execute` past the cache: the handler runs. -/
def executeFresh (request : ToolRequest α) (capability : ToolCapability) : Executed β :=
  let hash := inputHash library toolbox request
  let result := handlerResult library toolbox request capability hash
  (result, toolReceipt library request capability.version hash result)

/-- `DomainToolRuntime.execute`, with the cache it leaves. -/
def execute (cache : Cache β) (request : ToolRequest α) : Cache β × Executed β :=
  let hash := inputHash library toolbox request
  match toolbox.capabilities request.toolId with
  | none =>
    let result := denied "tool capability is not registered"
    (cache, result, toolReceipt library request "unregistered" hash result)
  | some capability =>
    if capability.networkPolicy.1 ≠ "none" ∧ request.policy.allowNetwork = false then
      let result := denied "network tool denied by policy"
      (cache, result, toolReceipt library request capability.version hash result)
    else
      let key := cacheKey library toolbox request capability
      match if capability.deterministic then cache key else none with
      | some cached => (cache, cached)
      | none =>
        let executed := executeFresh library toolbox request capability
        if capability.deterministic = true ∧ executed.1.status = .verified then
          (Function.update cache key (some executed), executed)
        else
          (cache, executed)

/-- A runtime under a sequence of requests. -/
def runtime : Machine (Cache β) (ToolRequest α) (Executed β) where
  initial cache := cache = fun _ => none
  step := execute library toolbox

/-- A runtime with an empty cache for every request; it remembers only what
was asked, newest first. -/
def forgetful : Machine (List (ToolRequest α)) (ToolRequest α) (Executed β) where
  initial past := past = []
  step past request := (request :: past, (execute library toolbox (fun _ => none) request).2)

end Execute

/-! ## Transparency of the tool cache -/

variable {α β : Type} (library : Library) (toolbox : Toolbox α β)

/-- A request that reaches the cache of a tool. -/
structure Admitted (request : ToolRequest α) (capability : ToolCapability) : Prop where
  registered : toolbox.capabilities request.toolId = some capability
  network : ¬ (capability.networkPolicy.1 ≠ "none" ∧ request.policy.allowNetwork = false)

/-- The handler gives an output, with its JSON, that fits the budget. -/
def Verifies (request : ToolRequest α) (output : β × String) : Prop :=
  handled toolbox request = .ok output ∧ output.2.utf8ByteSize ≤ request.maxOutputBytes.1

/-- What is verified for earlier requests under the same key is verified for
this one. -/
def Covered (past : List (ToolRequest α)) (request : ToolRequest α) : Prop :=
  ∀ capability, Admitted toolbox request capability → capability.deterministic = true →
    ∀ earlier ∈ past, Admitted toolbox earlier capability →
      cacheKey library toolbox earlier capability = cacheKey library toolbox request capability →
        ∀ output, Verifies toolbox earlier output → Verifies toolbox request output

variable {library toolbox} {request earlier : ToolRequest α} {capability : ToolCapability}
  {output : β × String}

theorem handlerResult_of_verifies (verifies : Verifies toolbox request output) (hash : String) :
    handlerResult library toolbox request capability hash =
      verifiedResult library request capability hash output.1 output.2 := by
  unfold handlerResult
  rw [verifies.1]
  exact if_neg verifies.2.not_gt

theorem exists_verifies {hash : String}
    (verified : (handlerResult library toolbox request capability hash).status = .verified) :
    ∃ output, Verifies toolbox request output := by
  unfold handlerResult at verified
  cases run : handled toolbox request with
  | error raised =>
    rw [run] at verified
    cases raised <;> cases verified
  | ok output =>
    rw [run] at verified
    by_cases exceeds : request.maxOutputBytes.1 < output.2.utf8ByteSize
    · simp [exceeds, raisedResult] at verified
    · exact ⟨output, run, not_lt.mp exceeds⟩

theorem Verifies.output_unique {other : β × String} (verifies : Verifies toolbox request output)
    (again : Verifies toolbox request other) : other = output :=
  Except.ok.inj (again.1.symm.trans verifies.1)

theorem Verifies.encoded (verifies : Verifies toolbox request output) :
    toolbox.canonicalOutput output.1 = .ok output.2 := by
  have run := verifies.1
  unfold handled at run
  cases given : toolbox.handlers request.toolId request.input with
  | error raised => rw [given] at run; cases run
  | ok value =>
    cases encoded : toolbox.canonicalOutput value with
    | error raised => simp [given, encoded, bind, Except.bind] at run
    | ok text =>
      simp only [given, encoded, bind, Except.bind, pure, Except.pure, Except.ok.injEq] at run
      rw [← run]
      exact encoded

/-- The answer under a key that verifies an output. -/
def executedUnder (library : Library) (key : CacheKey) (output : β × String) : Executed β :=
  let request : ToolRequest Unit :=
    { toolId := key.toolId, input := (), tenantScope := key.tenantScope,
      policy := { policyVersion := key.policyVersion } }
  let capability : ToolCapability :=
    { toolId := key.toolId, version := key.version, deterministic := true }
  let result := verifiedResult library request capability key.inputHash output.1 output.2
  (result, toolReceipt library request key.version key.inputHash result)

theorem executeFresh_of_verifies (verifies : Verifies toolbox request output) :
    executeFresh library toolbox request capability =
      executedUnder library (cacheKey library toolbox request capability) output := by
  simp only [executeFresh, handlerResult_of_verifies verifies]
  rfl

theorem executedUnder_inj {key : CacheKey} {other : β × String}
    (encoded : toolbox.canonicalOutput output.1 = .ok output.2)
    (otherEncoded : toolbox.canonicalOutput other.1 = .ok other.2)
    (same : executedUnder library key output = executedUnder library key other) :
    output = other := by
  have values : output.1 = other.1 :=
    Option.some.inj (congrArg (fun executed => executed.1.output) same)
  have texts : output.2 = other.2 := by
    rw [values] at encoded
    exact Except.ok.inj (encoded.symm.trans otherEncoded)
  exact Prod.ext values texts

section Paths

variable {cache : Cache β}

theorem Admitted.execute_hit (admitted : Admitted toolbox request capability)
    (deterministic : capability.deterministic = true) {executed : Executed β}
    (cached : cache (cacheKey library toolbox request capability) = some executed) :
    execute library toolbox cache request = (cache, executed) := by
  simp only [execute, admitted.registered, if_neg admitted.network, if_pos deterministic, cached]

theorem Admitted.execute_miss (admitted : Admitted toolbox request capability)
    (missing : capability.deterministic = true →
      cache (cacheKey library toolbox request capability) = none) :
    execute library toolbox cache request =
      (if capability.deterministic = true ∧
          (executeFresh library toolbox request capability).1.status = .verified then
        Function.update cache (cacheKey library toolbox request capability)
          (some (executeFresh library toolbox request capability))
      else cache, executeFresh library toolbox request capability) := by
  have unused : (if capability.deterministic = true then
      cache (cacheKey library toolbox request capability) else none) = none := by
    split
    · next deterministic => exact missing deterministic
    · rfl
  simp only [execute, admitted.registered, if_neg admitted.network, unused]
  split <;> rfl

theorem execute_refused (library : Library)
    (refused : ∀ capability, ¬ Admitted toolbox request capability) :
    ∃ answer, ∀ cache, execute library toolbox cache request = (cache, answer) := by
  cases registered : toolbox.capabilities request.toolId with
  | none => exact ⟨_, fun cache => by simp only [execute, registered]; rfl⟩
  | some capability =>
    have network : capability.networkPolicy.1 ≠ "none" ∧ request.policy.allowNetwork = false :=
      Classical.not_not.mp fun network => refused capability ⟨registered, network⟩
    exact ⟨_, fun cache => by simp only [execute, registered, if_pos network]; rfl⟩

end Paths

/-! ## The cache over a run -/

/-- The cache holds what earlier requests verified, and nothing else. -/
structure Remembers (library : Library) (toolbox : Toolbox α β) (cache : Cache β)
    (past : List (ToolRequest α)) : Prop where
  stored : ∀ key executed, cache key = some executed →
    ∃ earlier ∈ past, ∃ capability, Admitted toolbox earlier capability ∧
      capability.deterministic = true ∧ cacheKey library toolbox earlier capability = key ∧
        ∃ output, Verifies toolbox earlier output ∧ executed = executedUnder library key output
  kept : ∀ earlier ∈ past, ∀ capability, Admitted toolbox earlier capability →
    capability.deterministic = true → ∀ output, Verifies toolbox earlier output →
      cache (cacheKey library toolbox earlier capability) =
        some (executedUnder library (cacheKey library toolbox earlier capability) output)

variable {cache : Cache β} {past : List (ToolRequest α)}

theorem Remembers.skip (remembers : Remembers library toolbox cache past)
    (kept : ∀ capability, Admitted toolbox request capability → capability.deterministic = true →
      ∀ output, Verifies toolbox request output →
        cache (cacheKey library toolbox request capability) =
          some (executedUnder library (cacheKey library toolbox request capability) output)) :
    Remembers library toolbox cache (request :: past) where
  stored key executed found := by
    rcases remembers.stored key executed found with ⟨earlier, mem, rest⟩
    exact ⟨earlier, .tail _ mem, rest⟩
  kept := List.forall_mem_cons.mpr ⟨kept, remembers.kept⟩

theorem Remembers.add (remembers : Remembers library toolbox cache past)
    (admitted : Admitted toolbox request capability) (deterministic : capability.deterministic = true)
    (verifies : Verifies toolbox request output)
    (missing : cache (cacheKey library toolbox request capability) = none) :
    Remembers library toolbox
      (Function.update cache (cacheKey library toolbox request capability)
        (some (executedUnder library (cacheKey library toolbox request capability) output)))
      (request :: past) where
  stored key executed found := by
    by_cases here : key = cacheKey library toolbox request capability
    · subst here
      rw [Function.update_self] at found
      exact ⟨request, .head _, capability, admitted, deterministic, rfl, output, verifies,
        (Option.some.inj found).symm⟩
    · rw [Function.update_of_ne here] at found
      rcases remembers.stored key executed found with ⟨earlier, mem, rest⟩
      exact ⟨earlier, .tail _ mem, rest⟩
  kept := by
    rw [List.forall_mem_cons]
    constructor
    · intro other again _ value verified
      have same : other = capability :=
        Option.some.inj (again.registered.symm.trans admitted.registered)
      subst same
      rw [Function.update_self, verifies.output_unique verified]
    · intro earlier mem other again isDeterministic value verified
      have found := remembers.kept earlier mem other again isDeterministic value verified
      have elsewhere : cacheKey library toolbox earlier other ≠
          cacheKey library toolbox request capability := by
        intro same
        rw [same, missing] at found
        cases found
      rw [Function.update_of_ne elsewhere]
      exact found

theorem capability_of_cacheKey {other : ToolCapability} (admitted : Admitted toolbox request capability)
    (earlierAdmitted : Admitted toolbox earlier other)
    (same : cacheKey library toolbox earlier other = cacheKey library toolbox request capability) :
    other = capability := by
  have sameTool : earlier.toolId = request.toolId := congrArg CacheKey.toolId same
  have registered := earlierAdmitted.registered
  rw [sameTool, admitted.registered] at registered
  exact (Option.some.inj registered).symm

section

variable (remembers : Remembers library toolbox cache past)

include remembers

theorem Remembers.hit (covered : Covered library toolbox past request)
    (admitted : Admitted toolbox request capability)
    (deterministic : capability.deterministic = true) {executed : Executed β}
    (cached : cache (cacheKey library toolbox request capability) = some executed) :
    ∃ output, Verifies toolbox request output ∧
      executed = executedUnder library (cacheKey library toolbox request capability) output := by
  rcases remembers.stored _ executed cached
    with ⟨earlier, mem, other, earlierAdmitted, _, sameKey, output, verifies, rfl⟩
  have same := capability_of_cacheKey admitted earlierAdmitted sameKey
  subst same
  exact ⟨output, covered other admitted deterministic earlier mem earlierAdmitted sameKey output
    verifies, rfl⟩

theorem remembers_agree (covered : Covered library toolbox past request) :
    (execute library toolbox cache request).2 =
        (execute library toolbox (fun _ => none) request).2 ∧
      Remembers library toolbox (execute library toolbox cache request).1 (request :: past) := by
  by_cases reaches : ∃ capability, Admitted toolbox request capability
  · rcases reaches with ⟨capability, admitted⟩
    have alone : (execute library toolbox (fun _ => none) request).2 =
        executeFresh library toolbox request capability :=
      congrArg Prod.snd (admitted.execute_miss fun _ => rfl)
    rw [alone]
    have only {other : ToolCapability} (again : Admitted toolbox request other) :
        other = capability :=
      Option.some.inj (again.registered.symm.trans admitted.registered)
    by_cases deterministic : capability.deterministic = true
    · cases cached : cache (cacheKey library toolbox request capability) with
      | some executed =>
        rcases remembers.hit covered admitted deterministic cached with ⟨output, verifies, rfl⟩
        rw [admitted.execute_hit deterministic cached, executeFresh_of_verifies verifies]
        refine ⟨rfl, remembers.skip ?_⟩
        intro other again _ value verified
        rw [only again, cached, verifies.output_unique verified]
      | none =>
        rw [admitted.execute_miss fun _ => cached]
        refine ⟨rfl, ?_⟩
        by_cases verified : (executeFresh library toolbox request capability).1.status = .verified
        · rcases exists_verifies verified with ⟨output, verifies⟩
          rw [if_pos ⟨deterministic, verified⟩, executeFresh_of_verifies verifies]
          exact remembers.add admitted deterministic verifies cached
        · rw [if_neg fun both => verified both.2]
          refine remembers.skip ?_
          intro other again _ value verifies
          rw [executeFresh_of_verifies verifies] at verified
          exact absurd rfl verified
    · rw [admitted.execute_miss fun isDeterministic => absurd isDeterministic deterministic,
        if_neg fun both => deterministic both.1]
      refine ⟨rfl, remembers.skip ?_⟩
      intro other again isDeterministic
      rw [only again] at isDeterministic
      exact absurd isDeterministic deterministic
  · have refused := not_exists.mp reaches
    rcases execute_refused library refused with ⟨answer, answers⟩
    rw [answers, answers]
    exact ⟨rfl, remembers.skip fun capability admitted => absurd admitted (refused capability)⟩

/-- A request that is not covered gets an answer of its own budget's failure, or
another output, when the cache is empty. -/
theorem remembers_differ (uncovered : ¬ Covered library toolbox past request) :
    (execute library toolbox cache request).2 ≠
      (execute library toolbox (fun _ => none) request).2 := by
  intro same
  apply uncovered
  intro capability admitted deterministic earlier mem earlierAdmitted sameKey output verifies
  have cached := remembers.kept earlier mem capability earlierAdmitted deterministic output
    verifies
  rw [sameKey] at cached
  have alone : (execute library toolbox (fun _ => none) request).2 =
      executeFresh library toolbox request capability :=
    congrArg Prod.snd (admitted.execute_miss fun _ => rfl)
  rw [admitted.execute_hit deterministic cached, alone] at same
  have verified : (executeFresh library toolbox request capability).1.status = .verified :=
    (congrArg (fun executed => executed.1.status) same).symm
  rcases exists_verifies verified with ⟨own, ownVerifies⟩
  rw [executeFresh_of_verifies ownVerifies] at same
  rw [executedUnder_inj verifies.encoded ownVerifies.encoded same]
  exact ownVerifies

end

theorem runtime_lockstep :
    Machine.Lockstep (runtime library toolbox) (forgetful library toolbox)
      (Remembers library toolbox) (Covered library toolbox) where
  agree := remembers_agree
  differ := remembers_differ

theorem remembers_empty : Remembers library toolbox (fun _ => none) [] where
  stored _ _ found := by cases found
  kept _ member := by cases member

/-- A sequence of requests is answered as by runtimes with empty caches exactly
when every request is covered where it is made. -/
theorem runtime_transparent_iff (library : Library) (toolbox : Toolbox α β)
    (requests : List (ToolRequest α)) :
    (runtime library toolbox).answers (fun _ => none) requests =
        (forgetful library toolbox).answers [] requests ↔
      ∀ visit ∈ (forgetful library toolbox).visits [] requests,
        Covered library toolbox visit.1 visit.2 :=
  runtime_lockstep.answers_eq_iff remembers_empty requests

/-- A tool that repeats its expression. -/
def repeating : Toolbox String String where
  capabilities toolId :=
    if toolId = "arithmetic" then
      some { toolId, version := "arithmetic.v1", deterministic := true }
    else none
  handlers _ expression := .ok expression
  canonicalInput expression := expression
  canonicalOutput output := .ok output

def longExpression : ToolRequest String where
  toolId := "arithmetic"
  input := String.ofList (List.replicate 200 '1')
  tenantScope := "org-a"
  policy := { policyVersion := "tools.v1" }

def smallBudget : ToolRequest String :=
  { longExpression with maxOutputBytes := ⟨128, by decide⟩ }

theorem longExpression_size : longExpression.input.utf8ByteSize = 200 := by
  decide +kernel

theorem runtime_not_transparent : ¬ ∀ (library : Library) (toolbox : Toolbox String String)
    (requests : List (ToolRequest String)),
      (runtime library toolbox).answers (fun _ => none) requests =
        (forgetful library toolbox).answers [] requests := by
  intro claim
  have covered := (runtime_lockstep.answers_eq_iff remembers_empty _).mp
    (claim plainLibrary repeating [longExpression, smallBudget])
  have admitted (request : ToolRequest String) (isArithmetic : request.toolId = "arithmetic") :
      Admitted repeating request
        { toolId := request.toolId, version := "arithmetic.v1", deterministic := true } :=
    ⟨if_pos isArithmetic, fun networked => networked.1 rfl⟩
  have verifies := covered ([longExpression], smallBudget) (.tail _ (.head _)) _
    (admitted smallBudget rfl) rfl longExpression (.head _) (admitted longExpression rfl) rfl
    (longExpression.input, longExpression.input)
    ⟨rfl, by rw [longExpression_size]; decide⟩
  have fits : longExpression.input.utf8ByteSize ≤ 128 := verifies.2
  rw [longExpression_size] at fits
  omega

end OhMyClass.PedagogicalCompiler
