import OhMyClass.PedagogicalCompiler.ToolCache

/-!
# Multi-pass synthesis

Every entity of a semantic IR gets a requirement, a candidate, its verification
and a receipt.  A repair replaces one entity and notes this on its receipt.
-/

namespace OhMyClass.PedagogicalCompiler

open Sorting Transition

structure EntityRequirement where
  requirementId : String
  semanticKind : SemanticKind
  objectiveIds : List String
  hard : Bool
  verificationRules : List String

structure SynthesisPlan where
  planId : String
  programId : String
  semanticIrId : String
  requirements : List EntityRequirement
  maxCandidatesPerRequirement : {count : Nat // 1 ≤ count ∧ count ≤ 8} := ⟨2, by decide⟩
  maxRepairsPerEntity : {count : Nat // count ≤ 4} := ⟨1, by decide⟩

inductive CandidateSource where
  | deterministic
  | modelCandidate
  | teacher

structure CandidateEntity where
  candidateId : String
  requirementId : String
  semanticId : String
  contentHash : String
  source : CandidateSource

structure VerificationResult where
  candidateId : String
  passed : Bool
  hardFailures : List String
  evidenceIds : List String
  toolReceiptIds : List String

structure SelectionResult where
  requirementId : String
  selectedCandidateId : Option String
  rejectedCandidateIds : List String
  reviewRequired : Bool

structure RepairPlan where
  repairId : String
  semanticId : String
  failureCodes : List String
  preservedSemanticIds : List String
  attempt : {attempt : Nat // 1 ≤ attempt}

/-- A receipt without its hash. -/
structure ReceiptBase where
  receiptId : String
  requirement : EntityRequirement
  candidates : List CandidateEntity
  verifications : List VerificationResult
  selection : SelectionResult
  repairs : List RepairPlan

structure SynthesisReceipt extends ReceiptBase where
  receiptHash : String

structure MultiPassSynthesisResult where
  plan : SynthesisPlan
  selectedSemanticIr : SemanticContentIR
  receipts : List SynthesisReceipt
  toolReceipts : List ToolReceipt

/-- What synthesis reads of a program. -/
structure ProgramRef where
  programId : String
  programHash : String

/-- The canonical JSON of what is hashed. -/
structure CanonicalForms where
  entity : SemanticEntity → String
  semanticIr : SemanticContentBase → String
  receipt : ReceiptBase → String

def verificationRules (entity : SemanticEntity) : List String :=
  ["schema", "objective_kc_lineage", "terminology", "age_language", "semantic_duplication"] ++
    (if entity.kind = .claim ∨ entity.kind = .definition then ["evidence_entailment"] else []) ++
    (if entity.kind = .answerDerivation then ["answer_derivation", "teacher_only_separation"]
      else [])

def hardFailures (entity : SemanticEntity) : List String :=
  (if (entity.kind = .claim ∨ entity.kind = .definition) ∧ entity.authority = .verified ∧
      entity.sourceEvidenceIds = [] then ["missing_evidence"] else []) ++
    (if entity.kind = .answerDerivation ∧ entity.audience ≠ .teacher then ["answer_leakage"]
      else []) ++
    if entity.authority = .unsupported then ["unsupported_authority"] else []

/-! ## Synthesis -/

section Synthesize

variable (library : Library) (forms : CanonicalForms)

def isHard (kind : SemanticKind) : Bool :=
  [.claim, .definition, .questionStem, .answerDerivation].contains kind

def entityRequirement (program : ProgramRef) (entity : SemanticEntity) : EntityRequirement where
  requirementId := stableId library "entity-requirement" [program.programHash, entity.semanticId]
  semanticKind := entity.kind
  objectiveIds := entity.objectiveIds
  hard := isHard entity.kind
  verificationRules := verificationRules entity

def synthesisPlan (program : ProgramRef) (ir : SemanticContentIR) : SynthesisPlan where
  planId := stableId library "synthesis-plan" [program.programHash, ir.semanticHash]
  programId := program.programId
  semanticIrId := ir.semanticIrId
  requirements := ir.entities.map (entityRequirement library program)

def entityHash (entity : SemanticEntity) : String :=
  stableHash library "entity" (forms.entity entity)

def candidateEntity (program : ProgramRef) (entity : SemanticEntity) : CandidateEntity :=
  let requirement := entityRequirement library program entity
  { candidateId := stableId library "candidate-entity"
      [requirement.requirementId, entity.semanticId, entity.text]
    requirementId := requirement.requirementId
    semanticId := entity.semanticId
    contentHash := entityHash library forms entity
    source := .deterministic }

variable {α β : Type}

/-- The request for the readability tool; `textInput` gives `{"text": text}`. -/
def readabilityRequest (textInput : String → α) (tenantScope policyVersion : String)
    (entity : SemanticEntity) : ToolRequest α where
  toolId := "readability"
  input := textInput entity.text
  tenantScope := tenantScope
  policy := { policyVersion }

def toolFailures (kind : SemanticKind) (executed : Option (Executed β)) : List String :=
  match executed with
  | none => []
  | some (result, _) =>
    if result.status ≠ .verified ∧ result.status ≠ .unsupported ∧ isHard kind = true then
      ["tool:" ++ result.status.text]
    else []

def verificationResult (program : ProgramRef) (entity : SemanticEntity)
    (executed : Option (Executed β)) : VerificationResult :=
  let failures := hardFailures entity ++ toolFailures entity.kind executed
  { candidateId := (candidateEntity library forms program entity).candidateId
    passed := failures.isEmpty
    hardFailures := failures
    evidenceIds := entity.sourceEvidenceIds
    toolReceiptIds := executed.toList.map fun executed => executed.2.receiptId }

def selectionResult (candidate : CandidateEntity) (entity : SemanticEntity) (passed : Bool) :
    SelectionResult :=
  let kept := passed = true ∨ entity.authority = .reviewRequired
  { requirementId := candidate.requirementId
    selectedCandidateId := if kept then some candidate.candidateId else none
    rejectedCandidateIds := if kept then [] else [candidate.candidateId]
    reviewRequired := decide (entity.authority = .reviewRequired) }

def hashedReceipt (base : ReceiptBase) : SynthesisReceipt :=
  { base with receiptHash := stableHash library "synthesis-receipt" (forms.receipt base) }

def synthesisReceipt (program : ProgramRef) (ir : SemanticContentIR) (entity : SemanticEntity)
    (executed : Option (Executed β)) : SynthesisReceipt :=
  let requirement := entityRequirement library program entity
  let candidate := candidateEntity library forms program entity
  let verification := verificationResult library forms program entity executed
  hashedReceipt library forms
    { receiptId := stableId library "synthesis-receipt"
        [(synthesisPlan library program ir).planId, requirement.requirementId]
      requirement
      candidates := [candidate]
      verifications := [verification]
      selection := selectionResult candidate entity verification.passed
      repairs := [] }

/-- The runs of the tool on the entities, in their order; none without a
runtime. -/
def readabilityRuns (runtime? : Option (Toolbox α β × Cache β)) (textInput : String → α)
    (tenantScope policyVersion : String) (entities : List SemanticEntity) :
    List (Option (Executed β)) :=
  match runtime? with
  | none => entities.map fun _ => none
  | some (toolbox, cache) =>
    ((runtime library toolbox).answers cache
      (entities.map (readabilityRequest textInput tenantScope policyVersion))).map some

def synthesizeSemanticContent (runtime? : Option (Toolbox α β × Cache β))
    (textInput : String → α) (tenantScope policyVersion : String) (program : ProgramRef)
    (ir : SemanticContentIR) : MultiPassSynthesisResult :=
  let runs := readabilityRuns library runtime? textInput tenantScope policyVersion ir.entities
  { plan := synthesisPlan library program ir
    selectedSemanticIr := ir
    receipts := List.zipWith (synthesisReceipt library forms program ir) ir.entities runs
    toolReceipts := runs.filterMap fun executed => executed.map Prod.snd }

structure RepairCall where
  semanticId : String
  replacement : SemanticEntity
  failureCodes : List String

inductive RepairError where
  | keyError (semanticId : String)
  | valueError (message : String)

def repairedBase (base : SemanticContentBase) (call : RepairCall) : SemanticContentBase :=
  { base with
    entities := base.entities.map fun entity =>
      if entity.semanticId = call.semanticId then call.replacement else entity
    version := ⟨base.version.1 + 1, Nat.le_add_left _ _⟩ }

/-- A receipt with a selected candidate for the entity. -/
def isRepaired (semanticId : String) (receipt : SynthesisReceipt) : Bool :=
  decide (receipt.selection.selectedCandidateId ≠ none ∧
    receipt.selection.selectedCandidateId ≠ some "") &&
    receipt.candidates.any fun candidate => candidate.semanticId = semanticId

def repairPlan (call : RepairCall) (repaired : SemanticContentBase) (receiptId : String) :
    RepairPlan where
  repairId := stableId library "repair" [receiptId, toString repaired.version.1]
  semanticId := call.semanticId
  failureCodes := call.failureCodes
  preservedSemanticIds := sortBy id (repaired.semanticIds.filter fun id => id ≠ call.semanticId)
  attempt := ⟨1, Nat.le_refl 1⟩

def repairReceipt (call : RepairCall) (repaired : SemanticContentBase)
    (receipt : SynthesisReceipt) : SynthesisReceipt :=
  if isRepaired call.semanticId receipt then
    hashedReceipt library forms
      { receipt.toReceiptBase with
        repairs := receipt.repairs ++ [repairPlan library call repaired receipt.receiptId] }
  else receipt

def repairedResult (result : MultiPassSynthesisResult) (call : RepairCall)
    (checked : (repairedBase result.selectedSemanticIr.toSemanticContentBase call).check = .ok ()) :
    MultiPassSynthesisResult :=
  let base := repairedBase result.selectedSemanticIr.toSemanticContentBase call
  { result with
    selectedSemanticIr :=
      { base with
        semanticHash := stableHash library "semantic-ir" (forms.semanticIr base)
        checked }
    receipts := result.receipts.map (repairReceipt library forms call base) }

def scopedRepair (result : MultiPassSynthesisResult) (call : RepairCall) :
    Except RepairError MultiPassSynthesisResult :=
  if call.replacement.semanticId ≠ call.semanticId then
    .error (.valueError "scoped repair replacement must preserve semantic ID")
  else
    match result.selectedSemanticIr.entities.find? fun entity =>
        entity.semanticId = call.semanticId with
    | none => .error (.keyError call.semanticId)
    | some original =>
      if original.objectiveIds ≠ call.replacement.objectiveIds ∨
          original.kcIds ≠ call.replacement.kcIds then
        .error (.valueError "scoped repair cannot change objective/KC lineage")
      else
        match checked :
            (repairedBase result.selectedSemanticIr.toSemanticContentBase call).check with
        | .error message => .error (.valueError message)
        | .ok () => .ok (repairedResult library forms result call checked)

/-- A sequence of repairs; one that raises leaves the result as it was. -/
def repairing : Machine MultiPassSynthesisResult RepairCall (Except RepairError Unit) where
  initial _ := True
  step result call :=
    match scopedRepair library forms result call with
    | .ok repaired => (repaired, .ok ())
    | .error error => (result, .error error)

end Synthesize

end OhMyClass.PedagogicalCompiler
