import OhMyClass.PedagogicalCompiler.Synthesis

/-!
# Receipts under repair

Receipts are written once.  A repair replaces an entity but neither its
candidate nor its verification, and every repair is numbered one; so receipts
stay truthful exactly as long as every entity is repaired at most once and by
content with the same hash and failures.
-/

namespace OhMyClass.PedagogicalCompiler

open Transition

variable (library : Library) (forms : CanonicalForms)

/-- The receipts that are about an entity. -/
def receiptsOf (result : MultiPassSynthesisResult) (semanticId : String) :
    List SynthesisReceipt :=
  result.receipts.filter fun receipt =>
    receipt.candidates.any fun candidate => candidate.semanticId = semanticId

/-- The repairs that are recorded for an entity. -/
def repairsOf (result : MultiPassSynthesisResult) (semanticId : String) : List RepairPlan :=
  (result.receipts.flatMap fun receipt => receipt.repairs).filter fun repair =>
    repair.semanticId = semanticId

def isToolFailure (failure : String) : Bool :=
  "tool:".toList.isPrefixOf failure.toList

/-- A verification lists the failures of the rules, and passes without any
failure. -/
structure VerificationMatches (verification : VerificationResult) (entity : SemanticEntity) :
    Prop where
  failures : verification.hardFailures.filter (fun failure => !isToolFailure failure) =
    hardFailures entity
  passed : verification.passed = verification.hardFailures.isEmpty

/-- The selected candidate of a receipt and its verification are about the
entity as it is. -/
structure Describes (receipt : SynthesisReceipt) (entity : SemanticEntity)
    (candidate : CandidateEntity) : Prop where
  member : candidate ∈ receipt.candidates
  selected : receipt.selection.selectedCandidateId = some candidate.candidateId
  about : candidate.semanticId = entity.semanticId
  contentHash : candidate.contentHash = entityHash library forms entity
  verified : ∃ verification ∈ receipt.verifications,
    verification.candidateId = candidate.candidateId ∧ VerificationMatches verification entity

/-- An entity that fails a hard rule is there for review only. -/
def Admissible (entity : SemanticEntity) : Prop :=
  hardFailures entity ≠ [] → entity.authority = .reviewRequired

/-- Repairs numbered one, two and so on, within a bound. -/
def Numbered (bound : Nat) (repairs : List RepairPlan) : Prop :=
  repairs.map (fun repair => repair.attempt.1) = List.range' 1 repairs.length ∧
    repairs.length ≤ bound

structure Truthful (result : MultiPassSynthesisResult) : Prop where
  receipts : ∀ entity ∈ result.selectedSemanticIr.entities,
    ∃ receipt candidate, receiptsOf result entity.semanticId = [receipt] ∧
      Describes library forms receipt entity candidate
  admissible : ∀ entity ∈ result.selectedSemanticIr.entities, Admissible entity
  numbered : ∀ entity ∈ result.selectedSemanticIr.entities,
    Numbered result.plan.maxRepairsPerEntity.1 (repairsOf result entity.semanticId)

/-! ## Receipts beside their entities -/

/-- A receipt as synthesis writes it: one candidate and its verification. -/
structure Beside (entity : SemanticEntity) (receipt : SynthesisReceipt) (candidate : CandidateEntity)
    (verification : VerificationResult) : Prop where
  candidates : receipt.candidates = [candidate]
  verifications : receipt.verifications = [verification]
  about : candidate.semanticId = entity.semanticId
  verifies : verification.candidateId = candidate.candidateId
  selected : ∀ selected, receipt.selection.selectedCandidateId = some selected →
    selected = candidate.candidateId
  named : candidate.candidateId ≠ ""
  repairs : ∀ repair ∈ receipt.repairs, repair.semanticId = entity.semanticId

def Aligned (entity : SemanticEntity) (receipt : SynthesisReceipt) : Prop :=
  ∃ candidate verification, Beside entity receipt candidate verification

/-- What every result of synthesis and repair has in common. -/
structure Wellformed (result : MultiPassSynthesisResult) : Prop where
  aligned : List.Forall₂ Aligned result.selectedSemanticIr.entities result.receipts
  distinct : result.selectedSemanticIr.semanticIds.Nodup
  bound : result.plan.maxRepairsPerEntity.1 = 1

variable {entity : SemanticEntity} {receipt : SynthesisReceipt}

theorem Aligned.about_eq (aligned : Aligned entity receipt) (semanticId : String) :
    (receipt.candidates.any fun candidate => candidate.semanticId = semanticId) =
      decide (entity.semanticId = semanticId) := by
  rcases aligned with ⟨candidate, verification, beside⟩
  simp [beside.candidates, beside.about]

theorem Aligned.repairs_eq (aligned : Aligned entity receipt) (semanticId : String) :
    (receipt.repairs.filter fun repair => repair.semanticId = semanticId) =
      if entity.semanticId = semanticId then receipt.repairs else [] := by
  rcases aligned with ⟨candidate, verification, beside⟩
  split
  · next same =>
    rw [List.filter_eq_self]
    intro repair mem
    rw [beside.repairs repair mem, decide_eq_true_iff]
    exact same
  · next differs =>
    rw [List.filter_eq_nil_iff]
    intro repair mem
    rw [beside.repairs repair mem, decide_eq_true_iff]
    exact differs

section Pairs

variable {entities : List SemanticEntity} {receipts : List SynthesisReceipt}

/-- The receipts and the repairs for an id, among some receipts. -/
def about (receipts : List SynthesisReceipt) (semanticId : String) :
    List SynthesisReceipt × List RepairPlan :=
  (receipts.filter fun receipt => receipt.candidates.any fun candidate =>
      candidate.semanticId = semanticId,
    (receipts.flatMap fun receipt => receipt.repairs).filter fun repair =>
      repair.semanticId = semanticId)

variable {entity : SemanticEntity}

theorem about_cons {receipt : SynthesisReceipt} (aligned : Aligned entity receipt)
    (semanticId : String) :
    about (receipt :: receipts) semanticId =
      if entity.semanticId = semanticId then
        (receipt :: (about receipts semanticId).1, receipt.repairs ++ (about receipts semanticId).2)
      else about receipts semanticId := by
  unfold about
  rw [List.filter_cons, List.flatMap_cons, List.filter_append, aligned.about_eq,
    aligned.repairs_eq]
  by_cases same : entity.semanticId = semanticId
  · simp only [same, decide_true, if_true]
  · simp [same]

section

variable (aligned : List.Forall₂ Aligned entities receipts)

include aligned

theorem about_eq_nil {semanticId : String}
    (absent : semanticId ∉ entities.map SemanticEntity.semanticId) :
    about receipts semanticId = ([], []) := by
  induction aligned with
  | nil => rfl
  | cons first _ ih =>
    rw [List.map_cons, List.mem_cons, not_or] at absent
    rw [about_cons first, if_neg fun same => absent.1 same.symm]
    exact ih absent.2

theorem about_eq_singleton (distinct : (entities.map SemanticEntity.semanticId).Nodup) :
    ∀ pair ∈ entities.zip receipts,
      about receipts pair.1.semanticId = ([pair.2], pair.2.repairs) := by
  induction aligned with
  | nil =>
    intro pair mem
    cases mem
  | @cons entity receipt entities receipts first rest ih =>
    rw [List.map_cons, List.nodup_cons] at distinct
    rw [List.zip_cons_cons, List.forall_mem_cons]
    constructor
    · rw [about_cons first, if_pos rfl, about_eq_nil rest distinct.1, List.append_nil]
    · intro pair mem
      have listed := List.mem_map_of_mem (f := SemanticEntity.semanticId) (List.of_mem_zip mem).1
      have differs : entity.semanticId ≠ pair.1.semanticId := by
        intro same
        rw [← same] at listed
        exact distinct.1 listed
      rw [about_cons first, if_neg differs]
      exact ih distinct.2 pair mem

theorem exists_mem_zip (mem : entity ∈ entities) :
    ∃ receipt, (entity, receipt) ∈ entities.zip receipts := by
  rw [← List.map_fst_zip aligned.length_eq.le, List.mem_map] at mem
  rcases mem with ⟨⟨first, receipt⟩, pairMem, rfl⟩
  exact ⟨receipt, pairMem⟩

end

end Pairs

/-- An entity with its own receipt. -/
structure Good (bound : Nat) (entity : SemanticEntity) (receipt : SynthesisReceipt) : Prop where
  describes : ∃ candidate, Describes library forms receipt entity candidate
  admissible : Admissible entity
  numbered : Numbered bound receipt.repairs

variable {library forms} {result : MultiPassSynthesisResult}

theorem Wellformed.truthful_iff (wellformed : Wellformed result) :
    Truthful library forms result ↔
      ∀ pair ∈ result.selectedSemanticIr.entities.zip result.receipts,
        Good library forms result.plan.maxRepairsPerEntity.1 pair.1 pair.2 := by
  have only := about_eq_singleton wellformed.aligned wellformed.distinct
  constructor
  · intro truthful pair mem
    have listed := (List.of_mem_zip mem).1
    have here := only pair mem
    rcases truthful.receipts pair.1 listed with ⟨receipt, candidate, found, describes⟩
    have same : pair.2 = receipt :=
      List.head_eq_of_cons_eq ((congrArg Prod.fst here).symm.trans found)
    subst same
    have numbered := truthful.numbered pair.1 listed
    rw [show repairsOf result pair.1.semanticId = pair.2.repairs from congrArg Prod.snd here]
      at numbered
    exact ⟨⟨candidate, describes⟩, truthful.admissible pair.1 listed, numbered⟩
  · intro good
    have paired {entity : SemanticEntity} (listed : entity ∈ result.selectedSemanticIr.entities) :=
      exists_mem_zip wellformed.aligned listed
    constructor
    · intro entity listed
      rcases paired listed with ⟨receipt, mem⟩
      rcases (good _ mem).describes with ⟨candidate, describes⟩
      exact ⟨receipt, candidate, congrArg Prod.fst (only _ mem), describes⟩
    · intro entity listed
      rcases paired listed with ⟨receipt, mem⟩
      exact (good _ mem).admissible
    · intro entity listed
      rcases paired listed with ⟨receipt, mem⟩
      rw [show repairsOf result entity.semanticId = receipt.repairs from
        congrArg Prod.snd (only _ mem)]
      exact (good _ mem).numbered

/-! ## One repair -/

variable {call : RepairCall} {next : MultiPassSynthesisResult}

theorem scopedRepair_eq_ok (ret : scopedRepair library forms result call = .ok next) :
    call.replacement.semanticId = call.semanticId ∧
      ∃ checked, next = repairedResult library forms result call checked := by
  unfold scopedRepair at ret
  split at ret
  · cases ret
  · next sameId =>
    split at ret
    · cases ret
    · split at ret
      · cases ret
      · split at ret
        · cases ret
        · next checked => exact ⟨not_not.mp sameId, checked, (Except.ok.inj ret).symm⟩

/-- What a repair puts in an entity's place. -/
def replaced (call : RepairCall) (entity : SemanticEntity) : SemanticEntity :=
  if entity.semanticId = call.semanticId then call.replacement else entity

theorem semanticId_replaced (sameId : call.replacement.semanticId = call.semanticId)
    (entity : SemanticEntity) : (replaced call entity).semanticId = entity.semanticId := by
  unfold replaced
  split
  · next isNamed => rw [sameId, isNamed]
  · rfl

variable {entity : SemanticEntity} {receipt : SynthesisReceipt} {candidate : CandidateEntity}
  {verification : VerificationResult} {repaired : SemanticContentBase}

theorem repairReceipt_of_other (aligned : Aligned entity receipt)
    (other : entity.semanticId ≠ call.semanticId) :
    repairReceipt library forms call repaired receipt = receipt := by
  have unrelated := aligned.about_eq call.semanticId
  rw [decide_eq_false other] at unrelated
  simp [repairReceipt, isRepaired, unrelated]

theorem Beside.repairReceipt (beside : Beside entity receipt candidate verification)
    (sameId : call.replacement.semanticId = call.semanticId) :
    Beside (replaced call entity) (repairReceipt library forms call repaired receipt) candidate
      verification := by
  have aligned : Aligned entity receipt := ⟨candidate, verification, beside⟩
  by_cases named : entity.semanticId = call.semanticId
  · have about : candidate.semanticId = (replaced call entity).semanticId := by
      rw [semanticId_replaced sameId]
      exact beside.about
    unfold PedagogicalCompiler.repairReceipt
    split
    · refine ⟨beside.candidates, beside.verifications, about, beside.verifies, beside.selected,
        beside.named, ?_⟩
      intro repair mem
      rw [semanticId_replaced sameId]
      rcases List.mem_append.mp mem with old | added
      · exact beside.repairs repair old
      · rw [List.mem_singleton.mp added, named]
        rfl
    · refine ⟨beside.candidates, beside.verifications, about, beside.verifies, beside.selected,
        beside.named, ?_⟩
      rw [semanticId_replaced sameId]
      exact beside.repairs
  · rw [repairReceipt_of_other aligned named, replaced, if_neg named]
    exact beside

theorem Wellformed.repairedResult (wellformed : Wellformed result)
    (sameId : call.replacement.semanticId = call.semanticId)
    (checked : (repairedBase result.selectedSemanticIr.toSemanticContentBase call).check = .ok ()) :
    Wellformed (repairedResult library forms result call checked) where
  aligned := by
    apply List.forall₂_map_left_iff.mpr
    apply List.forall₂_map_right_iff.mpr
    exact wellformed.aligned.imp fun entity receipt ⟨candidate, verification, beside⟩ =>
      ⟨candidate, verification, beside.repairReceipt sameId⟩
  distinct := by
    have same : (PedagogicalCompiler.repairedResult library forms result call
        checked).selectedSemanticIr.semanticIds = result.selectedSemanticIr.semanticIds := by
      change (result.selectedSemanticIr.entities.map (replaced call)).map _ = _
      rw [List.map_map]
      exact List.map_congr_left fun entity _ => semanticId_replaced sameId entity
    rw [same]
    exact wellformed.distinct
  bound := wellformed.bound

/-- A replacement with the hash and the failures of the entity it replaces. -/
structure SameFindings (library : Library) (forms : CanonicalForms)
    (entity replacement : SemanticEntity) : Prop where
  contentHash : entityHash library forms replacement = entityHash library forms entity
  failures : hardFailures replacement = hardFailures entity
  admissible : Admissible replacement

theorem Beside.eq_of_describes (beside : Beside entity receipt candidate verification)
    {other : SemanticEntity} {described : CandidateEntity}
    (describes : Describes library forms receipt other described) :
    described = candidate ∧ VerificationMatches verification other := by
  have member := describes.member
  rw [beside.candidates, List.mem_singleton] at member
  rcases describes.verified with ⟨verified, verifiedMem, _, verdict⟩
  rw [beside.verifications, List.mem_singleton] at verifiedMem
  exact ⟨member, verifiedMem ▸ verdict⟩

theorem numbered_concat_iff {repairs : List RepairPlan} {repair : RepairPlan}
    (isFirst : repair.attempt.1 = 1) : Numbered 1 (repairs ++ [repair]) ↔ repairs = [] := by
  constructor
  · intro numbered
    have length := numbered.2
    rw [List.length_append, List.length_singleton] at length
    exact List.eq_nil_of_length_eq_zero (by omega)
  · rintro rfl
    simp [Numbered, isFirst]

theorem repairReceipt_of_named (beside : Beside entity receipt candidate verification)
    (selected : receipt.selection.selectedCandidateId = some candidate.candidateId)
    (named : entity.semanticId = call.semanticId) :
    repairReceipt library forms call repaired receipt =
      hashedReceipt library forms
        { receipt.toReceiptBase with
          repairs := receipt.repairs ++ [repairPlan library call repaired receipt.receiptId] } := by
  have aligned : Aligned entity receipt := ⟨candidate, verification, beside⟩
  have related := aligned.about_eq call.semanticId
  rw [decide_eq_true named] at related
  have isRepairedTrue : isRepaired call.semanticId receipt = true := by
    simp [isRepaired, related, selected, beside.named]
  exact if_pos isRepairedTrue

theorem Good.repaired_iff (good : Good library forms 1 entity receipt)
    (aligned : Aligned entity receipt) (named : entity.semanticId = call.semanticId)
    (sameId : call.replacement.semanticId = call.semanticId) :
    Good library forms 1 call.replacement (repairReceipt library forms call repaired receipt) ↔
      SameFindings library forms entity call.replacement ∧ receipt.repairs = [] := by
  rcases aligned with ⟨candidate, verification, beside⟩
  rcases good.describes with ⟨described, describes⟩
  rcases beside.eq_of_describes describes with ⟨rfl, verdict⟩
  have isFirst : (repairPlan library call repaired receipt.receiptId).attempt.1 = 1 := rfl
  have besideNew : Beside (replaced call entity)
      (PedagogicalCompiler.repairReceipt library forms call repaired receipt) described
        verification := beside.repairReceipt sameId
  rw [repairReceipt_of_named beside describes.selected named] at besideNew ⊢
  constructor
  · intro goodNew
    rcases goodNew.describes with ⟨other, describesNew⟩
    rcases besideNew.eq_of_describes describesNew with ⟨rfl, verdictNew⟩
    refine ⟨⟨?_, ?_, goodNew.admissible⟩, (numbered_concat_iff isFirst).mp goodNew.numbered⟩
    · exact describesNew.contentHash.symm.trans describes.contentHash
    · exact verdictNew.failures.symm.trans verdict.failures
  · rintro ⟨findings, unrepaired⟩
    refine ⟨⟨described, ?_⟩, findings.admissible, (numbered_concat_iff isFirst).mpr unrepaired⟩
    have about : described.semanticId = call.replacement.semanticId := by
      rw [describes.about, named, sameId]
    refine ⟨describes.member, describes.selected, about,
      describes.contentHash.trans findings.contentHash.symm, verification, ?_, beside.verifies, ?_⟩
    · exact besideNew.verifications ▸ List.mem_singleton_self verification
    · exact ⟨verdict.failures.trans findings.failures.symm, verdict.passed⟩

/-- A repair that raises, or the first one of an entity by content without new
findings. -/
def Harmless (library : Library) (forms : CanonicalForms) (result : MultiPassSynthesisResult)
    (call : RepairCall) : Prop :=
  ∀ next, scopedRepair library forms result call = .ok next →
    ∀ entity ∈ result.selectedSemanticIr.entities, entity.semanticId = call.semanticId →
      SameFindings library forms entity call.replacement ∧
        repairsOf result call.semanticId = []

theorem zip_repairedResult
    (checked : (repairedBase result.selectedSemanticIr.toSemanticContentBase call).check = .ok ()) :
    (repairedResult library forms result call checked).selectedSemanticIr.entities.zip
        (repairedResult library forms result call checked).receipts =
      (result.selectedSemanticIr.entities.zip result.receipts).map
        (Prod.map (replaced call) (repairReceipt library forms call
          (repairedBase result.selectedSemanticIr.toSemanticContentBase call))) :=
  List.zip_map ..

theorem Wellformed.truthful_repairedResult_iff (wellformed : Wellformed result)
    (truthful : Truthful library forms result)
    (ret : scopedRepair library forms result call = .ok next) :
    Truthful library forms next ↔ Harmless library forms result call := by
  rcases scopedRepair_eq_ok ret with ⟨sameId, checked, rfl⟩
  have good := wellformed.truthful_iff.mp truthful
  have only := about_eq_singleton wellformed.aligned wellformed.distinct
  have aligned {entity : SemanticEntity} {receipt : SynthesisReceipt}
      (mem : (entity, receipt) ∈ result.selectedSemanticIr.entities.zip result.receipts) :
      Aligned entity receipt := List.forall₂_zip wellformed.aligned mem
  rw [(wellformed.repairedResult sameId checked).truthful_iff, zip_repairedResult checked,
    List.forall_mem_map]
  change (∀ pair ∈ _, Good library forms result.plan.maxRepairsPerEntity.1 _ _) ↔ _
  rw [wellformed.bound] at good ⊢
  constructor
  · intro goodNext _ _ entity listed named
    rcases exists_mem_zip wellformed.aligned listed with ⟨receipt, mem⟩
    have goodPair := goodNext (entity, receipt) mem
    simp only [Prod.map_fst, Prod.map_snd, replaced, if_pos named] at goodPair
    rcases ((good _ mem).repaired_iff (aligned mem) named sameId).mp goodPair
      with ⟨findings, unrepaired⟩
    refine ⟨findings, ?_⟩
    rw [← named]
    exact (congrArg Prod.snd (only _ mem)).trans unrepaired
  · rintro harmless ⟨entity, receipt⟩ mem
    by_cases named : entity.semanticId = call.semanticId
    · rcases harmless _ ret entity (List.of_mem_zip mem).1 named
        with ⟨findings, unrepaired⟩
      rw [← named] at unrepaired
      simp only [Prod.map_fst, Prod.map_snd, replaced, if_pos named]
      exact ((good _ mem).repaired_iff (aligned mem) named sameId).mpr
        ⟨findings, (congrArg Prod.snd (only _ mem)).symm.trans unrepaired⟩
    · simp only [Prod.map_fst, Prod.map_snd, replaced, if_neg named]
      rw [repairReceipt_of_other (aligned mem) named]
      exact good _ mem

/-! ## The result of synthesis -/

section Start

variable {α β γ : Type} {executed : Option (Executed β)} {program : ProgramRef}
  {ir : SemanticContentIR}

theorem nodup_of_check {base : SemanticContentBase} (checked : base.check = .ok ()) :
    base.semanticIds.Nodup := by
  by_contra duplicate
  unfold SemanticContentBase.check SemanticContentBase.checkIds at checked
  rw [if_pos duplicate] at checked
  cases checked

theorem isToolFailure_append (text : String) : isToolFailure ("tool:" ++ text) = true := by
  unfold isToolFailure
  rw [String.toList_append, List.isPrefixOf_iff_prefix]
  exact List.prefix_append _ _

theorem filter_toolFailures (kind : SemanticKind) :
    (toolFailures kind executed).filter (fun failure => !isToolFailure failure) = [] := by
  rw [List.filter_eq_nil_iff]
  intro failure mem
  unfold toolFailures at mem
  split at mem
  · cases mem
  · split at mem
    · rw [List.mem_singleton.mp mem, isToolFailure_append]
      decide
    · cases mem

theorem filter_hardFailures (entity : SemanticEntity) :
    (hardFailures entity).filter (fun failure => !isToolFailure failure) = hardFailures entity := by
  rw [List.filter_eq_self]
  intro failure mem
  have isCode : failure ∈ ["missing_evidence", "answer_leakage", "unsupported_authority"] := by
    unfold hardFailures at mem
    simp only [List.mem_append, List.mem_ite_nil_right, List.mem_singleton] at mem
    rcases mem with (⟨_, rfl⟩ | ⟨_, rfl⟩) | ⟨_, rfl⟩ <;> simp
  simp only [List.mem_cons, List.not_mem_nil, or_false] at isCode
  rcases isCode with rfl | rfl | rfl <;> decide

theorem verificationResult_matches :
    VerificationMatches (verificationResult library forms program entity executed) entity := by
  refine ⟨?_, rfl⟩
  change (hardFailures entity ++ toolFailures entity.kind executed).filter _ = _
  rw [List.filter_append, filter_hardFailures, filter_toolFailures, List.append_nil]

theorem beside_synthesisReceipt :
    Beside entity (synthesisReceipt library forms program ir entity executed)
      (candidateEntity library forms program entity)
      (verificationResult library forms program entity executed) where
  candidates := rfl
  verifications := rfl
  about := rfl
  verifies := rfl
  selected selected given := by
    change (if _ then some (candidateEntity library forms program entity).candidateId else none) =
      some selected at given
    split at given
    · exact (Option.some.inj given).symm
    · cases given
  named := by
    change ("candidate-entity" ++ "-" ++ _ : String) ≠ ""
    intro empty
    have chars := congrArg String.toList empty
    rw [String.toList_append] at chars
    cases chars
  repairs _ member := by cases member

/-- An entity without a failure, or there for review. -/
def Sound (entity : SemanticEntity) (executed : Option (Executed β)) : Prop :=
  hardFailures entity ++ toolFailures entity.kind executed = [] ∨
    entity.authority = .reviewRequired

theorem selected_synthesisReceipt_iff :
    (synthesisReceipt library forms program ir entity executed).selection.selectedCandidateId =
        some (candidateEntity library forms program entity).candidateId ↔ Sound entity executed := by
  change (if (hardFailures entity ++ toolFailures entity.kind executed).isEmpty = true ∨
    entity.authority = .reviewRequired then some _ else none) = some _ ↔ _
  constructor
  · intro selected
    split at selected
    · next kept => exact kept.imp_left List.isEmpty_iff.mp
    · cases selected
  · exact fun sound => if_pos (sound.imp_left List.isEmpty_iff.mpr)

theorem good_synthesisReceipt_iff :
    Good library forms 1 entity (synthesisReceipt library forms program ir entity executed) ↔
      Sound entity executed := by
  constructor
  · intro good
    rcases good.describes with ⟨candidate, describes⟩
    rcases beside_synthesisReceipt.eq_of_describes describes with ⟨rfl, _⟩
    exact selected_synthesisReceipt_iff.mp describes.selected
  · intro sound
    refine ⟨⟨candidateEntity library forms program entity, ?_⟩, ?_, ?_⟩
    · exact ⟨.head _, selected_synthesisReceipt_iff.mpr sound, rfl, rfl,
        verificationResult library forms program entity executed, .head _, rfl,
        verificationResult_matches⟩
    · intro failing
      exact sound.resolve_left fun none_failing => failing (List.append_eq_nil_iff.mp none_failing).1
    · exact ⟨rfl, Nat.zero_le 1⟩

variable {δ ε : Type}

theorem forall₂_zipWith {relation : γ → ε → Prop} {make : γ → δ → ε}
    (holds : ∀ first second, relation first (make first second)) {firsts : List γ}
    {seconds : List δ} (lengths : firsts.length = seconds.length) :
    List.Forall₂ relation firsts (List.zipWith make firsts seconds) := by
  induction firsts generalizing seconds with
  | nil => exact .nil
  | cons first firsts ih =>
    cases seconds with
    | nil => cases lengths
    | cons second seconds => exact .cons (holds first second) (ih (Nat.succ.inj lengths))

theorem zip_zipWith_self (make : γ → δ → ε) (firsts : List γ) (seconds : List δ) :
    firsts.zip (List.zipWith make firsts seconds) =
      (firsts.zip seconds).map fun pair => (pair.1, make pair.1 pair.2) := by
  induction firsts generalizing seconds with
  | nil => rfl
  | cons first firsts ih =>
    cases seconds with
    | nil => rfl
    | cons second seconds => exact congrArg (List.cons _) (ih seconds)

variable (runtime? : Option (Toolbox α β × Cache β)) (textInput : String → α)
  (tenantScope policyVersion : String)

theorem length_readabilityRuns (entities : List SemanticEntity) :
    (readabilityRuns library runtime? textInput tenantScope policyVersion entities).length =
      entities.length := by
  unfold readabilityRuns
  split
  · rw [List.length_map]
  · rw [List.length_map, Machine.length_answers, List.length_map]

theorem wellformed_synthesize : Wellformed
    (synthesizeSemanticContent library forms runtime? textInput tenantScope policyVersion program
      ir) where
  aligned := forall₂_zipWith (fun _ _ => ⟨_, _, beside_synthesisReceipt⟩)
    (length_readabilityRuns runtime? textInput tenantScope policyVersion ir.entities).symm
  distinct := nodup_of_check ir.checked
  bound := rfl

theorem truthful_synthesize_iff : Truthful library forms
    (synthesizeSemanticContent library forms runtime? textInput tenantScope policyVersion program
      ir) ↔
    ∀ pair ∈ ir.entities.zip (readabilityRuns library runtime? textInput tenantScope policyVersion
      ir.entities), Sound pair.1 pair.2 := by
  rw [(wellformed_synthesize runtime? textInput tenantScope policyVersion).truthful_iff]
  change (∀ pair ∈ ir.entities.zip (List.zipWith _ ir.entities _), Good library forms 1 _ _) ↔ _
  rw [zip_zipWith_self, List.forall_mem_map]
  exact forall₂_congr fun _ _ => good_synthesisReceipt_iff

end Start

/-- A repair replaces the named entity, raises the version by one and leaves the
rest of the IR. -/
structure ReplacesOnly (result next : MultiPassSynthesisResult) (call : RepairCall) : Prop where
  version : next.selectedSemanticIr.version.1 = result.selectedSemanticIr.version.1 + 1
  entities : next.selectedSemanticIr.entities =
    result.selectedSemanticIr.entities.map (replaced call)
  semanticIds : next.selectedSemanticIr.semanticIds = result.selectedSemanticIr.semanticIds
  frame : { next.selectedSemanticIr.toSemanticContentBase with
      version := result.selectedSemanticIr.version
      entities := result.selectedSemanticIr.entities } =
    result.selectedSemanticIr.toSemanticContentBase
  plan : next.plan = result.plan

theorem replacesOnly_of_returned (ret : scopedRepair library forms result call = .ok next) :
    ReplacesOnly result next call := by
  rcases scopedRepair_eq_ok ret with ⟨sameId, checked, rfl⟩
  refine ⟨rfl, rfl, ?_, rfl, rfl⟩
  change (result.selectedSemanticIr.entities.map (replaced call)).map _ = _
  rw [List.map_map]
  exact List.map_congr_left fun entity _ => semanticId_replaced sameId entity

theorem repairing_step_eq (ret : scopedRepair library forms result call = .ok next) :
    ((repairing library forms).step result call).1 = next := by
  simp only [repairing, ret]

theorem repairing_step_of_error {error : RepairError}
    (raised : scopedRepair library forms result call = .error error) :
    ((repairing library forms).step result call).1 = result := by
  simp only [repairing, raised]

theorem Wellformed.step (wellformed : Wellformed result) :
    Wellformed ((repairing library forms).step result call).1 := by
  cases outcome : scopedRepair library forms result call with
  | error error =>
    rw [repairing_step_of_error outcome]
    exact wellformed
  | ok next =>
    rw [repairing_step_eq outcome]
    rcases scopedRepair_eq_ok outcome with ⟨sameId, checked, rfl⟩
    exact wellformed.repairedResult sameId checked

theorem Wellformed.truthful_step_iff (wellformed : Wellformed result)
    (truthful : Truthful library forms result) :
    Truthful library forms ((repairing library forms).step result call).1 ↔
      Harmless library forms result call := by
  cases outcome : scopedRepair library forms result call with
  | error error =>
    rw [repairing_step_of_error outcome]
    refine iff_of_true truthful fun next ret => ?_
    rw [outcome] at ret
    cases ret
  | ok next =>
    rw [repairing_step_eq outcome]
    exact wellformed.truthful_repairedResult_iff truthful outcome

/-- Every repair replaces only the entity it names; and the receipts stay
truthful through a run exactly when every entity was sound and every repair
harmless. -/
theorem receipts_truthful_iff {α β : Type} (library : Library) (forms : CanonicalForms)
    (runtime? : Option (Toolbox α β × Cache β)) (textInput : String → α)
    (tenantScope policyVersion : String) (program : ProgramRef) (ir : SemanticContentIR)
    (calls : List RepairCall) :
    (∀ visit ∈ (repairing library forms).visits
        (synthesizeSemanticContent library forms runtime? textInput tenantScope policyVersion
          program ir) calls,
      ∀ next, scopedRepair library forms visit.1 visit.2 = .ok next →
        ReplacesOnly visit.1 next visit.2) ∧
    ((∀ result ∈ (repairing library forms).states
        (synthesizeSemanticContent library forms runtime? textInput tenantScope policyVersion
          program ir) calls, Truthful library forms result) ↔
      (∀ pair ∈ ir.entities.zip (readabilityRuns library runtime? textInput tenantScope
        policyVersion ir.entities), Sound pair.1 pair.2) ∧
      ∀ visit ∈ (repairing library forms).visits
        (synthesizeSemanticContent library forms runtime? textInput tenantScope policyVersion
          program ir) calls, Harmless library forms visit.1 visit.2) := by
  refine ⟨fun visit _ next ret => replacesOnly_of_returned ret, ?_⟩
  rw [← truthful_synthesize_iff runtime? textInput tenantScope policyVersion]
  exact Machine.forall_states_iff (fun result call wellformed => wellformed.step)
    (fun result call wellformed truthful => wellformed.truthful_step_iff truthful)
    (wellformed_synthesize runtime? textInput tenantScope policyVersion) calls

def exampleEntity (text : String) (length : 1 ≤ text.length ∧ text.length ≤ 8000) :
    SemanticEntity where
  kind := .example
  semanticId := "semantic-example-1"
  objectiveIds := ["objective-1"]
  kcIds := ["kc-1"]
  audience := .student
  language := "en"
  sourceEvidenceIds := []
  dependencyIds := []
  authority := .reviewRequired
  risk := .medium
  reusePolicy := .reusable
  artifactEligibility := ["lesson"]
  text := text
  audience_teacher isTeacherOnly := absurd isTeacherOnly (by decide)
  reusePolicy_teacherOnly isTeacherOnly := absurd isTeacherOnly (by decide)
  nonempty := by decide
  text_length := length

def exampleIr : SemanticContentIR where
  semanticIrId := "semantic-ir-1"
  version := ⟨1, Nat.one_pos⟩
  programId := "program-1"
  objectiveGraphId := "objective-graph-1"
  language := "en"
  entities := [exampleEntity "First draft" (by decide)]
  dependencies := []
  semanticHash := ""
  checked := rfl

def textForms : CanonicalForms where
  entity entity := entity.text
  semanticIr _ := ""
  receipt _ := ""

def newText : RepairCall where
  semanticId := "semantic-example-1"
  replacement := exampleEntity "Second draft" (by decide)
  failureCodes := ["age_language"]

theorem newText_returns : ∃ next, scopedRepair plainLibrary textForms
    (synthesizeSemanticContent plainLibrary textForms (none : Option (Toolbox Unit Unit × Cache Unit))
      (fun _ => ()) "org-a" "domain_tools.v1" ⟨"program-1", "program-hash"⟩ exampleIr) newText =
        .ok next :=
  ⟨_, rfl⟩

theorem receipts_not_truthful : ¬ ∀ (ir : SemanticContentIR) (calls : List RepairCall),
    ∀ result ∈ (repairing plainLibrary textForms).states
      (synthesizeSemanticContent plainLibrary textForms
        (none : Option (Toolbox Unit Unit × Cache Unit)) (fun _ => ()) "org-a" "domain_tools.v1"
        ⟨"program-1", "program-hash"⟩ ir) calls, Truthful plainLibrary textForms result := by
  intro claim
  have all := claim exampleIr [newText]
  rcases newText_returns with ⟨next, ret⟩
  have wellformed : Wellformed (synthesizeSemanticContent plainLibrary textForms
      (none : Option (Toolbox Unit Unit × Cache Unit)) (fun _ => ()) "org-a" "domain_tools.v1"
      ⟨"program-1", "program-hash"⟩ exampleIr) :=
    wellformed_synthesize none (fun _ => ()) "org-a" "domain_tools.v1"
  have harmless := (wellformed.truthful_step_iff (all _ (.head _))).mp (all _ (.tail _ (.head _)))
  have findings := (harmless next ret _ (.head _) rfl).1.contentHash
  revert findings
  decide

end OhMyClass.PedagogicalCompiler
