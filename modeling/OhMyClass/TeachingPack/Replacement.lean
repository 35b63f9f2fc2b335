import OhMyClass.TeachingPack.FanoutCompletion

/-!
# Regenerated references

The references of a cycle are merged into those of earlier cycles, which the
coordinator leaves out of what it writes and which the channel keeps.
-/

namespace OhMyClass.TeachingPack

open List OhMyClass.Contracts OhMyClass.Keyed OhMyClass.Transition Channel TeachingPackState

/-- The reference of the branch that ends. -/
def writtenBy (run : FanoutRun) (branchEnd : BranchEnd) : Option ArtifactReference :=
  match run.position with
  | .generating sends =>
    (takeBranch sends branchEnd.index).bind fun taken =>
      (generateOneArtifact taken.1 branchEnd.outcome).1
  | .coordinating | .finished => none

/-- The references a run has written, oldest first. -/
def writtenReferences (parallelism : Nat) (start : FanoutRun) (inputs : ℕ → BranchEnd) :
    ℕ → List ArtifactReference
  | 0 => []
  | n + 1 =>
    writtenReferences parallelism start inputs n ++
      (writtenBy ((fanoutMachine parallelism).trajectory start inputs n).1 (inputs n)).toList

/-! ## The ledger of a cycle -/

def FanoutPosition.openSends : FanoutPosition → List GenerateOneArtifactPayload
  | .generating sends => sends
  | .coordinating | .finished => []

def FanoutRun.openTypes (run : FanoutRun) : List String :=
  run.position.openSends.map GenerateOneArtifactPayload.artifactType

/-- What a cycle has written into the references it found. -/
structure Ledger (generationId : String) (before : ArtifactReferences) (sent : List String)
    (written : List ArtifactReference) (run : FanoutRun) : Prop where
  merged : run.state.artifactReferences = before.mergeEach written
  named : ∀ reference ∈ written, reference.generationId = generationId ∧
    reference.documentId = generationId ++ ":" ++ reference.artifactId
  typesOnce : (written.map ArtifactReference.artifactType).Nodup
  typesEnded : ∀ reference ∈ written,
    reference.artifactType ∈ sent ∧ reference.artifactType ∉ run.openTypes
  ofPassed : ∀ branch ∈ run.state.artifactWorkflowStates.members,
    branch.artifactGenerationId = generationId → branch.status = .passed →
      ∃ reference ∈ written, reference.artifactType = branch.artifactType
  fromQuiz : ∀ reference ∈ written, reference.artifactType = "answer_key" →
    ∃ quiz, (quiz ∈ before.members ∨ quiz ∈ written) ∧ quiz.artifactType = "quiz" ∧
      reference.quizDocumentId = some quiz.documentId
  readable : ∀ payload ∈ run.position.openSends,
    ∀ reference ∈ payload.dependencyArtifactReferences,
      reference ∈ before.members ∨ reference ∈ written

namespace Ledger

variable {generationId : String} {before : ArtifactReferences} {sent : List String}
  {written : List ArtifactReference} {parallelism : Nat}

theorem of_starts {start : FanoutRun} (starts : start.Starts) :
    Ledger start.state.currentId start.state.artifactReferences [] [] start where
  merged := rfl
  named := by simp
  typesOnce := nodup_nil
  typesEnded := by simp
  ofPassed := by
    intro branch stored isCurrent
    exact absurd isCurrent (starts.fresh branch stored)
  fromQuiz := by simp
  readable := by simp [starts.coordinating, FanoutPosition.openSends]

theorem source {run : FanoutRun} (ledger : Ledger generationId before sent written run)
    {reference : ArtifactReference} (stored : reference ∈ run.state.artifactReferences.members) :
    reference ∈ before.members ∨ reference ∈ written := by
  rw [ledger.merged] at stored
  rcases mem_mergeEach.mp stored with isLast | ⟨earlier, _⟩
  · exact .inr isLast.mem
  · exact .inl earlier

theorem sends {state : TeachingPackState} {sends : List GenerateOneArtifactPayload}
    (ledger : Ledger generationId before sent written ⟨state, .coordinating⟩)
    (incomplete : state.coordinated.artifactFanoutComplete = false)
    (areSends : routeAfterArtifactWorkflow parallelism state.coordinated = sends)
    (once : (sends.map GenerateOneArtifactPayload.artifactType ++ sent).Nodup) :
    Ledger generationId before (sends.map GenerateOneArtifactPayload.artifactType ++ sent) written
      ⟨state.coordinated, .generating sends⟩ where
  merged := (coordinated_artifactReferences state).trans ledger.merged
  named := ledger.named
  typesOnce := ledger.typesOnce
  typesEnded := by
    intro reference mem
    have isSent := (ledger.typesEnded reference mem).1
    refine ⟨mem_append_right _ isSent, fun isOpen => ?_⟩
    exact (nodup_append.mp once).2.2 _ isOpen _ isSent rfl
  ofPassed := by
    rw [artifactWorkflowStates_of_incomplete incomplete]
    exact ledger.ofPassed
  fromQuiz := ledger.fromQuiz
  readable := by
    intro payload isSend reference mem
    rw [((sends_sound incomplete areSends).1 payload isSend).2.2,
      coordinated_artifactReferences] at mem
    exact ledger.source mem

theorem openSends_of_rest {rest : List GenerateOneArtifactPayload} :
    FanoutPosition.openSends (if rest = [] then .coordinating else .generating rest) = rest := by
  split
  · next noRest =>
    rw [noRest]
    rfl
  · rfl

theorem branchEnds {state : TeachingPackState} {sends rest : List GenerateOneArtifactPayload}
    {payload : GenerateOneArtifactPayload} {requested : List String}
    (ledger : Ledger generationId before sent written ⟨state, .generating sends⟩)
    (rounds : Rounds generationId requested sent
      (sends.map GenerateOneArtifactPayload.artifactType) state)
    (sameId : payload.artifactGenerationId = generationId) (order : (payload :: rest).Perm sends)
    (outcome : ArtifactOutcome) :
    Ledger generationId before sent
      (written ++ (generateOneArtifact payload outcome).1.toList)
      ⟨state.writeArtifact payload outcome,
        if rest = [] then .coordinating else .generating rest⟩ := by
  have isOpen : payload ∈ sends := order.subset mem_cons_self
  have restOpen : rest ⊆ sends := fun _ mem => order.subset (mem_cons_of_mem _ mem)
  have typeOpen := mem_map_of_mem (f := GenerateOneArtifactPayload.artifactType) isOpen
  have openOnce : ((payload :: rest).map GenerateOneArtifactPayload.artifactType).Nodup :=
    (order.map GenerateOneArtifactPayload.artifactType).nodup_iff.mpr rounds.pendingOnce
  have newReference {reference : ArtifactReference}
      (isNew : reference ∈ (generateOneArtifact payload outcome).1.toList) :=
    generateOneArtifact_reference (Option.mem_toList.mp isNew)
  have grows : written ⊆ written ++ (generateOneArtifact payload outcome).1.toList :=
    subset_append_left _ _
  exact
    { merged := by
        change state.artifactReferences.merge _ = _
        have mergedBefore : state.artifactReferences = before.mergeEach written := ledger.merged
        rw [mergedBefore]
        cases (generateOneArtifact payload outcome).1 with
        | none => simpa using merge_of_subset (by simp)
        | some reference => exact mergeEach_concat.symm
      named := by
        intro reference mem
        rcases mem_append.mp mem with isOld | isNew
        · exact ledger.named reference isOld
        · rcases newReference isNew with ⟨isGeneration, isDocument, _, _⟩
          exact ⟨isGeneration.trans sameId, sameId ▸ isDocument⟩
      typesOnce := by
        cases written? : (generateOneArtifact payload outcome).1 with
        | none => simpa using ledger.typesOnce
        | some reference =>
          have isType := (generateOneArtifact_reference written?).2.2.1
          rw [Option.toList_some, map_append, map_singleton, isType]
          refine nodup_append.mpr ⟨ledger.typesOnce, nodup_singleton _, ?_⟩
          rintro artifactType isOld other isThis rfl
          rw [mem_singleton.mp isThis] at isOld
          rcases mem_map.mp isOld with ⟨old, oldMember, sameType⟩
          exact (ledger.typesEnded old oldMember).2 (sameType ▸ typeOpen)
      typesEnded := by
        intro reference mem
        unfold FanoutRun.openTypes
        rw [openSends_of_rest]
        rcases mem_append.mp mem with isOld | isNew
        · rcases ledger.typesEnded reference isOld with ⟨isSent, notOpen⟩
          exact ⟨isSent, fun isRest => notOpen (map_subset _ restOpen isRest)⟩
        · rw [(newReference isNew).2.2.1]
          exact ⟨rounds.pendingSent typeOpen, (nodup_cons.mp openOnce).1⟩
      ofPassed := by
        intro branch stored isCurrent isPassed
        rcases mem_merge_singleton.mp stored with rfl | ⟨earlier, _⟩
        · rcases generateOneArtifact_passed isPassed with ⟨reference, isWritten⟩
          refine ⟨reference, mem_append_right _ (by simp [isWritten]), ?_⟩
          rw [(generateOneArtifact_reference isWritten).2.2.1]
          exact (generateOneArtifact_state payload outcome).2.2.1.symm
        · rcases ledger.ofPassed branch earlier isCurrent isPassed with ⟨reference, isOld, isType⟩
          exact ⟨reference, grows isOld, isType⟩
      fromQuiz := by
        intro reference mem isKey
        rcases mem_append.mp mem with isOld | isNew
        · rcases ledger.fromQuiz reference isOld isKey with ⟨quiz, source, isQuiz, derived⟩
          exact ⟨quiz, source.imp_right fun isWritten => grows isWritten, isQuiz, derived⟩
        · rcases (newReference isNew).2.2.2 isKey with ⟨quiz, wasGiven, isQuiz, derived⟩
          have source := ledger.readable payload isOpen quiz wasGiven
          exact ⟨quiz, source.imp_right fun isWritten => grows isWritten, isQuiz, derived⟩
      readable := by
        rw [openSends_of_rest]
        intro other isRest reference wasGiven
        have source := ledger.readable other (restOpen isRest) reference wasGiven
        exact source.imp_right fun isWritten => grows isWritten }

theorem trajectory {start : FanoutRun} (atLeastOne : 1 ≤ parallelism) (starts : start.Starts)
    (inputs : ℕ → BranchEnd) (n : ℕ)
    (goesOn : ((fanoutMachine parallelism).trajectory start inputs n).1.position ≠ .finished) :
    Ledger start.state.currentId start.state.artifactReferences
      (sentTypes ((fanoutMachine parallelism).trajectory start inputs n).2)
      (writtenReferences parallelism start inputs n)
      ((fanoutMachine parallelism).trajectory start inputs n).1 := by
  induction n with
  | zero => exact .of_starts starts
  | succ n ih =>
    have standing := standing_trajectory atLeastOne starts inputs n
    have stepped := standing.stepped atLeastOne (inputs n)
    have after := stepped.standing
    change (FanoutRun.step parallelism _ (inputs n)).1.position ≠ .finished at goesOn
    change Ledger _ _ ((FanoutRun.step parallelism _ (inputs n)).2.map _ ++ sentTypes _) (_ ++ _)
      (FanoutRun.step parallelism _ (inputs n)).1
    generalize FanoutRun.step parallelism _ (inputs n) = next at *
    unfold writtenBy
    generalize ((fanoutMachine parallelism).trajectory start inputs n).1 = run at *
    cases stepped with
    | completes => exact absurd rfl goesOn
    | rests => exact absurd rfl goesOn
    | sends incomplete _ areSends =>
      simpa using (ih (by simp)).sends incomplete areSends after.sent_nodup
    | branchEnds _ _ taken order sameId =>
      cases standing with
      | generating _ _ _ _ rounds =>
        have ended := (ih (by simp)).branchEnds rounds (sameId _ (order.subset mem_cons_self))
          order (inputs n).outcome
        simpa [taken] using ended

end Ledger

/-! ## What a cycle replaces -/

/-- The types a cycle generates anew. -/
def regeneratedTypes (state : TeachingPackState) : List String :=
  state.requestedTypes.filter fun artifactType => artifactType ∈ planTypes

theorem mem_regeneratedTypes {state : TeachingPackState} {artifactType : String} :
    artifactType ∈ regeneratedTypes state ↔
      artifactType ∈ state.requestedTypes ∧ artifactType ∈ planTypes := by
  simp [regeneratedTypes]

/-- After a cycle each requested type has one reference, that of a regenerated
type is of the cycle, and its answer key is derived from its quiz. -/
structure Replaces (before after : TeachingPackState) : Prop where
  onlyOne : ∀ artifactType ∈ before.allRequestedTypes ++ regeneratedTypes before,
    ∃! reference, reference ∈ after.artifactReferences.members ∧
      reference.artifactType = artifactType
  newest : ∀ reference ∈ after.artifactReferences.members,
    reference.artifactType ∈ regeneratedTypes before → reference.generationId = before.currentId
  keyFromQuiz : "quiz" ∈ regeneratedTypes before → "answer_key" ∈ regeneratedTypes before →
    ∀ key ∈ after.artifactReferences.members, key.artifactType = "answer_key" →
      ∃ quiz ∈ after.artifactReferences.members, quiz.artifactType = "quiz" ∧
        quiz.generationId = before.currentId ∧ key.quizDocumentId = some quiz.documentId

/-- A cycle regenerates only types without a reference, there is one for every
other requested type, and the artifacts it generates have different ids. -/
structure NothingToReplace (before : TeachingPackState) (written : List ArtifactReference) :
    Prop where
  noneStored : ∀ reference ∈ before.artifactReferences.members,
    reference.artifactType ∉ regeneratedTypes before
  othersOnce : ∀ artifactType ∈ before.allRequestedTypes,
    artifactType ∉ regeneratedTypes before →
      ∃! reference, reference ∈ before.artifactReferences.members ∧
        reference.artifactType = artifactType
  idsDiffer : (written.map ArtifactReference.artifactId).Nodup

/-- No stored reference has an id of the generation that begins. -/
def FreshDocuments (state : TeachingPackState) : Prop :=
  ∀ reference ∈ state.artifactReferences.members, reference.generationId ≠ state.currentId ∧
    ∀ artifactId, reference.documentId ≠ state.currentId ++ ":" ++ artifactId

section Replacement

variable {before after : TeachingPackState} {sent : List String}
  {written : List ArtifactReference} {run : FanoutRun} {reference : ArtifactReference}

/-- What is stored at the end of a cycle. -/
structure CycleOutcome (before after : TeachingPackState) (written : List ArtifactReference) :
    Prop where
  fresh : FreshDocuments before
  merged : after.artifactReferences = before.artifactReferences.mergeEach written
  named : ∀ reference ∈ written, reference.generationId = before.currentId ∧
    reference.documentId = before.currentId ++ ":" ++ reference.artifactId
  typesOnce : (written.map ArtifactReference.artifactType).Nodup
  regenerated : ∀ artifactType, artifactType ∈ regeneratedTypes before ↔
    ∃ reference ∈ written, reference.artifactType = artifactType
  fromQuiz : ∀ key ∈ written, key.artifactType = "answer_key" →
    ∃ quiz, (quiz ∈ before.artifactReferences.members ∨ quiz ∈ written) ∧
      quiz.artifactType = "quiz" ∧ key.quizDocumentId = some quiz.documentId

namespace CycleOutcome

section

variable (outcome : CycleOutcome before after written)

include outcome

theorem mem_after :
    reference ∈ after.artifactReferences.members ↔
      IsLast ArtifactReference.documentId written reference ∨
        reference ∈ before.artifactReferences.members := by
  rw [outcome.merged, mem_mergeEach]
  constructor
  · rintro (isLast | ⟨stored, _⟩)
    · exact .inl isLast
    · exact .inr stored
  · rintro (isLast | stored)
    · exact .inl isLast
    · refine .inr ⟨stored, fun other mem sameDocument => ?_⟩
      rw [(outcome.named other mem).2] at sameDocument
      exact (outcome.fresh reference stored).2 _ sameDocument.symm

theorem eq_of_type {first second : ArtifactReference} (firstMem : first ∈ written)
    (secondMem : second ∈ written) (sameType : first.artifactType = second.artifactType) :
    first = second :=
  inj_on_of_nodup_map outcome.typesOnce firstMem secondMem sameType

theorem written_of_newest (stored : reference ∈ after.artifactReferences.members)
    (isNew : reference.generationId = before.currentId) : reference ∈ written := by
  rcases outcome.mem_after.mp stored with isLast | earlier
  · exact isLast.mem
  · exact absurd isNew (outcome.fresh reference earlier).1

theorem nothingToReplace (replaces : Replaces before after) : NothingToReplace before written := by
  have noneStored : ∀ reference ∈ before.artifactReferences.members,
      reference.artifactType ∉ regeneratedTypes before := by
    intro reference stored isRegenerated
    have isNew := replaces.newest reference (outcome.mem_after.mpr (.inr stored)) isRegenerated
    exact (outcome.fresh reference stored).1 isNew
  have allStored : ∀ reference ∈ written, reference ∈ after.artifactReferences.members := by
    intro reference mem
    have isRegenerated := (outcome.regenerated _).mpr ⟨reference, mem, rfl⟩
    rcases replaces.onlyOne reference.artifactType (mem_append_right _ isRegenerated) with
      ⟨only, ⟨stored, sameType⟩, _⟩
    have isNew := replaces.newest only stored (sameType ▸ isRegenerated)
    rw [← outcome.eq_of_type (outcome.written_of_newest stored isNew) mem sameType]
    exact stored
  exact
    { noneStored := noneStored
      othersOnce := by
        intro artifactType isRequested notRegenerated
        rcases replaces.onlyOne artifactType (mem_append_left _ isRequested) with
          ⟨only, ⟨stored, isType⟩, unique⟩
        refine ⟨only, ⟨?_, isType⟩, ?_⟩
        · rcases outcome.mem_after.mp stored with isLast | earlier
          · exact absurd ((outcome.regenerated _).mpr ⟨only, isLast.mem, isType⟩) notRegenerated
          · exact earlier
        · rintro other ⟨earlier, otherType⟩
          exact unique other ⟨outcome.mem_after.mpr (.inr earlier), otherType⟩
      idsDiffer := by
        apply List.Nodup.map_on _ (List.Nodup.of_map _ outcome.typesOnce)
        intro first firstMem second secondMem sameId
        have sameDocument : first.documentId = second.documentId := by
          rw [(outcome.named first firstMem).2, (outcome.named second secondMem).2, sameId]
        exact after.artifactReferences.unique.eq_of_key (allStored first firstMem)
          (allStored second secondMem) sameDocument }

theorem replaces (nothing : NothingToReplace before written) : Replaces before after := by
  have unique : Unique ArtifactReference.documentId written := by
    have different := pairwise_map.mp nothing.idsDiffer
    apply different.imp_of_mem
    intro first second firstMem secondMem differentIds sameDocument
    rw [(outcome.named first firstMem).2, (outcome.named second secondMem).2] at sameDocument
    exact differentIds ((String.append_right_inj _).mp sameDocument)
  have stored : ∀ reference ∈ written, reference ∈ after.artifactReferences.members := by
    rw [outcome.merged]
    exact fun _ mem => mem_mergeEach_of_unique unique mem
  have writtenOf : ∀ reference ∈ after.artifactReferences.members,
      reference.artifactType ∈ regeneratedTypes before → reference ∈ written := by
    intro reference mem isRegenerated
    rcases outcome.mem_after.mp mem with isLast | earlier
    · exact isLast.mem
    · exact absurd isRegenerated (nothing.noneStored reference earlier)
  exact
    { onlyOne := by
        intro artifactType mem
        by_cases isRegenerated : artifactType ∈ regeneratedTypes before
        · rcases (outcome.regenerated _).mp isRegenerated with ⟨reference, isWritten, rfl⟩
          refine ⟨reference, ⟨stored reference isWritten, rfl⟩, ?_⟩
          rintro other ⟨otherStored, sameType⟩
          have otherWritten := writtenOf other otherStored (sameType ▸ isRegenerated)
          exact outcome.eq_of_type otherWritten isWritten sameType
        · have isRequested := (mem_append.mp mem).resolve_right isRegenerated
          rcases nothing.othersOnce artifactType isRequested isRegenerated with
            ⟨only, ⟨earlier, isType⟩, onlyOne⟩
          refine ⟨only, ⟨outcome.mem_after.mpr (.inr earlier), isType⟩, ?_⟩
          rintro other ⟨otherStored, otherType⟩
          rcases outcome.mem_after.mp otherStored with isLast | otherEarlier
          · exact absurd ((outcome.regenerated _).mpr ⟨other, isLast.mem, otherType⟩) isRegenerated
          · exact onlyOne other ⟨otherEarlier, otherType⟩
      newest := by
        intro reference mem isRegenerated
        exact (outcome.named reference (writtenOf reference mem isRegenerated)).1
      keyFromQuiz := by
        intro quizRegenerated keyRegenerated key keyStored isKey
        have keyWritten := writtenOf key keyStored (isKey ▸ keyRegenerated)
        rcases outcome.fromQuiz key keyWritten isKey with ⟨quiz, source, isQuiz, derived⟩
        rcases source with earlier | isWritten
        · exact absurd (isQuiz ▸ quizRegenerated) (nothing.noneStored quiz earlier)
        · exact ⟨quiz, stored quiz isWritten, isQuiz, (outcome.named quiz isWritten).1, derived⟩ }

end

end CycleOutcome

end Replacement

/-- Every stored document has the id of a revision so far. -/
def NumberedDocuments (state : TeachingPackState) : Prop :=
  ∀ reference ∈ state.artifactReferences.members, ∃ revision ≤ state.generationRevision,
    reference.generationId = generationIdText state.runId revision ∧
      ∃ artifactId, reference.documentId =
        generationIdText state.runId revision ++ ":" ++ artifactId

namespace NumberedDocuments

variable {state : TeachingPackState}

theorem initial (runId : String) (contract : Contract) :
    NumberedDocuments (TeachingPackState.initial runId contract) := by
  intro reference mem
  cases mem

theorem coordinated (documents : NumberedDocuments state) : NumberedDocuments state.coordinated := by
  intro reference mem
  rw [coordinated_artifactReferences] at mem
  rcases documents reference mem with ⟨revision, isEarlier, isNumbered⟩
  refine ⟨revision, ?_, isNumbered⟩
  rw [Numbered.generationRevision_coordinated]
  exact isEarlier.trans Numbered.generationRevision_le

theorem step {parallelism : Nat} {generationId : String} {sent : List String} {run : FanoutRun}
    {branchEnd : BranchEnd} {after : FanoutRun × List GenerateOneArtifactPayload}
    (documents : NumberedDocuments run.state) (numbered : Numbered run.state)
    (stepped : Stepped parallelism generationId sent branchEnd run after) :
    NumberedDocuments after.1.state := by
  cases stepped with
  | completes | sends => exact documents.coordinated
  | rests => exact documents
  | @branchEnds state _ _ payload incomplete _ _ order sameId rounds =>
    have isCurrent : payload.artifactGenerationId =
        generationIdText state.runId state.generationRevision := by
      rw [sameId _ (order.subset mem_cons_self), ← rounds.isCurrent,
        currentId_writeArtifact incomplete, numbered.currentId_eq,
        nextGenerationRevision_of_incomplete incomplete]
    intro reference mem
    rcases mem_merge.mp mem with isLast | ⟨stored, _⟩
    · rcases generateOneArtifact_reference (Option.mem_toList.mp isLast.mem) with
        ⟨isGeneration, isDocument, _⟩
      exact ⟨_, le_rfl, isGeneration.trans isCurrent, _, isCurrent ▸ isDocument⟩
    · exact documents reference stored

theorem trajectory {parallelism : Nat} (atLeastOne : 1 ≤ parallelism) {start : FanoutRun}
    (starts : start.Starts) (numbered : Numbered start.state)
    (documents : NumberedDocuments start.state) (inputs : ℕ → BranchEnd) (n : ℕ) :
    NumberedDocuments ((fanoutMachine parallelism).trajectory start inputs n).1.state := by
  induction n with
  | zero => exact documents
  | succ n ih =>
    exact ih.step (numbered.trajectory atLeastOne starts inputs n)
      ((standing_trajectory atLeastOne starts inputs n).stepped atLeastOne (inputs n))

theorem fresh (documents : NumberedDocuments state) (numbered : Numbered state)
    (isNew : state.needsNewGenerationCycle = true) : FreshDocuments state := by
  have isNext : state.nextGenerationRevision = state.generationRevision + 1 := by
    simp [nextGenerationRevision, isNew]
  intro reference mem
  rcases documents reference mem with ⟨revision, isEarlier, isGeneration, artifactId, isDocument⟩
  rw [numbered.currentId_eq]
  constructor
  · intro sameId
    have same := generationIdText_injective _ (isGeneration.symm.trans sameId)
    omega
  · intro otherId sameDocument
    have same := generationIdText_of_document (isDocument.symm.trans sameDocument)
    omega

end NumberedDocuments

section Cycles

variable {parallelism : Nat} {start : FanoutRun}

theorem cycleOutcome_of_passed (atLeastOne : 1 ≤ parallelism) (starts : start.Starts)
    (settled : start.state.Settled) (fresh : FreshDocuments start.state)
    (inputs : ℕ → BranchEnd) (n : ℕ)
    (isCoordinating :
      ((fanoutMachine parallelism).trajectory start inputs n).1.position = .coordinating)
    (completes :
      ((fanoutMachine parallelism).trajectory start inputs (n + 1)).1.position = .finished)
    (allPassed : ∀ branch ∈
      generationStates ((fanoutMachine parallelism).trajectory start inputs (n + 1)).1.state,
      branch.status = .passed) :
    CycleOutcome start.state ((fanoutMachine parallelism).trajectory start inputs (n + 1)).1.state
      (writtenReferences parallelism start inputs n) := by
  have cycle := Cycle.trajectory atLeastOne starts settled inputs n
  have ledger := Ledger.trajectory atLeastOne starts inputs n (by simp [isCoordinating])
  have stepped := (standing_trajectory atLeastOne starts inputs n).stepped atLeastOne (inputs n)
  change (FanoutRun.step parallelism _ (inputs n)).1.position = .finished at completes
  change ∀ branch ∈ generationStates (FanoutRun.step parallelism _ (inputs n)).1.state, _
    at allPassed
  change CycleOutcome _ (FanoutRun.step parallelism _ (inputs n)).1.state _
  generalize FanoutRun.step parallelism _ (inputs n) = after at *
  generalize ((fanoutMachine parallelism).trajectory start inputs n).1 = run at *
  cases stepped with
  | sends => cases completes
  | branchEnds => cases isCoordinating
  | rests => cases isCoordinating
  | @completes state complete rounds =>
    rw [cycle.isRequested] at rounds
    have completion := completion_of_complete rounds cycle.isRequested
      (cycle.someWave (by simp)) complete
    exact
      { fresh := fresh
        merged := (coordinated_artifactReferences state).trans ledger.merged
        named := ledger.named
        typesOnce := ledger.typesOnce
        fromQuiz := ledger.fromQuiz
        regenerated := by
          intro artifactType
          constructor
          · intro isRegenerated
            rcases mem_regeneratedTypes.mp isRegenerated with ⟨isRequested, planned⟩
            cases completion with
            | finished completed _ kept =>
              rcases mem_completedTypes.mp (completed artifactType isRequested planned) with
                ⟨branch, mem, rfl, _⟩
              rcases mem_currentStates.mp mem with ⟨stored, isCurrent⟩
              have isAfter : branch ∈ generationStates state.coordinated :=
                mem_generationStates_coordinated.mpr ⟨kept ▸ stored, isCurrent⟩
              exact ledger.ofPassed branch stored (isCurrent.trans rounds.isCurrent)
                (allPassed branch isAfter)
            | blocked isFailed isDependent isDependency finished written =>
              -- a branch that failed would have left a skipped one
              rcases (Completion.blocked isFailed isDependent isDependency finished
                written).skipped isDependent isDependency isFailed with
                ⟨branch, isAfter, _, isSkipped⟩
              rw [allPassed branch isAfter] at isSkipped
              cases isSkipped
          · rintro ⟨reference, isWritten, rfl⟩
            have isSent := (ledger.typesEnded reference isWritten).1
            rcases rounds.inWaves _ isSent with ⟨index, _, inWave⟩
            exact mem_regeneratedTypes.mpr
              ⟨cycle.sentRequested isSent, mem_planTypes_of_wave inWave⟩ }

/-- A cycle whose branches all pass leaves one reference for each requested
type, of the cycle itself for every regenerated one, if and only if there was
nothing for it to replace. -/
theorem cycle_replaces_iff (atLeastOne : 1 ≤ parallelism) (starts : start.Starts)
    (settled : start.state.Settled) (fresh : FreshDocuments start.state)
    (inputs : ℕ → BranchEnd) (n : ℕ)
    (isCoordinating :
      ((fanoutMachine parallelism).trajectory start inputs n).1.position = .coordinating)
    (completes :
      ((fanoutMachine parallelism).trajectory start inputs (n + 1)).1.position = .finished)
    (allPassed : ∀ branch ∈
      generationStates ((fanoutMachine parallelism).trajectory start inputs (n + 1)).1.state,
      branch.status = .passed) :
    Replaces start.state ((fanoutMachine parallelism).trajectory start inputs (n + 1)).1.state ↔
      NothingToReplace start.state (writtenReferences parallelism start inputs n) := by
  have outcome := cycleOutcome_of_passed atLeastOne starts settled fresh inputs n isCoordinating
    completes allPassed
  exact ⟨outcome.nothingToReplace, outcome.replaces⟩

end Cycles

/-- Branches that all pass, with the ids of their types. -/
def passing : ℕ → BranchEnd :=
  fun _ => ⟨0, .passed none⟩

/-- A run whose branches all pass. -/
def passingRun (start : FanoutRun) (n : ℕ) : FanoutRun :=
  ((fanoutMachine 4).trajectory start passing n).1

theorem first_cycle_replaces :
    Replaces (firstGeneration ["quiz", "answer_key"]).state
        (passingRun (firstGeneration ["quiz", "answer_key"]) 5).state ↔
      NothingToReplace (firstGeneration ["quiz", "answer_key"]).state
        (writtenReferences 4 (firstGeneration ["quiz", "answer_key"]) passing 4) :=
  cycle_replaces_iff (by decide) (starts_initial "run" _) (settled_firstGeneration _)
    (fun _ member => nomatch member) passing 4 (by decide +kernel) (by decide +kernel)
    (by decide +kernel)

/-- A quality failure asks for all types again. -/
def secondGeneration (artifactTypes : List String) (n : ℕ) : FanoutRun :=
  ⟨{ (passingRun (firstGeneration artifactTypes) n).state with
      qualityRecoveryRoute := some .artifactWorkflow }, .coordinating⟩

/-- The second cycle keeps the quiz of the first one and derives its answer key
from it. -/
theorem second_cycle_keeps_first_quiz :
    (secondGeneration ["quiz", "answer_key"] 5).Starts ∧
      (secondGeneration ["quiz", "answer_key"] 5).state.Settled ∧
      FreshDocuments (secondGeneration ["quiz", "answer_key"] 5).state ∧
      (passingRun (secondGeneration ["quiz", "answer_key"] 5) 4).position = .coordinating ∧
      (passingRun (secondGeneration ["quiz", "answer_key"] 5) 5).position = .finished ∧
      (∀ branch ∈ generationStates
        (passingRun (secondGeneration ["quiz", "answer_key"] 5) 5).state,
        branch.status = .passed) ∧
      ¬ Replaces (secondGeneration ["quiz", "answer_key"] 5).state
        (passingRun (secondGeneration ["quiz", "answer_key"] 5) 5).state := by
  have numbered : Numbered (passingRun (firstGeneration ["quiz", "answer_key"]) 5).state :=
    (Numbered.initial "run" _).trajectory (by decide) (starts_initial "run" _) passing 5
  have documents :
      NumberedDocuments (passingRun (firstGeneration ["quiz", "answer_key"]) 5).state :=
    (NumberedDocuments.initial "run" _).trajectory (by decide) (starts_initial "run" _)
      (Numbered.initial "run" _) passing 5
  have numberedAgain : Numbered (secondGeneration ["quiz", "answer_key"] 5).state :=
    ⟨numbered.current, numbered.stored⟩
  have isNew : (secondGeneration ["quiz", "answer_key"] 5).state.needsNewGenerationCycle = true :=
    by decide +kernel
  have rejectsNothing : (secondGeneration ["quiz", "answer_key"] 5).state.RejectsNothing :=
    rejectsNothing_of_empty (by decide +kernel)
  -- the second cycle is evaluated once for all of its facts
  have facts : (passingRun (secondGeneration ["quiz", "answer_key"] 5) 4).position =
        .coordinating ∧
      (passingRun (secondGeneration ["quiz", "answer_key"] 5) 5).position = .finished ∧
      (∀ branch ∈ generationStates
        (passingRun (secondGeneration ["quiz", "answer_key"] 5) 5).state,
        branch.status = .passed) ∧
      (∃ key ∈
        (passingRun (secondGeneration ["quiz", "answer_key"] 5) 5).state.artifactReferences.members,
        key.artifactType = "answer_key" ∧ key.generationId = "run:artifact:2" ∧
          key.quizDocumentId = some "run:artifact:1:quiz-1") ∧
      ∀ quiz ∈
        (passingRun (secondGeneration ["quiz", "answer_key"] 5) 5).state.artifactReferences.members,
        quiz.artifactType = "quiz" →
          quiz.generationId = (secondGeneration ["quiz", "answer_key"] 5).state.currentId →
            quiz.documentId ≠ "run:artifact:1:quiz-1" := by
    decide +kernel
  rcases facts with
    ⟨isCoordinating, isFinished, allPassed, ⟨key, stored, isKey, _, derived⟩, quizIds⟩
  refine ⟨numberedAgain.starts isNew, .inr rejectsNothing,
    NumberedDocuments.fresh documents numberedAgain isNew, isCoordinating, isFinished, allPassed,
    fun replaces => ?_⟩
  rcases replaces.keyFromQuiz (by decide +kernel) (by decide +kernel) key stored isKey with
    ⟨quiz, quizStored, isQuiz, isNewest, isSource⟩
  exact quizIds quiz quizStored isQuiz isNewest
    (Option.some.inj (isSource.symm.trans derived))

end OhMyClass.TeachingPack
