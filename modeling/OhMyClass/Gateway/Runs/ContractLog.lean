import OhMyClass.Gateway.Runs.Repetitions

/-!
# The revisions of a run contract

A contract is written with its first revision, and every edit rewrites the
contract and appends a revision.  Edits of other runs leave both alone.
-/

namespace OhMyClass.Gateway

open List OhMyClass.Transition TeachingPackControlStore Table Session

/-- What an edit makes of a contract. -/
def revisedBy (contractJson edits : JsonObject) : JsonObject :=
  mergeMembers contractJson (edits.filter fun member => editableContractFields.contains member.1)

variable {key : String}

theorem get?_mergeMembers_of_absent {members others : JsonObject}
    (absent : ∀ member ∈ others, member.1 ≠ key) :
    (mergeMembers members others).get? key = members.get? key := by
  unfold mergeMembers
  induction others generalizing members with
  | nil => rfl
  | cons member rest ih =>
    rw [forall_mem_cons] at absent
    rw [List.foldl_cons, ih absent.2, JsonObject.get?_set_of_ne _ _ absent.1.symm]

theorem get?_mergeMembers {members others : JsonObject} (distinct : (others.map Prod.fst).Nodup) :
    (mergeMembers members others).get? key = (others.get? key).or (members.get? key) := by
  unfold mergeMembers
  induction others generalizing members with
  | nil => rfl
  | cons member rest ih =>
    rw [map_cons, nodup_cons] at distinct
    rw [List.foldl_cons]
    by_cases same : member.1 = key
    · subst same
      have absent : ∀ other ∈ rest, other.1 ≠ member.1 := fun other isOther isSame =>
        distinct.1 (isSame ▸ mem_map_of_mem isOther)
      have rested : (mergeMembers (members.set member.1 member.2) rest).get? member.1 =
          (members.set member.1 member.2).get? member.1 := get?_mergeMembers_of_absent absent
      unfold mergeMembers at rested
      rw [rested, JsonObject.get?_set_self, JsonObject.get?, lookup_cons_self, Option.some_or]
    · rw [ih distinct.2, JsonObject.get?_set_of_ne _ _ (Ne.symm same)]
      unfold JsonObject.get?
      rw [lookup_cons, beq_eq_false_iff_ne.mpr (Ne.symm same)]

variable {contractJson : JsonObject}

theorem get?_revisedBy_of_fixed {edits : JsonObject} (fixed : key ∉ editableContractFields) :
    (revisedBy contractJson edits).get? key = contractJson.get? key := by
  refine get?_mergeMembers_of_absent fun mem isMember isKey => fixed ?_
  have editable := (mem_filter.mp isMember).2
  rw [isKey] at editable
  exact contains_iff_mem.mp editable

theorem get?_revisedBy_of_editable {edits : JsonObject} (distinct : (edits.map Prod.fst).Nodup)
    (editable : key ∈ editableContractFields) :
    (revisedBy contractJson edits).get? key = (edits.get? key).or (contractJson.get? key) := by
  unfold revisedBy
  rw [get?_mergeMembers (distinct.sublist (filter_sublist.map _)),
    JsonObject.get?_filter edits (fun key => editableContractFields.contains key)
      (contains_iff_mem.mpr editable)]

/-! ## The log -/

/-- The contract after some edits. -/
def revisedJson (contractJson : JsonObject) (edits : List JsonObject) : JsonObject :=
  edits.foldl revisedBy contractJson

/-- The row of a contract after some edits. -/
def headRow (payload : RunContractCreate) (edits : List JsonObject) : RunContract :=
  ⟨payload.contractId, payload.runId, payload.teacherId, revisedJson payload.contractJson edits,
    1 + edits.length⟩

/-- The row of the revision after some edits. -/
def revisionRow (payload : RunContractCreate) (edits : List JsonObject) : ContractRevision :=
  ⟨payload.contractId, payload.runId, 1 + edits.length, revisedJson payload.contractJson edits⟩

def ControlDb.revisionsOf (control : ControlDb) (contractId : String) : List ContractRevision :=
  control.revisions.rows.filter fun revision => revision.contractId == contractId

/-- The contract and its revisions are those of some edits. -/
structure ControlDb.Logs (control : ControlDb) (payload : RunContractCreate)
    (edits : List JsonObject) : Prop where
  hasRun : control.db.HasRun payload.runId
  head : headRow payload edits ∈ control.contracts.rows
  history : control.revisionsOf payload.contractId =
    edits.inits.map (revisionRow payload)

variable {α : Type*}

theorem getElem?_inits {items : List α} {index : Nat} (within : index ≤ items.length) :
    items.inits[index]? = some (items.take index) := by
  have bound : index < items.inits.length := by
    rw [length_inits]
    omega
  rw [List.getElem?_eq_getElem bound, getElem_inits]

theorem inits_eq_map (items : List α) :
    items.inits = (List.range (1 + items.length)).map items.take := by
  refine ext_getElem (by simp [Nat.add_comm]) fun index _ _ => ?_
  rw [getElem_inits, getElem_map, getElem_range]

namespace ControlDb.Logs

variable {control : ControlDb} {payload : RunContractCreate} {edits : List JsonObject}

section

variable (logs : control.Logs payload edits)

include logs

theorem head_unique {contract : RunContract} (mem : contract ∈ control.contracts.rows)
    (same : contract.contractId = payload.contractId ∨ contract.runId = payload.runId) :
    contract = headRow payload edits := by
  refine control.contracts.eq_of_conflict ?_ mem logs.head same
  rintro first second (sameId | sameRun)
  · exact Or.inl sameId.symm
  · exact Or.inr sameRun.symm

theorem find?_head (selected : RunContract → Bool)
    (selects : selected (headRow payload edits) = true)
    (only : ∀ contract, selected contract = true →
      contract.contractId = payload.contractId ∨ contract.runId = payload.runId) :
    control.contracts.rows.find? selected = some (headRow payload edits) := by
  cases found : control.contracts.rows.find? selected with
  | none =>
    rw [List.find?_eq_none] at found
    exact absurd selects (found _ logs.head)
  | some contract =>
    rw [logs.head_unique (mem_of_find?_eq_some found) (only _ (List.find?_some found))]

theorem requireContract (selected : RunContract → Bool)
    (selects : selected (headRow payload edits) = true)
    (only : ∀ contract, selected contract = true →
      contract.contractId = payload.contractId ∨ contract.runId = payload.runId) :
    requireContract selected control = (.ok (headRow payload edits), control) := by
  rw [TeachingPackControlStore.requireContract, logs.find?_head selected selects only]

theorem revision_free {revision : ContractRevision} (mem : revision ∈ control.revisions.rows)
    {edit : JsonObject} :
    ¬ ContractRevision.Conflict revision (revisionRow payload (edits ++ [edit])) := by
  rintro ⟨sameId, sameRevision⟩
  have listed : revision ∈ control.revisionsOf payload.contractId :=
    mem_filter.mpr ⟨mem, beq_iff_eq.mpr sameId⟩
  rw [logs.history] at listed
  rcases mem_map.mp listed with ⟨earlier, isPrefix, rfl⟩
  have shorter := ((mem_inits _ _).mp isPrefix).length_le
  simp only [revisionRow, length_append, length_singleton] at sameRevision
  omega

end

end ControlDb.Logs

variable {control : ControlDb}

theorem insertRevision_of_free (revision : ContractRevision)
    (hasRun : control.db.HasRun revision.runId)
    (hasContract : ∃ contract ∈ control.contracts.rows, contract.contractId = revision.contractId)
    (free : ∀ stored ∈ control.revisions.rows, ¬ ContractRevision.Conflict stored revision) :
    ∃ revisions, insertRevision revision control = (.ok ⟨⟩, { control with revisions }) ∧
      revisions.rows = control.revisions.rows ++ [revision] := by
  unfold insertRevision
  rw [if_pos ⟨hasRun, hasContract⟩]
  cases inserted : control.revisions.insert revision with
  | none =>
    rcases insert_eq_none_iff.mp inserted with ⟨stored, mem, clash⟩
    exact absurd clash (free stored mem)
  | some revisions => exact ⟨revisions, rfl, rows_of_insert inserted⟩

theorem insertRevision_eq_ok {after : ControlDb} {revision : ContractRevision} {answer : PUnit}
    (ret : insertRevision revision control = (.ok answer, after)) :
    after.revisions.rows = control.revisions.rows ++ [revision] ∧
      after.contracts = control.contracts ∧ after.gates = control.gates := by
  unfold insertRevision at ret
  split at ret
  · split at ret
    next => cases ret
    next revisions inserted =>
      cases ret
      exact ⟨rows_of_insert inserted, rfl, rfl⟩
  · cases ret

theorem reviseContract_of_found (revise : ContractRevisionCreate) {contract : RunContract}
    (found : requireContract (fun row =>
      row.contractId == revise.contractId && row.runId == revise.runId) control =
        (.ok contract, control)) :
    ∃ written, reviseContract revise control =
        insertRevision ⟨revise.contractId, revise.runId, revise.revision, revise.contractJson⟩
          written ∧
      written.contracts.rows = control.contracts.rows.map (changeSelected
        (fun row => row.contractId == contract.contractId) (reviseRow revise)) ∧
      written.revisions = control.revisions ∧ written.gates = control.gates := by
  refine ⟨_, (bind_of_ok found).trans (write_bind _ _ _), ?_, ?_, ?_⟩
  · rfl
  · rfl
  · rfl

namespace ControlDb.Logs

variable {control : ControlDb} {payload : RunContractCreate} {edits : List JsonObject}

theorem reviseContract (logs : control.Logs payload edits) (edit : JsonObject) :
    ∃ after, reviseContract ⟨payload.contractId, payload.runId, 1 + (edits ++ [edit]).length,
        revisedJson payload.contractJson (edits ++ [edit])⟩ control = (.ok ⟨⟩, after) ∧
      after.Logs payload (edits ++ [edit]) := by
  have found := logs.requireContract
    (fun row => row.contractId == payload.contractId && row.runId == payload.runId)
    (by simp [headRow]) (by simp +contextual)
  rcases reviseContract_of_found ⟨_, _, _, _⟩ found with
    ⟨written, isInsert, rows, revisions, gates⟩
  have head : headRow payload (edits ++ [edit]) ∈ written.contracts.rows := by
    rw [rows]
    exact mem_map_changeSelected.mpr (Or.inl ⟨_, logs.head, beq_self_eq_true _, rfl⟩)
  have hasRun : written.db.HasRun payload.runId := by
    rw [ControlDb.db, gates]
    exact logs.hasRun
  rcases insertRevision_of_free (revisionRow payload (edits ++ [edit])) hasRun
    ⟨_, head, rfl⟩ (by
      rw [revisions]
      exact fun stored mem => logs.revision_free mem) with ⟨grown, inserted, appended⟩
  refine ⟨_, isInsert.trans inserted, hasRun, head, ?_⟩
  rw [revisionsOf, appended, filter_append, revisions, ← revisionsOf, logs.history]
  simp [revisionRow]

theorem applyContractEdits (logs : control.Logs payload edits) (edit : JsonObject) :
    ∃ after, applyContractEdits payload.runId edit control = (.ok (2 + edits.length), after) ∧
      after.Logs payload (edits ++ [edit]) := by
  have found := logs.requireContract (fun row => row.runId == payload.runId)
    (by simp [headRow]) (by simp +contextual)
  rcases logs.reviseContract edit with ⟨after, revised, logsAfter⟩
  refine ⟨after, ?_, logsAfter⟩
  have number : (headRow payload edits).currentRevision + 1 = 1 + (edits ++ [edit]).length := by
    simp only [headRow, length_append, length_singleton]
    omega
  rw [← number, revisedJson, foldl_concat] at revised
  refine (bind_of_ok found).trans ((bind_of_ok revised).trans ?_)
  rw [pure_apply, number, length_append, length_singleton]
  congr 2
  omega

theorem of_other (logs : control.Logs payload edits) {runId : RunId}
    (other : runId ≠ payload.runId) {edit : JsonObject} {after : ControlDb} {revision : Int}
    (ret : TeachingPackControlStore.applyContractEdits runId edit control =
      (.ok revision, after)) : after.Logs payload edits := by
  rcases Session.bind_eq_ok.mp ret with ⟨contract, first, required, edited⟩
  rcases RunServices.requireContract_eq_ok required with ⟨found, rfl⟩
  rcases Session.bind_eq_ok.mp edited with ⟨_, second, revised, isAfter⟩
  cases isAfter
  rcases Session.bind_eq_ok.mp revised with ⟨stored, third, requiredAgain, written⟩
  rcases RunServices.requireContract_eq_ok requiredAgain with ⟨foundAgain, rfl⟩
  rcases insertRevision_eq_ok written with ⟨revisions, contracts, gates⟩
  have isRun : contract.runId = runId := by simpa using List.find?_some found
  have apart : contract.contractId ≠ payload.contractId := by
    intro same
    have isHead := logs.head_unique (mem_of_find?_eq_some found) (Or.inl same)
    rw [isHead] at isRun
    exact other isRun.symm
  have sameContract : stored.contractId = contract.contractId := by
    have selected := List.find?_some foundAgain
    rw [Bool.and_eq_true] at selected
    exact beq_iff_eq.mp selected.1
  constructor
  · rw [ControlDb.db, gates]
    exact logs.hasRun
  · rw [contracts]
    refine mem_map_changeSelected.mpr (Or.inr ⟨logs.head, ?_⟩)
    rw [sameContract]
    exact beq_eq_false_iff_ne.mpr apart.symm
  · rw [revisionsOf, revisions]
    simpa [revisionsOf, apart] using logs.history

end ControlDb.Logs

/-! ## Histories -/

/-- A call of `apply_contract_edits` for any run, in a transaction of its own. -/
def ControlDb.edited (control : ControlDb) (call : RunId × JsonObject) : ControlDb :=
  (Session.atomically (applyContractEdits call.1 call.2) control).2

/-- The edits of one run among all calls. -/
def editsOf (runId : RunId) (calls : List (RunId × JsonObject)) : List JsonObject :=
  (calls.filter fun call => call.1 == runId).map Prod.snd

/-- Every revision has its contract: the foreign key of `contract_revisions`. -/
def ControlDb.RevisionsReferTo (control : ControlDb) : Prop :=
  ∀ revision ∈ control.revisions.rows, ∃ contract ∈ control.contracts.rows,
    contract.contractId = revision.contractId

section

variable {control : ControlDb} {payload : RunContractCreate} {edits : List JsonObject}

theorem ControlDb.Logs.edited (logs : control.Logs payload edits) (call : RunId × JsonObject) :
    (control.edited call).Logs payload (edits ++ editsOf payload.runId [call]) := by
  rcases call with ⟨runId, edit⟩
  unfold ControlDb.edited atomically
  by_cases own : runId = payload.runId
  · subst own
    rcases logs.applyContractEdits edit with ⟨after, applied, logsAfter⟩
    simpa [applied, editsOf] using logsAfter
  · rw [editsOf, filter_cons_of_neg (by simpa using own), filter_nil, map_nil,
      append_nil]
    cases ret : TeachingPackControlStore.applyContractEdits runId edit control with
    | mk result after =>
      cases result with
      | error => exact logs
      | ok revision => exact logs.of_other own ret

theorem ControlDb.Logs.run (logs : control.Logs payload edits)
    (calls : List (RunId × JsonObject)) :
    (calls.foldl ControlDb.edited control).Logs payload
      (edits ++ editsOf payload.runId calls) := by
  induction calls generalizing control edits with
  | nil => simpa [editsOf] using logs
  | cons call rest ih =>
    have whole : editsOf payload.runId (call :: rest) =
        editsOf payload.runId [call] ++ editsOf payload.runId rest := by
      rw [editsOf, editsOf, editsOf, ← map_append, ← filter_append,
        singleton_append]
    rw [whole, ← append_assoc]
    exact ih (logs.edited call)

theorem createContract_logs {created : ControlDb} {answer : PUnit}
    (refer : control.RevisionsReferTo)
    (ret : createContract payload control = (.ok answer, created)) :
    created.Logs payload [] := by
  rcases Session.bind_eq_ok.mp ret with ⟨_, between, inserted, revised⟩
  rcases insertRevision_eq_ok revised with ⟨revisions, contracts, gates⟩
  unfold insertContract at inserted
  split at inserted
  next hasRun =>
    split at inserted
    next => cases inserted
    next grown isGrown =>
      cases inserted
      have fresh : ∀ contract ∈ control.contracts.rows,
          contract.contractId ≠ payload.contractId := by
        intro contract mem same
        have clash : RunContract.Conflict contract ⟨payload.contractId, payload.runId,
            payload.teacherId, payload.contractJson, 1⟩ := Or.inl same
        exact nomatch isGrown.symm.trans (insert_eq_none_iff.mpr ⟨contract, mem, clash⟩)
      constructor
      · rw [ControlDb.db, gates]
        exact hasRun
      · rw [contracts]
        exact rows_of_insert isGrown ▸ mem_append_right _ (mem_singleton_self _)
      · rw [ControlDb.revisionsOf, revisions, filter_append, filter_eq_nil_iff.mpr]
        · simp [revisionRow, revisedJson]
        · intro revision mem same
          rcases refer revision mem with ⟨contract, isContract, isReferred⟩
          exact fresh contract isContract (isReferred.trans (beq_iff_eq.mp same))
  next => cases inserted

end

/-- The tables hold a contract as its edits made it, and every stage of it. -/
structure ControlDb.FaithfulLog (control : ControlDb) (payload : RunContractCreate)
    (edits : List JsonObject) : Prop where
  accepts : ∀ edit, ∃ after,
    applyContractEdits payload.runId edit control = (.ok (2 + edits.length), after)
  head : ∃ contract ∈ control.contracts.rows.find? fun row => row.runId == payload.runId,
    contract.contractId = payload.contractId ∧ contract.currentRevision = 1 + edits.length ∧
      some contract.contractJson =
        (control.revisionsOf payload.contractId).getLast?.map ContractRevision.contractJson
  numbers : (control.revisionsOf payload.contractId).map ContractRevision.revision =
    (List.range (1 + edits.length)).map fun index : Nat => 1 + (index : Int)
  first : (control.revisionsOf payload.contractId).head?.map ContractRevision.contractJson =
    some payload.contractJson
  next : ∀ index edit, edits[index]? = some edit →
    ∃ before ∈ (control.revisionsOf payload.contractId)[index]?,
      ∃ after ∈ (control.revisionsOf payload.contractId)[index + 1]?,
        after.contractJson = revisedBy before.contractJson edit ∧
          ((edit.map Prod.fst).Nodup → ∀ key ∈ editableContractFields,
            after.contractJson.get? key = (edit.get? key).or (before.contractJson.get? key))
  fixed : ∀ revision ∈ control.revisionsOf payload.contractId, ∀ key ∉ editableContractFields,
    revision.contractJson.get? key = payload.contractJson.get? key

theorem get?_revisedJson_of_fixed {edits : List JsonObject} (fixed : key ∉ editableContractFields) :
    (revisedJson contractJson edits).get? key = contractJson.get? key := by
  unfold revisedJson
  induction edits generalizing contractJson with
  | nil => rfl
  | cons edit rest ih => rw [List.foldl_cons, ih, get?_revisedBy_of_fixed fixed]

theorem ControlDb.Logs.faithful {payload : RunContractCreate} {edits : List JsonObject}
    (logs : control.Logs payload edits) :
    control.FaithfulLog payload edits where
  accepts edit := (logs.applyContractEdits edit).imp fun _ => And.left
  head := by
    have found := logs.find?_head (fun row => row.runId == payload.runId)
      (by simp [headRow]) (by simp +contextual)
    refine ⟨headRow payload edits, found, rfl, rfl, ?_⟩
    rw [logs.history, List.getLast?_eq_getElem?, length_map, length_inits,
      List.getElem?_map, Nat.add_sub_cancel, getElem?_inits (Nat.le_refl _), take_length]
    rfl
  numbers := by
    rw [logs.history, inits_eq_map, map_map, map_map]
    refine map_congr_left fun index isIndex => ?_
    rw [mem_range] at isIndex
    simp only [Function.comp_apply, revisionRow, length_take]
    omega
  first := by
    rw [logs.history, List.head?_eq_getElem?, List.getElem?_map, getElem?_inits (Nat.zero_le _)]
    rfl
  next index edit isEdit := by
    have within := (List.getElem?_eq_some_iff.mp isEdit).1
    have revised : revisedJson payload.contractJson (edits.take (index + 1)) =
        revisedBy (revisedJson payload.contractJson (edits.take index)) edit := by
      rw [take_add_one, isEdit, Option.toList_some, revisedJson, foldl_concat]
      rfl
    rw [logs.history, List.getElem?_map, List.getElem?_map, getElem?_inits within.le,
      getElem?_inits within]
    refine ⟨_, rfl, _, rfl, revised, fun distinct key editable => ?_⟩
    simp only [revisionRow]
    rw [revised, get?_revisedBy_of_editable distinct editable]
  fixed revision mem key fixed := by
    rw [logs.history] at mem
    rcases mem_map.mp mem with ⟨earlier, _, rfl⟩
    exact get?_revisedJson_of_fixed fixed

/-- After any calls, those of the run are what its contract and its revisions show. -/
theorem contractRevisions_faithful (control : ControlDb) {created : ControlDb}
    {payload : RunContractCreate} {answer : PUnit} (refer : control.RevisionsReferTo)
    (returned : createContract payload control = (.ok answer, created))
    (calls : List (RunId × JsonObject)) :
    (calls.foldl ControlDb.edited created).FaithfulLog payload (editsOf payload.runId calls) := by
  have logs := (createContract_logs refer returned).run calls
  exact logs.faithful

def oneRun : ControlDb where
  gates :=
    { db := { Db.empty 0 with
        runs := .single ⟨"run-1", "teacher-1", .pending, 0, none, none, none, none⟩ }
      responses := .empty }
  contracts := .empty
  revisions := .empty

def topicContract : RunContractCreate :=
  ⟨"contract-1", "run-1", "teacher-1", [("topic", .str "Fractions"), ("owner", .str "teacher-1")]⟩

/-- An edit of the topic and of a key that is fixed, and a call for another run. -/
def topicCalls : List (RunId × JsonObject) :=
  [("run-1", [("topic", .str "Decimals"), ("owner", .str "teacher-2")]), ("run-2", [])]

theorem topicContract_faithful :
    (topicCalls.foldl ControlDb.edited (createContract topicContract oneRun).2).FaithfulLog
      topicContract [[("topic", .str "Decimals"), ("owner", .str "teacher-2")]] :=
  contractRevisions_faithful oneRun nofun rfl topicCalls

end OhMyClass.Gateway
