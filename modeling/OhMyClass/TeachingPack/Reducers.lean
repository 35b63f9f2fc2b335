import Mathlib.Data.Finset.Insert
import Mathlib.Data.Prod.Lex
import Mathlib.Data.String.Basic
import OhMyClass.Keyed.Merging
import OhMyClass.Python.Text

/-!
# Reducers of the state channels

The channels of a run take what its branches write in parallel.  Two of them
keep objects by an id, the third a list of file paths.
-/

namespace OhMyClass.TeachingPack.Reducers

open List OhMyClass.Keyed OhMyClass.Python OhMyClass.Sorting

section Objects

variable (isZero : FloatLiteral → Bool) (printable : Char → Bool)

/-- `str(state.get(field, ""))`. -/
def textField (state : JsonObject) (field : String) : String :=
  ((state.get? field).map (str printable)).getD ""

def workflowStateId (state : JsonObject) : String :=
  str printable <| ((state.get? "workflow_id").filter (truthy isZero)).getD <|
    ((state.get? "artifact_id").filter (truthy isZero)).getD (.str "")

def workflowStateSortKey (state : JsonObject) : String ×ₗ String :=
  toLex (textField printable state "artifact_type", workflowStateId isZero printable state)

/-- `stable_merge_workflow_states`, with no list for `None`. -/
def stableMergeWorkflowStates : List JsonObject → List JsonObject → List JsonObject :=
  stableMerge (workflowStateId isZero printable) (workflowStateSortKey isZero printable)

def documentId (reference : JsonObject) : String :=
  textField printable reference "document_id"

/-- The sort key of `stable_merge_artifact_references`. -/
def referenceSortKey (reference : JsonObject) : String ×ₗ String :=
  toLex (textField printable reference "artifact_type", documentId printable reference)

/-- `stable_merge_artifact_references`, with no list for `None`. -/
def stableMergeArtifactReferences : List JsonObject → List JsonObject → List JsonObject :=
  stableMerge (documentId printable) (referenceSortKey printable)

end Objects

/-- One round of the loop of `stable_merge_files`. -/
def mergeFile : Finset String × List String → String → Finset String × List String
  | (seen, merged), path => if path ∈ seen then (seen, merged) else (insert path seen, merged ++ [path])

/-- `stable_merge_files`, with no list for `None`. -/
def stableMergeFiles (prev new : List String) : List String :=
  sortBy id (new.foldl mergeFile (prev.toFinset, prev)).2

section Objects

variable {isZero : FloatLiteral → Bool} {printable : Char → Bool}

theorem workflowStateSortKey_placed (first second : JsonObject)
    (same : workflowStateSortKey isZero printable first =
      workflowStateSortKey isZero printable second) :
    workflowStateId isZero printable first = workflowStateId isZero printable second :=
  congrArg (fun place => (ofLex place).2) same

theorem referenceSortKey_placed (first second : JsonObject)
    (same : referenceSortKey printable first = referenceSortKey printable second) :
    documentId printable first = documentId printable second :=
  congrArg (fun place => (ofLex place).2) same

end Objects

/-! ## Files -/

variable {prev new : List String} {path : String}

/-- What a round of the loop makes of the merged paths. -/
def addFile (merged : List String) (path : String) : List String :=
  if path ∈ merged then merged else merged ++ [path]

theorem foldl_mergeFile (prev new : List String) :
    (new.foldl mergeFile (prev.toFinset, prev)).2 = new.foldl addFile prev := by
  induction new generalizing prev with
  | nil => rfl
  | cons path rest ih =>
    have round : mergeFile (prev.toFinset, prev) path =
        ((addFile prev path).toFinset, addFile prev path) := by
      rw [mergeFile, addFile]
      by_cases known : path ∈ prev
      · rw [if_pos known, if_pos (mem_toFinset.mpr known)]
      · have grown : insert path prev.toFinset = (prev ++ [path]).toFinset := by
          ext other
          rw [Finset.mem_insert, mem_toFinset, mem_toFinset, mem_append,
            mem_singleton, or_comm]
        rw [if_neg known, if_neg (mem_toFinset.not.mpr known), grown]
    rw [List.foldl_cons, List.foldl_cons, round, ih]

theorem mem_addFile {added : String} : path ∈ addFile prev added ↔ path ∈ prev ∨ path = added := by
  unfold addFile
  split
  · next known =>
    constructor
    · exact .inl
    · rintro (mem | rfl)
      · exact mem
      · exact known
  · rw [mem_append, mem_singleton]

theorem count_addFile (prev : List String) (added path : String) :
    (addFile prev added).count path =
      if path ∈ prev then prev.count path else if path = added then 1 else 0 := by
  unfold addFile
  split
  · next known =>
    by_cases mem : path ∈ prev
    · rw [if_pos mem]
    · have different : path ≠ added := by
        rintro rfl
        exact mem known
      rw [if_neg mem, if_neg different, count_eq_zero_of_not_mem mem]
  · next unknown =>
    by_cases same : path = added
    · subst same
      simp [unknown, count_eq_zero_of_not_mem unknown]
    · have different : added ≠ path := Ne.symm same
      by_cases mem : path ∈ prev
      · simp [mem, different]
      · simp [count_eq_zero_of_not_mem mem, same, different]

/-- New paths are merged once; those that were there stay as often as they were. -/
theorem count_foldl_addFile (prev new : List String) (path : String) :
    (new.foldl addFile prev).count path =
      if path ∈ prev then prev.count path else if path ∈ new then 1 else 0 := by
  induction new generalizing prev with
  | nil =>
    by_cases mem : path ∈ prev
    · rw [if_pos mem, foldl_nil]
    · simp [count_eq_zero_of_not_mem mem]
  | cons added rest ih =>
    rw [List.foldl_cons, ih, count_addFile]
    by_cases mem : path ∈ prev
    · simp [mem_addFile, mem]
    · by_cases same : path = added
      · simp [mem_addFile, same]
      · simp [mem_addFile, mem, same]

theorem count_stableMergeFiles (prev new : List String) (path : String) :
    (stableMergeFiles prev new).count path =
      if path ∈ prev then prev.count path else if path ∈ new then 1 else 0 := by
  rw [stableMergeFiles, (sortBy_perm id _).count_eq, foldl_mergeFile, count_foldl_addFile]

theorem mem_stableMergeFiles : path ∈ stableMergeFiles prev new ↔ path ∈ prev ∨ path ∈ new := by
  rw [← count_pos_iff, count_stableMergeFiles]
  by_cases mem : path ∈ prev
  · simp [mem]
  · by_cases isNew : path ∈ new
    · simp [mem, isNew]
    · simp [mem, isNew]

theorem pairwise_stableMergeFiles (prev new : List String) :
    (stableMergeFiles prev new).Pairwise fun first second => id first ≤ id second :=
  pairwise_sortBy id _

theorem stableMergeFiles_congr {otherPrev otherNew : List String}
    (same : ∀ path, (stableMergeFiles prev new).count path =
      (stableMergeFiles otherPrev otherNew).count path) :
    stableMergeFiles prev new = stableMergeFiles otherPrev otherNew := by
  refine (perm_iff_count.mpr same).eq_of_pairwise ?_ (pairwise_stableMergeFiles _ _)
    (pairwise_stableMergeFiles _ _)
  exact fun _ _ _ _ below above => le_antisymm below above

theorem joins_stableMergeFiles : Joins stableMergeFiles := by
  intro start first second
  apply stableMergeFiles_congr
  intro path
  rw [count_stableMergeFiles, count_stableMergeFiles, count_stableMergeFiles]
  simp only [mem_stableMergeFiles, mem_append]
  by_cases known : path ∈ start
  · simp [known]
  · by_cases isFirst : path ∈ first
    · simp [isFirst]
    · simp [known, isFirst]

theorem stableMergeFiles_new_congr {start first second : List String}
    (same : ∀ path, path ∈ first ↔ path ∈ second) :
    stableMergeFiles start first = stableMergeFiles start second := by
  apply stableMergeFiles_congr
  intro path
  rw [count_stableMergeFiles, count_stableMergeFiles]
  simp only [same path]

theorem exchanges_stableMergeFiles : Exchanges id stableMergeFiles := by
  intro start first second _
  apply stableMergeFiles_new_congr
  intro path
  rw [mem_append, mem_append]
  exact or_comm

theorem nodup_stableMergeFiles_iff : (stableMergeFiles prev new).Nodup ↔ prev.Nodup := by
  rw [nodup_iff_count_le_one, nodup_iff_count_le_one]
  refine forall_congr' fun path => ?_
  rw [count_stableMergeFiles]
  by_cases mem : path ∈ prev
  · rw [if_pos mem]
  · rw [if_neg mem, count_eq_zero_of_not_mem mem]
    split
    · exact iff_of_true le_rfl (Nat.zero_le 1)
    · exact iff_of_true (Nat.zero_le 1) (Nat.zero_le 1)

theorem mem_foldl_stableMergeFiles (start : List String) (writes : List (List String)) :
    path ∈ writes.foldl stableMergeFiles start ↔ path ∈ start ++ writes.flatten := by
  cases writes with
  | nil => simp
  | cons write rest =>
    rw [joins_stableMergeFiles.foldl_cons, mem_stableMergeFiles, mem_append]

theorem accumulates_stableMergeFiles_iff (start : List String) :
    Accumulates id id stableMergeFiles start ↔ start.Nodup := by
  constructor
  · intro accumulates
    exact nodup_stableMergeFiles_iff.mp (accumulates.once [[]] (by simp))
  · intro nodup
    exact
      { anyOrder := by
          intro writes batches apart permutation full
          rw [joins_stableMergeFiles.foldl_batches start full]
          exact foldl_perm joins_stableMergeFiles exchanges_stableMergeFiles start apart permutation
        again := by
          intro earlier write later _
          rw [joins_stableMergeFiles.foldl start (by simp), joins_stableMergeFiles]
          apply stableMergeFiles_new_congr
          intro path
          simp only [flatten_append, flatten_cons, mem_append]
          tauto
        last := by
          intro writes path isLast
          exact (mem_foldl_stableMergeFiles start writes).mpr
            (mem_append_right _ isLast.mem)
        kept := by
          intro writes path mem
          exact ⟨path, (mem_foldl_stableMergeFiles start writes).mpr mem, rfl⟩
        once := by
          intro writes written
          rw [joins_stableMergeFiles.foldl start written]
          exact nodup_stableMergeFiles_iff.mpr nodup
        ascending := by
          intro writes written
          rw [joins_stableMergeFiles.foldl start written]
          exact pairwise_stableMergeFiles _ _ }

/-- The three reducers accumulate what branches write exactly where the files
they start from are without a repeated path. -/
theorem channels_accumulate_iff (isZero : FloatLiteral → Bool) (printable : Char → Bool)
    (workflowStates references : List JsonObject) (files : List String) :
    (Accumulates (workflowStateId isZero printable) (workflowStateSortKey isZero printable)
        (stableMergeWorkflowStates isZero printable) workflowStates ∧
      Accumulates (documentId printable) (referenceSortKey printable)
        (stableMergeArtifactReferences printable) references ∧
      Accumulates id id stableMergeFiles files) ↔ files.Nodup := by
  constructor
  · rintro ⟨_, _, accumulates⟩
    exact (accumulates_stableMergeFiles_iff files).mp accumulates
  · intro nodup
    refine ⟨?_, ?_, (accumulates_stableMergeFiles_iff files).mpr nodup⟩
    · exact accumulates_stableMerge workflowStateSortKey_placed workflowStates
    · exact accumulates_stableMerge referenceSortKey_placed references

/-- A path that the start has twice stays twice. -/
theorem repeatedFile_not_accumulated :
    ¬ Accumulates id id stableMergeFiles ["lesson.html", "lesson.html"] := by
  intro accumulates
  have nodup := (accumulates_stableMergeFiles_iff _).mp accumulates
  revert nodup
  decide

end OhMyClass.TeachingPack.Reducers
