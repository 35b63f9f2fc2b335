import OhMyClass.Gateway.Completion.Replay

/-!
# Export writers

One writer puts the exports of a run into a directory, the other into an object
store.  Each goes through the approved snapshots, checking, rendering and writing
one after the other, and then through the formats the Node CLI makes.
-/

namespace OhMyClass.Gateway.ExportWriter

open List OhMyClass.Transition

/-- A file or an object. -/
structure ExportWrite where
  name : String
  content : ByteArray

inductive ExportFailure where
  | adapterError (message : String)
  /-- Raised by the renderer. -/
  | rendererError (message : String)

/-- The renderer, the Node CLI (the name of its file and what is in it) and the
conversions of the standard library. -/
structure ExportEnv where
  builtin : BuiltinConversions
  render : JsonObject → Except ExportFailure String
  nodeExport : String → RunId → List JsonObject → Except ExportFailure (String × ByteArray)

/-- Writes so far, oldest first. -/
abbrev Writing := Session (List ExportWrite) ExportFailure

def put (name : String) (content : ByteArray) : Writing PUnit :=
  Session.write fun writes => writes ++ [⟨name, content⟩]

/-! ## Formats -/

def subprocessExportFormats : List String :=
  ["gift", "h5p", "qti", "anki_apkg", "flashcard_tsv", "pptx"]

def unsupportedGatewayFormats : List String :=
  ["google_forms"]

/-- The formats `_export_format` knows. -/
def exportFormats : List String :=
  ["html", "gift", "h5p", "qti", "anki_apkg", "flashcard_tsv", "pptx"]

variable (env : ExportEnv)

/-- `contract.export_formats` as texts. -/
def requestedFormats (state : JsonObject) : List String :=
  match (jsonObject (state.get? "contract")).get? "export_formats" with
  | some (.arr values) => values.map env.builtin.str
  | _ => []

def exportFormat (value : String) : Except ExportFailure String :=
  if value ∈ exportFormats then .ok value
  else .error (.adapterError ("Unsupported export format: " ++ value))

/-- `_subprocess_formats`, of the texts. -/
def subprocessFormats : List String → Except ExportFailure (List String)
  | [] => .ok []
  | value :: rest => do
    let format ← exportFormat value
    let formats ← subprocessFormats rest
    return if format ∈ subprocessExportFormats then format :: formats else formats

def unsupportedFormats (state : JsonObject) : List String :=
  (requestedFormats env state).filter unsupportedGatewayFormats.contains

def rejectUnsupported (state : JsonObject) : Writing PUnit :=
  if (unsupportedFormats env state).isEmpty then return ⟨⟩
  else Session.raise (.adapterError ("Unsupported export format for offline gateway writer: " ++
    ", ".intercalate (unsupportedFormats env state)))

def snapshotId (snapshot : JsonObject) : String :=
  textOr env.builtin snapshot "snapshot_id" ""

def rejectTeacherOnly (content : JsonObject) : Writing PUnit :=
  if (teacherOnlyValuePaths content).isEmpty then return ⟨⟩
  else Session.raise (.adapterError ("Approved snapshot contains teacher-only answer material: " ++
    ", ".intercalate (teacherOnlyValuePaths content)))

namespace FileSystem

def exportSnapshots (exportDir : String) : List JsonObject → Writing (List String)
  | [] => return []
  | snapshot :: rest => do
    let content := snapshotContent snapshot
    rejectTeacherOnly content
    let renderedHtml ← Session.call (env.render content)
    let exportPath := exportDir ++ "/" ++ snapshotId env snapshot ++ ".html"
    put exportPath renderedHtml.toUTF8
    let exportedFiles ← exportSnapshots exportDir rest
    return exportPath :: exportedFiles

/-- The CLI writes its file into the directory. -/
def exportSubprocess (exportDir : String) (runId : RunId) (snapshots : List JsonObject) :
    List String → Writing (List String)
  | [] => return []
  | format :: rest => do
    let (fileName, content) ← Session.call (env.nodeExport format runId snapshots)
    let outPath := exportDir ++ "/" ++ fileName
    put outPath content
    let exportedFiles ← exportSubprocess exportDir runId snapshots rest
    return outPath :: exportedFiles

def writeExports (baseDir : String) (runId : RunId) (state : JsonObject) :
    Writing (List String) := do
  let exportDir := baseDir ++ "/" ++ runId
  rejectUnsupported env state
  let approvedSnapshots := approvedSnapshotsForExport env.builtin state
  let snapshotFiles ← exportSnapshots env exportDir approvedSnapshots
  let formats ← Session.call (subprocessFormats (requestedFormats env state))
  let formatFiles ← exportSubprocess env exportDir runId approvedSnapshots formats
  return snapshotFiles ++ formatFiles

end FileSystem

namespace ObjectStorage

def exportSnapshots (runId : RunId) : List JsonObject → Writing (List String)
  | [] => return []
  | snapshot :: rest => do
    let content := snapshotContent snapshot
    rejectTeacherOnly content
    let renderedHtml ← Session.call (env.render content)
    let key := "exports/" ++ runId ++ "/" ++ snapshotId env snapshot ++ ".html"
    put key renderedHtml.toUTF8
    let exportedKeys ← exportSnapshots runId rest
    return key :: exportedKeys

/-- The CLI writes its file into a temporary directory, from where it is uploaded. -/
def exportSubprocess (runId : RunId) (snapshots : List JsonObject) :
    List String → Writing (List String)
  | [] => return []
  | format :: rest => do
    let (_, body) ← Session.call (env.nodeExport format runId snapshots)
    let key := "exports/" ++ runId ++ "/" ++ runId ++ "." ++ format
    put key body
    let exportedKeys ← exportSubprocess runId snapshots rest
    return key :: exportedKeys

def writeExports (runId : RunId) (state : JsonObject) : Writing (List String) := do
  rejectUnsupported env state
  let approvedSnapshots := approvedSnapshotsForExport env.builtin state
  let snapshotKeys ← exportSnapshots env runId approvedSnapshots
  let formats ← Session.call (subprocessFormats (requestedFormats env state))
  let formatKeys ← exportSubprocess env runId approvedSnapshots formats
  return snapshotKeys ++ formatKeys

end ObjectStorage

/-! ## What export writers write -/

/-! ## Exports of any items -/

section WriteEach

variable {α : Type}

/-- Make an export of each item and put it under its name. -/
def writeEach (produce : α → Except ExportFailure ExportWrite) : List α → Writing (List String)
  | [] => return []
  | item :: rest => do
    let made ← Session.call (produce item)
    put made.name made.content
    let names ← writeEach produce rest
    return made.name :: names

/-- The exports before the first failure. -/
def producedBefore (produce : α → Except ExportFailure ExportWrite) : List α → List ExportWrite
  | [] => []
  | item :: rest =>
    match produce item with
    | .error _ => []
    | .ok made => made :: producedBefore produce rest

def failure? {β : Type} : Except ExportFailure β → Option ExportFailure
  | .error failure => some failure
  | .ok _ => none

def firstFailure {β : Type} (produce : α → Except ExportFailure β) (items : List α) :
    Option ExportFailure :=
  items.findSome? fun item => failure? (produce item)

/-- The names of the writes, unless something failed. -/
def outcome (failure : Option ExportFailure) (writes : List ExportWrite) :
    Except ExportFailure (List String) :=
  match failure with
  | some failure => .error failure
  | none => .ok (writes.map ExportWrite.name)

@[simp]
theorem failure?_map {β γ : Type} (f : β → γ) (result : Except ExportFailure β) :
    failure? (result.map f) = failure? result := by
  cases result <;> rfl

variable {produce : α → Except ExportFailure ExportWrite} {items : List α}

theorem writeEach_apply (produce : α → Except ExportFailure ExportWrite) (items : List α)
    (writes : List ExportWrite) :
    writeEach produce items writes =
      (outcome (firstFailure produce items) (producedBefore produce items),
        writes ++ producedBefore produce items) := by
  induction items generalizing writes with
  | nil => simp [writeEach, firstFailure, producedBefore, outcome]
  | cons item rest ih =>
    cases isMade : produce item with
    | error failure =>
      have stopped : writeEach produce (item :: rest) writes = (.error failure, writes) := by
        rw [writeEach, isMade]
        rfl
      simp [stopped, firstFailure, producedBefore, isMade, failure?, outcome]
    | ok made =>
      have later : writeEach produce (item :: rest) writes =
          match writeEach produce rest (writes ++ [⟨made.name, made.content⟩]) with
          | (.ok names, after) => (.ok (made.name :: names), after)
          | (.error failure, after) => (.error failure, after) := by
        rw [writeEach, isMade]
        change Session.bind (writeEach produce rest) (fun names => pure (made.name :: names))
          (writes ++ [⟨made.name, made.content⟩]) = _
        unfold Session.bind
        generalize writeEach produce rest (writes ++ [⟨made.name, made.content⟩]) = result
        rcases result with ⟨outcome, after⟩
        cases outcome <;> rfl
      have sameFailure : firstFailure produce (item :: rest) = firstFailure produce rest := by
        simp [firstFailure, isMade, failure?]
      rw [later, ih, sameFailure]
      cases firstFailure produce rest <;> simp [producedBefore, isMade, outcome]

theorem contents_producedBefore (noFailure : firstFailure produce items = none) :
    (producedBefore produce items).map (fun made => Except.ok made.content) =
      items.map fun item => (produce item).map ExportWrite.content := by
  induction items with
  | nil => rfl
  | cons item rest ih =>
    cases isMade : produce item with
    | error failure => simp [firstFailure, isMade, failure?] at noFailure
    | ok made =>
      have noLater : firstFailure produce rest = none := by
        simpa [firstFailure, isMade, failure?] using noFailure
      simp only [producedBefore, isMade, map_cons, ih noLater]
      rfl

theorem firstFailure_eq_none {β : Type} {produce : α → Except ExportFailure β} {items : List α}
    (noFailure : firstFailure produce items = none) {item : α} (mem : item ∈ items) :
    ∃ made, produce item = .ok made := by
  have free := List.findSome?_eq_none_iff.mp noFailure item mem
  cases isMade : produce item with
  | error failure =>
    rw [isMade] at free
    cases free
  | ok made => exact ⟨made, rfl⟩

theorem producedBefore_eq_nil_iff :
    producedBefore produce items = [] ↔
      ∀ first ∈ items.head?, ∃ failure, produce first = .error failure := by
  cases items with
  | nil => simp [producedBefore]
  | cons item rest => cases isMade : produce item <;> simp [producedBefore, isMade]

theorem exists_of_mem_producedBefore {made : ExportWrite}
    (mem : made ∈ producedBefore produce items) :
    ∃ item ∈ items, produce item = .ok made := by
  induction items with
  | nil => cases mem
  | cons item rest ih =>
    cases isMade : produce item with
    | error failure => simp [producedBefore, isMade] at mem
    | ok first =>
      rw [producedBefore, isMade] at mem
      rcases mem_cons.mp mem with rfl | later
      · exact ⟨item, mem_cons_self, isMade⟩
      · rcases ih later with ⟨other, otherMem, isOther⟩
        exact ⟨other, mem_cons_of_mem _ otherMem, isOther⟩

end WriteEach

/-! ## Either writer -/

/-- How a writer names the export of a snapshot, and the one the CLI made in a
format under a name of its own. -/
structure ExportNames where
  snapshot : String → String
  format : String → String → String

def fileNames (baseDir : String) (runId : RunId) : ExportNames where
  snapshot id := baseDir ++ "/" ++ runId ++ "/" ++ id ++ ".html"
  format _ fileName := baseDir ++ "/" ++ runId ++ "/" ++ fileName

def objectNames (runId : RunId) : ExportNames where
  snapshot id := "exports/" ++ runId ++ "/" ++ id ++ ".html"
  format format _ := "exports/" ++ runId ++ "/" ++ runId ++ "." ++ format

variable (env : ExportEnv) (names : ExportNames)

def renderChecked (snapshot : JsonObject) : Except ExportFailure ByteArray :=
  if (teacherOnlyValuePaths (snapshotContent snapshot)).isEmpty then
    (env.render (snapshotContent snapshot)).map String.toUTF8
  else .error (.adapterError ("Approved snapshot contains teacher-only answer material: " ++
    ", ".intercalate (teacherOnlyValuePaths (snapshotContent snapshot))))

def snapshotExport (snapshot : JsonObject) : Except ExportFailure ExportWrite :=
  (renderChecked env snapshot).map fun content =>
    ⟨names.snapshot (snapshotId env snapshot), content⟩

def formatExport (runId : RunId) (snapshots : List JsonObject) (format : String) :
    Except ExportFailure ExportWrite :=
  (env.nodeExport format runId snapshots).map fun made => ⟨names.format format made.1, made.2⟩

/-- `write_exports` under the names of a writer. -/
def writeExports (runId : RunId) (state : JsonObject) : Writing (List String) := do
  rejectUnsupported env state
  let approvedSnapshots := approvedSnapshotsForExport env.builtin state
  let first ← writeEach (snapshotExport env names) approvedSnapshots
  let formats ← Session.call (subprocessFormats (requestedFormats env state))
  let second ← writeEach (formatExport env names runId approvedSnapshots) formats
  return first ++ second

theorem render_bind (snapshot : JsonObject) (name : String)
    (next : List String → List String) (rest : Writing (List String)) :
    (do
      rejectTeacherOnly (snapshotContent snapshot)
      let renderedHtml ← Session.call (env.render (snapshotContent snapshot))
      put name renderedHtml.toUTF8
      let others ← rest
      return next others) = (do
      let content ← Session.call (renderChecked env snapshot)
      put name content
      let others ← rest
      return next others) := by
  funext writes
  unfold rejectTeacherOnly renderChecked
  split
  · cases env.render (snapshotContent snapshot) <;> rfl
  · rfl

theorem call_map_bind {α β γ : Type} (result : Except ExportFailure α) (f : α → β)
    (next : β → Writing γ) :
    (Session.call (result.map f) >>= next) =
      Session.call result >>= fun value => next (f value) := by
  cases result <;> rfl

theorem FileSystem.exportSnapshots_eq (baseDir : String) (runId : RunId)
    (snapshots : List JsonObject) :
    FileSystem.exportSnapshots env (baseDir ++ "/" ++ runId) snapshots =
      writeEach (snapshotExport env (fileNames baseDir runId)) snapshots := by
  induction snapshots with
  | nil => rfl
  | cons snapshot rest ih =>
    rw [FileSystem.exportSnapshots, render_bind, ih, writeEach, snapshotExport, call_map_bind]
    rfl

theorem ObjectStorage.exportSnapshots_eq (runId : RunId) (snapshots : List JsonObject) :
    ObjectStorage.exportSnapshots env runId snapshots =
      writeEach (snapshotExport env (objectNames runId)) snapshots := by
  induction snapshots with
  | nil => rfl
  | cons snapshot rest ih =>
    rw [ObjectStorage.exportSnapshots, render_bind, ih, writeEach, snapshotExport, call_map_bind]
    rfl

theorem FileSystem.exportSubprocess_eq (baseDir : String) (runId : RunId)
    (snapshots : List JsonObject) (formats : List String) :
    FileSystem.exportSubprocess env (baseDir ++ "/" ++ runId) runId snapshots formats =
      writeEach (formatExport env (fileNames baseDir runId) runId snapshots) formats := by
  induction formats with
  | nil => rfl
  | cons format rest ih =>
    rw [FileSystem.exportSubprocess, ih, writeEach, formatExport, call_map_bind]
    rfl

theorem ObjectStorage.exportSubprocess_eq (runId : RunId) (snapshots : List JsonObject)
    (formats : List String) :
    ObjectStorage.exportSubprocess env runId snapshots formats =
      writeEach (formatExport env (objectNames runId) runId snapshots) formats := by
  induction formats with
  | nil => rfl
  | cons format rest ih =>
    rw [ObjectStorage.exportSubprocess, ih, writeEach, formatExport, call_map_bind]
    rfl

theorem FileSystem.writeExports_eq (baseDir : String) (runId : RunId) (state : JsonObject) :
    FileSystem.writeExports env baseDir runId state =
      ExportWriter.writeExports env (fileNames baseDir runId) runId state := by
  simp only [FileSystem.writeExports, ExportWriter.writeExports, FileSystem.exportSnapshots_eq,
    FileSystem.exportSubprocess_eq]

theorem ObjectStorage.writeExports_eq (runId : RunId) (state : JsonObject) :
    ObjectStorage.writeExports env runId state =
      ExportWriter.writeExports env (objectNames runId) runId state := by
  simp only [ObjectStorage.writeExports, ExportWriter.writeExports,
    ObjectStorage.exportSnapshots_eq, ObjectStorage.exportSubprocess_eq]

theorem firstFailure_snapshotExport (snapshots : List JsonObject) :
    firstFailure (snapshotExport env names) snapshots =
      firstFailure (renderChecked env) snapshots := by
  simp only [firstFailure, snapshotExport, failure?_map]

theorem firstFailure_formatExport (runId : RunId) (snapshots : List JsonObject)
    (formats : List String) :
    firstFailure (formatExport env names runId snapshots) formats =
      firstFailure (fun format => env.nodeExport format runId snapshots) formats := by
  simp only [firstFailure, formatExport, failure?_map]

theorem writeExports_apply (runId : RunId) (state : JsonObject) :
    writeExports env names runId state [] =
      let snapshots := approvedSnapshotsForExport env.builtin state
      let first := producedBefore (snapshotExport env names) snapshots
      if (unsupportedFormats env state).isEmpty then
        match firstFailure (renderChecked env) snapshots with
        | some failure => (.error failure, first)
        | none =>
          match subprocessFormats (requestedFormats env state) with
          | .error failure => (.error failure, first)
          | .ok formats =>
            let second := producedBefore (formatExport env names runId snapshots) formats
            (outcome (firstFailure (fun format => env.nodeExport format runId snapshots) formats)
              (first ++ second), first ++ second)
      else (.error (.adapterError ("Unsupported export format for offline gateway writer: " ++
        ", ".intercalate (unsupportedFormats env state))), []) := by
  unfold writeExports rejectUnsupported
  split
  · dsimp only
    have ran := writeEach_apply (snapshotExport env names)
      (approvedSnapshotsForExport env.builtin state) []
    rw [firstFailure_snapshotExport] at ran
    refine (Session.bind_apply_ok _ (Session.pure_apply _ _)).trans ?_
    cases failed : firstFailure (renderChecked env)
      (approvedSnapshotsForExport env.builtin state) with
    | some failure =>
      rw [failed] at ran
      exact Session.bind_apply_error _ ran
    | none =>
      rw [failed] at ran
      refine (Session.bind_apply_ok _ ran).trans ?_
      cases subprocessFormats (requestedFormats env state) with
      | error failure => rfl
      | ok formats =>
        refine (Session.bind_apply_ok _ rfl).trans ?_
        have ranFormats := writeEach_apply (formatExport env names runId
          (approvedSnapshotsForExport env.builtin state)) formats
          (producedBefore (snapshotExport env names) (approvedSnapshotsForExport env.builtin state))
        rw [firstFailure_formatExport] at ranFormats
        cases failedFormat : firstFailure (fun format => env.nodeExport format runId
          (approvedSnapshotsForExport env.builtin state)) formats with
        | some failure =>
          rw [failedFormat] at ranFormats
          dsimp only
          rw [failedFormat]
          exact Session.bind_apply_error _ ranFormats
        | none =>
          rw [failedFormat] at ranFormats
          refine (Session.bind_apply_ok _ ranFormats).trans ?_
          simp [outcome, failedFormat]
  · rfl

def requestedSubprocessFormats (state : JsonObject) : List String :=
  (requestedFormats env state).filter fun format => format ∈ subprocessExportFormats

/-- One export for each approved snapshot and each requested format of the CLI, in
order, under the names that are returned. -/
def Complete (runId : RunId) (state : JsonObject) (returned : List String)
    (writes : List ExportWrite) : Prop :=
  returned = writes.map ExportWrite.name ∧
    writes.map (fun made => Except.ok made.content) =
      (approvedSnapshotsForExport env.builtin state).map
          (fun snapshot => (env.render (snapshotContent snapshot)).map String.toUTF8) ++
        (requestedSubprocessFormats env state).map fun format =>
          (env.nodeExport format runId (approvedSnapshotsForExport env.builtin state)).map Prod.snd

/-- Both raise, or both return all exports. -/
def Agree (runId : RunId) (state : JsonObject)
    (files objects : Except ExportFailure (List String) × List ExportWrite) : Prop :=
  match files.1, objects.1 with
  | .ok paths, .ok keys =>
    Complete env runId state paths files.2 ∧ Complete env runId state keys objects.2
  | .error _, .error _ => True
  | _, _ => False

/-- Some approved snapshot has teacher-only material, or some requested format is
not supported. -/
def MustNotExport (state : JsonObject) : Prop :=
  (∃ snapshot ∈ approvedSnapshotsForExport env.builtin state,
    teacherOnlyValuePaths (snapshotContent snapshot) ≠ []) ∨
  ∃ format ∈ requestedFormats env state, format ∉ exportFormats

/-- The content was rendered from an approved snapshot, or made by the CLI from the
approved ones. -/
def FromApproved (runId : RunId) (state : JsonObject) (content : ByteArray) : Prop :=
  (∃ snapshot ∈ exportableSnapshots state,
    snapshotId env snapshot ∈ approvedSnapshotIds env.builtin state ∧
    (env.render (snapshotContent snapshot)).map String.toUTF8 = .ok content) ∨
  ∃ format snapshots,
    (∀ snapshot ∈ snapshots, snapshotId env snapshot ∈ approvedSnapshotIds env.builtin state) ∧
    (env.nodeExport format runId snapshots).map Prod.snd = .ok content

/-- The writers agree, write nothing that must not be exported, and export approved
snapshots only. -/
structure WritersLawful (baseDir : String) (runId : RunId) (state : JsonObject) : Prop where
  agree : Agree env runId state (FileSystem.writeExports env baseDir runId state [])
    (ObjectStorage.writeExports env runId state [])
  unwritten : MustNotExport env state →
    (FileSystem.writeExports env baseDir runId state []).2 = [] ∧
      (ObjectStorage.writeExports env runId state []).2 = []
  approved : ∀ write ∈ (FileSystem.writeExports env baseDir runId state []).2 ++
    (ObjectStorage.writeExports env runId state []).2, FromApproved env runId state write.content

/-- The export stops before its first write: a format is refused up front, or the
first approved snapshot is refused or not rendered. -/
def StopsAtOnce (state : JsonObject) : Prop :=
  unsupportedFormats env state ≠ [] ∨
    ∀ first ∈ (approvedSnapshotsForExport env.builtin state).head?,
      teacherOnlyValuePaths (snapshotContent first) ≠ [] ∨
        ∃ failure, env.render (snapshotContent first) = .error failure

theorem subprocessFormats_of_supported {values : List String}
    (supported : ∀ value ∈ values, value ∈ exportFormats) :
    subprocessFormats values =
      .ok (values.filter fun value => value ∈ subprocessExportFormats) := by
  induction values with
  | nil => rfl
  | cons value rest ih =>
    rcases forall_mem_cons.mp supported with ⟨isSupported, restSupported⟩
    rw [subprocessFormats, exportFormat, if_pos isSupported, ih restSupported]
    by_cases isSubprocess : value ∈ subprocessExportFormats <;>
      simp [isSubprocess, bind, Except.bind, pure, Except.pure]

theorem subprocessFormats_of_unsupported {values : List String} {value : String}
    (mem : value ∈ values) (unsupported : value ∉ exportFormats) :
    ∃ failure, subprocessFormats values = .error failure := by
  induction values with
  | nil => cases mem
  | cons first rest ih =>
    by_cases isSupported : first ∈ exportFormats
    · rcases mem_cons.mp mem with rfl | later
      · exact absurd isSupported unsupported
      · rcases ih later with ⟨failure, isFailure⟩
        refine ⟨failure, ?_⟩
        rw [subprocessFormats, exportFormat, if_pos isSupported, isFailure]
        rfl
    · refine ⟨.adapterError ("Unsupported export format: " ++ first), ?_⟩
      rw [subprocessFormats, exportFormat, if_neg isSupported]
      rfl

theorem subprocessFormats_eq_ok {values formats : List String}
    (isOk : subprocessFormats values = .ok formats) :
    (∀ value ∈ values, value ∈ exportFormats) ∧
      formats = values.filter fun value => value ∈ subprocessExportFormats := by
  have supported : ∀ value ∈ values, value ∈ exportFormats := by
    intro value mem
    by_contra unsupported
    rcases subprocessFormats_of_unsupported mem unsupported with ⟨failure, isFailure⟩
    cases isOk.symm.trans isFailure
  rw [subprocessFormats_of_supported supported] at isOk
  exact ⟨supported, (Except.ok.inj isOk).symm⟩

/-! ## When the law holds -/

section

variable {env} {names} {runId : RunId} {state : JsonObject}

/-- Nothing is refused and nothing fails. -/
def Succeeds (env : ExportEnv) (runId : RunId) (state : JsonObject) : Prop :=
  (unsupportedFormats env state).isEmpty = true ∧
    firstFailure (renderChecked env) (approvedSnapshotsForExport env.builtin state) = none ∧
    (∀ format ∈ requestedFormats env state, format ∈ exportFormats) ∧
    firstFailure (fun format => env.nodeExport format runId
      (approvedSnapshotsForExport env.builtin state)) (requestedSubprocessFormats env state) = none

theorem isEmpty_of_renderChecked {snapshot : JsonObject} {content : ByteArray}
    (rendered : renderChecked env snapshot = .ok content) :
    (teacherOnlyValuePaths (snapshotContent snapshot)).isEmpty = true ∧
      (env.render (snapshotContent snapshot)).map String.toUTF8 = .ok content := by
  unfold renderChecked at rendered
  split at rendered
  · next isClean => exact ⟨isClean, rendered⟩
  · cases rendered

theorem complete_of_succeeds (names : ExportNames) (succeeds : Succeeds env runId state) :
    ∃ writes, writeExports env names runId state [] = (.ok (writes.map ExportWrite.name), writes) ∧
      Complete env runId state (writes.map ExportWrite.name) writes := by
  rcases succeeds with ⟨noneRefused, rendered, supported, exported⟩
  have formats := subprocessFormats_of_supported supported
  refine ⟨producedBefore (snapshotExport env names)
      (approvedSnapshotsForExport env.builtin state) ++
    producedBefore (formatExport env names runId (approvedSnapshotsForExport env.builtin state))
      (requestedSubprocessFormats env state), ?_, rfl, ?_⟩
  · rw [writeExports_apply]
    simp only [noneRefused, if_pos, rendered, formats]
    rw [requestedSubprocessFormats] at exported ⊢
    rw [exported]
    rfl
  · rw [map_append, contents_producedBefore ((firstFailure_snapshotExport ..).trans rendered),
      contents_producedBefore ((firstFailure_formatExport ..).trans exported)]
    congr 1
    · refine map_congr_left fun snapshot mem => ?_
      rcases firstFailure_eq_none rendered mem with ⟨content, isRendered⟩
      rw [snapshotExport, isRendered, (isEmpty_of_renderChecked isRendered).2]
      rfl
    · refine map_congr_left fun format _ => ?_
      rw [formatExport]
      cases env.nodeExport format runId (approvedSnapshotsForExport env.builtin state) <;> rfl

theorem error_of_not_succeeds (names : ExportNames) (fails : ¬ Succeeds env runId state) :
    ∃ failure writes, writeExports env names runId state [] = (.error failure, writes) := by
  rw [writeExports_apply]
  dsimp only
  split
  · next noneRefused =>
    cases rendered : firstFailure (renderChecked env)
      (approvedSnapshotsForExport env.builtin state) with
    | some failure => exact ⟨_, _, rfl⟩
    | none =>
      cases isFormats : subprocessFormats (requestedFormats env state) with
      | error failure => exact ⟨_, _, rfl⟩
      | ok formats =>
        rcases subprocessFormats_eq_ok isFormats with ⟨supported, rfl⟩
        cases exported : firstFailure (fun format => env.nodeExport format runId
            (approvedSnapshotsForExport env.builtin state))
          ((requestedFormats env state).filter fun value => value ∈ subprocessExportFormats) with
        | some failure =>
          dsimp only
          rw [exported]
          exact ⟨_, _, rfl⟩
        | none => exact absurd ⟨noneRefused, rendered, supported, exported⟩ fails
  · exact ⟨_, _, rfl⟩

theorem agree_writeExports (names others : ExportNames) :
    Agree env runId state (writeExports env names runId state [])
      (writeExports env others runId state []) := by
  by_cases succeeds : Succeeds env runId state
  · rcases complete_of_succeeds names succeeds with ⟨files, isFiles, filesComplete⟩
    rcases complete_of_succeeds others succeeds with ⟨objects, isObjects, objectsComplete⟩
    rw [isFiles, isObjects]
    exact ⟨filesComplete, objectsComplete⟩
  · rcases error_of_not_succeeds names succeeds with ⟨failure, files, isFiles⟩
    rcases error_of_not_succeeds others succeeds with ⟨other, objects, isObjects⟩
    rw [isFiles, isObjects]
    trivial

theorem fromApproved_of_mem {made : ExportWrite}
    (mem : made ∈ (writeExports env names runId state []).2) :
    FromApproved env runId state made.content := by
  have approvedId : ∀ snapshot ∈ approvedSnapshotsForExport env.builtin state,
      snapshot ∈ exportableSnapshots state ∧
        snapshotId env snapshot ∈ approvedSnapshotIds env.builtin state := by
    intro snapshot isApproved
    rcases mem_filter.mp isApproved with ⟨isRendered, isListed⟩
    exact ⟨isRendered, contains_iff_mem.mp isListed⟩
  have fromSnapshot : made ∈ producedBefore (snapshotExport env names)
      (approvedSnapshotsForExport env.builtin state) →
        FromApproved env runId state made.content := by
    intro isFirst
    rcases exists_of_mem_producedBefore isFirst with ⟨snapshot, isApproved, isMade⟩
    rcases approvedId snapshot isApproved with ⟨isRendered, isListed⟩
    refine .inl ⟨snapshot, isRendered, isListed, ?_⟩
    cases rendered : renderChecked env snapshot with
    | error failure => simp [snapshotExport, rendered, Except.map] at isMade
    | ok content =>
      simp only [snapshotExport, rendered, Except.map, Except.ok.injEq] at isMade
      rw [← isMade]
      exact (isEmpty_of_renderChecked rendered).2
  have fromFormat : ∀ formats, made ∈ producedBefore (formatExport env names runId
      (approvedSnapshotsForExport env.builtin state)) formats →
        FromApproved env runId state made.content := by
    intro formats isSecond
    rcases exists_of_mem_producedBefore isSecond with ⟨format, -, isMade⟩
    refine .inr ⟨format, _, fun snapshot isApproved => (approvedId snapshot isApproved).2, ?_⟩
    cases exported : env.nodeExport format runId (approvedSnapshotsForExport env.builtin state) with
    | error failure => simp [formatExport, exported, Except.map] at isMade
    | ok result =>
      simp only [formatExport, exported, Except.map, Except.ok.injEq] at isMade
      rw [← isMade]
      rfl
  rw [writeExports_apply] at mem
  dsimp only at mem
  split at mem
  · split at mem
    · exact fromSnapshot mem
    · split at mem
      · exact fromSnapshot mem
      · rcases mem_append.mp mem with isFirst | isSecond
        · exact fromSnapshot isFirst
        · exact fromFormat _ isSecond
  · cases mem

theorem unwritten_iff (mustNot : MustNotExport env state) :
    (writeExports env names runId state []).2 = [] ↔ StopsAtOnce env state := by
  have head : producedBefore (snapshotExport env names)
      (approvedSnapshotsForExport env.builtin state) = [] ↔
      ∀ first ∈ (approvedSnapshotsForExport env.builtin state).head?,
        teacherOnlyValuePaths (snapshotContent first) ≠ [] ∨
          ∃ failure, env.render (snapshotContent first) = .error failure := by
    rw [producedBefore_eq_nil_iff]
    refine forall₂_congr fun first _ => ?_
    unfold snapshotExport renderChecked
    by_cases isClean : teacherOnlyValuePaths (snapshotContent first) = []
    · cases env.render (snapshotContent first) <;> simp [isClean, Except.map]
    · simp [isClean, Except.map]
  have someRefused : unsupportedFormats env state ≠ [] ↔
      ¬ (unsupportedFormats env state).isEmpty = true :=
    isEmpty_iff.not.symm
  rw [writeExports_apply, StopsAtOnce, someRefused]
  by_cases noneRefused : (unsupportedFormats env state).isEmpty = true
  · rw [if_pos noneRefused]
    simp only [noneRefused, not_true, false_or]
    rw [← head]
    split
    · exact Iff.rfl
    · next rendered =>
      split
      · exact Iff.rfl
      · next formats isFormats =>
        rcases mustNot with ⟨snapshot, isApproved, leaks⟩ | ⟨format, isRequested, unsupported⟩
        · rcases firstFailure_eq_none rendered isApproved with ⟨content, isRendered⟩
          exact absurd (isEmpty_iff.mp (isEmpty_of_renderChecked isRendered).1) leaks
        · exact absurd ((subprocessFormats_eq_ok isFormats).1 format isRequested) unsupported
  · simp [noneRefused]

end

/-- The law of the writers holds exactly for the states in which an export that must
not happen stops before its first write. -/
theorem writers_lawful_iff (env : ExportEnv) (baseDir : String) (runId : RunId)
    (state : JsonObject) :
    WritersLawful env baseDir runId state ↔ (MustNotExport env state → StopsAtOnce env state) := by
  have files := FileSystem.writeExports_eq env baseDir runId state
  have objects := ObjectStorage.writeExports_eq env runId state
  constructor
  · intro lawful mustNot
    have unwritten := (lawful.unwritten mustNot).1
    rw [files] at unwritten
    exact (unwritten_iff mustNot).mp unwritten
  · intro stops
    constructor
    · rw [files, objects]
      exact agree_writeExports _ _
    · intro mustNot
      rw [files, objects]
      have atOnce := stops mustNot
      exact ⟨(unwritten_iff mustNot).mpr atOnce, (unwritten_iff mustNot).mpr atOnce⟩
    · intro made mem
      rw [files, objects] at mem
      rcases mem_append.mp mem with isFile | isObject
      · exact fromApproved_of_mem isFile
      · exact fromApproved_of_mem isObject

/-- Every snapshot is rendered alike. -/
def plainEnv : ExportEnv where
  builtin := { text := fun _ => "", parseInt := fun _ => none, truncate := fun _ => none }
  render _ := .ok "<p></p>"
  nodeExport _ _ _ := .error (.adapterError "")

/-- A clean snapshot before one with an answer. -/
def lateAnswer : JsonObject :=
  [("approved_snapshot_ids", .arr [.str "snapshot-1", .str "snapshot-2"]),
    ("rendered_snapshots", .arr [
      .obj [("snapshot_id", .str "snapshot-1"), ("content_json", .obj [("title", .str "Quiz")])],
      .obj [("snapshot_id", .str "snapshot-2"), ("content_json", .obj [("answer", .str "42")])]])]

/-- The first snapshot is written before the second one is checked. -/
theorem writers_write_before_check :
    ¬ ∀ (env : ExportEnv) (baseDir : String) (runId : RunId) (state : JsonObject),
      WritersLawful env baseDir runId state := by
  intro lawful
  have mustNot : MustNotExport plainEnv lateAnswer := by
    refine .inl ⟨[("snapshot_id", .str "snapshot-2"),
      ("content_json", .obj [("answer", .str "42")])], ?_, ?_⟩
    · simp [approvedSnapshotsForExport, exportableSnapshots, approvedSnapshotIds, lateAnswer,
        JsonObject.get?, dictsOf, textOr, plainEnv, BuiltinConversions.str, List.lookup_cons]
    · decide +kernel
  have unwritten := ((lawful plainEnv "exports" "run-1" lateAnswer).unwritten mustNot).1
  rw [FileSystem.writeExports_eq, unwritten_iff mustNot] at unwritten
  rcases unwritten with refused | stopped
  · exact refused (by decide +kernel)
  · rcases stopped _ rfl with leaks | ⟨failure, failed⟩
    · exact leaks (by decide +kernel)
    · cases failed

end OhMyClass.Gateway.ExportWriter
