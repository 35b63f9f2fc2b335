import OhMyClass.Gateway.Exports.CheckedExports
import OhMyClass.Sorting.Core
import OhMyClass.Transition.Machine

/-!
# Completions and regenerations of one run

A completion writes the exports of the approved snapshots and then records its
files; a regeneration writes and records one format after the other.  Each is a
transaction: its records are seen by others once it commits, while its files are
seen at once.  The file names of the Node CLI are those of `cli.ts`.
-/

namespace OhMyClass.Gateway.ExportRuns

open List

section

open OhMyClass.Sorting OhMyClass.Transition

abbrev CallId := Nat

/-- What a file was made in and from. -/
structure ExportFile where
  format : String
  snapshotIds : List String

structure ExportCapability where
  exportFormat : String
  rejected : Bool
  supportedArtifactTypes : List String

structure CapabilityManifest where
  manifestVersion : String
  exports : List ExportCapability

/-- `is_export_pair_supported`. -/
def CapabilityManifest.supportsPair (manifest : CapabilityManifest)
    (artifactType format : String) : Bool :=
  match manifest.exports.find? fun entry => entry.exportFormat == format with
  | none => false
  | some capability =>
    !capability.rejected && capability.supportedArtifactTypes.contains artifactType

/-- What is the same throughout a run. -/
structure RunSetting where
  env : ExportWriter.ExportEnv
  freshId : Nat → String
  manifest : CapabilityManifest
  baseDir : String
  runId : RunId

/-- What `cli.ts` puts behind the run id; it throws for any other format. -/
def cliSuffix : String → String
  | "gift" => ".gift.txt"
  | "h5p" => ".h5p"
  | "qti" => ".qti.xml"
  | "pptx" => ".pptx"
  | "anki_apkg" => ".apkg"
  | "flashcard_tsv" => ".tsv"
  | _ => ""

variable (setting : RunSetting)

def RunSetting.exportDir : String :=
  setting.baseDir ++ "/" ++ setting.runId

def RunSetting.htmlPath (snapshotId : String) : String :=
  setting.exportDir ++ "/" ++ (snapshotId ++ ".html")

/-- The file of a run in a format the CLI makes. -/
def RunSetting.nodePath (format : String) : String :=
  setting.exportDir ++ "/" ++ (setting.runId ++ cliSuffix format)

inductive ExportTask where
  | write (path : String) (file : ExportFile)
  | create (payload : ExportRecordCreate)
  | raise

def htmlWrite (snapshotId : String) : String × ExportFile :=
  (setting.htmlPath snapshotId, ⟨"html", [snapshotId]⟩)

def nodeWrite (snapshotIds : List String) (format : String) : String × ExportFile :=
  (setting.nodePath format, ⟨format, snapshotIds⟩)

def completionWrites (snapshotIds formats : List String) : List (String × ExportFile) :=
  snapshotIds.map (htmlWrite setting) ++ formats.map (nodeWrite setting snapshotIds)

/-- The exports and records of `persist_completion`. -/
def completionTasks (state : JsonObject) : List ExportTask :=
  if (ExportWriter.unsupportedFormats setting.env state).isEmpty then
    let approved := approvedSnapshotsForExport setting.env.builtin state
    let snapshotIds := approved.map (ExportWriter.snapshotId setting.env)
    match ExportWriter.subprocessFormats (ExportWriter.requestedFormats setting.env state) with
    | .error _ =>
      (snapshotIds.map fun id => .write (htmlWrite setting id).1 (htmlWrite setting id).2) ++
        [.raise]
    | .ok formats =>
      let writes := completionWrites setting snapshotIds formats
      (writes.map fun write => .write write.1 write.2) ++
        (exportRecordsFromFiles setting.env.builtin setting.freshId setting.runId
          (writes.map Prod.fst) approved).map .create
  else [.raise]

def nodeBridgeFormats : List String :=
  ["gift", "h5p", "anki_apkg", "flashcard_tsv", "qti", "pptx"]

/-- The record of a regenerated format. -/
def regeneratedExport (artifactId headId format path : String) : ExportRecordCreate where
  exportId := "export-" ++ setting.freshId 0
  runId := setting.runId
  artifactId := artifactId
  snapshotId := headId
  format := format
  storagePath := path
  capabilityVersion := some setting.manifest.manifestVersion

/-- One round of the loop of `regenerate_stale_exports`. -/
def regenerateFormat (artifactId artifactType headId format : String) : List ExportTask :=
  if setting.manifest.supportsPair artifactType format then
    if format = "html" then
      [.write (setting.htmlPath headId) ⟨format, [headId]⟩,
        .create (regeneratedExport setting artifactId headId format (setting.htmlPath headId))]
    else if format ∈ nodeBridgeFormats then
      [.write (setting.nodePath format) ⟨format, [headId]⟩,
        .create (regeneratedExport setting artifactId headId format (setting.nodePath format))]
    else [.raise]
  else [.raise]

def getLatestExportForFormat (records : List ExportRecord) (artifactId format : String) :
    Option ExportRecord :=
  (sortByDesc ExportRecord.createdAt <| records.filter fun record =>
    record.artifactId == artifactId && record.format == format).head?

def staleFormats (records : List ExportRecord) (artifactId : String)
    (currentSnapshotId : Option String) (formats : List String) : List String :=
  match currentSnapshotId with
  | none => []
  | some current => formats.filter fun format =>
    match getLatestExportForFormat records artifactId format with
    | some latest => latest.snapshotId != current
    | none => false

/-- The formats that are stale or were never exported. -/
def needsGeneration (records : List ExportRecord) (artifactId headId : String)
    (formats : List String) : List String :=
  formats.filter fun format =>
    match getLatestExportForFormat records artifactId format with
    | some latest => latest.snapshotId != headId
    | none => true

/-- A row of the same snapshot and format. -/
def takes (snapshotId format : String) (record : ExportRecord) : Bool :=
  record.snapshotId == snapshotId && record.format == format

/-! ## The state of a run -/

/-- The files, the committed records, those of open transactions, the newest
snapshot of each artifact, and what each call still has to do. -/
structure ExportState where
  now : DateTime
  files : String → Option ExportFile
  records : List ExportRecord
  uncommitted : List (CallId × ExportRecord)
  heads : String → Option String
  calls : CallId → Option (List ExportTask)

inductive ExportInput where
  | edit (artifactId snapshotId : String)
  | persistCompletion (call : CallId) (state : JsonObject)
  | regenerate (call : CallId) (artifactId artifactType headId : String) (formats : List String)
  /-- The next task of a call; a write may fail. -/
  | work (call : CallId) (succeeds : Bool)
  | commit (call : CallId)

namespace ExportState

variable (store : ExportState)

def setCall (call : CallId) (tasks : Option (List ExportTask)) : ExportState :=
  { store with calls := Function.update store.calls call tasks }

/-- A call that raises loses what it did not commit. -/
def rollBack (call : CallId) : ExportState :=
  { store with
    uncommitted := store.uncommitted.filter fun entry => entry.1 ≠ call
    calls := Function.update store.calls call none }

def writeFile (call : CallId) (path : String) (file : ExportFile) (rest : List ExportTask) :
    ExportState :=
  { store with
    files := Function.update store.files path (some file)
    calls := Function.update store.calls call (some rest) }

/-- `create_export_record`: a row the transaction sees with the same snapshot and
format is left as it is, another transaction's row is waited for. -/
def create (call : CallId) (payload : ExportRecordCreate) (rest : List ExportTask) :
    ExportState :=
  if store.records.any (takes payload.snapshotId payload.format) ||
      store.uncommitted.any (fun entry =>
        entry.1 == call && takes payload.snapshotId payload.format entry.2) then
    store.setCall call (some rest)
  else if store.uncommitted.any fun entry =>
      takes payload.snapshotId payload.format entry.2 then store
  else
    { store with
      now := store.now + 1
      uncommitted := store.uncommitted ++ [(call, payload.row store.now)]
      calls := Function.update store.calls call (some rest) }

/-- The next task of a call. -/
def work (call : CallId) (succeeds : Bool) : ExportState :=
  match store.calls call with
  | some (.write path file :: rest) =>
    if succeeds then store.writeFile call path file rest else store.rollBack call
  | some (.create payload :: rest) => store.create call payload rest
  | some (.raise :: _) => store.rollBack call
  | some [] | none => store

/-- A call that has done everything commits. -/
def commit (call : CallId) : ExportState :=
  match store.calls call with
  | some [] =>
    { store with
      records := store.records ++
        (store.uncommitted.filter fun entry => entry.1 = call).map Prod.snd
      uncommitted := store.uncommitted.filter fun entry => entry.1 ≠ call
      calls := Function.update store.calls call none }
  | some (_ :: _) | none => store

/-- A call is started once. -/
def begin (call : CallId) (tasks : List ExportTask) : ExportState :=
  match store.calls call with
  | none => store.setCall call (some tasks)
  | some _ => store

/-- One step, and whether a call returns with it. -/
def step (setting : RunSetting) (store : ExportState) : ExportInput → ExportState × Bool
  | .edit artifactId snapshotId =>
    ({ store with heads := Function.update store.heads artifactId (some snapshotId) }, false)
  | .persistCompletion call state => (store.begin call (completionTasks setting state), false)
  | .regenerate call artifactId artifactType headId formats =>
    (store.begin call ((needsGeneration store.records artifactId headId formats).flatMap
      (regenerateFormat setting artifactId artifactType headId)), false)
  | .work call succeeds => (store.work call succeeds, false)
  | .commit call =>
    (store.commit call, match store.calls call with
      | some [] => true
      | some (_ :: _) | none => false)

end ExportState

/-- A run starts without records and calls. -/
def exports : Machine ExportState ExportInput Bool where
  initial store := store.records = [] ∧ store.uncommitted = [] ∧ ∀ call, store.calls call = none
  step := ExportState.step setting

end

/-!
## Records of files

What the path of an export file gives back: its stem, its suffix, and the records
a completion makes of it.
-/

section

/-- A name that can stand between two slashes. -/
def Plain (name : String) : Prop :=
  name.toList ≠ [] ∧ '/' ∉ name.toList
  deriving Decidable

theorem pathName_append {name : String} (plain : Plain name) (notDot : name.toList ≠ ['.'])
    (dir : String) : pathName (dir ++ "/" ++ name) = name.toList := by
  have slash : (dir ++ "/" ++ name).toList = dir.toList ++ '/' :: name.toList := by
    simp
  have kept : (!name.toList.isEmpty && name.toList != ['.']) = true := by
    simp [plain.1, notDot]
  unfold pathName
  rw [slash, splitOn_append_cons_self, splitOn_eq_singleton plain.2, filter_append,
    filter_singleton, kept, cond_true, getLastD_concat]

theorem splitSuffix_append {stem extension : List Char} (someStem : stem ≠ [])
    (someExtension : extension ≠ []) (noDot : '.' ∉ extension) :
    splitSuffix (stem ++ '.' :: extension) = (stem, '.' :: extension) := by
  have isExtension : ((stem ++ '.' :: extension).reverse.takeWhile fun c => c != '.').reverse =
      extension := by
    have passes : ∀ c ∈ extension.reverse, (c != '.') = true := by
      intro c mem
      rw [bne_iff_ne]
      rintro rfl
      exact noDot (mem_reverse.mp mem)
    rw [reverse_append, reverse_cons, append_assoc, singleton_append,
      takeWhile_append_of_pos passes, takeWhile_cons_of_neg (by decide),
      append_nil, reverse_reverse]
  have isStem : (stem ++ '.' :: extension).take
      ((stem ++ '.' :: extension).length - extension.length - 1) = stem := by
    have length : (stem ++ '.' :: extension).length - extension.length - 1 = stem.length := by
      simp only [length_append, length_cons]
      omega
    rw [length, take_left]
  unfold splitSuffix
  rw [isExtension]
  dsimp only
  rw [isStem]
  simp [someStem, someExtension]

theorem splitSuffix_path {stem : String} (plain : Plain stem) (extension : String)
    (someExtension : extension.toList ≠ []) (noDot : '.' ∉ extension.toList)
    (noSlash : '/' ∉ extension.toList) (dir : String) :
    splitSuffix (pathName (dir ++ "/" ++ (stem ++ ("." ++ extension)))) =
      (stem.toList, '.' :: extension.toList) := by
  have name : (stem ++ ("." ++ extension)).toList = stem.toList ++ '.' :: extension.toList := by
    simp
  have plainName : Plain (stem ++ ("." ++ extension)) := by
    unfold Plain
    simp [plain.2, noSlash]
  have notDot : (stem ++ ("." ++ extension)).toList ≠ ['.'] := by
    intro same
    have lengths := congrArg List.length same
    have positive := length_pos_of_ne_nil plain.1
    simp at lengths
    omega
  rw [pathName_append plainName notDot, name,
    splitSuffix_append plain.1 someExtension noDot]

variable {setting : RunSetting} {snapshotId : String}

theorem splitSuffix_htmlPath (plain : Plain snapshotId) :
    splitSuffix (pathName (setting.htmlPath snapshotId)) =
      (snapshotId.toList, ".html".toList) :=
  splitSuffix_path plain "html" (by decide) (by decide) (by decide) setting.exportDir

theorem exportFormat_htmlPath (plain : Plain snapshotId) :
    exportFormat (splitSuffix (pathName (setting.htmlPath snapshotId))).2 = "html" := by
  rw [splitSuffix_htmlPath plain]
  rfl

/-- The formats that the CLI puts behind the last dot of the file's name. -/
def selfNamedFormats : List String :=
  ["h5p", "pptx"]

theorem exportFormat_nodePath (plain : Plain setting.runId) {format : String}
    (selfNamed : format ∈ selfNamedFormats) :
    exportFormat (splitSuffix (pathName (setting.nodePath format))).2 = format := by
  rw [selfNamedFormats, mem_cons, mem_singleton] at selfNamed
  rcases selfNamed with rfl | rfl
  · have split : splitSuffix (pathName (setting.nodePath "h5p")) =
        (setting.runId.toList, ".h5p".toList) :=
      splitSuffix_path plain "h5p" (by decide) (by decide) (by decide) setting.exportDir
    rw [split]
    rfl
  · have split : splitSuffix (pathName (setting.nodePath "pptx")) =
        (setting.runId.toList, ".pptx".toList) :=
      splitSuffix_path plain "pptx" (by decide) (by decide) (by decide) setting.exportDir
    rw [split]
    rfl

section Writer

open ExportWriter

end Writer

/-! ## Records of a completion -/

/-- The file was made in the format and from the snapshot. -/
def ExportFile.Backs (file : ExportFile) (format snapshotId : String) : Prop :=
  file.format = format ∧ snapshotId ∈ file.snapshotIds

variable {approved : List JsonObject} {builtin : BuiltinConversions} {target : JsonObject}

theorem mem_of_mem_exportTargets {file : String}
    (mem : target ∈ exportTargets builtin approved file) :
    target ∈ approved := by
  unfold exportTargets at mem
  dsimp only at mem
  split at mem
  · exact mem
  · next matched found =>
    rw [mem_singleton.mp mem]
    exact mem_reverse.mp (mem_of_find?_eq_some found)

theorem snapshotId_of_mem_exportTargets (plain : Plain snapshotId)
    (isApproved : snapshotId ∈ approved.map (ExportWriter.snapshotId setting.env))
    (mem : target ∈ exportTargets setting.env.builtin approved (setting.htmlPath snapshotId)) :
    ExportWriter.snapshotId setting.env target = snapshotId := by
  unfold exportTargets at mem
  rw [splitSuffix_htmlPath plain, String.ofList_toList] at mem
  dsimp only at mem
  split at mem
  · next missing =>
    rcases mem_map.mp isApproved with ⟨snapshot, isIn, same⟩
    have different := List.find?_eq_none.mp missing snapshot (mem_reverse.mpr isIn)
    exact absurd (beq_iff_eq.mpr same) different
  · next matched found =>
    have sameId := List.find?_some found
    rw [beq_iff_eq] at sameId
    rw [mem_singleton.mp mem]
    exact sameId

variable {payload : ExportRecordCreate} {files : List String}

theorem of_mem_exportRecordsFromFiles {freshId : Nat → String} {runId : RunId}
    (mem : payload ∈ exportRecordsFromFiles builtin freshId runId files approved) :
    payload.storagePath ∈ files ∧
      payload.format = exportFormat (splitSuffix (pathName payload.storagePath)).2 ∧
      ∃ target ∈ exportTargets builtin approved payload.storagePath,
        payload.snapshotId = textOr builtin target "snapshot_id" "" := by
  rcases mem_mapIdx.mp mem with ⟨index, inRange, rfl⟩
  have paired := getElem_mem inRange
  rcases mem_flatMap.mp paired with ⟨file, isFile, targets⟩
  rcases mem_map.mp targets with ⟨target, isTarget, same⟩
  rw [← same]
  exact ⟨isFile, rfl, target, isTarget, rfl⟩

/-- If a completion records its files, then their names tell their formats. -/
def NamesFormats (setting : RunSetting) (state : JsonObject) : Prop :=
  (ExportWriter.unsupportedFormats setting.env state).isEmpty = true →
    ∀ formats, ExportWriter.subprocessFormats
        (ExportWriter.requestedFormats setting.env state) = .ok formats →
      approvedSnapshotsForExport setting.env.builtin state = [] ∨
        Plain setting.runId ∧
          (∀ snapshot ∈ approvedSnapshotsForExport setting.env.builtin state,
            Plain (ExportWriter.snapshotId setting.env snapshot)) ∧
          ∀ format ∈ formats, format ∈ selfNamedFormats

theorem completionWrites_backs {formats : List String} (plain : Plain setting.runId)
    (plainIds : ∀ snapshot ∈ approved, Plain (ExportWriter.snapshotId setting.env snapshot))
    (selfNamed : ∀ format ∈ formats, format ∈ selfNamedFormats) {write : String × ExportFile}
    (written : write ∈ completionWrites setting
      (approved.map (ExportWriter.snapshotId setting.env)) formats)
    (mem : payload ∈ exportRecordsFromFiles setting.env.builtin setting.freshId setting.runId
      files approved) (here : payload.storagePath = write.1) :
    write.2.Backs payload.format payload.snapshotId := by
  rcases of_mem_exportRecordsFromFiles mem with ⟨_, isFormat, target, isTarget, isSnapshot⟩
  rw [here] at isFormat isTarget
  rcases mem_append.mp written with isHtml | isNode
  · rcases mem_map.mp isHtml with ⟨snapshotId, isId, rfl⟩
    have isPlain : Plain snapshotId := by
      rcases mem_map.mp isId with ⟨snapshot, isApproved, rfl⟩
      exact plainIds snapshot isApproved
    refine ⟨?_, ?_⟩
    · exact (isFormat.trans (exportFormat_htmlPath isPlain)).symm
    · rw [isSnapshot]
      exact mem_singleton.mpr (snapshotId_of_mem_exportTargets isPlain isId isTarget)
  · rcases mem_map.mp isNode with ⟨format, isIn, rfl⟩
    refine ⟨?_, ?_⟩
    · exact (isFormat.trans (exportFormat_nodePath plain (selfNamed format isIn))).symm
    · rw [isSnapshot]
      exact mem_map_of_mem (mem_of_mem_exportTargets isTarget)

theorem exists_write_of_mem_exportRecordsFromFiles {writes : List (String × ExportFile)}
    (mem : payload ∈ exportRecordsFromFiles setting.env.builtin setting.freshId setting.runId
      (writes.map Prod.fst) approved) : ∃ write ∈ writes, write.1 = payload.storagePath :=
  mem_map.mp (of_mem_exportRecordsFromFiles mem).1

end

end OhMyClass.Gateway.ExportRuns
