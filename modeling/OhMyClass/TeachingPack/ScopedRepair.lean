import OhMyClass.Json.AsciiText
import OhMyClass.Json.Frames
import OhMyClass.Python.Text
import OhMyClass.TeachingPack.Quality

/-!
# Scoped repairs

An issue is parsed into a plan, the artifact is repaired in the plan's scope,
and the versions of its content are kept by their hashes.
-/

namespace OhMyClass.TeachingPack

open List OhMyClass.JsonObject OhMyClass.Python Json

/-- The members of the enumeration, in their order. -/
def QualityFailureClass.all : List QualityFailureClass :=
  [.schemaInvalid, .placeholderContent, .answerKeyLeakage, .piiLeakage, .externalAsset,
    .missingDoctype, .missingAccessibility, .unsupportedComponent, .factualUncertainty,
    .pedagogicalMismatch, .exportNotReady]

structure RepairScope where
  artifactId : String
  sectionIndex : Option Nat
  componentIndex : Option Nat

structure ScopedRepairPlan where
  scope : RepairScope
  failureClass : QualityFailureClass
  strategy : String
  message : String

/-- `ValueError`: `int` reads at most this many digits. -/
inductive PlanError where
  | tooManyDigits

local instance (priority := 2000) decidableForallMem {p : Char → Prop} [DecidablePred p]
    (text : List Char) : Decidable (∀ c ∈ text, p c) :=
  List.decidableBAll p text

section Plan

-- The value of a decimal digit; Python knows those of every script.
variable (decimal : Char → Option Nat)

/-- `text.split(marker, 1)[1]`, if the marker is in the text. -/
def afterFirst (marker : List Char) : List Char → Option (List Char)
  | [] => none
  | c :: rest =>
    if marker.isPrefixOf (c :: rest) then some ((c :: rest).drop marker.length)
    else afterFirst marker rest

/-- `int(text)`, for a text of decimal digits. -/
def intOf (text : List Char) : Except PlanError Nat :=
  if 4300 < text.length then
    .error .tooManyDigits
  else
    .ok ((text.filterMap decimal).foldl (fun number digit => 10 * number + digit) 0)

def indexedSegment (value : List Char) (segment : String) : Except PlanError (Option Nat) :=
  match afterFirst (segment.toList ++ ['[']) value with
  | none => .ok none
  | some suffix =>
    let indexText := suffix.takeWhile (· ≠ ']')
    if indexText ≠ [] ∧ ∀ c ∈ indexText, (decimal c).isSome = true then
      (intOf decimal indexText).map some
    else
      .ok none

def scopeFromIssue (issue : String) : Except PlanError RepairScope := do
  let head := issue.toList.takeWhile (· ≠ ':')
  let sectionIndex ← indexedSegment decimal head "sections"
  let componentIndex ← indexedSegment decimal head "components"
  return { artifactId := String.ofList (head.takeWhile (· ≠ '.')), sectionIndex, componentIndex }

def failureClassFromIssue (issue : String) : QualityFailureClass :=
  (QualityFailureClass.all.find? fun failureClass =>
    failureClass.value.toList <:+: issue.toList).getD .unsupportedComponent

def strategyForFailure (failureClass : QualityFailureClass) (issue : String) : String :=
  if "methodology component".toList <:+: issue.toList then
    "inject_required_component"
  else
    match failureClass with
    | .schemaInvalid | .placeholderContent => "schema_repair"
    | .answerKeyLeakage => "answer_key_repair"
    | .piiLeakage => "pii_removal"
    | .externalAsset | .missingDoctype => "presentation_repair"
    | .missingAccessibility => "accessibility_repair"
    | .factualUncertainty => "research_enrichment"
    | .pedagogicalMismatch => "replan_blueprint"
    | .unsupportedComponent | .exportNotReady => "regenerate_artifact"

def scopedRepairPlan (issue : String) : Except PlanError ScopedRepairPlan := do
  let scope ← scopeFromIssue decimal issue
  let failureClass := failureClassFromIssue issue
  return { scope, failureClass, strategy := strategyForFailure failureClass issue, message := issue }

end Plan

/-! ## Versions -/

structure ContentVersion where
  artifactId : String
  contentHash : String
  parentHash : Option String
  revision : Nat
  reason : String

/-- Revisions count from one, and each version names the hash before it. -/
def Chained (versions : List ContentVersion) : Prop :=
  ∀ earlier version later, versions = earlier ++ version :: later →
    version.revision = earlier.length + 1 ∧
      version.parentHash = earlier.getLast?.map ContentVersion.contentHash

theorem chained_nil : Chained [] := by
  intro earlier version later split
  simp at split

theorem Chained.concat {versions : List ContentVersion} (chained : Chained versions)
    {version : ContentVersion} (revision : version.revision = versions.length + 1)
    (parentHash : version.parentHash = versions.getLast?.map ContentVersion.contentHash) :
    Chained (versions ++ [version]) := by
  intro earlier other later split
  rcases later.eq_nil_or_concat with rfl | ⟨init, last, rfl⟩
  · rw [append_inj_left' split rfl] at revision parentHash
    rw [← singleton_inj.mp (append_inj_right' split rfl)]
    exact ⟨revision, parentHash⟩
  · rw [concat_eq_append, ← cons_append, ← append_assoc] at split
    exact chained earlier other init (append_inj_left' split rfl)

/-- The versions of every artifact, as a chain. -/
structure ContentVersionStore where
  versions : String → List ContentVersion
  chained : ∀ artifactId, Chained (versions artifactId)

namespace ContentVersionStore

def empty : ContentVersionStore where
  versions _ := []
  chained _ := chained_nil

def latest (store : ContentVersionStore) (artifactId : String) : Option ContentVersion :=
  (store.versions artifactId).getLast?

end ContentVersionStore

section Repair

-- Which characters `repr` keeps, and the hex digest of a text.
variable (printable : Char → Bool) (sha256 : String → String)

def artifactIdentifier (artifact : JsonObject) : String :=
  str printable ((artifact.get? "artifact_id").getD
    ((artifact.get? "id").getD (.str "artifact")))

/-- `artifact.get("approved") is True`. -/
def isApproved (artifact : JsonObject) : Bool :=
  match artifact.get? "approved" with
  | some (.bool true) => true
  | _ => false

def contentHash (artifact : JsonObject) : String :=
  sha256 (String.ofList (Json.obj artifact).asciiDumps)

namespace ContentVersionStore

/-- The version a snapshot adds. -/
def nextVersion (store : ContentVersionStore) (artifact : JsonObject) (reason : String) :
    ContentVersion where
  artifactId := artifactIdentifier printable artifact
  contentHash := TeachingPack.contentHash sha256 artifact
  parentHash := (store.latest (artifactIdentifier printable artifact)).map
    ContentVersion.contentHash
  revision := (store.versions (artifactIdentifier printable artifact)).length + 1
  reason := reason

def snapshot (store : ContentVersionStore) (artifact : JsonObject) (reason : String) :
    ContentVersion × ContentVersionStore :=
  let version := nextVersion printable sha256 store artifact reason
  (version,
    { versions := fun artifactId =>
        if artifactId = artifactIdentifier printable artifact then
          store.versions artifactId ++ [version]
        else
          store.versions artifactId
      chained := by
        intro artifactId
        split
        · next same =>
          subst same
          exact (store.chained _).concat rfl rfl
        · exact store.chained artifactId })

/-- `store.latest(artifact_identifier(artifact)) or store.snapshot(artifact, "initial")`. -/
def latestOrInitial (store : ContentVersionStore) (artifact : JsonObject) :
    ContentVersion × ContentVersionStore :=
  match store.latest (artifactIdentifier printable artifact) with
  | some version => (version, store)
  | none => store.snapshot printable sha256 artifact "initial"

end ContentVersionStore

structure RepairDiff where
  status : String
  changedPath : String
  previousHash : String
  nextHash : String

structure ScopedRepairUpdate where
  artifact : JsonObject
  version : ContentVersion
  diff : RepairDiff
  event : JsonObject
  escalateToTeacher : Bool

def changedPath (plan : ScopedRepairPlan) : String :=
  match plan.scope.sectionIndex, plan.scope.componentIndex with
  | some index, _ => plan.scope.artifactId ++ ".sections[" ++ toString index ++ "]"
  | none, some index => plan.scope.artifactId ++ ".components[" ++ toString index ++ "]"
  | none, none => plan.scope.artifactId

/-- `_event`. -/
def repairEvent (plan : ScopedRepairPlan) (diff : RepairDiff) (authority : String) : JsonObject :=
  [("event_name", .str "teaching_pack.content_version.created"),
    ("payload", .obj [("artifact_id", .str plan.scope.artifactId),
      ("failure_class", .str plan.failureClass.value), ("strategy", .str plan.strategy),
      ("authority", .str authority),
      ("diff", .obj [("status", .str diff.status), ("changed_path", .str diff.changedPath),
        ("previous_hash", .str diff.previousHash), ("next_hash", .str diff.nextHash)])])]

def repairedContent (members : JsonObject) (critique : String) : String :=
  let content := str printable ((members.get? "content").getD (.str ""))
  if content = "" then "Repair applied: " ++ critique
  else content ++ "\nRepair applied: " ++ critique

def repairedSection (plan : ScopedRepairPlan) (critique : String) (section_ : Json) : Json :=
  let members := orEmpty (some section_)
  .obj ((members.set "content" (.str (repairedContent printable members critique))).set
    "repair_history" (.arr (objectsIn (members.get? "repair_history") ++
      [.obj [("failure_class", .str plan.failureClass.value), ("strategy", .str plan.strategy),
        ("critique", .str critique)]])))

def withRepairNote (artifact : JsonObject) (critique : String) : JsonObject :=
  artifact.set "metadata"
    (.obj ((orEmpty (artifact.get? "metadata")).set "scoped_repair_note" (.str critique)))

def repairArtifact (artifact : JsonObject) (plan : ScopedRepairPlan) (critique : String) :
    JsonObject :=
  match artifact.get? "sections", plan.scope.sectionIndex with
  | some (.arr sections), some index =>
    match sections[index]? with
    | none => artifact
    | some section_ =>
      artifact.set "sections"
        (.arr (sections.set index (repairedSection printable plan critique section_)))
  | _, _ => withRepairNote artifact critique

def scopedRepairUpdate (artifact : JsonObject) (plan : ScopedRepairPlan)
    (store : ContentVersionStore) (critique : String) (maxAttempts : Int)
    (forceResidualFailure : Bool) : ScopedRepairUpdate × ContentVersionStore :=
  let (before, store) := store.latestOrInitial printable sha256 artifact
  if isApproved artifact then
    let (version, store) :=
      store.snapshot printable sha256 artifact "teacher suggested scoped edit"
    let diff : RepairDiff :=
      ⟨"blocked_approved_content", changedPath plan, before.contentHash, version.contentHash⟩
    (⟨artifact, version, diff, repairEvent plan diff "teacher_suggested", true⟩, store)
  else
    let repaired := repairArtifact printable artifact plan critique
    let (version, store) :=
      store.snapshot printable sha256 repaired ("scoped repair: " ++ plan.failureClass.value)
    let residual := forceResidualFailure || decide (maxAttempts ≤ 1)
    let diff : RepairDiff :=
      ⟨if residual then "residual_issue" else "changed", changedPath plan, before.contentHash,
        version.contentHash⟩
    (⟨repaired, version, diff,
      repairEvent plan diff (if residual then "teacher_suggested" else "auto_applied"), residual⟩,
      store)

end Repair

/-! ## What scoped repairs report -/

def sectionNamed (decimal : Char → Option Nat) (issue : String) :
    Except PlanError (Option Nat) :=
  indexedSegment decimal (issue.toList.takeWhile (· ≠ ':')) "sections"

/-- Only the section at the index may differ. -/
def OnlySection (index : Nat) (before after : JsonObject) : Prop :=
  match before.get? "sections" with
  | some (.arr sections) =>
    SameExcept ["sections"] before after ∧
      ∃ edited, after.get? "sections" = some (.arr edited) ∧ edited.length = sections.length ∧
        ∀ other ≠ index, edited[other]? = sections[other]?
  | _ => after = before

/-- Only the repair note of the metadata may differ. -/
def OnlyNote (before after : JsonObject) : Prop :=
  SameExcept ["metadata"] before after ∧
    NestedFrame "scoped_repair_note" (before.get? "metadata") (after.get? "metadata")

def InScope (before after : JsonObject) : Option Nat → Prop
  | some index => OnlySection index before after
  | none => OnlyNote before after

section Reports

variable (printable : Char → Bool) (sha256 : String → String)

/-- The update and the store it leaves report what was done to the artifact. -/
structure TruthfulRepair (artifact : JsonObject) (named : Option Nat)
    (update : ScopedRepairUpdate) (store : ContentVersionStore) : Prop where
  approved : isApproved artifact = true → update.artifact = artifact
  inScope : isApproved artifact = false → InScope artifact update.artifact named
  previousHash : update.diff.previousHash = contentHash sha256 artifact
  nextHash : update.diff.nextHash = contentHash sha256 update.artifact
  differs : update.diff.status = "changed" ∨ update.diff.status = "residual_issue" →
    update.diff.previousHash ≠ update.diff.nextHash
  chained : Chained (store.versions (artifactIdentifier printable artifact))

/-- The latest version, if there is one, is of the artifact. -/
def IsCurrent (store : ContentVersionStore) (artifact : JsonObject) : Prop :=
  ∀ version ∈ store.latest (artifactIdentifier printable artifact),
    version.contentHash = contentHash sha256 artifact

/-- The named section is there; if none is named, the note is new, and it goes
into metadata that are an object if they are there. -/
def HasPlace (artifact : JsonObject) (critique : String) : Option Nat → Prop
  | some index => ∃ sections, artifact.get? "sections" = some (.arr sections) ∧
      index < sections.length
  | none => IsObjectOrAbsent (artifact.get? "metadata") ∧
      (orEmpty (artifact.get? "metadata")).get? "scoped_repair_note" ≠ some (.str critique)

variable {printable sha256}

theorem contentHash_eq_iff (injective : Function.Injective sha256) {first second : JsonObject} :
    contentHash sha256 first = contentHash sha256 second ↔
      (Json.obj first).canonical = (Json.obj second).canonical := by
  unfold contentHash
  rw [injective.eq_iff, String.ofList_inj, asciiDumps_eq_iff]

theorem latestOrInitial_contentHash_iff {store : ContentVersionStore} {artifact : JsonObject} :
    (store.latestOrInitial printable sha256 artifact).1.contentHash =
        contentHash sha256 artifact ↔
      IsCurrent printable sha256 store artifact := by
  unfold ContentVersionStore.latestOrInitial IsCurrent
  cases store.latest (artifactIdentifier printable artifact) with
  | none => exact iff_of_true rfl nofun
  | some version => simp

/-! ## The repaired artifact -/

theorem repairedSection_canonical_ne (plan : ScopedRepairPlan) (critique : String)
    (section_ : Json) :
    (repairedSection printable plan critique section_).canonical ≠ section_.canonical := by
  intro same
  obtain ⟨members, rfl⟩ := exists_obj_of_canonical same.symm
  have histories := Json.get?_of_canonical_eq same "repair_history"
  rw [orEmpty_obj, get?_set_self] at histories
  obtain ⟨history, found, historySame⟩ := Option.map_eq_some_iff.mp histories.symm
  obtain ⟨items, rfl, itemsSame⟩ := exists_arr_of_canonical historySame
  rw [found] at itemsSame
  -- All items are objects, since the entries of the longer history are.
  have objects : ∀ item ∈ items, ∃ others, item = .obj others := by
    intro item mem
    have isEntry := mem_map_of_mem (f := canonical) mem
    rw [itemsSame] at isEntry
    obtain ⟨entry, isEntry, entrySame⟩ := mem_map.mp isEntry
    obtain ⟨others, rfl⟩ : ∃ others, entry = .obj others :=
      (mem_append.mp isEntry).elim isObject_of_mem_objectsIn
        fun newest => ⟨_, mem_singleton.mp newest⟩
    exact exists_obj_of_canonical entrySame.symm
  have lengths := congrArg List.length itemsSame
  rw [objectsIn_arr_eq_self objects, length_map] at lengths
  simp at lengths

variable {artifact : JsonObject} {plan : ScopedRepairPlan} {critique : String}

theorem repairArtifact_named {sections : List Json} {index : Nat}
    (found : artifact.get? "sections" = some (.arr sections))
    (named : plan.scope.sectionIndex = some index) (inRange : index < sections.length) :
    repairArtifact printable artifact plan critique =
      artifact.set "sections" (.arr (sections.set index
        (repairedSection printable plan critique sections[index]))) := by
  unfold repairArtifact
  simp only [found, named, List.getElem?_eq_getElem inRange]

theorem repairArtifact_unnamed (unnamed : plan.scope.sectionIndex = none) :
    repairArtifact printable artifact plan critique = withRepairNote artifact critique := by
  unfold repairArtifact
  rw [unnamed]
  split
  · contradiction
  · rfl

theorem HasPlace.inScope (place : HasPlace artifact critique plan.scope.sectionIndex) :
    InScope artifact (repairArtifact printable artifact plan critique)
      plan.scope.sectionIndex := by
  cases named : plan.scope.sectionIndex with
  | none =>
    rw [named] at place
    rw [repairArtifact_unnamed named]
    refine ⟨(SameExcept.refl _ artifact).set _ mem_cons_self, ?_⟩
    rw [withRepairNote, get?_set_self]
    exact nestedFrame_set_iff.mpr place.1
  | some index =>
    rw [named] at place
    obtain ⟨sections, found, inRange⟩ := place
    rw [repairArtifact_named found named inRange]
    simp only [InScope, OnlySection, found]
    refine ⟨(SameExcept.refl _ artifact).set _ mem_cons_self, _, get?_set_self _ _ _,
      length_set, ?_⟩
    intro other different
    exact List.getElem?_set_ne different.symm

theorem HasPlace.canonical_ne (place : HasPlace artifact critique plan.scope.sectionIndex) :
    (Json.obj (repairArtifact printable artifact plan critique)).canonical ≠
      (Json.obj artifact).canonical := by
  intro same
  cases named : plan.scope.sectionIndex with
  | none =>
    rw [named] at place
    rw [repairArtifact_unnamed named] at same
    have metadataSame := Json.get?_of_canonical_eq same "metadata"
    rw [withRepairNote, get?_set_self] at metadataSame
    obtain ⟨metadata, found, metadataSame⟩ := Option.map_eq_some_iff.mp metadataSame.symm
    obtain ⟨members, rfl⟩ := exists_obj_of_canonical metadataSame
    have noteSame := Json.get?_of_canonical_eq metadataSame.symm "scoped_repair_note"
    rw [get?_set_self] at noteSame
    obtain ⟨note, isNote, noteSame⟩ := Option.map_eq_some_iff.mp noteSame.symm
    rw [eq_str_of_canonical noteSame] at isNote
    apply place.2
    rw [found]
    exact isNote
  | some index =>
    rw [named] at place
    obtain ⟨sections, found, inRange⟩ := place
    rw [repairArtifact_named found named inRange] at same
    have sectionsSame := Json.get?_of_canonical_eq same "sections"
    rw [get?_set_self, found, Option.map_some, Option.map_some, Option.some_inj] at sectionsSame
    rw [canonical, canonical, Json.arr.injEq, canonicalItems_eq_map,
      canonicalItems_eq_map] at sectionsSame
    have atIndex := congrArg (·[index]?) sectionsSame
    simp only [List.getElem?_map, List.getElem?_set_self inRange, Option.map_some,
      List.getElem?_eq_getElem inRange, Option.some_inj] at atIndex
    exact repairedSection_canonical_ne plan critique _ atIndex

theorem hasPlace_of_inScope (distinct : (Json.obj artifact).KeysDistinct)
    (inScope : InScope artifact (repairArtifact printable artifact plan critique)
      plan.scope.sectionIndex)
    (changes : repairArtifact printable artifact plan critique ≠ artifact) :
    HasPlace artifact critique plan.scope.sectionIndex := by
  cases named : plan.scope.sectionIndex with
  | none =>
    rw [named] at inScope
    rw [repairArtifact_unnamed named] at inScope changes
    have nested := inScope.2
    rw [withRepairNote, get?_set_self, nestedFrame_set_iff] at nested
    refine ⟨nested, fun isNote => changes ?_⟩
    cases found : artifact.get? "metadata" with
    | none =>
      rw [found] at isNote
      cases isNote
    | some metadata =>
      obtain ⟨members, rfl⟩ := nested metadata found
      rw [found] at isNote
      have membersDistinct : (Json.obj members).KeysDistinct :=
        membersKeysDistinct_iff.mp distinct.2 _ (mem_of_get? found)
      rw [withRepairNote, found, orEmpty_obj, set_eq_self membersDistinct.1 isNote,
        set_eq_self distinct.1 found]
  | some index =>
    rw [named] at inScope
    change OnlySection index _ _ at inScope
    unfold OnlySection at inScope
    split at inScope
    · next sections found =>
      refine ⟨sections, found, ?_⟩
      by_contra outOfRange
      apply changes
      unfold repairArtifact
      simp only [found, named, List.getElem?_eq_none (not_lt.mp outOfRange)]
    · exact absurd inScope changes

/-! ## The update -/

variable {store : ContentVersionStore} {maxAttempts : Int} {force : Bool}

theorem scopedRepairUpdate_previousHash :
    (scopedRepairUpdate printable sha256 artifact plan store critique maxAttempts
        force).1.diff.previousHash =
      (store.latestOrInitial printable sha256 artifact).1.contentHash := by
  unfold scopedRepairUpdate
  dsimp only
  split <;> rfl

theorem scopedRepairUpdate_nextHash :
    (scopedRepairUpdate printable sha256 artifact plan store critique maxAttempts
        force).1.diff.nextHash =
      contentHash sha256 (scopedRepairUpdate printable sha256 artifact plan store critique
        maxAttempts force).1.artifact := by
  unfold scopedRepairUpdate
  dsimp only
  split <;> rfl

theorem scopedRepairUpdate_approved (approved : isApproved artifact = true) :
    (scopedRepairUpdate printable sha256 artifact plan store critique maxAttempts
        force).1.artifact = artifact ∧
      (scopedRepairUpdate printable sha256 artifact plan store critique maxAttempts
        force).1.diff.status = "blocked_approved_content" := by
  unfold scopedRepairUpdate
  dsimp only
  rw [if_pos approved]
  exact ⟨rfl, rfl⟩

theorem scopedRepairUpdate_unapproved (unapproved : isApproved artifact = false) :
    (scopedRepairUpdate printable sha256 artifact plan store critique maxAttempts
        force).1.artifact = repairArtifact printable artifact plan critique ∧
      ((scopedRepairUpdate printable sha256 artifact plan store critique maxAttempts
          force).1.diff.status = "changed" ∨
        (scopedRepairUpdate printable sha256 artifact plan store critique maxAttempts
          force).1.diff.status = "residual_issue") := by
  unfold scopedRepairUpdate
  dsimp only
  rw [if_neg (Bool.eq_false_iff.mp unapproved)]
  refine ⟨rfl, ?_⟩
  split
  · exact .inr rfl
  · exact .inl rfl

theorem sectionNamed_of_plan {decimal : Char → Option Nat} {issue : String}
    (planned : scopedRepairPlan decimal issue = .ok plan) :
    sectionNamed decimal issue = .ok plan.scope.sectionIndex := by
  unfold scopedRepairPlan scopeFromIssue at planned
  unfold sectionNamed
  dsimp only at planned
  cases sections : indexedSegment decimal (issue.toList.takeWhile (· ≠ ':')) "sections" with
  | error failure =>
    rw [sections] at planned
    cases planned
  | ok index =>
    cases components : indexedSegment decimal (issue.toList.takeWhile (· ≠ ':')) "components" with
    | error failure =>
      rw [sections, components] at planned
      cases planned
    | ok componentIndex =>
      rw [sections, components] at planned
      cases planned
      rfl

/-- A repair is truthful if the latest version is the artifact and there is a
place for the repair. -/
theorem scopedRepairUpdate_truthful_iff {decimal : Char → Option Nat} {issue : String}
    {named : Option Nat} (injective : Function.Injective sha256)
    (distinct : (Json.obj artifact).KeysDistinct)
    (planned : scopedRepairPlan decimal issue = .ok plan)
    (parsed : sectionNamed decimal issue = .ok named) (store : ContentVersionStore)
    (critique : String) (maxAttempts : Int) (force : Bool) :
    TruthfulRepair printable sha256 artifact named
        (scopedRepairUpdate printable sha256 artifact plan store critique maxAttempts force).1
        (scopedRepairUpdate printable sha256 artifact plan store critique maxAttempts force).2 ↔
      IsCurrent printable sha256 store artifact ∧
        (isApproved artifact = false → HasPlace artifact critique named) := by
  obtain rfl : plan.scope.sectionIndex = named :=
    Except.ok.inj ((sectionNamed_of_plan planned).symm.trans parsed)
  constructor
  · intro truthful
    have previous := truthful.previousHash
    rw [scopedRepairUpdate_previousHash, latestOrInitial_contentHash_iff] at previous
    refine ⟨previous, fun unapproved => ?_⟩
    have inScope := truthful.inScope unapproved
    rw [(scopedRepairUpdate_unapproved unapproved).1] at inScope
    refine hasPlace_of_inScope distinct inScope fun unchanged => ?_
    apply truthful.differs (scopedRepairUpdate_unapproved unapproved).2
    rw [truthful.previousHash, truthful.nextHash, (scopedRepairUpdate_unapproved unapproved).1,
      unchanged]
  · rintro ⟨current, place⟩
    constructor
    case approved => exact fun approved => (scopedRepairUpdate_approved approved).1
    case previousHash =>
      rw [scopedRepairUpdate_previousHash, latestOrInitial_contentHash_iff]
      exact current
    case nextHash => exact scopedRepairUpdate_nextHash
    case chained => exact ContentVersionStore.chained _ _
    case inScope =>
      intro unapproved
      rw [(scopedRepairUpdate_unapproved unapproved).1]
      exact (place unapproved).inScope
    case differs =>
      intro reported
      cases status : isApproved artifact with
      | true =>
        rw [(scopedRepairUpdate_approved status).2] at reported
        simp at reported
      | false =>
        rw [scopedRepairUpdate_previousHash, scopedRepairUpdate_nextHash,
          (scopedRepairUpdate_unapproved status).1, latestOrInitial_contentHash_iff.mpr current]
        intro same
        exact (place status).canonical_ne ((contentHash_eq_iff injective).mp same.symm)

end Reports

/-- The digits of the ASCII characters. -/
def asciiDecimal (c : Char) : Option Nat :=
  if c.isDigit then some (c.toNat - '0'.toNat) else none

def firstSectionPlan : ScopedRepairPlan where
  scope := { artifactId := "sections[0]", sectionIndex := some 0, componentIndex := none }
  failureClass := .unsupportedComponent
  strategy := "regenerate_artifact"
  message := "sections[0]"

theorem firstSection_planned :
    scopedRepairPlan asciiDecimal "sections[0]" = .ok firstSectionPlan := rfl

/-- A new artifact with one section is repaired there. -/
theorem scopedRepairUpdate_firstSection :
    TruthfulRepair (fun _ => true) id [("sections", .arr [.obj []])] (some 0)
      (scopedRepairUpdate (fun _ => true) id [("sections", .arr [.obj []])] firstSectionPlan .empty
        "Shorten it" 2 false).1
      (scopedRepairUpdate (fun _ => true) id [("sections", .arr [.obj []])] firstSectionPlan .empty
        "Shorten it" 2 false).2 := by
  refine (scopedRepairUpdate_truthful_iff Function.injective_id ?_ firstSection_planned rfl _ _ _
    _).mpr ⟨nofun, fun _ => ⟨_, rfl, Nat.zero_lt_one⟩⟩
  simp [Json.KeysDistinct, itemsKeysDistinct, membersKeysDistinct]

/-- Without a section at the index nothing is repaired, yet a change is reported. -/
theorem missing_section_reported :
    scopedRepairPlan asciiDecimal "sections[0]" = .ok firstSectionPlan ∧
      sectionNamed asciiDecimal "sections[0]" = .ok (some 0) ∧
      ¬ TruthfulRepair (fun _ => true) id [("sections", .arr [])] (some 0)
        (scopedRepairUpdate (fun _ => true) id [("sections", .arr [])] firstSectionPlan .empty
          "Shorten it" 2 false).1
        (scopedRepairUpdate (fun _ => true) id [("sections", .arr [])] firstSectionPlan .empty
          "Shorten it" 2 false).2 := by
  refine ⟨rfl, rfl, fun truthful => truthful.differs (scopedRepairUpdate_unapproved rfl).2 ?_⟩
  rfl

end OhMyClass.TeachingPack
